import Mathlib.Data.Nat.Digits.Defs

/-!
# Go's command line: the package `flag` and the `strconv` parsers

A Go program defines its flags with `flag.BoolVar` and `flag.StringVar`, binding each
name to a variable, and `flag.Parse` reads the arguments one at a time
(`FlagSet.parseOne`):

* an argument that is `-` or does not start with `-` is not a flag, and parsing stops
  there; `--` stops it too, past itself;
* otherwise the name is what follows the one or two `-`, up to its first `=` after the
  first character, with the value after that `=`; a name that is empty or starts with
  `-` or `=` is bad syntax;
* a boolean flag takes its value from `=` or is set to `true`, and never takes the
  next argument; any other flag takes the next argument when it has no `=`;
* an undefined name is an error, and an undefined `-help` or `-h` asks for help.

`flag.CommandLine` handles errors with `ExitOnError`: the process exits with status
`0` after a request for help and `2` after any other error.

A flag's value is parsed by `strconv.ParseBool` for a boolean flag. `strconv.Atoi`
reads an optionally signed string of decimal digits whose value fits in an `int`
(64 bits here). Its fast path for short strings and its `ParseInt` path for the
others accept the same strings with the same values, so it is modelled once.
`GoFlag.atoi_toString` says that it reads back the decimal form of every number of
that range.

Go's strings are bytes and these are characters; the parsers only ever compare a
character with an ASCII one, which no byte of a longer UTF-8 sequence equals, so
both accept the same strings.
-/

namespace GoFlag

/-! ### `strconv` -/

/-- `strconv.ParseBool`. -/
def parseBool (s : String) : Option Bool :=
  if s ∈ ["1", "t", "T", "TRUE", "true", "True"] then some true
  else if s ∈ ["0", "f", "F", "FALSE", "false", "False"] then some false
  else none

/-- The sign `Atoi` strips: whether the string starts with `-`, and what follows a
leading `-` or `+`. -/
def signOf : List Char → Bool × List Char
  | [] => (false, [])
  | c :: cs => if c = '-' then (true, cs) else if c = '+' then (false, cs) else (false, c :: cs)

/-- The value of a string of decimal digits, read from the left as `Atoi` does
(`n = n*10 + int(ch)`); `none` at the first character that is not a digit. -/
def digitsVal (cs : List Char) : Option ℕ :=
  cs.foldl (fun acc c => acc.bind fun n =>
    if c.isDigit then some (10 * n + (c.toNat - '0'.toNat)) else none) (some 0)

/-- `strconv.Atoi` on a 64-bit platform: `none` for its syntax and range errors. -/
def atoi (s : String) : Option ℤ :=
  let (neg, digits) := signOf s.toList
  if digits = [] then none
  else (digitsVal digits).bind fun n =>
    let i : ℤ := if neg then -n else n
    if -2 ^ 63 ≤ i ∧ i < 2 ^ 63 then some i else none

section Decimal

theorem digitsVal_append_one (cs : List Char) (c : Char) :
    digitsVal (cs ++ [c]) =
      (digitsVal cs).bind fun n => if c.isDigit then some (10 * n + (c.toNat - '0'.toNat)) else none := by
  simp [digitsVal, List.foldl_append]

/-- A digit character stands for its digit. -/
theorem digitChar_toNat_sub {d : ℕ} (h : d < 10) : (Nat.digitChar d).toNat - '0'.toNat = d := by
  have hall : ∀ d, d < 10 → (Nat.digitChar d).toNat - '0'.toNat = d := by decide
  exact hall d h

/-- The decimal form `toString` writes holds digits only. -/
theorem isDigit_of_mem_toDigits (n : ℕ) : ∀ c ∈ Nat.toDigits 10 n, c.isDigit := by
  induction n using Nat.strong_induction_on with
  | _ n ih =>
    rw [Nat.toDigits_eq_if (by omega)]
    split
    · simp [Nat.isDigit_digitChar, *]
    · intro c hc
      rcases List.mem_append.mp hc with hc | hc
      · exact ih (n / 10) (by omega) c hc
      · rw [List.mem_singleton.mp hc, Nat.isDigit_digitChar]
        simpa using Nat.mod_lt n (by omega)

/-- `Atoi`'s digit loop reads back the decimal form `toString` writes. -/
theorem digitsVal_toDigits (n : ℕ) : digitsVal (Nat.toDigits 10 n) = some n := by
  induction n using Nat.strong_induction_on with
  | _ n ih =>
    rw [Nat.toDigits_eq_if (by omega)]
    split
    · rename_i hn
      rw [← List.nil_append [_], digitsVal_append_one]
      simp only [digitsVal, List.foldl_nil, Option.bind_some, Nat.isDigit_digitChar, hn,
        decide_true, if_true, Nat.mul_zero, Nat.zero_add, digitChar_toNat_sub hn]
    · rw [digitsVal_append_one, ih (n / 10) (by omega)]
      have hd : n % 10 < 10 := Nat.mod_lt n (by omega)
      simp only [Nat.isDigit_digitChar, hd, decide_true, if_true, Option.bind_some,
        digitChar_toNat_sub hd, Option.some.injEq]
      omega

/-- **`Atoi` reads back `toString`**: the decimal form of every number below `2 ^ 63`
is read as that number. -/
theorem atoi_toString {n : ℕ} (h : n < 2 ^ 63) : atoi (toString n) = some (n : ℤ) := by
  have hlist : (toString n).toList = Nat.toDigits 10 n := by
    simp [Nat.toString_eq_repr, Nat.repr]
  have hsign : signOf (Nat.toDigits 10 n) = (false, Nat.toDigits 10 n) := by
    cases hd : Nat.toDigits 10 n with
    | nil => rfl
    | cons c cs =>
      -- the first character is a digit, so neither sign
      have hc : c.isDigit := isDigit_of_mem_toDigits n c (by simp [hd])
      have hminus : c ≠ '-' := by rintro rfl; exact absurd hc (by decide)
      have hplus : c ≠ '+' := by rintro rfl; exact absurd hc (by decide)
      simp [signOf, hminus, hplus]
  have hne : Nat.toDigits 10 n ≠ [] := by
    rw [Nat.toDigits_eq_if (by omega)]
    split <;> simp
  unfold atoi
  rw [hlist, hsign]
  dsimp only
  rw [if_neg hne, digitsVal_toDigits, Option.bind_some, if_neg Bool.false_ne_true]
  have hlo : -2 ^ 63 ≤ (n : ℤ) := by omega
  have hhi : (n : ℤ) < 2 ^ 63 := by exact_mod_cast h
  rw [if_pos ⟨hlo, hhi⟩]

end Decimal

/-! ### `flag` -/

/-- A defined flag, over the variables `σ` the flags are bound to: whether it is a
boolean flag (`IsBoolFlag`), which needs no argument, and its `Value.Set`, which
may refuse the text. -/
structure Flag (σ : Type) where
  isBool : Bool
  set : σ → String → Option σ

/-- The flag `flag.BoolVar` defines: its text is read by `ParseBool`. -/
def Flag.bool {σ : Type} (update : σ → Bool → σ) : Flag σ :=
  ⟨true, fun x s => (parseBool s).map (update x)⟩

/-- The flag `flag.StringVar` defines: it takes any text. -/
def Flag.string {σ : Type} (update : σ → String → σ) : Flag σ :=
  ⟨false, fun x s => some (update x s)⟩

/-- The flags of a program, by name, in the order it defines them. Defining a name
twice panics (`flag redefined`), so the names of a flag set are distinct. -/
structure FlagSet (σ : Type) where
  formal : List (String × Flag σ)
  nodup : (formal.map Prod.fst).Nodup

/-- An error of `Parse`. -/
inductive ParseError
  /-- `bad flag syntax: %s`. -/
  | badSyntax (arg : String)
  /-- `flag provided but not defined: -%s`. -/
  | notDefined (name : String)
  /-- `ErrHelp`, for an undefined `-help` or `-h`, after printing the usage. -/
  | help
  /-- `invalid boolean value %q for -%s: %v`. -/
  | invalidBool (value name : String)
  /-- `invalid boolean flag %s: %v`. -/
  | invalidBoolFlag (name : String)
  /-- `invalid value %q for flag -%s: %v`. -/
  | invalidValue (value name : String)
  /-- `flag needs an argument: -%s`. -/
  | needsArgument (name : String)
  deriving DecidableEq, Repr

/-- What `parseOne` makes of one argument. -/
inductive Arg
  /-- Not a flag: parsing stops before it. -/
  | positional
  /-- `--`: parsing stops after it. -/
  | terminator
  /-- Bad syntax. -/
  | bad
  /-- A flag's name, with the value after its `=` if it has one. -/
  | flag (name : String) (value : Option String)
  deriving DecidableEq, Repr

/-- The argument after its one or two `-`: the name is empty or starts with `-` or
`=`, or it is split at its first `=` after the first character. -/
def Arg.ofName : List Char → Arg
  | [] => .bad
  | c :: cs =>
    if c = '-' ∨ c = '=' then .bad
    else
      let (name, rest) := cs.span (· != '=')
      .flag (String.ofList (c :: name)) (if rest = [] then none else some (String.ofList rest.tail))

/-- `parseOne`'s reading of an argument. -/
def Arg.of (s : String) : Arg :=
  match s.toList with
  | '-' :: c :: cs =>
    if c = '-' then (if cs = [] then .terminator else Arg.ofName cs)
    else Arg.ofName (c :: cs)
  | _ => .positional

variable {σ : Type}

/-- `FlagSet.Parse`: the variables after the flags of the arguments have set them, one
`parseOne` at a time, or the first error. -/
def parse (fs : FlagSet σ) (x : σ) : List String → Except ParseError σ
  | [] => .ok x
  | s :: rest =>
    match Arg.of s with
    | .positional | .terminator => .ok x
    | .bad => .error (.badSyntax s)
    | .flag name value =>
      match fs.formal.lookup name with
      | none => .error (if name = "help" ∨ name = "h" then .help else .notDefined name)
      | some fl =>
        if fl.isBool then
          -- a boolean flag never takes the next argument
          match value with
          | some v =>
            match fl.set x v with
            | some x' => parse fs x' rest
            | none => .error (.invalidBool v name)
          | none =>
            match fl.set x "true" with
            | some x' => parse fs x' rest
            | none => .error (.invalidBoolFlag name)
        else
          match value with
          | some v =>
            match fl.set x v with
            | some x' => parse fs x' rest
            | none => .error (.invalidValue v name)
          | none =>
            -- the value is the next argument, whatever it is
            match rest with
            | v :: rest' =>
              match fl.set x v with
              | some x' => parse fs x' rest'
              | none => .error (.invalidValue v name)
            | [] => .error (.needsArgument name)

/-- The status `Parse` exits with under `ExitOnError`, the mode of `flag.CommandLine`. -/
def exitOnError : ParseError → ℕ
  | .help => 0
  | _ => 2

end GoFlag
