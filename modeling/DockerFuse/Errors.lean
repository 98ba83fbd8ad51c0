import DockerFuse.Syscall

/-!
# Go's error values and the string functions the code applies to their messages

An `error` in Go is an interface value; the code looks at it in three ways. It
switches on its dynamic type (`syscall.Errno`, `*fs.PathError`, `*os.LinkError`,
anything else), it compares its message `Error()` with a string, and it asks
`errors.Is(err, fs.ErrNotExist)`. `DockerFuse.GoError` keeps exactly what those three
need. Values of any other type are known by their message; the sentinels the code
meets (`io.EOF`, `fs.ErrNotExist`, `os.ErrClosed`, `os.ErrInvalid`) are such
values.

Across net/rpc an error travels as its message only, so on the client side an error
is a `String`. There the code tests it with `strings.HasPrefix` and cuts it with
`strings.SplitN`, modelled here as `DockerFuse.hasPrefix` and `DockerFuse.splitN`.
-/

namespace DockerFuse

open Syscall

/-- An `error` value, by the dynamic type the code distinguishes. -/
inductive GoError
  /-- A bare `syscall.Errno`. -/
  | errno (e : Errno)
  /-- A `*fs.PathError` wrapping `err`. -/
  | pathError (op path : String) (err : GoError)
  /-- An `*os.LinkError` wrapping `err`. -/
  | linkError (op old new : String) (err : GoError)
  /-- A value of any other type, known by its message. -/
  | other (msg : String)
  deriving DecidableEq, Repr

/-- `syscall.Errno.Error`. Go prints the entry of its message table, and falls back
to `"errno " + n`; only whether a message is `"EOF"` is ever read of it, which no
entry is, so the table's texts are left out and the fallback stands for all. -/
def Syscall.Errno.error (e : Errno) : String :=
  "errno " ++ toString e.val.toNat

/-- `err.Error()`. -/
def GoError.error : GoError → String
  | .errno e => e.error
  | .pathError op path err => op ++ " " ++ path ++ ": " ++ err.error
  | .linkError op old new err => op ++ " " ++ old ++ " " ++ new ++ ": " ++ err.error
  | .other msg => msg

/-- `io.EOF`. -/
def eof : GoError := .other "EOF"

/-- `fs.ErrNotExist`. -/
def errNotExist : GoError := .other "file does not exist"

/-- `os.ErrClosed`. -/
def errClosed : GoError := .other "file already closed"

/-- `os.ErrInvalid`, what every method of a nil `*os.File` returns. -/
def errInvalid : GoError := .other "invalid argument"

/-- `os.errWriteAtInAppendMode`, what `WriteAt` returns on a file opened with `O_APPEND`. -/
def errWriteAtInAppendMode : GoError :=
  .other "os: invalid use of WriteAt on file opened with O_APPEND"

/-- `errors.New("negative offset")`, the cause of the `PathError` that `ReadAt` and
`WriteAt` of an `*os.File` return for an offset below 0. -/
def errNegativeOffset : GoError := .other "negative offset"

/-- `errors.Unwrap(err)`: the cause a `PathError` or a `LinkError` wraps. -/
def GoError.unwrap : GoError → Option GoError
  | .pathError _ _ err | .linkError _ _ _ err => some err
  | .errno _ | .other _ => none

/-- `_, ok := err.(syscall.Errno)`: whether the value is a bare `Errno`. -/
def GoError.isErrno : GoError → Bool
  | .errno _ => true
  | .pathError .. | .linkError .. | .other _ => false

/-- `errors.Is(err, fs.ErrNotExist)` on platform `p`: an `Errno` is `ENOENT`, a
`PathError` or `LinkError` unwraps to its cause, any other value is the sentinel
itself. -/
def GoError.isNotExist (p : Platform) : GoError → Bool
  | .errno e => e == p.errno .ENOENT
  | .pathError _ _ err => err.isNotExist p
  | .linkError _ _ _ err => err.isNotExist p
  | .other msg => msg == "file does not exist"

/-! ### Strings -/

/-- `strings.HasPrefix(s, pre)`. -/
def hasPrefix (s pre : String) : Bool :=
  pre.toList.isPrefixOf s.toList

/-- `strings.SplitN(s, sep, n)` for a one-character separator and `n ≥ 0`, the only
kind the code passes: at most `n` pieces, the last one the unsplit rest. -/
def splitN (s : String) (sep : Char) (n : ℕ) : List String :=
  (go n s.toList).map String.ofList
where
  /-- The pieces, as character lists. -/
  go : ℕ → List Char → List (List Char)
    | 0, _ => []
    | 1, cs => [cs]
    | n + 2, cs =>
      if sep ∈ cs then cs.takeWhile (· != sep) :: go (n + 1) (cs.dropWhile (· != sep)).tail
      else [cs]

theorem hasPrefix_append (pre s : String) : hasPrefix (pre ++ s) pre := by
  simp [hasPrefix, List.isPrefixOf_iff_prefix]

theorem takeWhile_append_sep {sep : Char} {pre rest : List Char} (h : sep ∉ pre) :
    (pre ++ sep :: rest).takeWhile (· != sep) = pre := by
  induction pre with
  | nil => simp
  | cons c pre ih =>
    rw [List.mem_cons, not_or] at h
    simp [Ne.symm h.1, ih h.2]

theorem dropWhile_append_sep {sep : Char} {pre rest : List Char} (h : sep ∉ pre) :
    (pre ++ sep :: rest).dropWhile (· != sep) = sep :: rest := by
  induction pre with
  | nil => simp
  | cons c pre ih =>
    rw [List.mem_cons, not_or] at h
    simp [Ne.symm h.1, ih h.2]

/-- Splitting in two at the first separator. -/
theorem splitN_two {sep : Char} {pre rest : String} (h : sep ∉ pre.toList) :
    splitN (pre ++ String.singleton sep ++ rest) sep 2 = [pre, rest] := by
  have hcs : (pre ++ String.singleton sep ++ rest).toList = pre.toList ++ sep :: rest.toList := by
    simp
  rw [splitN, hcs, splitN.go, if_pos (by simp), takeWhile_append_sep h, dropWhile_append_sep h]
  simp [splitN.go]

end DockerFuse
