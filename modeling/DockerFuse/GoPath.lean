import Mathlib.Data.List.Basic

/-!
# Go's `path/filepath`, lexically

`filepath.Clean` and `filepath.Join` on Unix, as Go documents them. `Clean` splits a
path at its separators and walks the elements with a stack:

1. empty elements (from repeated separators) and `.` elements are dropped;
2. a `..` element removes the element below it, unless that is a `..` itself;
3. at the start of a rooted path a `..` is dropped (`/..` is `/`); in a relative
   path it is kept.

The result is the root's `/` (for a rooted path) followed by the elements left, with
one separator between each two; an empty result is `.`. `Join` ignores empty
elements, joins the others with separators and cleans the result; it is `""` when
every element is empty.

Everything is structural recursion on the characters, so that `Clean` of a concrete
path evaluates by `decide`.
-/

namespace GoPath

/-- The elements of a path, at every `'/'`, empty ones included: `"/a//b"` is
`["", "a", "", "b"]`. -/
def splitSlash : List Char → List (List Char)
  | [] => [[]]
  | c :: cs =>
    if c = '/' then [] :: splitSlash cs
    else
      match splitSlash cs with
      | [] => [[c]]
      | e :: es => (c :: e) :: es

/-- Elements joined with one `'/'` between each two. -/
def joinSlash : List (List Char) → List Char
  | [] => []
  | [e] => e
  | e :: es => e ++ '/' :: joinSlash es

/-- The element `..`. -/
def dotDot : List Char := ['.', '.']

/-- One element of `Clean`'s walk. The stack holds the elements kept so far, the
last one on top. -/
def cleanStep (rooted : Bool) (stack : List (List Char)) (e : List Char) : List (List Char) :=
  if e = [] ∨ e = ['.'] then stack
  else if e = dotDot then
    match stack with
    -- `..` at the start: dropped in a rooted path, kept in a relative one
    | [] => if rooted then [] else [dotDot]
    | top :: rest => if top = dotDot then dotDot :: stack else rest
  else e :: stack

/-- The stack `Clean` ends with. -/
def cleanStack (rooted : Bool) (path : List Char) : List (List Char) :=
  (splitSlash path).foldl (cleanStep rooted) []

/-- The path a stack stands for: the root, then the elements from the bottom up;
`.` when nothing is left of a relative path. -/
def render (rooted : Bool) (stack : List (List Char)) : List Char :=
  if rooted then '/' :: joinSlash stack.reverse
  else if stack = [] then ['.'] else joinSlash stack.reverse

/-- `Clean`, on characters. -/
def cleanChars : List Char → List Char
  | [] => ['.']
  | c :: cs => render (c = '/') (cleanStack (c = '/') (c :: cs))

/-- `filepath.Clean`. -/
def clean (path : String) : String :=
  String.ofList (cleanChars path.toList)

/-- `filepath.Join(elem, elem')`: the first non-empty element and what follows it,
joined by separators and cleaned. -/
def join (elem elem' : String) : String :=
  if elem ≠ "" then clean (elem ++ "/" ++ elem')
  else if elem' ≠ "" then clean elem'
  else ""

example : clean "a//b/./c/.." = "a/b" := by decide
example : clean "/../x/" = "/x" := by decide
example : clean "../../y" = "../../y" := by decide
example : join "" "b" = "b" := by decide
example : join "/" "b" = "/b" := by decide

/-! ### Splitting and joining -/

theorem splitSlash_ne_nil (path : List Char) : splitSlash path ≠ [] := by
  cases path with
  | nil => simp [splitSlash]
  | cons c cs =>
    rw [splitSlash]
    split
    · simp
    · split <;> simp

/-- No element holds a separator. -/
theorem slash_not_mem_of_mem_splitSlash {path e : List Char} (he : e ∈ splitSlash path) :
    '/' ∉ e := by
  induction path generalizing e with
  | nil =>
    rw [splitSlash, List.mem_singleton] at he
    simp [he]
  | cons c cs ih =>
    rw [splitSlash] at he
    split at he
    · rcases List.mem_cons.mp he with rfl | he
      · simp
      · exact ih he
    · rename_i hc
      -- the first element of the rest grew by `c`
      rcases hs : splitSlash cs with _ | ⟨e', es⟩
      · exact absurd hs (splitSlash_ne_nil cs)
      · rw [hs] at he ih
        rcases List.mem_cons.mp he with rfl | he
        · simp only [List.mem_cons, not_or]
          exact ⟨Ne.symm hc, ih List.mem_cons_self⟩
        · exact ih (List.mem_cons_of_mem _ he)

/-- A path without separators is one element. -/
theorem splitSlash_of_slash_not_mem {e : List Char} (h : '/' ∉ e) : splitSlash e = [e] := by
  induction e with
  | nil => rfl
  | cons c cs ih =>
    rw [List.mem_cons, not_or] at h
    rw [splitSlash, if_neg (Ne.symm h.1), ih h.2]

/-- Splitting at a separator splits the two sides apart. -/
theorem splitSlash_append (a b : List Char) :
    splitSlash (a ++ '/' :: b) = splitSlash a ++ splitSlash b := by
  induction a with
  | nil => simp [splitSlash]
  | cons c a ih =>
    rw [List.cons_append, splitSlash, splitSlash, ih]
    split
    · rfl
    · obtain ⟨e, es, hs⟩ := List.exists_cons_of_ne_nil (splitSlash_ne_nil a)
      rw [hs]
      rfl

theorem joinSlash_cons_cons (e e' : List Char) (es : List (List Char)) :
    joinSlash (e :: e' :: es) = e ++ '/' :: joinSlash (e' :: es) :=
  rfl

/-- Joining elements without separators and splitting gives them back. -/
theorem splitSlash_joinSlash {es : List (List Char)} (hne : es ≠ [])
    (h : ∀ e ∈ es, '/' ∉ e) : splitSlash (joinSlash es) = es := by
  induction es with
  | nil => exact absurd rfl hne
  | cons e es ih =>
    cases es with
    | nil => exact splitSlash_of_slash_not_mem (h e List.mem_cons_self)
    | cons e' es =>
      have hrest : ∀ x ∈ e' :: es, '/' ∉ x := fun x hx => h x (List.mem_cons_of_mem _ hx)
      rw [joinSlash_cons_cons, splitSlash_append,
        splitSlash_of_slash_not_mem (h e List.mem_cons_self),
        ih (List.cons_ne_nil _ _) hrest]
      rfl

/-- A joined list starts with its first element. -/
theorem joinSlash_cons (e : List Char) (es : List (List Char)) :
    ∃ rest, joinSlash (e :: es) = e ++ rest := by
  cases es with
  | nil => exact ⟨[], by simp [joinSlash]⟩
  | cons e' es => exact ⟨_, rfl⟩

/-! ### The walk -/

/-- An element `Clean` keeps as a name: not empty, not `.` or `..`, and without a
separator. -/
def IsName (e : List Char) : Prop :=
  e ≠ [] ∧ e ≠ ['.'] ∧ e ≠ dotDot ∧ '/' ∉ e

/-- A stack `Clean` can end with: names above a run of `..`, and no `..` at all in a
rooted path. -/
def NormalStack (rooted : Bool) (stack : List (List Char)) : Prop :=
  ∃ names k, stack = names ++ List.replicate k dotDot ∧ (∀ e ∈ names, IsName e) ∧
    (rooted = true → k = 0)

theorem cleanStep_nil (rooted : Bool) (stack : List (List Char)) :
    cleanStep rooted stack [] = stack := by
  simp [cleanStep]

theorem cleanStep_of_isName {rooted : Bool} {stack : List (List Char)} {e : List Char}
    (he : IsName e) : cleanStep rooted stack e = e :: stack := by
  obtain ⟨h1, h2, h3, -⟩ := he
  simp [cleanStep, h1, h2, h3]

/-- In a relative path a `..` on a run of `..` is kept. -/
theorem cleanStep_dotDot_replicate (k : ℕ) :
    cleanStep false (List.replicate k dotDot) dotDot = List.replicate (k + 1) dotDot := by
  cases k with
  | zero => rfl
  | succ k => simp [cleanStep, dotDot, List.replicate_succ]

theorem normalStack_nil (rooted : Bool) : NormalStack rooted [] :=
  ⟨[], 0, rfl, by simp, fun _ => rfl⟩

/-- **The step lemma of the walk**: each element keeps the stack normal. -/
theorem NormalStack.cleanStep {rooted : Bool} {stack : List (List Char)} {e : List Char}
    (hs : NormalStack rooted stack) (he : '/' ∉ e) :
    NormalStack rooted (GoPath.cleanStep rooted stack e) := by
  obtain ⟨names, k, rfl, hnames, hk⟩ := hs
  by_cases hskip : e = [] ∨ e = ['.']
  · unfold GoPath.cleanStep
    rw [if_pos hskip]
    exact ⟨names, k, rfl, hnames, hk⟩
  by_cases hdd : e = dotDot
  · subst hdd
    cases names with
    | cons top rest =>
      -- a name on top: the `..` removes it
      have htop : top ≠ dotDot := (hnames top List.mem_cons_self).2.2.1
      unfold GoPath.cleanStep
      simp only [if_neg hskip, List.cons_append, htop, if_true, if_false]
      exact ⟨rest, k, rfl, fun x hx => hnames x (List.mem_cons_of_mem _ hx), hk⟩
    | nil =>
      cases rooted with
      | false =>
        rw [List.nil_append, cleanStep_dotDot_replicate]
        exact ⟨[], k + 1, rfl, by simp, by simp⟩
      | true =>
        -- a rooted stack has no `..`, so the stack is empty and stays so
        rw [hk rfl]
        exact ⟨[], 0, rfl, by simp, fun _ => rfl⟩
  · unfold GoPath.cleanStep
    rw [if_neg hskip, if_neg hdd]
    rw [not_or] at hskip
    refine ⟨e :: names, k, rfl, fun x hx => ?_, hk⟩
    rcases List.mem_cons.mp hx with rfl | hx
    · exact ⟨hskip.1, hskip.2, hdd, he⟩
    · exact hnames x hx

/-- **The run lemma of the walk**: a walk over elements without separators ends normal. -/
theorem NormalStack.foldl {rooted : Bool} {stack : List (List Char)} (hs : NormalStack rooted stack)
    {es : List (List Char)} (hes : ∀ e ∈ es, '/' ∉ e) :
    NormalStack rooted (es.foldl (GoPath.cleanStep rooted) stack) := by
  induction es generalizing stack with
  | nil => exact hs
  | cons e es ih =>
    exact ih (hs.cleanStep (hes e List.mem_cons_self)) fun x hx => hes x (List.mem_cons_of_mem _ hx)

theorem normalStack_cleanStack (rooted : Bool) (path : List Char) :
    NormalStack rooted (cleanStack rooted path) :=
  (normalStack_nil rooted).foldl fun _ he => slash_not_mem_of_mem_splitSlash he

/-- The walk over a path with more after a separator goes on from where the first
part left it. -/
theorem cleanStack_append (rooted : Bool) (a b : List Char) :
    cleanStack rooted (a ++ '/' :: b) = (splitSlash b).foldl (cleanStep rooted)
      (cleanStack rooted a) := by
  rw [cleanStack, cleanStack, splitSlash_append, List.foldl_append]

/-- Names are pushed as they come. -/
theorem foldl_cleanStep_names {rooted : Bool} {es : List (List Char)} (hes : ∀ e ∈ es, IsName e)
    (acc : List (List Char)) : es.foldl (cleanStep rooted) acc = es.reverse ++ acc := by
  induction es generalizing acc with
  | nil => rfl
  | cons e es ih =>
    rw [List.foldl_cons, cleanStep_of_isName (hes e List.mem_cons_self),
      ih (fun x hx => hes x (List.mem_cons_of_mem _ hx))]
    simp

/-- In a relative path a run of `..` is kept whole. -/
theorem foldl_cleanStep_dotDots (j k : ℕ) :
    (List.replicate k dotDot).foldl (cleanStep false) (List.replicate j dotDot) =
      List.replicate (j + k) dotDot := by
  induction k generalizing j with
  | zero => rfl
  | succ k ih =>
    rw [List.replicate_succ, List.foldl_cons, cleanStep_dotDot_replicate, ih]
    congr 1
    omega

theorem slash_not_mem_of_normalStack {rooted : Bool} {stack : List (List Char)}
    (hs : NormalStack rooted stack) : ∀ e ∈ stack, '/' ∉ e := by
  obtain ⟨names, k, rfl, hnames, -⟩ := hs
  intro e he
  rcases List.mem_append.mp he with he | he
  · exact (hnames e he).2.2.2
  · rw [List.eq_of_mem_replicate he]
    decide

/-- **Walking a clean path gives its stack back.** -/
theorem cleanStack_render {rooted : Bool} {stack : List (List Char)}
    (hs : NormalStack rooted stack) :
    cleanStack rooted (render rooted stack) = stack := by
  have hslash := slash_not_mem_of_normalStack hs
  obtain ⟨names, k, rfl, hnames, hk⟩ := hs
  have hnames' : ∀ e ∈ names.reverse, IsName e := fun e he => hnames e (List.mem_reverse.mp he)
  cases rooted with
  | true =>
    -- the root's empty element is skipped, then the names are pushed
    rw [hk rfl, List.replicate_zero, List.append_nil] at hslash ⊢
    have hsplit : splitSlash (render true names) = [] :: splitSlash (joinSlash names.reverse) := rfl
    rw [cleanStack, hsplit, List.foldl_cons, cleanStep_nil]
    by_cases hnil : names = []
    · subst hnil
      rfl
    · rw [splitSlash_joinSlash (List.reverse_ne_nil_iff.mpr hnil)
          (fun e he => hslash e (List.mem_reverse.mp he)),
        foldl_cleanStep_names hnames', List.reverse_reverse, List.append_nil]
  | false =>
    by_cases hnil : names ++ List.replicate k dotDot = []
    · rw [hnil]
      rfl
    · -- the run of `..` at the bottom comes first, then the names
      have hrun := foldl_cleanStep_dotDots 0 k
      rw [List.replicate_zero, Nat.zero_add] at hrun
      rw [render, if_neg Bool.false_ne_true, if_neg hnil, cleanStack,
        splitSlash_joinSlash (List.reverse_ne_nil_iff.mpr hnil)
          (fun e he => hslash e (List.mem_reverse.mp he)),
        List.reverse_append, List.reverse_replicate, List.foldl_append, hrun,
        foldl_cleanStep_names hnames', List.reverse_reverse]

/-- A clean path is rooted exactly when its stack is. -/
theorem render_cons {rooted : Bool} {stack : List (List Char)} (hs : NormalStack rooted stack) :
    ∃ x xs, render rooted stack = x :: xs ∧ decide (x = '/') = rooted := by
  cases rooted with
  | true => exact ⟨'/', _, rfl, rfl⟩
  | false =>
    by_cases hnil : stack = []
    · subst hnil
      exact ⟨'.', [], rfl, rfl⟩
    · -- the bottom element is a name or `..`: not empty, and no separator
      have hslash := slash_not_mem_of_normalStack hs
      obtain ⟨names, k, rfl, hnames, -⟩ := hs
      obtain ⟨e, es, hrev⟩ := List.exists_cons_of_ne_nil (List.reverse_ne_nil_iff.mpr hnil)
      have he : e ∈ names ++ List.replicate k dotDot :=
        List.mem_reverse.mp (hrev ▸ List.mem_cons_self)
      have hne : e ≠ [] := by
        rcases List.mem_append.mp he with he | he
        · exact (hnames e he).1
        · rw [List.eq_of_mem_replicate he]
          decide
      obtain ⟨x, xs, rfl⟩ := List.exists_cons_of_ne_nil hne
      obtain ⟨rest, hjoin⟩ := joinSlash_cons (x :: xs) es
      refine ⟨x, xs ++ rest, ?_, ?_⟩
      · rw [render, if_neg Bool.false_ne_true, if_neg hnil, hrev, hjoin]
        rfl
      · have hx : x ≠ '/' := fun h => hslash _ he (h ▸ List.mem_cons_self)
        simp [hx]

/-! ### What `Clean` gives back -/

theorem cleanChars_cons (c : Char) (cs : List Char) :
    cleanChars (c :: cs) = render (decide (c = '/')) (cleanStack (decide (c = '/')) (c :: cs)) :=
  rfl

/-- Cleaning a clean path, or a clean path with more after a separator, walks the
clean path back to its stack and goes on from there. -/
theorem cleanChars_render_append {c : Char} {cs : List Char} (b : List Char)
    (hs : NormalStack (decide (c = '/')) (cleanStack (decide (c = '/')) (c :: cs))) :
    cleanChars (cleanChars (c :: cs) ++ '/' :: b) =
      render (decide (c = '/'))
        ((splitSlash b).foldl (cleanStep (decide (c = '/')))
          (cleanStack (decide (c = '/')) (c :: cs))) := by
  obtain ⟨x, xs, hx, hxr⟩ := render_cons hs
  rw [cleanChars_cons, hx, List.cons_append, cleanChars_cons, hxr, ← List.cons_append, ← hx,
    cleanStack_append, cleanStack_render hs]

/-- **`Clean` is idempotent.** -/
theorem cleanChars_cleanChars (path : List Char) :
    cleanChars (cleanChars path) = cleanChars path := by
  cases path with
  | nil => rfl
  | cons c cs =>
    have hs := normalStack_cleanStack (decide (c = '/')) (c :: cs)
    obtain ⟨x, xs, hx, hxr⟩ := render_cons hs
    rw [cleanChars_cons c cs, hx, cleanChars_cons, hxr, ← hx, cleanStack_render hs]

/-- **Cleaning a path and then what follows it is cleaning the whole.** -/
theorem cleanChars_cleanChars_append {a : List Char} (ha : a ≠ []) (b : List Char) :
    cleanChars (cleanChars a ++ '/' :: b) = cleanChars (a ++ '/' :: b) := by
  obtain ⟨c, a', rfl⟩ := List.exists_cons_of_ne_nil ha
  rw [cleanChars_render_append b (normalStack_cleanStack _ _), List.cons_append, cleanChars_cons,
    ← List.cons_append, cleanStack_append]

/-- An empty element is no element. -/
theorem cleanChars_append_slash_slash {a : List Char} (ha : a ≠ []) (b : List Char) :
    cleanChars (a ++ '/' :: '/' :: b) = cleanChars (a ++ '/' :: b) := by
  obtain ⟨c, a', rfl⟩ := List.exists_cons_of_ne_nil ha
  have hsplit : splitSlash ('/' :: b) = [] :: splitSlash b := rfl
  rw [List.cons_append, List.cons_append, cleanChars_cons, cleanChars_cons, ← List.cons_append,
    ← List.cons_append, cleanStack_append, cleanStack_append, hsplit, List.foldl_cons,
      cleanStep_nil]

/-- A separator at the end is no element. -/
theorem cleanChars_append_slash {a : List Char} (ha : a ≠ []) :
    cleanChars (a ++ ['/']) = cleanChars a := by
  obtain ⟨c, a', rfl⟩ := List.exists_cons_of_ne_nil ha
  rw [List.cons_append, cleanChars_cons, ← List.cons_append, cleanStack_append]
  rfl

/-! ### On strings -/

theorem toList_ne_nil {s : String} (hs : s ≠ "") : s.toList ≠ [] := fun h =>
  hs (String.toList_inj.mp (h.trans String.toList_empty.symm))

theorem toList_append_slash (a b : String) :
    (a ++ "/" ++ b).toList = a.toList ++ '/' :: b.toList := by
  simp [String.toList_append]

theorem append_slash_ne_empty (a b : String) : a ++ "/" ++ b ≠ "" := fun h => by
  have hl := congrArg String.toList h
  rw [toList_append_slash, String.toList_empty] at hl
  simp at hl

theorem cleanChars_ne_nil (path : List Char) : cleanChars path ≠ [] := by
  cases path with
  | nil => exact List.cons_ne_nil _ _
  | cons c cs =>
    obtain ⟨x, xs, hx, -⟩ := render_cons (normalStack_cleanStack (decide (c = '/')) (c :: cs))
    rw [cleanChars_cons, hx]
    exact List.cons_ne_nil _ _

theorem clean_ne_empty (path : String) : clean path ≠ "" := by
  intro h
  apply cleanChars_ne_nil path.toList
  have hl := congrArg String.toList h
  rwa [clean, String.toList_ofList, String.toList_empty] at hl

theorem clean_clean (path : String) : clean (clean path) = clean path := by
  unfold clean
  rw [String.toList_ofList, cleanChars_cleanChars]

theorem clean_clean_append {a : String} (ha : a ≠ "") (b : String) :
    clean (clean a ++ "/" ++ b) = clean (a ++ "/" ++ b) := by
  unfold clean
  rw [toList_append_slash, toList_append_slash, String.toList_ofList,
    cleanChars_cleanChars_append (toList_ne_nil ha)]

theorem clean_append_slash_slash {a : String} (ha : a ≠ "") (b : String) :
    clean (a ++ "/" ++ ("/" ++ b)) = clean (a ++ "/" ++ b) := by
  have hl : (a ++ "/" ++ ("/" ++ b)).toList = a.toList ++ '/' :: '/' :: b.toList := by
    simp [String.toList_append]
  unfold clean
  rw [hl, toList_append_slash, cleanChars_append_slash_slash (toList_ne_nil ha)]

theorem clean_append_slash {a : String} (ha : a ≠ "") : clean (a ++ "/") = clean a := by
  have hl : (a ++ "/").toList = a.toList ++ ['/'] := by
    simp [String.toList_append]
  unfold clean
  rw [hl, cleanChars_append_slash (toList_ne_nil ha)]

/-- `Join` of a non-empty path and a name. -/
theorem join_of_ne_empty {elem : String} (h : elem ≠ "") (elem' : String) :
    join elem elem' = clean (elem ++ "/" ++ elem') :=
  if_pos h

/-! ### Rooted and relative paths -/

/-- A path is rooted when it starts with `/`. -/
def Rooted (path : String) : Prop :=
  path.toList.head? = some '/'

instance (path : String) : Decidable (Rooted path) :=
  inferInstanceAs (Decidable (_ = _))

theorem rooted_append {a : String} (ha : a ≠ "") (b : String) : Rooted (a ++ b) ↔ Rooted a := by
  rw [Rooted, Rooted, String.toList_append, List.head?_append_of_ne_nil _ (toList_ne_nil ha)]

theorem cleanChars_head? (path : List Char) :
    (cleanChars path).head? = some '/' ↔ path.head? = some '/' := by
  cases path with
  | nil => simp [cleanChars]
  | cons c cs =>
    obtain ⟨x, xs, hx, hxr⟩ := render_cons (normalStack_cleanStack (decide (c = '/')) (c :: cs))
    rw [cleanChars_cons, hx, List.head?_cons, List.head?_cons, Option.some.injEq,
      Option.some.injEq]
    exact decide_eq_decide.mp hxr

/-- **`Clean` keeps a path rooted or relative.** -/
theorem rooted_clean (path : String) : Rooted (clean path) ↔ Rooted path := by
  rw [Rooted, Rooted, clean, String.toList_ofList, cleanChars_head?]

/-- `Join` is rooted only if one of its elements is. -/
theorem rooted_of_rooted_join {elem elem' : String} (h : Rooted (join elem elem')) :
    Rooted elem ∨ Rooted elem' := by
  unfold join at h
  split_ifs at h with h1 h2
  · rw [rooted_clean, String.append_assoc, rooted_append h1] at h
    exact .inl h
  · rw [rooted_clean] at h
    exact .inr h
  · exact absurd h (by decide)

/-- `Join` of a rooted path is rooted. -/
theorem rooted_join {elem : String} (h : Rooted elem) (elem' : String) : Rooted (join elem elem') := by
  have hne : elem ≠ "" := fun he => by
    rw [he] at h
    exact absurd h (by decide)
  rw [join_of_ne_empty hne, rooted_clean, String.append_assoc, rooted_append hne]
  exact h

/-- Names joined by `/` start as the first name does, when no name is empty. -/
theorem not_rooted_intercalate {names : List String} (h : ∀ n ∈ names, n ≠ "" ∧ ¬Rooted n) :
    ¬Rooted ("/".intercalate names) := by
  cases names with
  | nil => exact fun hr => absurd hr (by decide)
  | cons n rest =>
    have hn := h n List.mem_cons_self
    cases rest with
    | nil =>
      rw [String.intercalate_singleton]
      exact hn.2
    | cons m rest =>
      rw [String.intercalate_cons_cons, String.append_assoc, rooted_append hn.1]
      exact hn.2

end GoPath
