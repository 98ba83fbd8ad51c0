import Mathlib.Data.List.Pairwise

/-!
# Translating flag words between two encodings

Open flags and attribute bitmaps are plain bit sets whose bit positions depend on
who reads them. A portable protocol translates them through a table of
pairs: on one side a *source mask*, on the other the *target mask* that stands for
it. `FlagMap.translate` is the loop every such translation runs: start from the
empty word and, for each entry whose source mask is held in full, or in its target
mask.

The facts the translations need are all about bits:

* `FlagMap.getLsbD_translate` – a bit of the result is set exactly when some entry
  whose source mask is held sets it;
* `FlagMap.translate_and_eq_iff` – when the target masks are nonzero and share no
  bit, the result holds an entry's target mask exactly when the input holds its
  source mask;
* `FlagMap.translate_swap_translate` – translating there and back keeps exactly the
  bits of the source masks that were held in full.
-/

namespace FlagMap

variable {v w : ℕ}

/-- The translation loop: for each entry whose source mask `x` holds in full, or
the entry's target mask into the result. -/
def translate (tbl : List (BitVec v × BitVec w)) (x : BitVec v) : BitVec w :=
  tbl.foldl (fun acc e => if x &&& e.1 = e.1 then acc ||| e.2 else acc) 0

/-- The target masks of a table share no bit. -/
def Disjoint (tbl : List (BitVec v × BitVec w)) : Prop :=
  tbl.Pairwise fun a b => a.2 &&& b.2 = 0

instance (tbl : List (BitVec v × BitVec w)) : Decidable (Disjoint tbl) :=
  inferInstanceAs (Decidable (tbl.Pairwise _))

/-! ### Masks, bit by bit -/

/-- A word holds a mask in full when it has every bit of the mask. -/
theorem and_eq_right_iff {x m : BitVec w} :
    x &&& m = m ↔ ∀ i, m.getLsbD i → x.getLsbD i := by
  constructor
  · intro h i hi
    have hbit := congrArg (fun y => y.getLsbD i) h
    simp only [BitVec.getLsbD_and, hi, Bool.and_true] at hbit
    exact hbit
  · intro h
    apply BitVec.eq_of_getLsbD_eq
    intro i _
    cases hm : m.getLsbD i
    · simp [hm]
    · simp [hm, h i hm]

/-- A nonzero mask has a bit. -/
theorem exists_getLsbD_of_ne_zero {m : BitVec w} (hm : m ≠ 0) : ∃ i, m.getLsbD i := by
  by_contra hno
  apply hm
  apply BitVec.eq_of_getLsbD_eq
  intro i _
  have hbit : ¬m.getLsbD i := fun hi => hno ⟨i, hi⟩
  simpa using hbit

/-- Two different entries of a disjoint table share no target bit. -/
theorem Disjoint.and_eq_zero {tbl : List (BitVec v × BitVec w)} (hd : Disjoint tbl)
    {a b : BitVec v × BitVec w} (ha : a ∈ tbl) (hb : b ∈ tbl) (hab : a ≠ b) :
    a.2 &&& b.2 = 0 := by
  induction tbl with
  | nil => simp at ha
  | cons c tbl ih =>
    rw [Disjoint, List.pairwise_cons] at hd
    rcases List.mem_cons.mp ha with rfl | ha' <;> rcases List.mem_cons.mp hb with rfl | hb'
    · exact absurd rfl hab
    · exact hd.1 b hb'
    · rw [BitVec.and_comm]
      exact hd.1 a ha'
    · exact ih hd.2 ha' hb'

/-- Oring in a mask that shares no bit with `b` changes nothing about holding `b`. -/
theorem or_and_eq_self_iff {x m b : BitVec w} (hmb : m &&& b = 0) :
    (x ||| m) &&& b = b ↔ x &&& b = b := by
  rw [and_eq_right_iff, and_eq_right_iff]
  refine forall_congr' fun i => imp_congr_right fun hi => ?_
  have hm : m.getLsbD i = false := by
    have hbit := congrArg (fun y => y.getLsbD i) hmb
    simpa [hi] using hbit
  simp [hm]

/-- After oring in `b`, the word holds `b`. -/
theorem or_self_and_eq (x b : BitVec w) : (x ||| b) &&& b = b :=
  and_eq_right_iff.mpr fun i hi => by simp [hi]

/-! ### What the loop computes -/

theorem getLsbD_foldl (tbl : List (BitVec v × BitVec w)) (x : BitVec v) (acc : BitVec w)
    (i : ℕ) :
    (tbl.foldl (fun acc e => if x &&& e.1 = e.1 then acc ||| e.2 else acc) acc).getLsbD i =
      (acc.getLsbD i || tbl.any fun e => decide (x &&& e.1 = e.1) && e.2.getLsbD i) := by
  -- the accumulator is generalised: each entry ors its mask into it or leaves it
  induction tbl generalizing acc with
  | nil => simp
  | cons e tbl ih =>
    rw [List.foldl_cons, ih]
    by_cases he : x &&& e.1 = e.1 <;> simp [he, Bool.or_assoc]

/-- **The bits of a translation**: a bit is set exactly when an entry whose source
mask is held sets it. -/
theorem getLsbD_translate {tbl : List (BitVec v × BitVec w)} {x : BitVec v} {i : ℕ} :
    (translate tbl x).getLsbD i ↔ ∃ e ∈ tbl, x &&& e.1 = e.1 ∧ e.2.getLsbD i := by
  simp [translate, getLsbD_foldl]

/-- Nothing held, nothing set: in particular the empty word translates to the
empty word when no source mask is empty. -/
theorem translate_eq_zero {tbl : List (BitVec v × BitVec w)} {x : BitVec v}
    (h : ∀ e ∈ tbl, x &&& e.1 ≠ e.1) : translate tbl x = 0 := by
  apply BitVec.eq_of_getLsbD_eq
  intro i _
  have hno : ¬(translate tbl x).getLsbD i := fun hi => by
    obtain ⟨e, he, hx, -⟩ := getLsbD_translate.mp hi
    exact h e he hx
  simpa using hno

/-- **Faithfulness of a translation**: when the target masks are nonzero and share
no bit, the result holds an entry's target mask exactly when the input holds its
source mask. -/
theorem translate_and_eq_iff {tbl : List (BitVec v × BitVec w)} (hd : Disjoint tbl)
    {e : BitVec v × BitVec w} (he : e ∈ tbl) (hz : e.2 ≠ 0) {x : BitVec v} :
    translate tbl x &&& e.2 = e.2 ↔ x &&& e.1 = e.1 := by
  constructor
  · intro h
    obtain ⟨i, hi⟩ := exists_getLsbD_of_ne_zero hz
    obtain ⟨e', he', hx, hi'⟩ := getLsbD_translate.mp (and_eq_right_iff.mp h i hi)
    -- the entry that set bit `i` is `e` itself: another one would share the bit
    by_cases hee : e' = e
    · exact hee ▸ hx
    · have hzero := hd.and_eq_zero he' he hee
      have hbit := congrArg (fun y => y.getLsbD i) hzero
      simp [hi, hi'] at hbit
  · intro h
    exact and_eq_right_iff.mpr fun i hi => getLsbD_translate.mpr ⟨e, he, h, hi⟩

/-- **There and back**: translating back through the swapped table keeps exactly
the source masks that were held in full. -/
theorem translate_swap_translate {tbl : List (BitVec v × BitVec w)} (hd : Disjoint tbl)
    (hz : ∀ e ∈ tbl, e.2 ≠ 0) (x : BitVec v) :
    translate (tbl.map Prod.swap) (translate tbl x) =
      translate (tbl.map fun e => (e.1, e.1)) x := by
  apply BitVec.eq_of_getLsbD_eq
  intro i _
  rw [Bool.eq_iff_iff, getLsbD_translate, getLsbD_translate]
  simp only [List.mem_map, exists_exists_and_eq_and, Prod.fst_swap, Prod.snd_swap]
  constructor
  · rintro ⟨e, he, hx, hi⟩
    exact ⟨e, he, (translate_and_eq_iff hd he (hz e he)).mp hx, hi⟩
  · rintro ⟨e, he, hx, hi⟩
    exact ⟨e, he, (translate_and_eq_iff hd he (hz e he)).mpr hx, hi⟩

end FlagMap
