import Mathlib.Data.List.Nodup

/-!
# Case tables

A `switch` over constant cases is a lookup in a list of pairs: the first case whose
key equals the scrutinee gives the result, and the `default` arm gives it when
none does. `CaseTable.select` is that lookup, `List.lookup` with a default.

Two such tables often encode a value as a name and decode the name back. What makes
the pair a round trip is finite and checkable on the tables alone: the keys of each
table are distinct (`CaseTable.select_of_mem` then finds each pair), and every pair of
the encoding table appears, swapped, in the decoding table. The decoding table may
hold more pairs than that; those are the names that decode but are never produced.
-/

namespace CaseTable

variable {κ σ β : Type} [DecidableEq κ] [DecidableEq σ]

/-- A `switch` with constant cases: the first case whose key is `k`, or the default. -/
def select (cases : List (κ × β)) (dflt : β) (k : κ) : β :=
  (cases.lookup k).getD dflt

/-- With distinct keys, the case of a pair is found. -/
theorem lookup_of_mem {cases : List (κ × β)} (hnd : (cases.map Prod.fst).Nodup) {k : κ} {b : β}
    (h : (k, b) ∈ cases) : cases.lookup k = some b := by
  induction cases with
  | nil => simp at h
  | cons c cases ih =>
    rw [List.map_cons, List.nodup_cons] at hnd
    rcases List.mem_cons.mp h with rfl | h'
    · simp
    · -- the key of the head differs from `k`, which a later case has
      have hne : k ≠ c.1 := fun he => hnd.1 (he ▸ List.mem_map_of_mem h')
      rw [List.lookup_cons, beq_false_of_ne hne]
      exact ih hnd.2 h'

theorem select_of_mem {cases : List (κ × β)} (hnd : (cases.map Prod.fst).Nodup) (dflt : β)
    {k : κ} {b : β} (h : (k, b) ∈ cases) : select cases dflt k = b := by
  rw [select, lookup_of_mem hnd h, Option.getD_some]

/-- No case matches: the default arm. -/
theorem select_of_forall_ne {cases : List (κ × β)} (dflt : β) {k : κ}
    (h : ∀ c ∈ cases, c.1 ≠ k) : select cases dflt k = dflt := by
  have hnone : cases.lookup k = none := by
    rw [List.lookup_eq_none_iff]
    intro c hc
    rw [bne_iff_ne]
    exact fun he => h c hc he.symm
  rw [select, hnone, Option.getD_none]

/-- The result of a table is one of its cases' results or the default. -/
theorem select_mem (cases : List (κ × β)) (dflt : β) (k : κ) :
    select cases dflt k ∈ cases.map Prod.snd ∨ select cases dflt k = dflt := by
  rcases hl : cases.lookup k with _ | b
  · exact .inr (by rw [select, hl, Option.getD_none])
  · obtain ⟨l₁, l₂, rfl, -⟩ := List.lookup_eq_some_iff.mp hl
    left
    rw [select, hl, Option.getD_some]
    exact List.mem_map.mpr ⟨(k, b), by simp, rfl⟩

/-! ### Distinct numeric keys in one pass -/

/-- Whether the numbers are distinct and none is marked in `seen`, checked by marking
each in a bit set as it comes: one pass, where `List.Nodup` compares every pair. -/
def distinctBits : List ℕ → ℕ → Bool
  | [], _ => true
  | n :: ns, seen => !seen.testBit n && distinctBits ns (seen ||| 1 <<< n)

theorem nodup_of_distinctBits {l : List ℕ} {seen : ℕ} (h : distinctBits l seen = true) :
    l.Nodup ∧ ∀ n ∈ l, seen.testBit n = false := by
  induction l generalizing seen with
  | nil => exact ⟨List.nodup_nil, fun n hn => absurd hn List.not_mem_nil⟩
  | cons n ns ih =>
    rw [distinctBits, Bool.and_eq_true, Bool.not_eq_true'] at h
    obtain ⟨hn, hrest⟩ := h
    obtain ⟨hnd, hfresh⟩ := ih hrest
    -- a later number is unmarked once `n` is marked: it is neither `n` nor in `seen`
    have hlater : ∀ m ∈ ns, seen.testBit m = false ∧ m ≠ n := by
      intro m hm
      have hm' := hfresh m hm
      rw [Nat.testBit_or, Bool.or_eq_false_iff] at hm'
      refine ⟨hm'.1, fun he => ?_⟩
      subst he
      simp [Nat.testBit_shiftLeft] at hm'
    refine ⟨List.nodup_cons.mpr ⟨fun hmem => (hlater n hmem).2 rfl, hnd⟩, fun m hm => ?_⟩
    rcases List.mem_cons.mp hm with rfl | hm
    · exact hn
    · exact (hlater m hm).1

end CaseTable
