import Mathlib.Data.List.Range
import Mathlib.Data.Nat.Bitwise

/-!
# A field of a machine word

Some words hold a number in a few of their bits rather than a set of flags: the
file type of a Unix mode is the four bits from bit 12, read as one of sixteen codes.
`BitField.mask a b` is the mask of the `b` bits from bit `a` up, and masking a word
with it leaves one of `2 ^ b` values, `BitField.values a b`.

That gives a way to decide a fact about every 32-bit word when the fact only reads
the field: check it on each of the values (`BitField.forall_of_values`), which
`decide` can do where it could never run through all the words.
-/

namespace BitField

/-- The mask of the `b` bits from bit `a` up. -/
def mask (a b : ℕ) : ℕ := (2 ^ b - 1) <<< a

/-- Masking keeps the field in place: the `b` bits of `n` from bit `a`, shifted back. -/
theorem and_mask (n a b : ℕ) : n &&& mask a b = (n >>> a % 2 ^ b) <<< a := by
  apply Nat.eq_of_testBit_eq
  intro i
  simp only [mask, Nat.testBit_and, Nat.testBit_shiftLeft, Nat.testBit_two_pow_sub_one,
    Nat.testBit_mod_two_pow, Nat.testBit_shiftRight]
  -- below bit `a` both sides are clear; from it, bit `i` is bit `i - a` of the field
  by_cases hi : a ≤ i
  · have hi' : a + (i - a) = i := by omega
    rw [hi']
    simp [hi, Bool.and_comm]
  · simp [hi]

/-- A field that fits in `w` bits has its mask below `2 ^ w`. -/
theorem mask_lt {a b w : ℕ} (h : a + b ≤ w) : mask a b < 2 ^ w := by
  rw [mask, Nat.shiftLeft_eq]
  calc (2 ^ b - 1) * 2 ^ a < 2 ^ b * 2 ^ a :=
        Nat.mul_lt_mul_of_pos_right (Nat.sub_lt (Nat.two_pow_pos b) Nat.one_pos)
          (Nat.two_pow_pos a)
    _ = 2 ^ (a + b) := by rw [← Nat.pow_add, Nat.add_comm]
    _ ≤ 2 ^ w := Nat.pow_le_pow_right Nat.two_pos h

/-- The values the field can hold in a 32-bit word, each in place. -/
def values (a b : ℕ) : List UInt32 :=
  (List.range (2 ^ b)).map fun k => (k <<< a).toUInt32

/-- A 32-bit word masked by a field that fits holds one of the field's values. -/
theorem and_mask_mem_values (m : UInt32) {a b : ℕ} (h : a + b ≤ 32) :
    m &&& (mask a b).toUInt32 ∈ values a b := by
  have hk : m.toNat >>> a % 2 ^ b < 2 ^ b := Nat.mod_lt _ (Nat.two_pow_pos b)
  refine List.mem_map.mpr ⟨m.toNat >>> a % 2 ^ b, List.mem_range.mpr hk, ?_⟩
  apply UInt32.toNat_inj.mp
  have hlt : (m.toNat >>> a % 2 ^ b) <<< a < 2 ^ 32 := by
    rw [← and_mask]
    exact lt_of_le_of_lt Nat.and_le_right (mask_lt h)
  rw [UInt32.toNat_and, Nat.toUInt32, UInt32.toNat_ofNat_of_lt' hlt,
    UInt32.toNat_ofNat_of_lt' (mask_lt h), and_mask]

/-- **Deciding a fact of every word by its field.** A fact that holds of a word
whenever it holds of the word's field holds of every word once it holds of each
value of the field. The check on the values is a `List.all`, which `decide` runs on
the list alone: as a bounded `∀` over the finite type `UInt32` it could be decided by
enumerating every word. -/
theorem forall_of_values {P : UInt32 → Prop} [DecidablePred P] {a b : ℕ} (h : a + b ≤ 32)
    (hP : ∀ m, P (m &&& (mask a b).toUInt32) → P m)
    (hv : (values a b).all (fun t => decide (P t)) = true) (m : UInt32) : P m :=
  hP m (of_decide_eq_true (List.all_eq_true.mp hv _ (and_mask_mem_values m h)))

end BitField
