import Mathlib.Tactic.Linarith

/-!
# From truncated to floored division

Machine division truncates toward zero: the quotient of `-7` by `2` is `-3` and the
remainder `-1`, with the sign of the dividend. A positional number format, a time
split into seconds and nanoseconds for instance, needs the floored pair `(-4, 1)`,
whose remainder lies in `[0, b)`. The usual repair is one step: when the
truncated remainder is negative, lend one divisor to it and take one from the
quotient. `TruncDiv.ediv_emod_of_tdiv_tmod` says that this step gives exactly
Lean's `/` and `%`, which for a positive divisor are the floored ones.
-/

namespace TruncDiv

/-- The repaired quotient. -/
def floorQuot (q r : ℤ) : ℤ := if r < 0 then q - 1 else q

/-- The repaired remainder. -/
def floorRem (r b : ℤ) : ℤ := if r < 0 then r + b else r

/-- **One step repairs a truncated division**: for a positive divisor, correcting the
truncated quotient and remainder when the remainder is negative gives the floored
ones. -/
theorem ediv_emod_of_tdiv_tmod (a : ℤ) {b : ℤ} (hb : 0 < b) :
    floorQuot (a.tdiv b) (a.tmod b) = a / b ∧ floorRem (a.tmod b) b = a % b := by
  have hsum : a.tmod b + a.tdiv b * b = a := Int.tmod_add_tdiv_mul a b
  have hlo : -b < a.tmod b := Int.lt_tmod_of_pos a hb
  have hhi : a.tmod b < b := Int.tmod_lt_of_pos a hb
  -- the repaired pair has its remainder in `[0, b)`, which determines `/` and `%`
  have hpair : floorRem (a.tmod b) b + b * floorQuot (a.tdiv b) (a.tmod b) = a ∧
      0 ≤ floorRem (a.tmod b) b ∧ floorRem (a.tmod b) b < b := by
    unfold floorQuot floorRem
    split_ifs with hr
    · exact ⟨by linarith, by omega, by omega⟩
    · exact ⟨by linarith, by omega, hhi⟩
  obtain ⟨hq, hrem⟩ := (Int.ediv_emod_unique hb).mpr hpair
  exact ⟨hq.symm, hrem.symm⟩

end TruncDiv
