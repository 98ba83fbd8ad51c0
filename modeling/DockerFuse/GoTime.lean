import DockerFuse.TruncDiv

/-!
# Go's `time.Time` and `syscall.Timespec`

The satellite hands timestamps to `utimensat(2)` as a pair of seconds and
nanoseconds, and gets them from the client as `time.Time` values. It converts
between the two through a single `int64` count of nanoseconds: `UnixNano` and
then `syscall.NsecToTimespec`. Both are modelled here in `Int64`, whose `*`, `+`,
`/` and `%` wrap and truncate as Go's do.

`DockerFuse.nsecToTimespec_toInt` says that `NsecToTimespec` is right for every
count, negative ones included: its one-step repair of Go's truncating division is
`TruncDiv.ediv_emod_of_tdiv_tmod`. What can go wrong is the count itself, which
`UnixNano` computes modulo `2 ^ 64`.
-/

namespace DockerFuse

/-- A `time.Time`, as seconds since the Unix epoch and nanoseconds within the second.
Like Go's, it keeps the nanoseconds in `[0, 1e9)`. -/
structure Time where
  /-- `t.Unix()`. -/
  sec : Int64
  /-- `t.Nanosecond()`. -/
  nsec : Int64
  nsec_nonneg : 0 ≤ nsec.toInt
  nsec_lt : nsec.toInt < 1000000000

/-- `time.Time{}`, the first instant of year 1. -/
def Time.zero : Time :=
  ⟨-62135596800, 0, by decide, by decide⟩

/-- `t.UnixNano()`: `t.unixSec()*1e9 + int64(t.nsec())`, wrapping. -/
def Time.unixNano (t : Time) : Int64 :=
  t.sec * 1000000000 + t.nsec

/-- A `syscall.Timespec` of Linux on amd64 and arm64. -/
structure Timespec where
  /-- `Sec`. -/
  sec : Int64
  /-- `Nsec`. -/
  nsec : Int64
  deriving DecidableEq, Repr

/-- `syscall.NsecToTimespec`: truncating division by `1e9`, repaired when the
remainder is negative. -/
def nsecToTimespec (nsec : Int64) : Timespec :=
  let sec := nsec / 1000000000
  let nsec' := nsec % 1000000000
  if nsec' < 0 then ⟨sec - 1, nsec' + 1000000000⟩ else ⟨sec, nsec'⟩

/-- A value in the range of `int64` is its own `int64` representative. -/
theorem bmod_two_pow_64 {x : ℤ} (hlo : -2 ^ 63 ≤ x) (hhi : x < 2 ^ 63) :
    x.bmod (2 ^ 64) = x := by
  apply Int.bmod_eq_of_le <;> push_cast <;> omega

/-- **`NsecToTimespec` floors**: for every count of nanoseconds, negative ones too,
it gives the floored seconds and the nanoseconds left over. -/
theorem nsecToTimespec_toInt (n : Int64) :
    (nsecToTimespec n).sec.toInt = n.toInt / 1000000000 ∧
      (nsecToTimespec n).nsec.toInt = n.toInt % 1000000000 := by
  have hd : (1000000000 : Int64).toInt = 1000000000 := by decide
  have hnlo := Int64.le_toInt n
  have hnhi := Int64.toInt_lt n
  have hsum := Int.tmod_add_tdiv_mul n.toInt 1000000000
  have hrlo := Int.lt_tmod_of_pos n.toInt (b := 1000000000) (by decide)
  have hrhi := Int.tmod_lt_of_pos n.toInt (b := 1000000000) (by decide)
  -- Go's `/` and `%` on `int64`: no wrap, since the divisor is positive
  have hq : (n / 1000000000).toInt = n.toInt.tdiv 1000000000 := by
    rw [Int64.toInt_div, hd]
    exact bmod_two_pow_64 (by omega) (by omega)
  have hr : (n % 1000000000).toInt = n.toInt.tmod 1000000000 := by
    rw [Int64.toInt_mod, hd]
  obtain ⟨hfq, hfr⟩ :=
    TruncDiv.ediv_emod_of_tdiv_tmod n.toInt (b := 1000000000) (by decide)
  unfold TruncDiv.floorQuot at hfq
  unfold TruncDiv.floorRem at hfr
  unfold nsecToTimespec
  dsimp only
  split_ifs with hneg
  · rw [Int64.lt_iff_toInt_lt, hr] at hneg
    rw [if_pos (by simpa using hneg)] at hfq hfr
    constructor
    · rw [Int64.toInt_sub, hq, ← hfq]
      exact bmod_two_pow_64 (by simp; omega) (by simp; omega)
    · rw [Int64.toInt_add, hr, hd, ← hfr]
      exact bmod_two_pow_64 (by omega) (by omega)
  · rw [Int64.lt_iff_toInt_lt, hr] at hneg
    rw [if_neg (by simpa using hneg)] at hfq hfr
    exact ⟨hq.trans hfq, hr.trans hfr⟩

/-- `UnixNano` is the count of nanoseconds since the epoch, wrapped to `int64`. -/
theorem Time.unixNano_toInt (t : Time) :
    t.unixNano.toInt = (t.sec.toInt * 1000000000 + t.nsec.toInt).bmod (2 ^ 64) := by
  have hd : (1000000000 : Int64).toInt = 1000000000 := by decide
  rw [Time.unixNano, Int64.toInt_add, Int64.toInt_mul, hd, Int.bmod_add_bmod]

/-- **When `NsecToTimespec(UnixNano())` gives a time back**: exactly when its count
of nanoseconds since the epoch fits in an `int64`, from 1677 to 2262. -/
theorem nsecToTimespec_unixNano_eq_iff (t : Time) :
    nsecToTimespec t.unixNano = ⟨t.sec, t.nsec⟩ ↔
      -2 ^ 63 ≤ t.sec.toInt * 1000000000 + t.nsec.toInt ∧
        t.sec.toInt * 1000000000 + t.nsec.toInt < 2 ^ 63 := by
  obtain ⟨hs, hn⟩ := nsecToTimespec_toInt t.unixNano
  have hlo := Int64.le_toInt t.unixNano
  have hhi := Int64.toInt_lt t.unixNano
  have h0 := t.nsec_nonneg
  have h1 := t.nsec_lt
  constructor
  · intro h
    rw [h] at hs hn
    -- the split returns the count it came from, and that count is an `int64`
    have hx : t.unixNano.toInt = t.sec.toInt * 1000000000 + t.nsec.toInt := by
      dsimp only at hs hn
      omega
    omega
  · rintro ⟨hxlo, hxhi⟩
    have hx : t.unixNano.toInt = t.sec.toInt * 1000000000 + t.nsec.toInt := by
      rw [Time.unixNano_toInt]
      exact bmod_two_pow_64 hxlo hxhi
    have hsec : (nsecToTimespec t.unixNano).sec = t.sec := by
      rw [← Int64.toInt_inj, hs, hx]
      omega
    have hnsec : (nsecToTimespec t.unixNano).nsec = t.nsec := by
      rw [← Int64.toInt_inj, hn, hx]
      omega
    -- compare field by field; unfolding `nsecToTimespec` is what the kernel must not do
    generalize nsecToTimespec t.unixNano = ts at hsec hnsec ⊢
    cases ts
    simp only at hsec hnsec
    rw [hsec, hnsec]

end DockerFuse
