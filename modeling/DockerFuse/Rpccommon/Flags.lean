import Mathlib.Tactic.IntervalCases
import DockerFuse.FlagMap
import DockerFuse.Syscall

/-!
# Open flags across platforms

The client and the satellite may number the `open(2)` flags differently, so
`pkg/rpccommon/utils.go` sends them as *system-agnostic* flags: a `uint16` with one
bit for each of ten flags. `SystemToSAFlags` reads a platform's flag word into
it and `SAFlagsToSystem` writes it back out; both test the ten flags in one fixed
order, after an early return for `O_RDONLY`, the empty word.

Both are `FlagMap.translate` through a table that pairs each flag's platform bits
with its agnostic bit (`DockerFuse.Rpccommon.systemToSAFlags_eq_translate`): the
early return changes nothing. What the composite does then rests on two facts of the
constants, checked for both platforms in
`DockerFuse.Rpccommon.FlagsWellFormed`: no flag is the empty word, and no two
flags share a bit. Linux's `O_SYNC` is two bits, which is harmless: the
translation tests the whole mask.
-/

namespace DockerFuse

namespace Rpccommon

open Syscall

/-- The system-agnostic flags `rpccommon.O_*`. -/
def saFlag : OpenFlag → BitVec 16
  | .O_WRONLY => 1 <<< 0 | .O_RDWR => 1 <<< 1 | .O_APPEND => 1 <<< 2
  | .O_ASYNC => 1 <<< 3 | .O_CREAT => 1 <<< 4 | .O_EXCL => 1 <<< 5
  | .O_NOCTTY => 1 <<< 6 | .O_NONBLOCK => 1 <<< 7 | .O_SYNC => 1 <<< 8
  | .O_TRUNC => 1 <<< 9

/-- `rpccommon.O_RDONLY`. -/
def O_RDONLY : BitVec 16 := 0

/-- The order in which both conversions test the flags. -/
def flagOrder : List OpenFlag :=
  [.O_WRONLY, .O_RDWR, .O_APPEND, .O_ASYNC, .O_CREAT, .O_EXCL, .O_NOCTTY, .O_NONBLOCK,
    .O_SYNC, .O_TRUNC]

/-- The ten tests of `SystemToSAFlags`: if the word holds the platform flag, set
the agnostic one. -/
def systemToSATable (p : Platform) : List (BitVec 64 × BitVec 16) :=
  flagOrder.map fun k => (p.oflag k, saFlag k)

/-- The ten tests of `SAFlagsToSystem`, the same pairs the other way round. -/
def saToSystemTable (p : Platform) : List (BitVec 16 × BitVec 64) :=
  flagOrder.map fun k => (saFlag k, p.oflag k)

/-- `SystemToSAFlags`: a platform flag word in agnostic form. -/
def systemToSAFlags (p : Platform) (flagsIn : BitVec 64) : BitVec 16 :=
  if flagsIn = p.O_RDONLY then O_RDONLY else FlagMap.translate (systemToSATable p) flagsIn

/-- `SAFlagsToSystem`: an agnostic flag word in a platform's form. -/
def saFlagsToSystem (p : Platform) (flagsIn : BitVec 16) : BitVec 64 :=
  if flagsIn = O_RDONLY then p.O_RDONLY else FlagMap.translate (saToSystemTable p) flagsIn

/-! ### The constants -/

/-- What the conversions need of a platform's flag constants: `O_RDONLY` is the
empty word, no flag is, and no two flags share a bit. -/
structure FlagsWellFormed (p : Platform) : Prop where
  rdonly : p.O_RDONLY = 0
  ne_zero : ∀ k, p.oflag k ≠ 0
  disjoint : FlagMap.Disjoint (saToSystemTable p)

theorem flagsWellFormed_linux : FlagsWellFormed linux :=
  ⟨rfl, fun k => by cases k <;> decide, by decide⟩

theorem flagsWellFormed_darwin : FlagsWellFormed darwin :=
  ⟨rfl, fun k => by cases k <;> decide, by decide⟩

theorem flagsWellFormed_of_mem {p : Platform} (hp : p ∈ clientPlatforms) : FlagsWellFormed p := by
  simp only [clientPlatforms, List.mem_cons, List.not_mem_nil, or_false] at hp
  rcases hp with rfl | rfl
  · exact flagsWellFormed_linux
  · exact flagsWellFormed_darwin

/-- The index of each agnostic bit. -/
def saBit : OpenFlag → ℕ
  | .O_WRONLY => 0 | .O_RDWR => 1 | .O_APPEND => 2 | .O_ASYNC => 3 | .O_CREAT => 4
  | .O_EXCL => 5 | .O_NOCTTY => 6 | .O_NONBLOCK => 7 | .O_SYNC => 8 | .O_TRUNC => 9

theorem saBit_lt (k : OpenFlag) : saBit k < 10 := by
  cases k <;> decide

/-- The flags in test order have the bits `0` to `9`. -/
theorem saBit_flagOrder (i : ℕ) (hi : i < 10) : saBit (flagOrder.get ⟨i, hi⟩) = i := by
  interval_cases i <;> rfl

theorem saFlag_eq_shiftLeft (k : OpenFlag) : saFlag k = (1 : BitVec 16) <<< saBit k := by
  cases k <;> rfl

theorem getLsbD_saFlag (k : OpenFlag) (j : ℕ) :
    (saFlag k).getLsbD j = decide (j = saBit k) := by
  have hk := saBit_lt k
  rw [saFlag_eq_shiftLeft, BitVec.getLsbD_shiftLeft]
  by_cases hj : j = saBit k
  · subst hj
    simp
    omega
  · simp [hj]
    omega

/-- `0x3FF` is the ten low bits. -/
theorem getLsbD_lowBits (i : ℕ) : (0x3FF : BitVec 16).getLsbD i = decide (i < 10) := by
  have h : (0x3FF : BitVec 16) = BitVec.ofNat 16 (2 ^ 10 - 1) := rfl
  rw [h, BitVec.getLsbD_ofNat, Nat.testBit_two_pow_sub_one]
  by_cases hi : i < 10
  · simp [hi]
    omega
  · simp [hi]

theorem saFlag_ne_zero (k : OpenFlag) : saFlag k ≠ 0 := by
  cases k <;> decide

theorem disjoint_systemToSATable (p : Platform) : FlagMap.Disjoint (systemToSATable p) := by
  rw [FlagMap.Disjoint, systemToSATable, List.pairwise_map]
  -- only the agnostic side is compared, and it does not depend on the platform
  show flagOrder.Pairwise fun a b => saFlag a &&& saFlag b = 0
  decide

theorem mem_flagOrder (k : OpenFlag) : k ∈ flagOrder := by
  cases k <;> decide

/-- Both tables hold the same pairs. -/
theorem systemToSATable_eq_map_swap (p : Platform) :
    systemToSATable p = (saToSystemTable p).map Prod.swap := by
  simp [systemToSATable, saToSystemTable, Function.comp_def]

/-! ### The early returns change nothing -/

/-- `SystemToSAFlags` is the translation loop: its early return for `O_RDONLY` gives
what the loop would give, since the empty word holds no flag. -/
theorem systemToSAFlags_eq_translate {p : Platform} (hp : FlagsWellFormed p) (f : BitVec 64) :
    systemToSAFlags p f = FlagMap.translate (systemToSATable p) f := by
  unfold systemToSAFlags
  split_ifs with h
  · rw [h, hp.rdonly, O_RDONLY]
    refine (FlagMap.translate_eq_zero fun e he => ?_).symm
    obtain ⟨k, -, rfl⟩ := List.mem_map.mp he
    simpa using (hp.ne_zero k).symm
  · rfl

/-- `SAFlagsToSystem` is the translation loop, for the same reason. -/
theorem saFlagsToSystem_eq_translate {p : Platform} (hp : FlagsWellFormed p) (s : BitVec 16) :
    saFlagsToSystem p s = FlagMap.translate (saToSystemTable p) s := by
  unfold saFlagsToSystem
  split_ifs with h
  · rw [h, hp.rdonly, O_RDONLY]
    refine (FlagMap.translate_eq_zero fun e he => ?_).symm
    obtain ⟨k, -, rfl⟩ := List.mem_map.mp he
    simpa using (saFlag_ne_zero k).symm
  · rfl

/-! ### Each flag crosses on its own -/

/-- A flag reaches the agnostic word exactly when the platform word holds it. -/
theorem systemToSAFlags_and_saFlag {p : Platform} (hp : FlagsWellFormed p) (f : BitVec 64)
    (k : OpenFlag) :
    systemToSAFlags p f &&& saFlag k = saFlag k ↔ f &&& p.oflag k = p.oflag k := by
  rw [systemToSAFlags_eq_translate hp]
  exact FlagMap.translate_and_eq_iff (disjoint_systemToSATable p)
    (List.mem_map.mpr ⟨k, mem_flagOrder k, rfl⟩) (saFlag_ne_zero k)

/-- A flag reaches the platform word exactly when the agnostic word holds it. -/
theorem saFlagsToSystem_and_oflag {p : Platform} (hp : FlagsWellFormed p) (s : BitVec 16)
    (k : OpenFlag) :
    saFlagsToSystem p s &&& p.oflag k = p.oflag k ↔ s &&& saFlag k = saFlag k := by
  rw [saFlagsToSystem_eq_translate hp]
  exact FlagMap.translate_and_eq_iff hp.disjoint
    (List.mem_map.mpr ⟨k, mem_flagOrder k, rfl⟩) (hp.ne_zero k)

/-- `SAFlagsToSystem` sets no bit outside the flags the agnostic word holds. -/
theorem getLsbD_saFlagsToSystem {p : Platform} (hp : FlagsWellFormed p) {s : BitVec 16} {i : ℕ}
    (hi : (saFlagsToSystem p s).getLsbD i) :
    ∃ k, s &&& saFlag k = saFlag k ∧ (p.oflag k).getLsbD i := by
  rw [saFlagsToSystem_eq_translate hp] at hi
  obtain ⟨e, he, hs, hbit⟩ := FlagMap.getLsbD_translate.mp hi
  obtain ⟨k, -, rfl⟩ := List.mem_map.mp he
  exact ⟨k, hs, hbit⟩

/-- An agnostic word holds a flag exactly when it has the flag's bit. -/
theorem and_saFlag_iff (s : BitVec 16) (k : OpenFlag) :
    s &&& saFlag k = saFlag k ↔ s.getLsbD (saBit k) := by
  rw [FlagMap.and_eq_right_iff]
  simp [getLsbD_saFlag]

/-- Keeping the agnostic flags that are held keeps the ten low bits. -/
theorem translate_saFlag_self (s : BitVec 16) :
    FlagMap.translate (flagOrder.map fun k => (saFlag k, saFlag k)) s = s &&& 0x3FF := by
  apply BitVec.eq_of_getLsbD_eq
  intro i hi
  rw [Bool.eq_iff_iff, FlagMap.getLsbD_translate, BitVec.getLsbD_and, getLsbD_lowBits,
    Bool.and_eq_true, decide_eq_true_eq]
  simp only [List.mem_map, exists_exists_and_eq_and, and_saFlag_iff, getLsbD_saFlag,
    decide_eq_true_eq]
  -- the bits of the ten flags are exactly the ten low bits
  constructor
  · rintro ⟨k, -, hs, rfl⟩
    exact ⟨hs, saBit_lt k⟩
  · rintro ⟨hs, hlt⟩
    refine ⟨flagOrder.get ⟨i, hlt⟩, List.get_mem _ _, ?_, ?_⟩
    · rw [saBit_flagOrder i hlt]
      exact hs
    · rw [saBit_flagOrder i hlt]

/-- **There and back on one platform**: the agnostic word comes back with its ten
flag bits and nothing else. -/
theorem systemToSAFlags_saFlagsToSystem {p : Platform} (hp : FlagsWellFormed p) (s : BitVec 16) :
    systemToSAFlags p (saFlagsToSystem p s) = s &&& 0x3FF := by
  have hz : ∀ e ∈ saToSystemTable p, e.2 ≠ 0 := by
    intro e he
    obtain ⟨k, -, rfl⟩ := List.mem_map.mp he
    exact hp.ne_zero k
  rw [saFlagsToSystem_eq_translate hp, systemToSAFlags_eq_translate hp,
    systemToSATable_eq_map_swap, FlagMap.translate_swap_translate hp.disjoint hz]
  simp only [saToSystemTable, List.map_map, Function.comp_def]
  exact translate_saFlag_self s

/-! ### From the client to the satellite -/

/-- **Open flags cross faithfully.** Whatever the client platform and whatever else
the word holds, the word the satellite passes to `OpenFile` holds Linux's bits of a
flag exactly when the client's word holds the client's bits of it, and no bit
that is not part of such a flag. Conversely, on each platform, an agnostic word
comes back from the platform form as its ten low bits. -/
theorem openFlags_cross_platforms :
    (∀ client ∈ clientPlatforms, ∀ f : BitVec 64,
      (∀ k, saFlagsToSystem linux (systemToSAFlags client f) &&& linux.oflag k = linux.oflag k ↔
          f &&& client.oflag k = client.oflag k) ∧
      ∀ i, (saFlagsToSystem linux (systemToSAFlags client f)).getLsbD i →
        ∃ k, f &&& client.oflag k = client.oflag k ∧ (linux.oflag k).getLsbD i) ∧
    ∀ p ∈ clientPlatforms, ∀ s : BitVec 16,
      systemToSAFlags p (saFlagsToSystem p s) = s &&& 0x3FF := by
  refine ⟨fun client hc f => ⟨fun k => ?_, fun i hi => ?_⟩, fun p hp s => ?_⟩
  · rw [saFlagsToSystem_and_oflag flagsWellFormed_linux]
    exact systemToSAFlags_and_saFlag (flagsWellFormed_of_mem hc) f k
  · obtain ⟨k, hk, hbit⟩ := getLsbD_saFlagsToSystem flagsWellFormed_linux hi
    exact ⟨k, (systemToSAFlags_and_saFlag (flagsWellFormed_of_mem hc) f k).mp hk, hbit⟩
  · exact systemToSAFlags_saFlagsToSystem (flagsWellFormed_of_mem hp) s

/-- Darwin's `O_WRONLY | O_APPEND` reaches the satellite with Linux's `O_APPEND`. -/
theorem openFlags_darwin_append_reaches_linux :
    saFlagsToSystem linux (systemToSAFlags darwin 0x9) &&& linux.oflag .O_APPEND =
      linux.oflag .O_APPEND :=
  ((openFlags_cross_platforms.1 darwin (by simp [clientPlatforms]) 0x9).1 .O_APPEND).mpr
    (by decide)

end Rpccommon

end DockerFuse
