import DockerFuse.Satellite.Concurrency

/-!
# Go's checks on the table's map

`DockerFuse.Satellite.Goroutines` takes each access to `fso.fds` as one step. Go's
runtime runs it as several, and on the way checks whether other goroutines overlap on
the map. When a check fires the process stops with a fatal error, which nothing
recovers from. `DockerFuse.Satellite.runtime` runs the goroutines through Go 1.24's
map code for `uint64` keys, with each load and store of the map's state a step of its
own.

A look-up (`runtime_mapaccess2_fast64`) on an empty map returns at once. Otherwise it
checks the map's `writing` flag and then reads the slot; if the flag is set it stops
the process with `fatal("concurrent map read and map write")`. A write goes through
five steps: `runtime_mapassign_fast64`, and `mapdelete` on a map that is not empty.
It checks the flag, toggles it, changes the slots, checks that the flag is still set,
and toggles it back. Either check that fails stops the process with
`fatal("concurrent map writes")`. The compiled `m[k] = v` stores `v` only after
`mapassign` has returned its slot, so until then a new key's slot holds a nil
`*os.File`.

The checks are best-effort. The flag is set exactly when an odd number of
goroutines are between their two toggles (`DockerFuse.Satellite.FlagParity.run`).
So the process stops when a write starts, or a look-up reads a table that is not
empty, while another goroutine is inside its write
(`DockerFuse.Satellite.two_opens_fatal`,
`DockerFuse.Satellite.lookup_during_store_fatal`). It also stops when a write checks
again after a second writer has toggled the flag. Two writes that both pass their
first check before either toggles can go unseen, and so can a look-up between a
`mapassign` and its store.

Every interleaving of the atomic model is one the runtime can take, with each map
operation run back to back: it reaches the same table and files, with no fatal error
(`DockerFuse.Satellite.serveConn_under_runtime`). So what
`DockerFuse.Satellite.Concurrency` proves of those interleavings holds of the program.
-/

namespace DockerFuse.Satellite

open Interleaving Threads

/-! ### The runtime's map code -/

/-- The map operation a goroutine's next step compiles to, on the key it names. -/
inductive MapOp
  /-- No map operation: a call to the OS or a method of a file. -/
  | none
  /-- `fso.fds[k]`, `runtime_mapaccess2_fast64`. -/
  | access (k : UInt64)
  /-- `fso.fds[k] = f`: `runtime_mapassign_fast64`, then the store of `f`. -/
  | assign (k : UInt64)
  /-- `delete(fso.fds, k)`, `mapdelete`. -/
  | delete (k : UInt64)
  deriving DecidableEq, Repr

/-- The map operation of a goroutine's next step, by the steps of
`DockerFuse.Satellite.Goroutine.step`: `Open`'s look-up of its new number and its
store, the look-up of `Close`, `Read`, `Write`, `Seek` and `Fsync`, and `Close`'s
deferred `delete`. -/
def Goroutine.mapOp (g : Goroutine) : MapOp :=
  match g.handler, g.pc, g.held with
  | .open _, 1, some f => .access f.fd
  | .open _, 3, some f => .assign f.fd
  | .close r, 0, _ => .access r.fd
  | .close r, 2, _ => .delete r.fd
  | .use q, 0, _ => .access q.fd
  | _, _, _ => .none

/-- A look-up that finds its key's slot holding a nil `*os.File`, made by a `mapassign`
whose value is not stored yet: `ok` is true and the file is nil. `Open` calls `Close()`
on it, which returns `os.ErrInvalid` and closes nothing; the others go on with a nil
file. -/
def Goroutine.readNil (g : Goroutine) : Goroutine :=
  match g.handler with
  | .open _ => { g with pc := 2, stale := none }
  | .close _ | .use _ => { g with pc := 1, held := none }

/-- The runtime's fatal errors on maps. -/
inductive Fatal
  /-- `concurrent map writes`. -/
  | concurrentMapWrites
  /-- `concurrent map read and map write`. -/
  | concurrentMapReadAndMapWrite
  deriving DecidableEq, Repr

/-- Where a goroutine is in the runtime's map code. -/
inductive MapPhase
  /-- Outside it: the next step starts a map operation, or is no map operation. -/
  | idle
  /-- A look-up past its check of `writing`: the read of the slot is next. -/
  | read
  /-- A write past its first check and its hash: `m.writing ^= 1` is next. -/
  | toggle
  /-- A write that has toggled the flag: its change of the slots is next. -/
  | change
  /-- A write that has changed the slots: `if m.writing == 0 { fatal(..) }` is next. -/
  | recheck
  /-- A write past its second check: `m.writing ^= 1` again is next. -/
  | untoggle
  /-- `mapassign` has returned its slot: the store of the value is next. -/
  | store
  deriving DecidableEq, Repr

/-- What the goroutines share under the runtime. -/
structure RtShared where
  shared : Shared
  /-- The map's `writing` flag. -/
  writing : Bool
  /-- The keys whose slot a `mapassign` has made and no store has filled: each holds a
  nil `*os.File`. -/
  slots : List UInt64
  /-- The fatal error that stopped the process, if one did. -/
  fatal : Option Fatal

/-- `m.Used() == 0`: no file stored, and no slot made for one. -/
def RtShared.empty (s : RtShared) : Bool :=
  s.shared.books.fso.fds.entries.isEmpty && s.slots.isEmpty

/-- The key has a slot: a file stored under it, or a nil one. -/
def RtShared.hasSlot (s : RtShared) (k : UInt64) : Bool :=
  (s.shared.books.fso.fds.lookup k).isSome || s.slots.contains k

/-- The runtime stops the process. -/
def RtShared.stop (s : RtShared) (e : Fatal) : RtShared :=
  { s with fatal := some e }

/-- `m.writing ^= 1`. -/
def RtShared.toggle (s : RtShared) : RtShared :=
  { s with writing := !s.writing }

/-- The atomic model's shared state, as the runtime holds it between map operations. -/
def RtShared.ofShared (s : Shared) : RtShared :=
  ⟨s, false, [], none⟩

/-- A goroutine under the runtime. -/
structure RtGoroutine where
  g : Goroutine
  phase : MapPhase

/-- Between its two toggles of `writing`. -/
def RtGoroutine.inWrite (t : RtGoroutine) : Bool :=
  match t.phase with
  | .change | .recheck | .untoggle => true
  | .idle | .read | .toggle | .store => false

/-- The goroutine's step of the atomic model, all at once. -/
def Goroutine.atomic (g : Goroutine) (s : RtShared) : RtGoroutine × RtShared :=
  (⟨(g.step s.shared).1, .idle⟩, { s with shared := (g.step s.shared).2 })

/-- A step of a goroutine under the runtime. Once the process has stopped nothing
runs. -/
def RtGoroutine.step (t : RtGoroutine) (s : RtShared) : RtGoroutine × RtShared :=
  if s.fatal.isSome then (t, s)
  else
    match t.phase, t.g.mapOp with
    | .idle, .none => t.g.atomic s
    -- a look-up, and a delete, on an empty map return before any check
    | .idle, .access _ =>
      if s.empty then t.g.atomic s
      else if s.writing then (t, s.stop .concurrentMapReadAndMapWrite)
      else (⟨t.g, .read⟩, s)
    | .read, .access k => if s.slots.contains k then (⟨t.g.readNil, .idle⟩, s) else t.g.atomic s
    | .idle, .assign _ =>
      if s.writing then (t, s.stop .concurrentMapWrites) else (⟨t.g, .toggle⟩, s)
    | .idle, .delete _ =>
      if s.empty then t.g.atomic s
      else if s.writing then (t, s.stop .concurrentMapWrites)
      else (⟨t.g, .toggle⟩, s)
    | .toggle, _ => (⟨t.g, .change⟩, s.toggle)
    -- `mapassign` makes a new key's slot, which holds nil until the store
    | .change, .assign k =>
      (⟨t.g, .recheck⟩, if s.hasSlot k then s else { s with slots := k :: s.slots })
    | .change, .delete k =>
      (⟨t.g, .recheck⟩, { s with shared := (t.g.step s.shared).2, slots := s.slots.erase k })
    | .recheck, _ => if s.writing then (⟨t.g, .untoggle⟩, s) else (t, s.stop .concurrentMapWrites)
    | .untoggle, .assign _ => (⟨t.g, .store⟩, s.toggle)
    | .untoggle, _ => (⟨(t.g.step s.shared).1, .idle⟩, s.toggle)
    -- the value goes to the key's slot; a `delete` since then has taken it away
    | .store, .assign k =>
      if s.hasSlot k then ((t.g.atomic s).1, { (t.g.atomic s).2 with slots := s.slots.erase k })
      else (⟨(t.g.step s.shared).1, .idle⟩, s)
    | _, _ => (t, s)

/-- The table's goroutines under the runtime. -/
def runtime : Threads RtShared RtGoroutine :=
  ⟨RtGoroutine.step⟩

@[simp] theorem runtime_step (t : RtGoroutine) (s : RtShared) : runtime.step t s = t.step s :=
  rfl

/-- A world of the atomic model, as the runtime holds it between map operations. -/
def asRuntime (w : World Shared Goroutine) : World RtShared RtGoroutine :=
  ⟨.ofShared w.shared, w.threads.map fun g => ⟨g, .idle⟩⟩

/-- The calls of a connection, started on books `b` and run under the runtime. -/
def serveConnRT (b : Books) (calls : List (Container × Handler)) (sched : List ℕ) :
    World RtShared RtGoroutine :=
  runtime.run (asRuntime ⟨⟨b, false⟩, calls.map Goroutine.start⟩) sched

/-! ### Map operations back to back -/

/-- The goroutine that assigns is an `Open` at its store. -/
theorem Goroutine.eq_of_mapOp_assign {g : Goroutine} {k : UInt64} (h : g.mapOp = .assign k) :
    ∃ c r f stale, g = ⟨c, .open r, 3, some f, stale⟩ ∧ f.fd = k := by
  obtain ⟨c, handler, pc, held, stale⟩ := g
  unfold Goroutine.mapOp at h
  split at h <;> simp_all

/-- The goroutine that deletes is a `Close` at its deferred `delete`. -/
theorem Goroutine.eq_of_mapOp_delete {g : Goroutine} {k : UInt64} (h : g.mapOp = .delete k) :
    ∃ c r held stale, g = ⟨c, .close r, 2, held, stale⟩ ∧ r.fd = k := by
  obtain ⟨c, handler, pc, held, stale⟩ := g
  unfold Goroutine.mapOp at h
  split at h <;> simp_all

section BackToBack

variable (g : Goroutine) (s : Shared)

theorem stepN_of_mapOp_none (h : g.mapOp = .none) :
    runtime.stepN ⟨g, .idle⟩ (.ofShared s) 1 = (⟨(g.step s).1, .idle⟩, .ofShared (g.step s).2) := by
  simp [stepN, RtGoroutine.step, RtShared.ofShared, h, Goroutine.atomic]

theorem stepN_of_mapOp_access {k : UInt64} (h : g.mapOp = .access k) :
    ∃ n, runtime.stepN ⟨g, .idle⟩ (.ofShared s) n =
      (⟨(g.step s).1, .idle⟩, .ofShared (g.step s).2) := by
  -- on an empty map the look-up returns at once; otherwise the check passes and the
  -- read finds no nil slot
  by_cases he : s.books.fso.fds.entries.isEmpty = true
  · exact ⟨1, by simp [stepN, RtGoroutine.step, h, he, Goroutine.atomic, RtShared.ofShared,
      RtShared.empty]⟩
  · refine ⟨2, ?_⟩
    simp only [Bool.not_eq_true] at he
    simp [stepN, RtGoroutine.step, h, he, Goroutine.atomic, RtShared.ofShared, RtShared.empty]

theorem stepN_of_mapOp_assign {k : UInt64} (h : g.mapOp = .assign k) :
    runtime.stepN ⟨g, .idle⟩ (.ofShared s) 6 = (⟨(g.step s).1, .idle⟩, .ofShared (g.step s).2) := by
  obtain ⟨c, r, f, stale, rfl, rfl⟩ := Goroutine.eq_of_mapOp_assign h
  -- the slot is the stored file's, or a new one the store fills
  cases hk : (s.books.fso.fds.lookup f.fd).isSome <;>
    simp [stepN, RtGoroutine.step, Goroutine.mapOp, RtShared.ofShared, RtShared.toggle,
      RtShared.hasSlot, Goroutine.atomic, hk]

theorem stepN_of_mapOp_delete {k : UInt64} (h : g.mapOp = .delete k) :
    ∃ n, runtime.stepN ⟨g, .idle⟩ (.ofShared s) n =
      (⟨(g.step s).1, .idle⟩, .ofShared (g.step s).2) := by
  obtain ⟨c, r, held, stale, rfl, rfl⟩ := Goroutine.eq_of_mapOp_delete h
  by_cases he : s.books.fso.fds.entries.isEmpty = true
  · exact ⟨1, by simp [stepN, RtGoroutine.step, Goroutine.mapOp, he, Goroutine.atomic,
      RtShared.ofShared, RtShared.empty]⟩
  · refine ⟨5, ?_⟩
    simp only [Bool.not_eq_true] at he
    simp [stepN, RtGoroutine.step, Goroutine.mapOp, he, RtShared.ofShared, RtShared.empty,
      RtShared.toggle]

/-- **A map operation back to back**: from the atomic model's state, with no write under
way, a goroutine's map operation runs to its end with no check firing, and ends where
its atomic step does. -/
theorem stepN_ofShared : ∃ n, runtime.stepN ⟨g, .idle⟩ (.ofShared s) n =
    (⟨(g.step s).1, .idle⟩, .ofShared (g.step s).2) := by
  cases h : g.mapOp with
  | none => exact ⟨1, stepN_of_mapOp_none g s h⟩
  | access k => exact stepN_of_mapOp_access g s h
  | assign k => exact ⟨6, stepN_of_mapOp_assign g s h⟩
  | delete k => exact stepN_of_mapOp_delete g s h

end BackToBack

/-- **The step lemma**: a step of the atomic model is a run of the runtime, the
goroutine's map operation back to back. -/
theorem runtime_run_asRuntime_tick (w : World Shared Goroutine) (i : ℕ) :
    ∃ l, runtime.run (asRuntime w) l = asRuntime (satellite.tick w i) := by
  cases hgi : w.threads[i]? with
  | none => exact ⟨[], by rw [run_nil, tick_of_getElem?_none hgi]⟩
  | some g =>
    have hgi' : (asRuntime w).threads[i]? = some ⟨g, .idle⟩ := by
      simp [asRuntime, hgi]
    obtain ⟨n, hn⟩ := stepN_ofShared g w.shared
    refine ⟨List.replicate n i, ?_⟩
    rw [run_replicate hgi', tick_of_getElem? hgi]
    simp only [asRuntime, hn, List.map_set, satellite_step]

/-- **The atomic model under the runtime.** Every interleaving of the calls in the
model of atomic map accesses is one the runtime can take, each map operation back to
back: it reaches the same table and the same files, with no fatal error. -/
theorem serveConn_under_runtime (b : Books) (calls : List (Container × Handler))
    (sched : List ℕ) :
    ∃ sched', serveConnRT b calls sched' = asRuntime (serveConn b calls sched) := by
  have hstep : ∀ (w : World Shared Goroutine) (w' : World RtShared RtGoroutine) (i : ℕ),
      w' = asRuntime w → ∃ l, runtime.run w' l = asRuntime (satellite.tick w i) := by
    rintro w _ i rfl
    exact runtime_run_asRuntime_tick w i
  exact simulate (fun w w' => w' = asRuntime w) hstep rfl sched

/-! ### The flag counts the writes under way -/

/-- A step toggles `writing` exactly when the goroutine enters or leaves its write. -/
theorem RtGoroutine.step_writing (t : RtGoroutine) (s : RtShared) :
    (t.step s).2.writing = (s.writing ^^ (t.inWrite ^^ (t.step s).1.inWrite)) := by
  obtain ⟨g, phase⟩ := t
  unfold RtGoroutine.step
  split
  · simp
  · cases phase <;> cases g.mapOp <;>
      simp only <;> (try split) <;> (try split) <;>
      simp [RtGoroutine.inWrite, Goroutine.atomic, RtShared.stop, RtShared.toggle]

/-- `writing` is set exactly when an odd number of goroutines are between their two
toggles of it. -/
def FlagParity (w : World RtShared RtGoroutine) : Prop :=
  w.shared.writing = true ↔ w.threads.countP RtGoroutine.inWrite % 2 = 1

/-- Every step keeps the parity. -/
theorem FlagParity.tick {w : World RtShared RtGoroutine} (hw : FlagParity w) (i : ℕ) :
    FlagParity (runtime.tick w i) := by
  cases hgi : w.threads[i]? with
  | none => rwa [tick_of_getElem?_none hgi]
  | some t =>
    obtain ⟨hi, rfl⟩ := List.getElem?_eq_some_iff.mp hgi
    unfold FlagParity at hw ⊢
    rw [tick_of_getElem? hgi, runtime_step]
    dsimp only
    rw [List.countP_set hi, RtGoroutine.step_writing]
    -- the goroutine inside its write is counted
    have hpos : w.threads[i].inWrite = true → 1 ≤ w.threads.countP RtGoroutine.inWrite :=
      fun h => List.countP_pos_iff.mpr ⟨_, List.getElem_mem hi, h⟩
    generalize w.threads.countP RtGoroutine.inWrite = n at hw hpos ⊢
    generalize (w.threads[i].step w.shared).1.inWrite = b
    generalize w.threads[i].inWrite = a at hpos ⊢
    generalize w.shared.writing = c at hw ⊢
    cases a <;> cases b <;> cases c <;> simp at hw hpos ⊢ <;> omega

theorem FlagParity.init (w : World Shared Goroutine) : FlagParity (asRuntime w) := by
  simp [FlagParity, asRuntime, RtShared.ofShared, List.countP_map, Function.comp_def,
    RtGoroutine.inWrite]

/-- **The run lemma**: the parity holds at every point of every interleaving. -/
theorem FlagParity.run (b : Books) (calls : List (Container × Handler)) (sched : List ℕ) :
    FlagParity (serveConnRT b calls sched) :=
  run_inv FlagParity (fun _ i hw => hw.tick i) (FlagParity.init _) sched

/-- Two goroutines, one between its toggles: the flag is set exactly when the other is
not. -/
theorem FlagParity.writing_pair {w : World RtShared RtGoroutine} (hw : FlagParity w)
    (hlen : w.threads.length = 2) {i j : ℕ} (hij : i ≠ j) {t t' : RtGoroutine}
    (ht : w.threads[i]? = some t) (ht' : w.threads[j]? = some t') (hin : t'.inWrite = true) :
    w.shared.writing = !t.inWrite := by
  match hts : w.threads, hlen with
  | [x, y], _ =>
    rw [hts] at ht ht'
    unfold FlagParity at hw
    rw [hts] at hw
    -- the two goroutines are `x` and `y`, in some order
    have hxy : (t = x ∧ t' = y) ∨ (t = y ∧ t' = x) := by
      rcases i with _ | _ | i <;> rcases j with _ | _ | j <;> simp_all
    rcases hxy with ⟨rfl, rfl⟩ | ⟨rfl, rfl⟩ <;> cases ht : t.inWrite <;>
      cases hw' : w.shared.writing <;> simp_all

/-- A connection has a goroutine for each call, at every point. -/
theorem serveConnRT_length (b : Books) (calls : List (Container × Handler)) (sched : List ℕ) :
    (serveConnRT b calls sched).threads.length = calls.length := by
  have h := congrArg List.length (map_run (T := runtime) (fun _ => ()) (fun _ _ => rfl)
    (asRuntime ⟨⟨b, false⟩, calls.map Goroutine.start⟩) sched)
  simpa [serveConnRT, asRuntime] using h

/-! ### Overlaps the runtime sees -/

section Fatal

variable {t : RtGoroutine} {s : RtShared}

/-- A write that starts while the flag is set stops the process. -/
theorem RtGoroutine.step_assign_fatal (hf : s.fatal = none) (hw : s.writing = true)
    (hp : t.phase = .idle) {k : UInt64} (hk : t.g.mapOp = .assign k) :
    (t.step s).2.fatal = some .concurrentMapWrites := by
  obtain ⟨g, phase⟩ := t
  subst hp
  simp [RtGoroutine.step, hf, hw, hk, RtShared.stop]

/-- A write that checks again and finds the flag cleared stops the process. -/
theorem RtGoroutine.step_recheck_fatal (hf : s.fatal = none) (hw : s.writing = false)
    (hp : t.phase = .recheck) : (t.step s).2.fatal = some .concurrentMapWrites := by
  obtain ⟨g, phase⟩ := t
  subst hp
  simp [RtGoroutine.step, hf, hw, RtShared.stop]

/-- A look-up of a map that is not empty, while the flag is set, stops the process. -/
theorem RtGoroutine.step_access_fatal (hf : s.fatal = none) (hw : s.writing = true)
    (hne : s.empty = false) (hp : t.phase = .idle) {k : UInt64} (hk : t.g.mapOp = .access k) :
    (t.step s).2.fatal = some .concurrentMapReadAndMapWrite := by
  obtain ⟨g, phase⟩ := t
  subst hp
  simp [RtGoroutine.step, hf, hw, hne, hk, RtShared.stop]

end Fatal

/-- **Two writes under way stop the process.** Two concurrent calls, such as two `Open`s
storing their files: at every point of every interleaving where one goroutine is
between its two toggles of `writing`, the other's step stops the process with
`fatal("concurrent map writes")` if it starts a `mapassign` or makes its own second
check. -/
theorem two_opens_fatal (b : Books) (c₀ c₁ : Container) (h₀ h₁ : Handler) (sched : List ℕ)
    {i j : ℕ} (hij : i ≠ j) {t t' : RtGoroutine}
    (ht : (serveConnRT b [(c₀, h₀), (c₁, h₁)] sched).threads[i]? = some t)
    (ht' : (serveConnRT b [(c₀, h₀), (c₁, h₁)] sched).threads[j]? = some t')
    (hfatal : (serveConnRT b [(c₀, h₀), (c₁, h₁)] sched).shared.fatal = none)
    (hin : t'.inWrite = true)
    (hover : (t.phase = .idle ∧ ∃ k, t.g.mapOp = .assign k) ∨ t.phase = .recheck) :
    (runtime.tick (serveConnRT b [(c₀, h₀), (c₁, h₁)] sched) i).shared.fatal =
      some .concurrentMapWrites := by
  have hw := (FlagParity.run b _ sched).writing_pair (serveConnRT_length b _ sched) hij ht ht' hin
  rw [tick_of_getElem? ht, runtime_step]
  rcases hover with ⟨hp, k, hk⟩ | hp
  · -- the other's toggle is the only one: the flag is set
    exact RtGoroutine.step_assign_fatal hfatal (by simp [hw, RtGoroutine.inWrite, hp]) hp hk
  · -- both have toggled: the flag is cleared
    exact RtGoroutine.step_recheck_fatal hfatal (by simp [hw, RtGoroutine.inWrite, hp]) hp

/-- Two `Open`s on containers that give them the files 3 and 4 under the numbers 5 and
6, from `twoOpenBooks`: the second looks its number up, and the first gets inside its
write. -/
def twoOpensRT : World RtShared RtGoroutine :=
  serveConnRT twoOpenBooks
    [(givingContainer ⟨3, 5, false⟩, .open ⟨"/c", 0, 0o644⟩),
      (givingContainer ⟨4, 6, false⟩, .open ⟨"/d", 0, 0o644⟩)]
    [1, 1, 1, 1, 0, 0, 0, 0, 0, 0]

theorem two_opens_fatal_twoOpensRT :
    (1 : ℕ) ≠ 0 ∧
      twoOpensRT.threads[1]? = some ⟨⟨givingContainer ⟨4, 6, false⟩, .open ⟨"/d", 0, 0o644⟩, 3,
        some ⟨4, 6, false⟩, none⟩, .idle⟩ ∧
      twoOpensRT.threads[0]? = some ⟨⟨givingContainer ⟨3, 5, false⟩, .open ⟨"/c", 0, 0o644⟩, 3,
        some ⟨3, 5, false⟩, none⟩, .change⟩ ∧
      twoOpensRT.shared.fatal = none ∧
      (runtime.tick twoOpensRT 1).shared.fatal = some .concurrentMapWrites :=
  have ht : twoOpensRT.threads[1]? = some ⟨⟨givingContainer ⟨4, 6, false⟩,
      .open ⟨"/d", 0, 0o644⟩, 3, some ⟨4, 6, false⟩, none⟩, .idle⟩ := rfl
  have ht' : twoOpensRT.threads[0]? = some ⟨⟨givingContainer ⟨3, 5, false⟩,
      .open ⟨"/c", 0, 0o644⟩, 3, some ⟨3, 5, false⟩, none⟩, .change⟩ := rfl
  have hfatal : twoOpensRT.shared.fatal = none := rfl
  ⟨by decide, ht, ht', hfatal,
    two_opens_fatal _ _ _ _ _ _ (by decide) ht ht' hfatal rfl (.inl ⟨rfl, 6, rfl⟩)⟩

/-- **A look-up during a write stops the process.** Two concurrent calls, such as an
`Open` storing its file and a `Close`, `Read`, `Write`, `Seek` or `Fsync`: at every
point of every interleaving where one goroutine is between its two toggles of
`writing` and the table is not empty, the other's look-up stops the process with
`fatal("concurrent map read and map write")`, whatever the numbers. -/
theorem lookup_during_store_fatal (b : Books) (c₀ c₁ : Container) (h₀ h₁ : Handler)
    (sched : List ℕ) {i j : ℕ} (hij : i ≠ j) {t t' : RtGoroutine}
    (ht : (serveConnRT b [(c₀, h₀), (c₁, h₁)] sched).threads[i]? = some t)
    (ht' : (serveConnRT b [(c₀, h₀), (c₁, h₁)] sched).threads[j]? = some t')
    (hfatal : (serveConnRT b [(c₀, h₀), (c₁, h₁)] sched).shared.fatal = none)
    (hin : t'.inWrite = true)
    (hne : (serveConnRT b [(c₀, h₀), (c₁, h₁)] sched).shared.empty = false)
    (hp : t.phase = .idle) {k : UInt64} (hk : t.g.mapOp = .access k) :
    (runtime.tick (serveConnRT b [(c₀, h₀), (c₁, h₁)] sched) i).shared.fatal =
      some .concurrentMapReadAndMapWrite := by
  have hw := (FlagParity.run b _ sched).writing_pair (serveConnRT_length b _ sched) hij ht ht' hin
  rw [tick_of_getElem? ht, runtime_step]
  exact RtGoroutine.step_access_fatal hfatal (by simp [hw, RtGoroutine.inWrite, hp]) hne hp hk

/-- An `Open` given the file 3 under number 5 gets inside its write, from
`twoOpenBooks`, while a `Read` of number 3 waits. -/
def openReadRT : World RtShared RtGoroutine :=
  serveConnRT twoOpenBooks
    [(givingContainer ⟨3, 5, false⟩, .open ⟨"/c", 0, 0o644⟩),
      (twoFilesContainer, .use (.read ⟨3, 0, 4⟩))]
    [0, 0, 0, 0, 0, 0]

theorem lookup_during_store_fatal_twoOpen :
    (1 : ℕ) ≠ 0 ∧
      openReadRT.threads[1]? = some ⟨⟨twoFilesContainer, .use (.read ⟨3, 0, 4⟩), 0, none, none⟩,
        .idle⟩ ∧
      openReadRT.threads[0]? = some ⟨⟨givingContainer ⟨3, 5, false⟩, .open ⟨"/c", 0, 0o644⟩, 3,
        some ⟨3, 5, false⟩, none⟩, .change⟩ ∧
      openReadRT.shared.fatal = none ∧ openReadRT.shared.empty = false ∧
      (runtime.tick openReadRT 1).shared.fatal = some .concurrentMapReadAndMapWrite :=
  have ht : openReadRT.threads[1]? = some ⟨⟨twoFilesContainer, .use (.read ⟨3, 0, 4⟩), 0, none,
      none⟩, .idle⟩ := rfl
  have ht' : openReadRT.threads[0]? = some ⟨⟨givingContainer ⟨3, 5, false⟩,
      .open ⟨"/c", 0, 0o644⟩, 3, some ⟨3, 5, false⟩, none⟩, .change⟩ := rfl
  have hfatal : openReadRT.shared.fatal = none := rfl
  have hne : openReadRT.shared.empty = false := rfl
  ⟨by decide, ht, ht', hfatal, hne,
    lookup_during_store_fatal _ _ _ _ _ _ (by decide) ht ht' hfatal rfl hne rfl rfl⟩

end DockerFuse.Satellite
