import DockerFuse.Satellite.Goroutines

/-!
# The table under concurrent calls

net/rpc's `ServeConn` serves the calls of one connection in goroutines of their own,
and `fso.fds` has no lock: the handlers of `DockerFuse.Satellite.Goroutine.step`
interleave in any order. `DockerFuse.Satellite.serveConn` runs the goroutines of a
list of calls, each a handler with its request and the container's answers to it,
along a schedule.

## Calls on different numbers never race

Take calls such that no call works on the number of a `Close` but the `Close` itself
(`DockerFuse.Satellite.CloseApart`), an OS that gives each `Open` a file it never gave
before, under a number no open file has, the numbers of these files all different
(`DockerFuse.Satellite.FreshAnswers`), and containers whose errors are those of `os`,
on requests whose offsets and counts are in range (`DockerFuse.Satellite.OsCalls`).
Then along every schedule no method meets a closed file and none panics; once every
goroutine has returned the books are `Books.Safe` again, each `Open` finds its file
under its number, and each `Close` its number empty
(`DockerFuse.Satellite.goroutines_apart_keep_the_table`).

The invariant (`DockerFuse.Satellite.Calm`) says where each goroutine is
(`DockerFuse.Satellite.Goroutine.Stage`) and what it knows of the books there. An
`Open` that has its file and has not stored it *claims* the number of the file: no two
goroutines claim one number, and nothing is stored under a claimed number. A stored
file is live unless the `Close` of its number is between its `Close()` and its
`delete`. Each step keeps this (`DockerFuse.Satellite.Calm.tick`).

## A `Close` and another call on its number race

`Close` reads its number, closes the file and only then, in a deferred call, deletes
the number. Between its read and its `delete` another call on the number can run. A
`Read`, `Write`, `Seek` or `Fsync` that reads the number before the `delete` and calls
its method after the `Close()` meets a closed file: along every such interleaving the
process ends exactly when that method panics on a closed file, or the `Close()` itself
did (`DockerFuse.Satellite.close_during_use_panics`). Two `Close`s that both read the
number before either deletes it both call `Close()`, and the second one's error ends
the process (`DockerFuse.Satellite.close_twice_panics`); the positions of the two are
followed by `DockerFuse.Satellite.CloseTwice`. An `Open` given the number the first
`Close` freed stores its file, which the `delete` then removes: the file stays open in
no slot (`DockerFuse.Satellite.open_during_close_loses_file`).

Each access to the map is one step here. Under Go's runtime these are the
interleavings in which the map accesses do not overlap
(`DockerFuse.Satellite.serveConn_under_runtime`).
-/

namespace DockerFuse.Satellite

open Syscall Rpccommon Lifecycle Interleaving

/-! ### A connection's goroutines -/

/-- The file `OpenFile` gives a call, if it is an `Open`. -/
def Handler.answer (c : Container) : Handler → Option File
  | .open r => openedBy c (.open r)
  | .close _ | .use _ => none

/-- The number a `Close` deletes. -/
def Handler.closeFd : Handler → Option UInt64
  | .close r => some r.fd
  | .open _ | .use _ => none

/-- The number a call works on: its request's, or for `Open` the number of the file
`OpenFile` gives it. -/
def Handler.number (c : Container) : Handler → Option UInt64
  | .open r => (openedBy c (.open r)).map File.fd
  | .close r => some r.fd
  | .use q => some q.fd

/-- A goroutine that has returned. -/
def Goroutine.done (g : Goroutine) : Bool :=
  match g.handler with
  | .open _ => g.pc == 5
  | .close _ => g.pc == 3
  | .use _ => g.pc == 2

/-- The goroutines net/rpc starts for the calls `calls` on the books `b`, after the
steps of `sched`. -/
def serveConn (b : Books) (calls : List (Container × Handler)) (sched : List ℕ) :
    World Shared Goroutine :=
  satellite.run ⟨⟨b, false⟩, calls.map Goroutine.start⟩ sched

/-- What the OS does: each `Open` is given a file it never gave before, under a number
no open file has, and no two `Open`s get one number. -/
structure FreshAnswers (b : Books) (calls : List (Container × Handler)) : Prop where
  fresh : ∀ call ∈ calls, ∀ f ∈ call.2.answer call.1,
    f ∉ b.opened ∧ ∀ f' ∈ b.opened, f' ∉ b.closed → f'.fd ≠ f.fd
  fd_ne : calls.Pairwise fun call call' =>
    ∀ f ∈ call.2.answer call.1, ∀ f' ∈ call'.2.answer call'.1, f.fd ≠ f'.fd

/-- No call works on the number of a `Close` but the `Close` itself. -/
def CloseApart (calls : List (Container × Handler)) : Prop :=
  calls.Pairwise fun call call' =>
    (call.2.closeFd.isSome || call'.2.closeFd.isSome) = true →
      call.2.number call.1 ≠ call'.2.number call'.1

instance : DecidablePred CloseApart :=
  fun calls => inferInstanceAs (Decidable (calls.Pairwise _))

/-- The containers' errors are those of `os`, and the requests' offsets and counts are in
range, as the kernel's are. -/
def OsCalls (calls : List (Container × Handler)) : Prop :=
  ∀ call ∈ calls, OsErrors call.1 ∧ call.2.toRequest.inRange = true

/-! ### Methods that return -/

/-- `fd.Stat()`'s error is one the encoder takes. -/
theorem openStat_ne_panic {c : Container} (hc : OsErrors c) (f : File) :
    DockerFuseFSOps.openStat c f ≠ .panic := by
  unfold DockerFuseFSOps.openStat
  cases hs : c.stat f with
  | error err => exact ofError_ne_panic (hc.stat f err hs)
  | ok _ => exact fun h => by cases h

/-- A method in range on a file of a container whose errors are those of `os` returns. -/
theorem FileRequest.response_ne_panic {c : Container} (hc : OsErrors c) {q : FileRequest}
    (hq : q.toRequest.inRange = true) (f : File) : q.response c f ≠ .panic := by
  cases q with
  | read r =>
    simp only [toRequest, Request.inRange, Bool.and_eq_true, decide_eq_true_eq] at hq
    simpa [response] using readOn_ne_panic hc hq.1.1 hq.1.2 hq.2 f
  | write r =>
    simp only [toRequest, Request.inRange, decide_eq_true_eq] at hq
    simpa [response] using writeOn_ne_panic hc (r := r) (f := f) (.inl hq)
  | seek r => simpa [response] using seekOn_ne_panic hc r f
  | fsync r => simpa [response] using fsyncOn_ne_panic hc f

/-! ### Where a goroutine is -/

/-- The file `OpenFile` gives the goroutine, if it is an `Open`. -/
def Goroutine.answer (g : Goroutine) : Option File :=
  g.handler.answer g.container

/-- The number the goroutine works on. -/
def Goroutine.number (g : Goroutine) : Option UInt64 :=
  g.handler.number g.container

/-- An `Open` that has, or will have, the file `f`, and has not stored it yet. -/
def Goroutine.Claims (g : Goroutine) (f : File) : Prop :=
  g.answer = some f ∧ g.pc ≤ 3

/-- A step claims nothing new. -/
theorem Goroutine.Claims.of_step {g : Goroutine} {s : Shared} {f : File}
    (h : (g.step s).1.Claims f) : g.Claims f := by
  refine ⟨?_, le_trans (Goroutine.pc_le_step s g) h.2⟩
  rw [← h.1, Goroutine.answer, Goroutine.answer, Goroutine.step_handler, Goroutine.step_container]

/-- A `Close` of `k` between its `Close()` and its deferred `delete`. -/
def Goroutine.Closing (g : Goroutine) (k : UInt64) : Prop :=
  g.handler.closeFd = some k ∧ g.pc = 2

/-- Only an `Open` with a file claims one. -/
theorem Goroutine.not_claims_of_answer {g : Goroutine} (h : g.answer = none) (f : File) :
    ¬g.Claims f :=
  fun hc => absurd (h.symm.trans hc.1) (by simp)

/-- Only a `Close` closes. -/
theorem Goroutine.not_closing_of_closeFd {g : Goroutine} (h : g.handler.closeFd = none)
    (k : UInt64) : ¬g.Closing k :=
  fun hc => absurd (h.symm.trans hc.1) (by simp)

/-- A `Close` is closing only between its two steps at the table. -/
theorem Goroutine.not_closing_of_pc {g : Goroutine} (h : g.pc ≠ 2) (k : UInt64) :
    ¬g.Closing k :=
  fun hc => h hc.2

/-- The stages of a goroutine, each with what holds of the books `b` there. -/
inductive Goroutine.Stage (b : Books) : Goroutine → Prop
  /-- An `Open` whose `OpenFile` fails: it does nothing more. -/
  | failed {c : Container} {r : OpenRequest} (pc : ℕ) (hf : openedBy c (.open r) = none) :
      Stage b ⟨c, .open r, pc, none, none⟩
  /-- An `Open` before `OpenFile`, which gives it a new file under a free number. -/
  | pending {c : Container} {r : OpenRequest} {f : File} (hf : openedBy c (.open r) = some f)
      (hnew : f ∉ b.opened) (hfree : ∀ f', b.history.Live f' → f'.fd ≠ f.fd) :
      Stage b ⟨c, .open r, 0, none, none⟩
  /-- An `Open` that holds its file and has not stored it: its number is empty. -/
  | acquired {c : Container} {r : OpenRequest} {f : File} {pc : ℕ}
      (hf : openedBy c (.open r) = some f) (hpc : 1 ≤ pc ∧ pc ≤ 3) (hlive : b.history.Live f)
      (hfree : b.fso.fds.lookup f.fd = none) : Stage b ⟨c, .open r, pc, some f, none⟩
  /-- An `Open` that has stored its file. -/
  | stored {c : Container} {r : OpenRequest} {f : File} {pc : ℕ}
      (hf : openedBy c (.open r) = some f) (hpc : 4 ≤ pc ∧ pc ≤ 5) (hlive : b.history.Live f)
      (hstored : b.fso.fds.lookup f.fd = some f) : Stage b ⟨c, .open r, pc, some f, none⟩
  /-- A `Read`, `Write`, `Seek` or `Fsync` before its look-up, or returned. -/
  | idle {c : Container} {q : FileRequest} {pc : ℕ} {held : Option File} (hpc : pc ≠ 1) :
      Stage b ⟨c, .use q, pc, held, none⟩
  /-- A `Read`, `Write`, `Seek` or `Fsync` that found a live file under its number. -/
  | found {c : Container} {q : FileRequest} {f : File} (hlive : b.history.Live f)
      (hfd : f.fd = q.fd) : Stage b ⟨c, .use q, 1, some f, none⟩
  /-- A `Close` before its look-up. -/
  | closeIdle {c : Container} {r : CloseRequest} : Stage b ⟨c, .close r, 0, none, none⟩
  /-- A `Close` that found the live file `f` under its number. -/
  | closeFound {c : Container} {r : CloseRequest} {f : File} (hlive : b.history.Live f)
      (hfd : f.fd = r.fd) (hk : b.fso.fds.lookup r.fd = some f) :
      Stage b ⟨c, .close r, 1, some f, none⟩
  /-- A `Close` that has closed `f`, still stored until the deferred `delete`. -/
  | closeClosed {c : Container} {r : CloseRequest} {f : File} (hclosed : f ∈ b.closed)
      (hk : b.fso.fds.lookup r.fd = some f) : Stage b ⟨c, .close r, 2, some f, none⟩
  /-- A `Close` that has returned: its number is empty. -/
  | closeDone {c : Container} {r : CloseRequest} {held : Option File}
      (hk : b.fso.fds.lookup r.fd = none) : Stage b ⟨c, .close r, 3, held, none⟩

/-- An `Open` whose `OpenFile` fails, on a container whose errors are those of `os`,
never touches the shared state. -/
theorem step_failed {c : Container} (hc : OsErrors c) {r : OpenRequest}
    (hf : openedBy c (.open r) = none) (pc : ℕ) (s : Shared) :
    ∃ pc', (⟨c, .open r, pc, none, none⟩ : Goroutine).step s =
      (⟨c, .open r, pc', none, none⟩, s) := by
  obtain ⟨err, herr⟩ : ∃ err,
      c.openFile r.fullPath (saFlagsToSystem linux r.saFlags) r.mode = .error err := by
    cases h : c.openFile r.fullPath (saFlagsToSystem linux r.saFlags) r.mode with
    | error err => exact ⟨err, rfl⟩
    | ok f => exact absurd (openedBy_open_eq_some.mpr h) (by rw [hf]; simp)
  cases pc with
  | zero =>
    rw [step_open_error _ _ _ _ _ herr,
      Response.isPanic_eq_false (ofError_ne_panic (hc.openFile _ _ _ err herr)), Shared.crash_false]
    exact ⟨5, rfl⟩
  | succ pc =>
    unfold Goroutine.step
    dsimp only
    split <;> simp_all

/-- A `Read`, `Write`, `Seek` or `Fsync` past its method has returned. -/
theorem step_use_of_two_le {c : Container} {q : FileRequest} {pc : ℕ} (hpc : 2 ≤ pc)
    (held stale : Option File) (s : Shared) :
    (⟨c, .use q, pc, held, stale⟩ : Goroutine).step s = (⟨c, .use q, pc, held, stale⟩, s) := by
  unfold Goroutine.step
  dsimp only
  split <;> simp_all

/-- Another goroutine's `OpenFile` gives a file whose number this one does not claim:
its stage stands. -/
theorem Goroutine.Stage.acquire {s : Shared} {g : Goroutine} {f : File} (hg : g.Stage s.books)
    (hfd : ∀ x, g.Claims x → x.fd ≠ f.fd) : g.Stage (s.acquire f).books := by
  -- what was live stays live
  have hmono : ∀ {x}, s.books.history.Live x → (s.acquire f).books.history.Live x :=
    fun hx => by rw [Shared.history_acquire]; exact hx.record_acquire
  cases hg with
  | failed pc hf => exact .failed pc hf
  | @pending c r x hf hnew hfree =>
    have hx : x.fd ≠ f.fd := hfd x ⟨hf, Nat.zero_le 3⟩
    refine .pending hf (fun hmem => ?_) (fun y hy => ?_)
    · rcases List.mem_append.mp hmem with hmem | hmem
      · exact hnew hmem
      · exact hx (congrArg File.fd (List.mem_singleton.mp hmem))
    · rw [Shared.history_acquire] at hy
      rcases hy.of_record_acquire with hy | rfl
      · exact hfree y hy
      · exact hx.symm
  | acquired hf hpc hlive hfree => exact .acquired hf hpc (hmono hlive) hfree
  | stored hf hpc hlive hstored => exact .stored hf hpc (hmono hlive) hstored
  | idle hpc => exact .idle hpc
  | found hlive hfd' => exact .found (hmono hlive) hfd'
  | closeIdle => exact .closeIdle
  | closeFound hlive hfd' hk => exact .closeFound (hmono hlive) hfd' hk
  | closeClosed hclosed hk => exact .closeClosed hclosed hk
  | closeDone hk => exact .closeDone hk

/-- Another goroutine stores its file under an empty number that this one does not
claim and, if it is a `Close`, does not work on: its stage stands. -/
theorem Goroutine.Stage.store {s : Shared} {g : Goroutine} {f : File} (hg : g.Stage s.books)
    (hfd : ∀ x, g.Claims x → x.fd ≠ f.fd) (hclose : ∀ k, g.handler.closeFd = some k → k ≠ f.fd)
    (hnone : s.books.fso.fds.lookup f.fd = none) : g.Stage (s.store f).books := by
  cases hg with
  | failed pc hf => exact .failed pc hf
  | pending hf hnew hfree => exact .pending hf hnew hfree
  | @acquired c r x pc hf hpc hlive hfree =>
    refine .acquired hf hpc hlive ?_
    rw [Shared.lookup_store_ne s f (hfd x ⟨hf, hpc.2⟩)]
    exact hfree
  | @stored c r x pc hf hpc hlive hstored =>
    -- `x` fills its number, which is not the empty one
    have hx : x.fd ≠ f.fd := fun h => by rw [h, hnone] at hstored; cases hstored
    refine .stored hf hpc hlive ?_
    rw [Shared.lookup_store_ne s f hx]
    exact hstored
  | idle hpc => exact .idle hpc
  | found hlive hfd' => exact .found hlive hfd'
  | closeIdle => exact .closeIdle
  | closeFound hlive hfd' hk =>
    exact .closeFound hlive hfd' (by rw [Shared.lookup_store_ne s f (hclose _ rfl)]; exact hk)
  | closeClosed hclosed hk =>
    exact .closeClosed hclosed (by rw [Shared.lookup_store_ne s f (hclose _ rfl)]; exact hk)
  | closeDone hk => exact .closeDone (by rw [Shared.lookup_store_ne s f (hclose _ rfl)]; exact hk)

/-- A `Close` closes the live file `f` of another number than this goroutine's: its
stage stands. -/
theorem Goroutine.Stage.release {s : Shared} {g : Goroutine} {f : File} (hg : g.Stage s.books)
    (hf : f ∉ s.books.closed) (hnum : g.number ≠ some f.fd) :
    g.Stage (s.closeFile f).books := by
  -- a file under another number than `f`'s stays live
  have hmono : ∀ {x : File}, x.fd ≠ f.fd → s.books.history.Live x →
      (s.closeFile f).books.history.Live x := fun hx hlive => by
    rw [Shared.history_closeFile hf]
    exact hlive.record_release fun h => hx (congrArg File.fd h)
  have hfso : (s.closeFile f).books.fso = s.books.fso := Shared.closeFile_books_fso s f
  cases hg with
  | failed pc hf' => exact .failed pc hf'
  | pending hf' hnew hfree =>
    refine .pending hf' (by rw [Shared.closeFile_books_opened]; exact hnew) fun y hy => ?_
    rw [Shared.history_closeFile hf] at hy
    exact hfree y hy.of_record_release
  | @acquired c r x pc hf' hpc hlive hfree =>
    have hx : x.fd ≠ f.fd := fun h =>
      hnum (by simp [Goroutine.number, Handler.number, hf', h])
    exact .acquired hf' hpc (hmono hx hlive) (by rw [hfso]; exact hfree)
  | @stored c r x pc hf' hpc hlive hstored =>
    have hx : x.fd ≠ f.fd := fun h =>
      hnum (by simp [Goroutine.number, Handler.number, hf', h])
    exact .stored hf' hpc (hmono hx hlive) (by rw [hfso]; exact hstored)
  | idle hpc => exact .idle hpc
  | @found c q x hlive hfd =>
    have hx : x.fd ≠ f.fd := fun h => hnum (by simp [Goroutine.number, Handler.number, ← hfd, h])
    exact .found (hmono hx hlive) hfd
  | closeIdle => exact .closeIdle
  | @closeFound c r x hlive hfd hk =>
    have hx : x.fd ≠ f.fd := fun h => hnum (by simp [Goroutine.number, Handler.number, ← hfd, h])
    exact .closeFound (hmono hx hlive) hfd (by rw [hfso]; exact hk)
  | closeClosed hclosed hk =>
    refine .closeClosed ?_ (by rw [hfso]; exact hk)
    rw [Shared.closeFile_books_closed hf]
    exact List.mem_append_left _ hclosed
  | closeDone hk => exact .closeDone (by rw [hfso]; exact hk)

/-- A `Close` deletes a number this goroutine does not work on: its stage stands. -/
theorem Goroutine.Stage.erase {s : Shared} {g : Goroutine} {k : UInt64} (hg : g.Stage s.books)
    (hnum : g.number ≠ some k) : g.Stage (s.erase k).books := by
  cases hg with
  | failed pc hf => exact .failed pc hf
  | pending hf hnew hfree => exact .pending hf hnew hfree
  | @acquired c r x pc hf hpc hlive hfree =>
    have hx : x.fd ≠ k := fun h => hnum (by simp [Goroutine.number, Handler.number, hf, h])
    exact .acquired hf hpc hlive (by rw [Shared.lookup_erase_ne s hx]; exact hfree)
  | @stored c r x pc hf hpc hlive hstored =>
    have hx : x.fd ≠ k := fun h => hnum (by simp [Goroutine.number, Handler.number, hf, h])
    exact .stored hf hpc hlive (by rw [Shared.lookup_erase_ne s hx]; exact hstored)
  | idle hpc => exact .idle hpc
  | found hlive hfd => exact .found hlive hfd
  | closeIdle => exact .closeIdle
  | @closeFound c r x hlive hfd hk =>
    have hk' : r.fd ≠ k := fun h => hnum (by simp [Goroutine.number, Handler.number, h])
    exact .closeFound hlive hfd (by rw [Shared.lookup_erase_ne s hk']; exact hk)
  | @closeClosed c r x hclosed hk =>
    have hk' : r.fd ≠ k := fun h => hnum (by simp [Goroutine.number, Handler.number, h])
    exact .closeClosed hclosed (by rw [Shared.lookup_erase_ne s hk']; exact hk)
  | @closeDone c r held hk =>
    have hk' : r.fd ≠ k := fun h => hnum (by simp [Goroutine.number, Handler.number, h])
    exact .closeDone (by rw [Shared.lookup_erase_ne s hk']; exact hk)

/-! ### The invariant -/

/-- No two goroutines claim one number. -/
def ClaimsApart (gs : List Goroutine) : Prop :=
  ∀ (i j : ℕ) (g g' : Goroutine) (f f' : File), i ≠ j → gs[i]? = some g → gs[j]? = some g' →
    g.Claims f → g'.Claims f' → f.fd ≠ f'.fd

/-- No goroutine works on the number of a `Close` but the `Close` itself. -/
def ClosesApart (gs : List Goroutine) : Prop :=
  ∀ (i j : ℕ) (g g' : Goroutine) (k : UInt64), i ≠ j → gs[i]? = some g → gs[j]? = some g' →
    g.handler.closeFd = some k → g'.number ≠ some k

/-- After a step, every goroutine is one of before, with its container and handler,
claiming only what that one claimed. -/
theorem exists_before_tick {w : World Shared Goroutine} {i : ℕ} {g : Goroutine}
    (hgi : w.threads[i]? = some g) {j : ℕ} {x : Goroutine}
    (hx : (satellite.tick w i).threads[j]? = some x) :
    ∃ y, w.threads[j]? = some y ∧ x.container = y.container ∧ x.handler = y.handler ∧
      ∀ f, x.Claims f → y.Claims f := by
  rcases Threads.getElem?_tick_cases hgi hx with ⟨rfl, rfl⟩ | ⟨-, hx⟩
  · exact ⟨g, hgi, Goroutine.step_container _ g, Goroutine.step_handler _ g,
      fun f hf => hf.of_step⟩
  · exact ⟨x, hx, rfl, rfl, fun f hf => hf⟩

/-- Every step keeps the claims apart. -/
theorem ClaimsApart.tick {w : World Shared Goroutine} (h : ClaimsApart w.threads) (i : ℕ) :
    ClaimsApart (satellite.tick w i).threads := by
  cases hgi : w.threads[i]? with
  | none => rwa [Threads.tick_of_getElem?_none hgi]
  | some g =>
    intro j j' x x' f f' hjj' hx hx' hf hf'
    obtain ⟨y, hy, -, -, hyc⟩ := exists_before_tick hgi hx
    obtain ⟨y', hy', -, -, hyc'⟩ := exists_before_tick hgi hx'
    exact h j j' y y' f f' hjj' hy hy' (hyc f hf) (hyc' f' hf')

/-- Every step keeps the `Close`s apart: no goroutine changes its container or handler. -/
theorem ClosesApart.tick {w : World Shared Goroutine} (h : ClosesApart w.threads) (i : ℕ) :
    ClosesApart (satellite.tick w i).threads := by
  cases hgi : w.threads[i]? with
  | none => rwa [Threads.tick_of_getElem?_none hgi]
  | some g =>
    intro j j' x x' k hjj' hx hx' hk
    obtain ⟨y, hy, -, hxy, -⟩ := exists_before_tick hgi hx
    obtain ⟨y', hy', hcy', hxy', -⟩ := exists_before_tick hgi hx'
    rw [Goroutine.number, hcy', hxy']
    exact h j j' y y' k hjj' hy hy' (hxy ▸ hk)

/-- What holds at every point of an interleaving of calls apart: `Books.Safe`, except
that an opened file may be held by the `Open` that claims its number instead of stored,
and a stored file may be closed by the `Close` of its number before its `delete`; and
each goroutine in a stage, with a container whose errors are those of `os` and a request
in range. -/
structure Calm (w : World Shared Goroutine) : Prop where
  not_crashed : w.shared.crashed = false
  fd_eq : ∀ k f, w.shared.books.fso.fds.lookup k = some f → f.fd = k
  wf : w.shared.books.history.WF
  fds_live : ∀ k f, w.shared.books.fso.fds.lookup k = some f →
    w.shared.books.history.Live f ∨ ∃ (i : ℕ) (g : Goroutine), w.threads[i]? = some g ∧ g.Closing k
  accounted : ∀ f ∈ w.shared.books.opened, (∃ k, w.shared.books.fso.fds.lookup k = some f) ∨
    f ∈ w.shared.books.closed ∨ ∃ (i : ℕ) (g : Goroutine), w.threads[i]? = some g ∧ g.Claims f
  stage : ∀ (i : ℕ) (g : Goroutine), w.threads[i]? = some g → g.Stage w.shared.books
  os : ∀ (i : ℕ) (g : Goroutine), w.threads[i]? = some g →
    OsErrors g.container ∧ g.handler.toRequest.inRange = true
  apart : ClaimsApart w.threads
  closes_apart : ClosesApart w.threads

section Tick

variable {w : World Shared Goroutine} {i : ℕ} {g : Goroutine}

/-- What some goroutine is before a step that keeps it for the goroutine taking it,
some goroutine is after it. -/
theorem exists_tick {P : Goroutine → Prop} (hgi : w.threads[i]? = some g)
    (hkeep : P g → P (g.step w.shared).1)
    (h : ∃ (j : ℕ) (y : Goroutine), w.threads[j]? = some y ∧ P y) :
    ∃ (j : ℕ) (x : Goroutine), (satellite.tick w i).threads[j]? = some x ∧ P x := by
  obtain ⟨j, y, hy, hyp⟩ := h
  by_cases hji : j = i
  · subst hji
    rw [hgi, Option.some_inj] at hy
    subst hy
    exact ⟨j, _, Threads.getElem?_tick_self hgi, hkeep hyp⟩
  · exact ⟨j, y, by rw [Threads.getElem?_tick_ne w (Ne.symm hji)]; exact hy, hyp⟩

/-- Every step keeps each goroutine's container and request. -/
theorem Calm.os_tick (hw : Calm w) (i : ℕ) :
    ∀ (j : ℕ) (x : Goroutine), (satellite.tick w i).threads[j]? = some x →
      OsErrors x.container ∧ x.handler.toRequest.inRange = true := by
  intro j x hx
  cases hgi : w.threads[i]? with
  | none =>
    rw [Threads.tick_of_getElem?_none hgi] at hx
    exact hw.os j x hx
  | some g =>
    obtain ⟨y, hy, hc, hh, -⟩ := exists_before_tick hgi hx
    rw [hc, hh]
    exact hw.os j y hy

/-- A stored file is live when a goroutine that is not the `Close` of its number at its
`delete` works on that number. -/
theorem Calm.live_of_lookup (hw : Calm w) (hgi : w.threads[i]? = some g) {k : UInt64} {f : File}
    (hnum : g.number = some k) (hnot : ¬g.Closing k)
    (hk : w.shared.books.fso.fds.lookup k = some f) : w.shared.books.history.Live f := by
  rcases hw.fds_live k f hk with hlive | ⟨j, g', hg', hclosing⟩
  · exact hlive
  · by_cases hij : i = j
    · subst hij
      rw [hgi, Option.some_inj] at hg'
      exact absurd (hg' ▸ hclosing) hnot
    · exact absurd hnum (hw.closes_apart j i g' g k (Ne.symm hij) hg' hgi hclosing.1)

/-- A step that changes nothing shared, and leaves the goroutine in a stage claiming
and closing what it claimed and closed. -/
theorem Calm.tick_quiet (hw : Calm w) (hgi : w.threads[i]? = some g)
    (hs : (g.step w.shared).2 = w.shared) (hst : (g.step w.shared).1.Stage w.shared.books)
    (hkeep : ∀ f, g.Claims f → (g.step w.shared).1.Claims f)
    (hkeepc : ∀ k, g.Closing k → (g.step w.shared).1.Closing k) : Calm (satellite.tick w i) := by
  have hsh : (satellite.tick w i).shared = w.shared := by
    rw [Threads.tick_of_getElem? hgi]
    exact hs
  refine ⟨?_, ?_, ?_, fun k f hk => ?_, fun f hf => ?_, fun j x hx => ?_, hw.os_tick i,
    hw.apart.tick i, hw.closes_apart.tick i⟩
  · rw [hsh]; exact hw.not_crashed
  · rw [hsh]; exact hw.fd_eq
  · rw [hsh]; exact hw.wf
  · rw [hsh] at hk ⊢
    rcases hw.fds_live k f hk with h | h
    · exact .inl h
    · exact .inr (exists_tick hgi (hkeepc k) h)
  · rw [hsh] at hf ⊢
    rcases hw.accounted f hf with h | h | h
    · exact .inl h
    · exact .inr (.inl h)
    · exact .inr (.inr (exists_tick hgi (hkeep f) h))
  · rw [hsh]
    rcases Threads.getElem?_tick_cases hgi hx with ⟨-, rfl⟩ | ⟨-, hx⟩
    · exact hst
    · exact hw.stage j x hx

/-- A step of a goroutine that neither claims a file nor is closing, and changes nothing
shared. -/
theorem Calm.tick_idle (hw : Calm w) (hgi : w.threads[i]? = some g)
    (hs : (g.step w.shared).2 = w.shared) (hst : (g.step w.shared).1.Stage w.shared.books)
    (hno : ∀ f, ¬g.Claims f) (hnc : ∀ k, ¬g.Closing k) : Calm (satellite.tick w i) :=
  hw.tick_quiet hgi hs hst (fun f hf => absurd hf (hno f)) (fun k hk => absurd hk (hnc k))

/-- `OpenFile` gives an `Open` its file. -/
theorem Calm.tick_acquire {c : Container} {r : OpenRequest} {f : File} (hw : Calm w)
    (hgi : w.threads[i]? = some ⟨c, .open r, 0, none, none⟩) (hf : openedBy c (.open r) = some f)
    (hnew : f ∉ w.shared.books.opened)
    (hfree : ∀ f', w.shared.books.history.Live f' → f'.fd ≠ f.fd) : Calm (satellite.tick w i) := by
  have hstep := step_open_acquire w.shared c none none f r hf
  have hsh : (satellite.tick w i).shared = w.shared.acquire f := by
    rw [Threads.tick_of_getElem? hgi]
    exact congrArg Prod.snd hstep
  have hself : (satellite.tick w i).threads[i]? = some ⟨c, .open r, 1, some f, none⟩ := by
    rw [Threads.getElem?_tick_self hgi]
    exact congrArg (some ∘ Prod.fst) hstep
  have hno : ∀ k, ¬Goroutine.Closing ⟨c, .open r, 0, none, none⟩ k :=
    Goroutine.not_closing_of_closeFd rfl
  -- what is stored under the new number would be live, so nothing is
  have hnone : w.shared.books.fso.fds.lookup f.fd = none := by
    cases hk : w.shared.books.fso.fds.lookup f.fd with
    | none => rfl
    | some x =>
      have hlive := hw.live_of_lookup hgi (by simp [Goroutine.number, Handler.number, hf])
        (hno _) hk
      exact absurd (hw.fd_eq _ _ hk) (hfree x hlive)
  have hkeep : ∀ x, Goroutine.Claims ⟨c, .open r, 0, none, none⟩ x →
      ((⟨c, .open r, 0, none, none⟩ : Goroutine).step w.shared).1.Claims x :=
    fun x hx => by rw [hstep]; exact ⟨hx.1, by simp⟩
  refine ⟨?_, ?_, ?_, fun k x hk => ?_, fun x hx => ?_, fun j x hx => ?_, hw.os_tick i,
    hw.apart.tick i, hw.closes_apart.tick i⟩
  · rw [hsh]; exact hw.not_crashed
  · rw [hsh]; exact hw.fd_eq
  · rw [hsh, Shared.history_acquire]; exact hw.wf.record hnew
  · rw [hsh, Shared.history_acquire] at *
    rcases hw.fds_live k x hk with h | h
    · exact .inl h.record_acquire
    · exact .inr (exists_tick hgi (fun hc => absurd hc (hno k)) h)
  · rw [hsh] at hx ⊢
    rcases List.mem_append.mp hx with hx | hx
    · rcases hw.accounted x hx with h | h | h
      · exact .inl h
      · exact .inr (.inl h)
      · exact .inr (.inr (exists_tick hgi (hkeep x) h))
    · -- the new file is claimed by the goroutine that holds it
      rw [List.mem_singleton.mp hx]
      exact .inr (.inr ⟨i, _, hself, hf, by simp⟩)
  · rw [hsh]
    rcases Threads.getElem?_tick_cases hgi hx with ⟨rfl, rfl⟩ | ⟨hji, hx⟩
    · have hopen : f ∉ w.shared.books.closed := fun h => hnew (hw.wf.released_acquired f h)
      rw [satellite_step, hstep]
      exact .acquired hf ⟨le_refl 1, by omega⟩
        (by rw [Shared.history_acquire]; exact History.live_record_acquire_self hopen) hnone
    · exact (hw.stage j x hx).acquire fun y hy =>
        hw.apart j i x _ y f hji hx hgi hy ⟨hf, Nat.zero_le 3⟩

/-- An `Open` stores its file under its empty number. -/
theorem Calm.tick_store {c : Container} {r : OpenRequest} {f : File} (hw : Calm w)
    (hgi : w.threads[i]? = some ⟨c, .open r, 3, some f, none⟩) (hf : openedBy c (.open r) = some f)
    (hlive : w.shared.books.history.Live f) (hnone : w.shared.books.fso.fds.lookup f.fd = none) :
    Calm (satellite.tick w i) := by
  have hsh : (satellite.tick w i).shared = w.shared.store f := by
    rw [Threads.tick_of_getElem? hgi]
    rfl
  -- a number stored before the step is not the new one, and keeps its file
  have hold : ∀ k x, w.shared.books.fso.fds.lookup k = some x →
      (w.shared.store f).books.fso.fds.lookup k = some x := by
    intro k x hk
    have hk' : k ≠ f.fd := fun h => by rw [h, hnone] at hk; cases hk
    rw [Shared.lookup_store_ne _ f hk']
    exact hk
  refine ⟨?_, fun k x hk => ?_, ?_, fun k x hk => ?_, fun x hx => ?_, fun j x hx => ?_,
    hw.os_tick i, hw.apart.tick i, hw.closes_apart.tick i⟩
  · rw [hsh]; exact hw.not_crashed
  · rw [hsh] at hk
    rcases Shared.lookup_store_eq_some _ _ hk with ⟨rfl, rfl⟩ | ⟨-, hk⟩
    · rfl
    · exact hw.fd_eq k x hk
  · rw [hsh, Shared.history_store]; exact hw.wf
  · rw [hsh, Shared.history_store]
    rw [hsh] at hk
    rcases Shared.lookup_store_eq_some _ _ hk with ⟨-, rfl⟩ | ⟨-, hk⟩
    · exact .inl hlive
    · rcases hw.fds_live k x hk with h | h
      · exact .inl h
      · exact .inr (exists_tick hgi (fun hc => by cases hc.1) h)
  · rw [hsh] at hx ⊢
    rcases hw.accounted x hx with ⟨k, hk⟩ | h | ⟨j, y, hy, hyx⟩
    · exact .inl ⟨k, hold k x hk⟩
    · exact .inr (.inl h)
    · by_cases hji : j = i
      · -- the file the goroutine claimed is the one it now stores
        subst hji
        rw [hgi, Option.some_inj] at hy
        subst hy
        have hxf : x = f := Option.some_inj.mp (hyx.1.symm.trans hf)
        exact .inl ⟨f.fd, hxf ▸ Shared.lookup_store_self _ f⟩
      · exact .inr (.inr ⟨j, y, by rw [Threads.getElem?_tick_ne w (Ne.symm hji)]; exact hy, hyx⟩)
  · rw [hsh]
    rcases Threads.getElem?_tick_cases hgi hx with ⟨-, rfl⟩ | ⟨hji, hx⟩
    · exact .stored hf ⟨le_refl 4, by omega⟩ hlive (Shared.lookup_store_self _ f)
    · refine (hw.stage j x hx).store
        (fun y hy => hw.apart j i x _ y f hji hx hgi hy ⟨hf, le_refl 3⟩)
        (fun k hk hkf => ?_) hnone
      -- a `Close` of `f`'s number would work on the number of this `Open`
      exact hw.closes_apart j i x _ k hji hx hgi hk
        (by simp [Goroutine.number, Handler.number, hf, hkf])

/-- `Close` closes the live file of its number, and its `Close()` returns. -/
theorem Calm.tick_release {c : Container} {r : CloseRequest} {f : File} (hw : Calm w)
    (hgi : w.threads[i]? = some ⟨c, .close r, 1, some f, none⟩)
    (hlive : w.shared.books.history.Live f) (hfd : f.fd = r.fd)
    (hk : w.shared.books.fso.fds.lookup r.fd = some f) : Calm (satellite.tick w i) := by
  have hc : OsErrors c := (hw.os i _ hgi).1
  have hsh : (satellite.tick w i).shared = w.shared.closeFile f := by
    rw [Threads.tick_of_getElem? hgi, satellite_step, step_close_close,
      Shared.closeOn_container_of_not_mem c hlive.2,
      Response.isPanic_eq_false (closeOn_ne_panic hc f), Shared.crash_false]
  refine ⟨?_, ?_, ?_, fun k' x hk' => ?_, fun x hx => ?_, fun j x hx => ?_, hw.os_tick i,
    hw.apart.tick i, hw.closes_apart.tick i⟩
  · rw [hsh, Shared.closeFile_crashed]; exact hw.not_crashed
  · rw [hsh, Shared.closeFile_books_fso]; exact hw.fd_eq
  · rw [hsh, Shared.history_closeFile hlive.2]; exact hw.wf.record hlive
  · rw [hsh, Shared.closeFile_books_fso] at hk'
    rw [hsh]
    by_cases hxf : x = f
    · -- `f` is now closed, by the `Close` of its number, which is at its `delete`
      subst hxf
      have hkk : k' = r.fd := (hw.fd_eq k' x hk').symm.trans hfd
      subst hkk
      exact .inr ⟨i, _, Threads.getElem?_tick_self hgi, rfl, rfl⟩
    · rcases hw.fds_live k' x hk' with h | h
      · rw [Shared.history_closeFile hlive.2]
        exact .inl (h.record_release hxf)
      · exact .inr (exists_tick hgi (fun hc => absurd hc.2 (by simp)) h)
  · rw [hsh, Shared.closeFile_books_opened] at hx
    rw [hsh, Shared.closeFile_books_fso, Shared.closeFile_books_closed hlive.2]
    rcases hw.accounted x hx with h | h | h
    · exact .inl h
    · exact .inr (.inl (List.mem_append_left _ h))
    · exact .inr (.inr (exists_tick hgi (fun hc => by cases hc.1) h))
  · rw [hsh]
    rcases Threads.getElem?_tick_cases hgi hx with ⟨-, rfl⟩ | ⟨hji, hx⟩
    · refine .closeClosed ?_ (by rw [Shared.closeFile_books_fso]; exact hk)
      rw [Shared.closeFile_books_closed hlive.2]
      exact List.mem_append_right _ (List.mem_singleton_self f)
    · -- no other goroutine works on the number being closed
      exact (hw.stage j x hx).release hlive.2
        (hfd ▸ hw.closes_apart i j _ x r.fd (Ne.symm hji) hgi hx rfl)

/-- `Close`'s deferred `delete` empties its number. -/
theorem Calm.tick_erase {c : Container} {r : CloseRequest} {f : File} (hw : Calm w)
    (hgi : w.threads[i]? = some ⟨c, .close r, 2, some f, none⟩)
    (hclosed : f ∈ w.shared.books.closed) (hk : w.shared.books.fso.fds.lookup r.fd = some f) :
    Calm (satellite.tick w i) := by
  have hsh : (satellite.tick w i).shared = w.shared.erase r.fd := by
    rw [Threads.tick_of_getElem? hgi]
    rfl
  refine ⟨?_, fun k' x hk' => ?_, ?_, fun k' x hk' => ?_, fun x hx => ?_, fun j x hx => ?_,
    hw.os_tick i, hw.apart.tick i, hw.closes_apart.tick i⟩
  · rw [hsh, Shared.erase_crashed]; exact hw.not_crashed
  · rw [hsh] at hk'
    exact hw.fd_eq k' x (Shared.lookup_erase_eq_some _ hk').2
  · rw [hsh, Shared.erase_books_history]; exact hw.wf
  · rw [hsh] at hk'
    rw [hsh, Shared.erase_books_history]
    obtain ⟨hkk, hk'⟩ := Shared.lookup_erase_eq_some _ hk'
    rcases hw.fds_live k' x hk' with h | h
    · exact .inl h
    · -- the goroutine closing `k'` is not this one, which deletes `r.fd`
      refine .inr (exists_tick hgi (fun hc => absurd hc.1 ?_) h)
      simp only [Handler.closeFd, Option.some_inj]
      exact Ne.symm hkk
  · rw [hsh, Shared.erase_books_opened] at hx
    rw [hsh, Shared.erase_books_closed]
    rcases hw.accounted x hx with ⟨k', hk'⟩ | h | h
    · by_cases hkk : k' = r.fd
      · -- the file under the deleted number is the closed `f`
        rw [hkk, hk, Option.some_inj] at hk'
        exact .inr (.inl (hk' ▸ hclosed))
      · exact .inl ⟨k', by rw [Shared.lookup_erase_ne _ hkk]; exact hk'⟩
    · exact .inr (.inl h)
    · exact .inr (.inr (exists_tick hgi (fun hc => by cases hc.1) h))
  · rw [hsh]
    rcases Threads.getElem?_tick_cases hgi hx with ⟨-, rfl⟩ | ⟨hji, hx⟩
    · exact .closeDone (Shared.lookup_erase_self _ r.fd)
    · exact (hw.stage j x hx).erase (hw.closes_apart i j _ x r.fd (Ne.symm hji) hgi hx rfl)

end Tick

/-- **The step lemma**: every step of every goroutine keeps the invariant. The stage
of the goroutine that steps says which kind of step it is. -/
theorem Calm.tick {w : World Shared Goroutine} (hw : Calm w) (i : ℕ) :
    Calm (satellite.tick w i) := by
  cases hgi : w.threads[i]? with
  | none => rwa [Threads.tick_of_getElem?_none hgi]
  | some g =>
    obtain ⟨hc, hrange⟩ := hw.os i g hgi
    have hno : ∀ {g : Goroutine}, g.answer = none → ∀ f, ¬g.Claims f :=
      fun h => Goroutine.not_claims_of_answer h
    have hnc : ∀ {g : Goroutine}, g.handler.closeFd = none → ∀ k, ¬g.Closing k :=
      fun h => Goroutine.not_closing_of_closeFd h
    cases hw.stage i g hgi with
    | failed pc hf =>
      obtain ⟨pc', hstep⟩ := step_failed hc hf pc w.shared
      exact hw.tick_idle hgi (by rw [hstep]) (by rw [hstep]; exact .failed pc' hf) (hno hf)
        (hnc rfl)
    | pending hf hnew hfree => exact hw.tick_acquire hgi hf hnew hfree
    | @acquired c r f pc hf hpc hlive hfree =>
      obtain rfl | rfl | rfl : pc = 1 ∨ pc = 2 ∨ pc = 3 := by omega
      · -- the look-up of the new number finds it empty
        refine hw.tick_quiet hgi rfl ?_ (fun x hx => ⟨hx.1, by simp⟩)
          (fun k hk => absurd hk (hnc rfl k))
        simp only [step_open_lookup, hfree]
        exact .acquired hf ⟨by omega, by omega⟩ hlive hfree
      · -- so there is no stale file to close
        refine hw.tick_quiet hgi rfl ?_ (fun x hx => ⟨hx.1, by simp⟩)
          (fun k hk => absurd hk (hnc rfl k))
        exact .acquired hf ⟨by omega, by omega⟩ hlive hfree
      · exact hw.tick_store hgi hf hlive hfree
    | @stored c r f pc hf hpc hlive hstored =>
      have hno' : ∀ x, ¬Goroutine.Claims ⟨c, .open r, pc, some f, none⟩ x :=
        fun x hx => absurd hx.2 (by simp only; omega)
      obtain rfl | rfl : pc = 4 ∨ pc = 5 := by omega
      · -- `fd.Stat()` on a live file returns
        refine hw.tick_idle hgi ?_ ?_ hno' (hnc rfl)
        · rw [step_open_stat, Shared.openStat_container_of_not_mem c hlive.2,
            Response.isPanic_eq_false (openStat_ne_panic hc f), Shared.crash_false]
        · exact .stored hf ⟨by omega, le_refl 5⟩ hlive hstored
      · exact hw.tick_idle hgi rfl (.stored hf ⟨by omega, le_refl 5⟩ hlive hstored) hno' (hnc rfl)
    | @idle c q pc held hpc =>
      cases pc with
      | zero =>
        -- the look-up finds a live file under the number, or nothing
        refine hw.tick_idle hgi rfl ?_ (hno rfl) (hnc rfl)
        simp only [step_use_lookup]
        cases hk : w.shared.books.fso.fds.lookup q.fd with
        | none => exact .idle (by decide)
        | some f =>
          exact .found (hw.live_of_lookup hgi rfl (hnc rfl _) hk) (hw.fd_eq q.fd f hk)
      | succ pc =>
        have hstep := step_use_of_two_le (c := c) (q := q) (show 2 ≤ pc + 1 by omega) held none
          w.shared
        exact hw.tick_idle hgi (by rw [hstep]) (by rw [hstep]; exact .idle hpc) (hno rfl) (hnc rfl)
    | @found c q f hlive hfd =>
      -- the method on a live file returns
      refine hw.tick_idle hgi ?_ (.idle (by decide)) (hno rfl) (hnc rfl)
      rw [step_use_method, Shared.response_container_of_not_mem c hlive.2,
        Response.isPanic_eq_false (FileRequest.response_ne_panic hc hrange f), Shared.crash_false]
    | @closeIdle c r =>
      have hnc' : ∀ k, ¬Goroutine.Closing ⟨c, .close r, 0, none, none⟩ k :=
        Goroutine.not_closing_of_pc (by simp)
      -- the look-up finds the live file under the number, or nothing
      refine hw.tick_idle hgi rfl ?_ (hno rfl) hnc'
      simp only [step_close_lookup]
      cases hk : w.shared.books.fso.fds.lookup r.fd with
      | none => exact .closeDone hk
      | some f =>
        exact .closeFound (hw.live_of_lookup hgi rfl (hnc' r.fd) hk) (hw.fd_eq r.fd f hk) hk
    | closeFound hlive hfd hk => exact hw.tick_release hgi hlive hfd hk
    | closeClosed hclosed hk => exact hw.tick_erase hgi hclosed hk
    | @closeDone c r held hk =>
      exact hw.tick_idle hgi rfl (.closeDone hk) (hno rfl) (Goroutine.not_closing_of_pc (by simp))

/-- **The run lemma**: the invariant holds after every schedule. -/
theorem Calm.run {w : World Shared Goroutine} (hw : Calm w) (sched : List ℕ) :
    Calm (satellite.run w sched) :=
  Threads.run_inv Calm (fun _ i hw => hw.tick i) hw sched

/-! ### From the start to the end -/

/-- The calls at two places of the list are given files under different numbers. -/
theorem FreshAnswers.fd_ne_of_getElem? {b : Books} {calls : List (Container × Handler)}
    (hfa : FreshAnswers b calls) {i j : ℕ} {call call' : Container × Handler} (hij : i ≠ j)
    (hh : calls[i]? = some call) (hh' : calls[j]? = some call') {f f' : File}
    (hf : call.2.answer call.1 = some f) (hf' : call'.2.answer call'.1 = some f') :
    f.fd ≠ f'.fd := by
  obtain ⟨hi, rfl⟩ := List.getElem?_eq_some_iff.mp hh
  obtain ⟨hj, rfl⟩ := List.getElem?_eq_some_iff.mp hh'
  rcases Nat.lt_or_gt_of_ne hij with hlt | hlt
  · exact List.pairwise_iff_getElem.mp hfa.fd_ne i j hi hj hlt f hf f' hf'
  · exact (List.pairwise_iff_getElem.mp hfa.fd_ne j i hj hi hlt f' hf' f hf).symm

/-- The call at another place than a `Close` works on another number. -/
theorem CloseApart.number_ne {calls : List (Container × Handler)} (hca : CloseApart calls)
    {i j : ℕ} {k : UInt64} {call call' : Container × Handler} (hij : i ≠ j)
    (hh : calls[i]? = some call) (hk : call.2.closeFd = some k) (hh' : calls[j]? = some call') :
    call'.2.number call'.1 ≠ some k := by
  obtain ⟨hi, rfl⟩ := List.getElem?_eq_some_iff.mp hh
  obtain ⟨hj, rfl⟩ := List.getElem?_eq_some_iff.mp hh'
  -- a `Close`'s number is the number it deletes
  have hnum : calls[i].2.number calls[i].1 = some k := by
    cases h : calls[i].2 with
    | close r =>
      rw [h] at hk
      simpa [Handler.number, Handler.closeFd] using hk
    | «open» r => rw [h] at hk; cases hk
    | use q => rw [h] at hk; cases hk
  rcases Nat.lt_or_gt_of_ne hij with hlt | hlt
  · have := List.pairwise_iff_getElem.mp hca i j hi hj hlt
    exact fun h => this (by simp [hk]) (by rw [hnum, h])
  · have := List.pairwise_iff_getElem.mp hca j i hj hi hlt
    exact fun h => this (by simp [hk]) (by rw [hnum, h])

/-- **The start**: safe books, and the goroutines of calls apart, answered freshly by
the OS and by containers whose errors are those of `os`. -/
theorem Calm.init {b : Books} (hb : b.Safe) {calls : List (Container × Handler)}
    (hfa : FreshAnswers b calls) (hca : CloseApart calls) (hos : OsCalls calls) :
    Calm ⟨⟨b, false⟩, calls.map Goroutine.start⟩ := by
  -- the goroutine at `i` is the start of the call at `i`
  have hstart : ∀ (i : ℕ) (g : Goroutine), (calls.map Goroutine.start)[i]? = some g →
      ∃ call, calls[i]? = some call ∧ g = Goroutine.start call := by
    intro i g hg
    rw [List.getElem?_map, Option.map_eq_some_iff] at hg
    obtain ⟨call, hh, rfl⟩ := hg
    exact ⟨call, hh, rfl⟩
  refine ⟨rfl, hb.fd_eq, hb.wf, fun k f hk => .inl (hb.fds_live k f hk), fun f hf => ?_,
    fun i g hg => ?_, fun i g hg => ?_, ?_, ?_⟩
  · rcases hb.accounted f hf with h | h
    · exact .inl h
    · exact .inr (.inl h)
  · obtain ⟨⟨c, h⟩, hh, rfl⟩ := hstart i g hg
    have hmem := List.mem_of_getElem? hh
    cases h with
    | «open» r =>
      cases hf : openedBy c (.open r) with
      | none => exact .failed 0 hf
      | some f =>
        obtain ⟨hnew, hfree⟩ := hfa.fresh _ hmem f hf
        exact .pending hf hnew fun f' hf' => hfree f' hf'.1 hf'.2
    | close r => exact .closeIdle
    | use q => exact .idle (by decide)
  · obtain ⟨call, hh, rfl⟩ := hstart i g hg
    exact hos call (List.mem_of_getElem? hh)
  · -- a goroutine claims the file `OpenFile` gives its call
    intro i j g g' f f' hij hg hg' hf hf'
    obtain ⟨call, hh, rfl⟩ := hstart i g hg
    obtain ⟨call', hh', rfl⟩ := hstart j g' hg'
    exact hfa.fd_ne_of_getElem? hij hh hh' hf.1 hf'.1
  · intro i j g g' k hij hg hg' hk
    obtain ⟨call, hh, rfl⟩ := hstart i g hg
    obtain ⟨call', hh', rfl⟩ := hstart j g' hg'
    exact hca.number_ne hij hh hk hh'

/-- A goroutine that has returned claims nothing. -/
theorem Goroutine.not_claims_of_done {g : Goroutine} (hg : g.done = true) (f : File) :
    ¬g.Claims f := by
  rintro ⟨hh, hpc⟩
  cases h : g.handler with
  | «open» r => simp only [Goroutine.done, h, beq_iff_eq] at hg; omega
  | close r => simp [Goroutine.answer, Handler.answer, h] at hh
  | use q => simp [Goroutine.answer, Handler.answer, h] at hh

/-- A `Close` that has returned is past its `delete`. -/
theorem Goroutine.not_closing_of_done {g : Goroutine} (hg : g.done = true) (k : UInt64) :
    ¬g.Closing k := by
  rintro ⟨hh, hpc⟩
  cases h : g.handler with
  | close r => simp only [Goroutine.done, h, beq_iff_eq] at hg; omega
  | «open» r => simp [Handler.closeFd, h] at hh
  | use q => simp [Handler.closeFd, h] at hh

/-- **The end**: once every goroutine has returned, the books are safe. -/
theorem Calm.safe_of_done {w : World Shared Goroutine} (hw : Calm w)
    (hdone : w.threads.all Goroutine.done = true) : w.shared.books.Safe where
  fd_eq := hw.fd_eq
  accounted f hf := by
    rcases hw.accounted f hf with h | h | ⟨i, g, hg, hgf⟩
    · exact .inl h
    · exact .inr h
    · -- no goroutine claims a file any more
      have hgdone := List.all_eq_true.mp hdone g (List.mem_of_getElem? hg)
      exact absurd hgf (Goroutine.not_claims_of_done hgdone f)
  wf := hw.wf
  fds_live k f hk := by
    rcases hw.fds_live k f hk with h | ⟨i, g, hg, hgk⟩
    · exact h
    · -- and no `Close` is before its `delete`
      have hgdone := List.all_eq_true.mp hdone g (List.mem_of_getElem? hg)
      exact absurd hgk (Goroutine.not_closing_of_done hgdone k)

/-- An `Open` that has returned finds its file under its number. -/
theorem Calm.lookup_of_done {w : World Shared Goroutine} (hw : Calm w) {i : ℕ} {g : Goroutine}
    (hg : w.threads[i]? = some g) (hdone : g.done = true) {f : File}
    (hf : g.answer = some f) : w.shared.books.fso.fds.lookup f.fd = some f := by
  cases hw.stage i g hg with
  | failed _ hf' => simp [Goroutine.answer, Handler.answer, hf'] at hf
  | pending _ _ _ => simp [Goroutine.done] at hdone
  | acquired _ hpc _ _ =>
    simp only [Goroutine.done, beq_iff_eq] at hdone
    omega
  | stored hf' _ _ hstored =>
    have hff : f = _ := Option.some_inj.mp (hf.symm.trans hf')
    subst hff
    exact hstored
  | idle _ | found _ _ | closeIdle | closeFound _ _ _ | closeClosed _ _ | closeDone _ =>
    simp [Goroutine.answer, Handler.answer] at hf

/-- A `Close` that has returned leaves its number empty. -/
theorem Calm.lookup_close_of_done {w : World Shared Goroutine} (hw : Calm w) {i : ℕ}
    {g : Goroutine} (hg : w.threads[i]? = some g) (hdone : g.done = true) {k : UInt64}
    (hk : g.handler.closeFd = some k) : w.shared.books.fso.fds.lookup k = none := by
  cases hw.stage i g hg with
  | closeIdle => simp [Goroutine.done] at hdone
  | closeFound _ _ _ => simp [Goroutine.done] at hdone
  | closeClosed _ _ => simp [Goroutine.done] at hdone
  | closeDone hk' =>
    simp only [Handler.closeFd, Option.some_inj] at hk
    exact hk ▸ hk'
  | failed _ _ | pending _ _ _ | acquired _ _ _ _ | stored _ _ _ _ | idle _ | found _ _ =>
    simp [Handler.closeFd] at hk

/-- Every call's goroutine is still there, with its container and handler. -/
theorem exists_goroutine_of_mem {b : Books} {calls : List (Container × Handler)} (sched : List ℕ)
    {call : Container × Handler} (hh : call ∈ calls) : ∃ (i : ℕ) (g : Goroutine),
      (serveConn b calls sched).threads[i]? = some g ∧ g.container = call.1 ∧
        g.handler = call.2 := by
  have hcalls :
      (serveConn b calls sched).threads.map (fun g => (g.container, g.handler)) = calls := by
    rw [serveConn, Threads.map_run (fun g : Goroutine => (g.container, g.handler))
      (fun t s => by rw [satellite_step, Goroutine.step_container, Goroutine.step_handler]),
      List.map_map]
    exact List.map_id'' (fun _ => rfl) calls
  obtain ⟨i, hi⟩ := List.mem_iff_getElem?.mp hh
  rw [← hcalls, List.getElem?_map, Option.map_eq_some_iff] at hi
  obtain ⟨g, hg, rfl⟩ := hi
  exact ⟨i, g, hg, rfl, rfl⟩

/-- The books after the `Open`s of `/a` and `/b` on `twoFilesContainer`: the files 1
and 2 stored under 3 and 4. -/
def twoOpenBooks : Books :=
  Books.init.run
    [(twoFilesContainer, .open ⟨"/a", 0, 0o644⟩), (twoFilesContainer, .open ⟨"/b", 0, 0o644⟩)]

theorem twoOpenBooks_safe : twoOpenBooks.Safe :=
  (Books.Safe.init.run (show Books.init.FreshRun [(twoFilesContainer, .open ⟨"/a", 0, 0o644⟩),
    (twoFilesContainer, .open ⟨"/b", 0, 0o644⟩)] by decide)).2

/-- A container whose `OpenFile` gives `f`, whose files' `Stat` and `Close` succeed, and
which refuses every other call with `ENOENT`. -/
def givingContainer (f : File) : Container :=
  { Container.failing (errnoOf ErrnoName.ENOENT) with
    openFile := fun _ _ _ => .ok f
    stat := fun _ => .ok ⟨0x81A4, 1, 12, 0, 0, 0, 0, 0, 0, 0, 4096⟩
    close := fun _ => none }

theorem osErrors_givingContainer (f : File) : OsErrors (givingContainer f) := by
  -- every error it gives is `ENOENT`
  have henoent : ∀ err, errnoOf ErrnoName.ENOENT = err → Encodable err := by
    rintro _ rfl
    exact encodable_errnoOf _
  constructor
  · intro call err h
    cases call <;> simp [Container.answer, givingContainer, Container.failing] at h <;>
      exact henoent err h
  · intro _ err h
    exact henoent err (by simpa [givingContainer, Container.failing] using h)
  · intro _ _ _ err h
    simp [givingContainer] at h
  · intro _ err h
    exact henoent err (by simpa [givingContainer, Container.failing] using h)
  · intro _ err h
    exact henoent err (by simpa [givingContainer, Container.failing] using h)
  · intro _ _ _ err _ h
    exact henoent err (by simpa [givingContainer, Container.failing] using h)
  · intro _ _ _ err h
    exact henoent err (by simpa [givingContainer, Container.failing] using h)
  · intro _ err h
    simp [givingContainer] at h
  · intro _ _ _ err _ h
    exact henoent err (by simpa [givingContainer, Container.failing] using h)

/-- A `Close` of 3, a `Read` of 4 and an `Open` given the file 3 under number 5. -/
def closeReadOpen : List (Container × Handler) :=
  [(givingContainer ⟨3, 5, false⟩, .close ⟨3⟩),
    (givingContainer ⟨3, 5, false⟩, .use (.read ⟨4, 0, 4⟩)),
    (givingContainer ⟨3, 5, false⟩, .open ⟨"/c", 0, 0o644⟩)]

/-- `serveConn` follows a schedule in stretches. -/
theorem serveConn_append (b : Books) (calls : List (Container × Handler)) (s₁ s₂ : List ℕ) :
    serveConn b calls (s₁ ++ s₂) = satellite.run (serveConn b calls s₁) s₂ :=
  Threads.run_append _ s₁ s₂

/-- A `Close` of `r.fd` that finds `f` there, after `p` of its steps. -/
def closeAt (c : Container) (r : CloseRequest) (f : File) (p : ℕ) : Goroutine :=
  ⟨c, .close r, min p 3, if p = 0 then none else some f, none⟩

section CloseAt

variable (c : Container) (r : CloseRequest) (f : File) (s : Shared)

theorem closeAt_zero : closeAt c r f 0 = Goroutine.start (c, .close r) :=
  rfl

theorem closeAt_step_zero (hk : s.books.fso.fds.lookup r.fd = some f) :
    (closeAt c r f 0).step s = (closeAt c r f 1, s) := by
  simp [closeAt, hk]

theorem closeAt_step_one :
    (closeAt c r f 1).step s =
      (closeAt c r f 2,
        (s.crash (DockerFuseFSOps.closeOn (s.container c) f).isPanic).closeFile f) :=
  rfl

theorem closeAt_step_two : (closeAt c r f 2).step s = (closeAt c r f 3, s.erase r.fd) :=
  rfl

theorem closeAt_step_of_three_le {p : ℕ} (hp : 3 ≤ p) :
    (closeAt c r f p).step s = (closeAt c r f (p + 1), s) := by
  have hmin : min p 3 = 3 := by omega
  have hmin' : min (p + 1) 3 = 3 := by omega
  simp [closeAt, hmin, hmin', show p ≠ 0 by omega]

end CloseAt

/-- A `Close` of `f`'s number after `p` of its steps, with no other goroutine on the
number: `f` stays stored until its `delete`, it is closed from its `Close()` on, and the
process has ended then if `Close()` panicked. -/
structure CloseProgress (c : Container) (r : CloseRequest) (f : File) (p : ℕ) (s : Shared) :
    Prop where
  stored : p ≤ 2 → s.books.fso.fds.lookup r.fd = some f
  closed : f ∈ s.books.closed ↔ 2 ≤ p
  crashed : s.crashed = (decide (2 ≤ p) && (DockerFuseFSOps.closeOn c f).isPanic)

/-- **The step lemma** of a `Close` alone on its number. -/
theorem CloseProgress.step {c : Container} {r : CloseRequest} {f : File} {p : ℕ} {s : Shared}
    (h : CloseProgress c r f p s) :
    ((closeAt c r f p).step s).1 = closeAt c r f (p + 1) ∧
      CloseProgress c r f (p + 1) ((closeAt c r f p).step s).2 := by
  obtain rfl | rfl | rfl | hp : p = 0 ∨ p = 1 ∨ p = 2 ∨ 3 ≤ p := by omega
  · rw [closeAt_step_zero c r f s (h.stored (by omega))]
    exact ⟨rfl, fun _ => h.stored (by omega), by simpa using h.closed, by simpa using h.crashed⟩
  · -- `Close()` of the file, open until now
    have hopen : f ∉ s.books.closed := fun hf => absurd (h.closed.mp hf) (by omega)
    rw [closeAt_step_one, Shared.closeOn_container_of_not_mem c hopen]
    refine ⟨rfl, fun _ => ?_, iff_of_true (Shared.mem_closeFile_closed _ f) (by omega), ?_⟩
    · simpa using h.stored (by omega)
    · simp [h.crashed]
  · rw [closeAt_step_two]
    refine ⟨rfl, fun hp => absurd hp (by omega), ?_, ?_⟩
    · simpa using h.closed
    · simpa using h.crashed
  · rw [closeAt_step_of_three_le c r f s hp]
    refine ⟨rfl, fun hp' => absurd hp' (by omega), iff_of_true (h.closed.mpr (by omega)) (by omega),
      ?_⟩
    simp [h.crashed, show 2 ≤ p by omega, show 2 ≤ p + 1 by omega]

/-- The `Close` runs `n` steps in the second slot, while the first goroutine waits. -/
theorem CloseProgress.run_replicate {c : Container} {r : CloseRequest} {f : File} {p : ℕ}
    {s : Shared} (h : CloseProgress c r f p s) (u : Goroutine) (n : ℕ) :
    ∃ s', satellite.run ⟨s, [u, closeAt c r f p]⟩ (List.replicate n 1) =
      ⟨s', [u, closeAt c r f (p + n)]⟩ ∧ CloseProgress c r f (p + n) s' := by
  induction n generalizing p s with
  | zero => exact ⟨s, rfl, h⟩
  | succ n ih =>
    obtain ⟨hstep, h'⟩ := h.step
    obtain ⟨s', hrun, hs'⟩ := ih h'
    have hpn : p + 1 + n = p + (n + 1) := by omega
    refine ⟨s', ?_, hpn ▸ hs'⟩
    rw [List.replicate_succ, Threads.run_cons, Threads.tick_cons_succ, Threads.tick_cons_zero]
    dsimp only
    rw [satellite_step, hstep, hrun, hpn]

/-- Once the method's goroutine has returned, the rest of the `Close` changes no crash. -/
theorem run_crashed_of_use_done {c c' : Container} {q : FileRequest} {r : CloseRequest}
    {held : Option File} {f : File} {p : ℕ} (hp : 2 ≤ p) {s : Shared} (rest : List ℕ) :
    (satellite.run ⟨s, [⟨c, .use q, 2, held, none⟩, closeAt c' r f p]⟩ rest).shared.crashed =
      s.crashed := by
  -- the shape of the world and its crash flag are kept by every step
  obtain ⟨s', p', -, hrun, hcrash⟩ := Threads.run_inv (T := satellite)
    (fun w => ∃ s' p', 2 ≤ p' ∧ w = ⟨s', [⟨c, .use q, 2, held, none⟩, closeAt c' r f p']⟩ ∧
      s'.crashed = s.crashed)
    (fun w i => by
      rintro ⟨s', p', hp', rfl, hcr⟩
      rcases i with _ | _ | i
      · exact ⟨s', p', hp', by simp, hcr⟩
      · obtain rfl | hp'' : p' = 2 ∨ 3 ≤ p' := by omega
        · exact ⟨s'.erase r.fd, 3, by omega, by simp [closeAt_step_two], by simpa using hcr⟩
        · exact ⟨s', p' + 1, by omega, by simp [closeAt_step_of_three_le c' r f s' hp''], hcr⟩
      · exact ⟨s', p', hp', by rw [Threads.tick_of_getElem?_none (by simp)], hcr⟩)
    ⟨s, p, hp, rfl, rfl⟩ rest
  rw [hrun]
  exact hcrash

/-- **A method on a file closed under it.** From safe books with `f` under number `k`,
take a `Read`, `Write`, `Seek` or `Fsync` of `k` and a concurrent `Close` of `k`, and
any interleaving in which the method's goroutine reads the number before the `Close`
deletes it (the `Close` has taken at most two steps) and calls its method once the
`Close` has closed `f`. The process ends exactly when the `Close()` itself panicked or
the method panics on the closed file: always for `Seek` and `Fsync`, and for `Read`
and `Write` unless `os` returns `(0, nil)` or `WriteAt`'s refusal of `O_APPEND`. -/
theorem close_during_use_panics {b : Books} (hb : b.Safe) {k : UInt64} {f : File}
    (hk : b.fso.fds.lookup k = some f) (c c' : Container) {q : FileRequest} {r : CloseRequest}
    (hq : q.fd = k) (hr : r.fd = k) {a n : ℕ} (ha : a ≤ 2) (hn : 2 ≤ a + n) (rest : List ℕ) :
    (serveConn b [(c, .use q), (c', .close r)]
        (List.replicate a 1 ++ [0] ++ List.replicate n 1 ++ [0] ++ rest)).shared.crashed =
      ((DockerFuseFSOps.closeOn c' f).isPanic || q.panicsOnClosed f) := by
  subst hr
  have hopen : f ∉ b.closed := (hb.fds_live r.fd f hk).2
  have h₀ : CloseProgress c' r f 0 ⟨b, false⟩ := ⟨fun _ => hk, by simpa using hopen, rfl⟩
  -- the `Close` takes `a` steps, and `f` is still stored when the method's goroutine looks
  obtain ⟨s₁, hrun₁, h₁⟩ := h₀.run_replicate (Goroutine.start (c, .use q)) a
  have hlook : s₁.books.fso.fds.lookup q.fd = some f := hq ▸ h₁.stored (by omega)
  have hw₁ : satellite.run ⟨⟨b, false⟩, [Goroutine.start (c, .use q), closeAt c' r f 0]⟩
      (List.replicate a 1 ++ [0]) =
        ⟨s₁, [⟨c, .use q, 1, some f, none⟩, closeAt c' r f (0 + a)]⟩ := by
    rw [Threads.run_append, hrun₁]
    simp [Goroutine.start, hlook]
  -- the `Close` goes on past its `Close()`, and the method meets the closed file
  obtain ⟨s₂, hrun₂, h₂⟩ := h₁.run_replicate ⟨c, .use q, 1, some f, none⟩ n
  have hclosed : f ∈ s₂.books.closed := h₂.closed.mpr (by omega)
  have hw₂ : satellite.run ⟨s₁, [⟨c, .use q, 1, some f, none⟩, closeAt c' r f (0 + a)]⟩
      (List.replicate n 1 ++ [0]) =
        ⟨s₂.crash (q.response (s₂.container c) f).isPanic,
          [⟨c, .use q, 2, some f, none⟩, closeAt c' r f (0 + a + n)]⟩ := by
    rw [Threads.run_append, hrun₂]
    simp
  rw [serveConn, List.map_cons, List.map_cons, List.map_nil, ← closeAt_zero c' r f,
    List.append_assoc (List.replicate a 1 ++ [0]), Threads.run_append, Threads.run_append, hw₁,
    hw₂, run_crashed_of_use_done (by omega), Shared.crash_crashed,
    Shared.isPanic_response_container_of_mem c hclosed, h₂.crashed]
  simp [hn]

theorem close_during_use_panics_twoOpen :
    twoOpenBooks.Safe ∧ twoOpenBooks.fso.fds.lookup 3 = some ⟨1, 3, false⟩ ∧
      (FileRequest.read ⟨3, 0, 4⟩).fd = 3 ∧ (⟨3⟩ : CloseRequest).fd = 3 ∧ 1 ≤ 2 ∧ 2 ≤ 1 + 1 ∧
      (serveConn twoOpenBooks [(twoFilesContainer, .use (.read ⟨3, 0, 4⟩)),
          (twoFilesContainer, .close ⟨3⟩)]
          (List.replicate 1 1 ++ [0] ++ List.replicate 1 1 ++ [0] ++ [1])).shared.crashed =
        ((DockerFuseFSOps.closeOn twoFilesContainer ⟨1, 3, false⟩).isPanic ||
          (FileRequest.read ⟨3, 0, 4⟩).panicsOnClosed ⟨1, 3, false⟩) :=
  have hk : twoOpenBooks.fso.fds.lookup 3 = some ⟨1, 3, false⟩ := by decide
  ⟨twoOpenBooks_safe, hk, rfl, rfl, by decide, by decide,
    close_during_use_panics twoOpenBooks_safe hk twoFilesContainer twoFilesContainer rfl rfl
      (by decide) (by decide) [1]⟩

/-- A `Read` of some bytes from offset 0 panics on the closed file. -/
example : (FileRequest.read ⟨3, 0, 4⟩).panicsOnClosed ⟨1, 3, false⟩ = true := by decide

/-- A `Read` of nothing returns `(0, nil)`. -/
example : (FileRequest.read ⟨3, 0, 0⟩).panicsOnClosed ⟨1, 3, false⟩ = false := by decide

/-! ### Two `Close`s of one number -/

/-- Two `Close`s of `f`'s number `k`, after `p₀` and `p₁` of their steps: `f` stays
stored until a `delete`, it is closed from the first `Close()` on, and the process has
ended once both have called `Close()`. -/
structure CloseTwice (f : File) (k : UInt64) (p₀ p₁ : ℕ) (s : Shared) : Prop where
  stored : p₀ ≤ 2 → p₁ ≤ 2 → s.books.fso.fds.lookup k = some f
  closed : f ∈ s.books.closed ↔ 2 ≤ p₀ ∨ 2 ≤ p₁
  crashed : 2 ≤ p₀ → 2 ≤ p₁ → s.crashed = true

theorem CloseTwice.symm {f : File} {k : UInt64} {p₀ p₁ : ℕ} {s : Shared}
    (h : CloseTwice f k p₀ p₁ s) : CloseTwice f k p₁ p₀ s :=
  ⟨fun h₁ h₀ => h.stored h₀ h₁, h.closed.trans or_comm, fun h₁ h₀ => h.crashed h₀ h₁⟩

/-- **The step lemma**: a step of one `Close`, which looks `k` up only while neither has
deleted it. The second `Close()` meets a closed file. -/
theorem CloseTwice.step {f : File} {k : UInt64} {p q : ℕ} {s : Shared}
    (h : CloseTwice f k p q s) (hp : p = 0 → q ≤ 2) (c : Container) {r : CloseRequest}
    (hr : r.fd = k) :
    ((closeAt c r f p).step s).1 = closeAt c r f (p + 1) ∧
      CloseTwice f k (p + 1) q ((closeAt c r f p).step s).2 := by
  subst hr
  obtain rfl | rfl | rfl | hp' : p = 0 ∨ p = 1 ∨ p = 2 ∨ 3 ≤ p := by omega
  · rw [closeAt_step_zero c r f s (h.stored (by omega) (hp rfl))]
    exact ⟨rfl, fun _ => h.stored (by omega), by simpa using h.closed,
      fun h₀ => absurd h₀ (by omega)⟩
  · rw [closeAt_step_one]
    refine ⟨rfl, fun _ hq => by simpa using h.stored (by omega) hq,
      iff_of_true (by simpa using Shared.mem_closeFile_closed _ f) (Or.inl (le_refl 2)),
      fun _ hq => ?_⟩
    -- the other `Close()` came first: this one meets a closed file
    have hclosed : f ∈ s.books.closed := h.closed.mpr (.inr hq)
    simp [Shared.closeOn_container_of_mem c hclosed, Response.isPanic]
  · rw [closeAt_step_two]
    exact ⟨rfl, fun h₀ => absurd h₀ (by omega),
      iff_of_true (h.closed.mpr (Or.inl (le_refl 2))) (Or.inl (by omega)),
      fun _ hq => by simpa using h.crashed (le_refl 2) hq⟩
  · rw [closeAt_step_of_three_le c r f s hp']
    exact ⟨rfl, fun h₀ => absurd h₀ (by omega),
      h.closed.trans (iff_of_true (Or.inl (by omega)) (Or.inl (by omega))),
      fun _ hq => h.crashed (by omega) hq⟩

/-- **The run lemma**: along a schedule in which each `Close` looks `k` up, if it has not,
before the other has deleted it, each has taken as many steps as the schedule gives it. -/
theorem CloseTwice.run {f : File} {k : UInt64} (c₀ c₁ : Container) {r₀ r₁ : CloseRequest}
    (h₀ : r₀.fd = k) (h₁ : r₁.fd = k) (sched : List ℕ) :
    ∀ {p₀ p₁ : ℕ} {s : Shared}, CloseTwice f k p₀ p₁ s →
      (1 ≤ p₀ ∨ p₁ + sched.count 1 ≤ 2) → (1 ≤ p₁ ∨ p₀ + sched.count 0 ≤ 2) →
      ∃ s', satellite.run ⟨s, [closeAt c₀ r₀ f p₀, closeAt c₁ r₁ f p₁]⟩ sched =
          ⟨s', [closeAt c₀ r₀ f (p₀ + sched.count 0), closeAt c₁ r₁ f (p₁ + sched.count 1)]⟩ ∧
        CloseTwice f k (p₀ + sched.count 0) (p₁ + sched.count 1) s' := by
  induction sched with
  | nil => exact fun h _ _ => ⟨_, rfl, h⟩
  | cons j sched ih =>
    intro p₀ p₁ s h hl₀ hl₁
    rcases j with _ | _ | j
    · -- the first `Close` steps
      have hc₀ : (0 :: sched).count 0 = sched.count 0 + 1 := List.count_cons_self
      have hc₁ : (0 :: sched).count 1 = sched.count 1 := by simp
      obtain ⟨hstep, h'⟩ := h.step (fun hp => by omega) c₀ h₀
      obtain ⟨s', hrun, hs'⟩ := ih h' (.inl (by omega)) (by omega)
      rw [hc₀, hc₁, show p₀ + (sched.count 0 + 1) = p₀ + 1 + sched.count 0 by omega]
      refine ⟨s', ?_, hs'⟩
      rw [Threads.run_cons, Threads.tick_cons_zero, satellite_step, hstep, hrun]
    · -- the second one
      have hc₀ : ((0 + 1) :: sched).count 0 = sched.count 0 := by simp
      have hc₁ : ((0 + 1) :: sched).count 1 = sched.count 1 + 1 := List.count_cons_self
      obtain ⟨hstep, h'⟩ := h.symm.step (fun hp => by omega) c₁ h₁
      obtain ⟨s', hrun, hs'⟩ := ih h'.symm (by omega) (.inl (by omega))
      rw [hc₀, hc₁, show p₁ + (sched.count 1 + 1) = p₁ + 1 + sched.count 1 by omega]
      refine ⟨s', ?_, hs'⟩
      rw [Threads.run_cons, Threads.tick_cons_succ, Threads.tick_cons_zero]
      dsimp only
      rw [satellite_step, hstep, hrun]
    · -- a number with no goroutine
      have hc₀ : ((j + 1 + 1) :: sched).count 0 = sched.count 0 := by simp
      have hc₁ : ((j + 1 + 1) :: sched).count 1 = sched.count 1 := by simp
      rw [hc₀, hc₁, Threads.run_cons, Threads.tick_of_getElem?_none (by simp)]
      exact ih h (by omega) (by omega)

/-- **Two `Close`s of one number.** From safe books with `f` under number `k`, two
concurrent `Close`s of `k`, along every interleaving in which both read the number before
either deletes it (a first stretch where each takes one or two steps) and both go on to
call `Close()`: the second `Close()` meets a closed file, and the encoder panics on its
`PathError`. -/
theorem close_twice_panics {b : Books} (hb : b.Safe) {k : UInt64} {f : File}
    (hk : b.fso.fds.lookup k = some f) (c₀ c₁ : Container) {r₀ r₁ : CloseRequest}
    (h₀ : r₀.fd = k) (h₁ : r₁.fd = k) {s₁ s₂ : List ℕ}
    (hlook : ∀ j < 2, 1 ≤ s₁.count j ∧ s₁.count j ≤ 2)
    (hclose : ∀ j < 2, 2 ≤ (s₁ ++ s₂).count j) :
    (serveConn b [(c₀, .close r₀), (c₁, .close r₁)] (s₁ ++ s₂)).shared.crashed = true := by
  have hopen : f ∉ b.closed := (hb.fds_live k f hk).2
  have hinit : CloseTwice f k 0 0 ⟨b, false⟩ :=
    ⟨fun _ _ => hk, by simpa using hopen, fun h => absurd h (by omega)⟩
  obtain ⟨hl₀, hu₀⟩ := hlook 0 (by omega)
  obtain ⟨hl₁, hu₁⟩ := hlook 1 (by omega)
  have hc₀ := hclose 0 (by omega)
  have hc₁ := hclose 1 (by omega)
  rw [List.count_append] at hc₀ hc₁
  -- both look `k` up in the first stretch, where neither deletes it
  obtain ⟨t, ht, hinv⟩ := CloseTwice.run c₀ c₁ h₀ h₁ s₁ hinit (.inr (by omega)) (.inr (by omega))
  obtain ⟨t', ht', hinv'⟩ := CloseTwice.run c₀ c₁ h₀ h₁ s₂ hinv (.inl (by omega)) (.inl (by omega))
  rw [serveConn_append, serveConn, List.map_cons, List.map_cons, List.map_nil,
    ← closeAt_zero c₀ r₀ f, ← closeAt_zero c₁ r₁ f, ht, ht']
  exact hinv'.crashed (by omega) (by omega)

theorem close_twice_panics_twoOpen :
    twoOpenBooks.Safe ∧ twoOpenBooks.fso.fds.lookup 3 = some ⟨1, 3, false⟩ ∧
      (⟨3⟩ : CloseRequest).fd = 3 ∧
      (∀ j < 2, 1 ≤ [0, 1].count j ∧ [0, 1].count j ≤ 2) ∧
      (∀ j < 2, 2 ≤ ([0, 1] ++ [1, 0, 0]).count j) ∧
      (serveConn twoOpenBooks [(twoFilesContainer, .close ⟨3⟩), (twoFilesContainer, .close ⟨3⟩)]
        ([0, 1] ++ [1, 0, 0])).shared.crashed = true :=
  have hk : twoOpenBooks.fso.fds.lookup 3 = some ⟨1, 3, false⟩ := by decide
  have hlook : ∀ j < 2, 1 ≤ [0, 1].count j ∧ [0, 1].count j ≤ 2 := by decide
  have hclose : ∀ j < 2, 2 ≤ ([0, 1] ++ [1, 0, 0]).count j := by decide
  ⟨twoOpenBooks_safe, hk, rfl, hlook, hclose,
    close_twice_panics twoOpenBooks_safe hk twoFilesContainer twoFilesContainer rfl rfl hlook
      hclose⟩

/-! ### An `Open` between a `Close` and its `delete` -/

/-- `Close` of a stored number reads it and closes the file, and stops before its
deferred `delete`. -/
theorem serveConn_close_first {b : Books} (hb : b.Safe) {f : File} {c : Container}
    {r : CloseRequest} (hk : b.fso.fds.lookup r.fd = some f) (call : Container × Handler) :
    serveConn b [(c, .close r), call] [0, 0] =
      ⟨⟨⟨b.fso, b.opened, b.closed ++ [f]⟩, (DockerFuseFSOps.closeOn c f).isPanic⟩,
        [⟨c, .close r, 2, some f, none⟩, Goroutine.start call]⟩ := by
  have hopen : f ∉ b.closed := (hb.fds_live r.fd f hk).2
  simp only [serveConn, List.map_cons, List.map_nil, Threads.run_cons, Threads.run_nil,
    Threads.tick_cons_zero, satellite, Goroutine.start, step_close_lookup, hk,
    Option.isSome_some, if_true, step_close_close,
    Shared.closeOn_container_of_not_mem (s := ⟨b, false⟩) c hopen]
  simp [Shared.crash, Shared.closeFile_of_not_mem (s := ⟨b, _⟩) hopen]

/-- Then an `Open` given a new file `g` under the same number runs to its end, and the
`Close`'s `delete` comes last. -/
theorem serveConn_close_open {b : Books} (hb : b.Safe) {f g : File} {c c' : Container}
    {r : CloseRequest} {r' : OpenRequest} (hfd : r.fd = g.fd)
    (hk : b.fso.fds.lookup r.fd = some f) (hg : openedBy c' (.open r') = some g)
    (hgc : g ∉ b.closed ++ [f]) :
    serveConn b [(c, .close r), (c', .open r')] [0, 0, 1, 1, 1, 1, 1, 0] =
      ⟨⟨⟨⟨(b.fso.fds.insert g.fd g).erase r.fd⟩, b.opened ++ [g], b.closed ++ [f]⟩,
        (DockerFuseFSOps.closeOn c f).isPanic || (DockerFuseFSOps.openStat c' g).isPanic⟩,
        [⟨c, .close r, 3, some f, none⟩, ⟨c', .open r', 5, some g, some f⟩]⟩ := by
  have hk' : b.fso.fds.lookup g.fd = some f := hfd ▸ hk
  rw [show [0, 0, 1, 1, 1, 1, 1, 0] = [0, 0] ++ [1, 1, 1, 1, 1, 0] from rfl, serveConn_append,
    serveConn_close_first hb hk]
  simp only [Goroutine.start, Threads.run_cons, Threads.run_nil, Threads.tick_cons_zero,
    Threads.tick_cons_succ, satellite_step, step_open_acquire _ _ _ _ _ _ hg, step_open_lookup,
    Shared.acquire_books_fso, hk', step_open_closeStale, Option.elim_some, step_open_store,
    step_open_stat, step_close_erase]
  -- the stale `f` is closed already, and `g` is not
  rw [Shared.closeFile_of_mem (List.mem_append_right b.closed (List.mem_singleton_self f)),
    Shared.openStat_container_of_not_mem c' hgc]
  simp [Shared.crash, Shared.store, Shared.erase, Shared.acquire, hfd]

/-- **An `Open` between a `Close` and its `delete` loses its file.** `Close` of `k`
closes `f`; the OS, for which `k` is now free, gives an `Open` the new file `g` under
`k`. The `Open` finds `f` still stored, closes it again and ignores the error, and
stores `g`; then the `Close`'s deferred `delete` removes `g`. With a `Close()` and a
`Stat()` that return, no goroutine panics and both return, but `g` stays open with no
number: no later request can reach or close it, and `CloseAllFDs` does not see it. -/
theorem open_during_close_loses_file {b : Books} (hb : b.Safe) {k : UInt64} {f : File}
    (hk : b.fso.fds.lookup k = some f) {c c' : Container} {r : CloseRequest}
    {r' : OpenRequest} (hr : r.fd = k) {g : File} (hg : openedBy c' (.open r') = some g)
    (hgnew : g ∉ b.opened) (hgk : g.fd = k) (hclose : DockerFuseFSOps.closeOn c f ≠ .panic)
    (hstat : DockerFuseFSOps.openStat c' g ≠ .panic) :
    (∀ f', (serveConn b [(c, .close r), (c', .open r')] [0, 0]).shared.books.history.Live f' →
        f'.fd ≠ k) ∧
      (serveConn b [(c, .close r), (c', .open r')] [0, 0, 1, 1, 1, 1, 1, 0]).shared.crashed =
        false ∧
      (serveConn b [(c, .close r), (c', .open r')] [0, 0, 1, 1, 1, 1, 1, 0]).threads.all
        Goroutine.done = true ∧
      (serveConn b [(c, .close r), (c', .open r')]
        [0, 0, 1, 1, 1, 1, 1, 0]).shared.books.history.Live g ∧
      ∀ k', (serveConn b [(c, .close r), (c', .open r')]
        [0, 0, 1, 1, 1, 1, 1, 0]).shared.books.fso.fds.lookup k' ≠ some g := by
  subst hr
  -- `g` is new: neither closed nor the stored `f`
  have hgf : g ≠ f := fun h => hgnew (h ▸ (hb.fds_live r.fd f hk).1)
  have hgclosed : g ∉ b.closed ++ [f] := by
    rw [List.mem_append, List.mem_singleton, not_or]
    exact ⟨fun h => hgnew (hb.wf.released_acquired g h), hgf⟩
  have hrun := serveConn_close_open (c := c) hb hgk.symm hk hg hgclosed
  refine ⟨fun f' hf' => ?_, ?_, by rw [hrun]; rfl, ?_, fun k' hk' => ?_⟩
  · -- when `OpenFile` runs, `f` is closed and every other open file is stored elsewhere
    rw [serveConn_close_first hb hk] at hf'
    obtain ⟨hacq, hrel⟩ := hf'
    have hrel' : f' ∉ b.closed ++ [f] := hrel
    rw [List.mem_append, List.mem_singleton, not_or] at hrel'
    obtain ⟨k', hk'⟩ := (hb.live_iff f').mpr ⟨hacq, hrel'.1⟩
    intro hfd
    rw [← hfd, hb.fd_eq k' f' hk', hk', Option.some_inj] at hk
    exact hrel'.2 hk
  · rw [hrun]
    simp [Response.isPanic_eq_false hclose, Response.isPanic_eq_false hstat]
  · rw [hrun]
    exact ⟨List.mem_append_right _ (List.mem_singleton_self g), hgclosed⟩
  · -- the number of `g` is deleted; every other holds what it held, never `g`
    rw [hrun] at hk'
    by_cases hkk : k' = r.fd
    · rw [hkk, AList.lookup_erase] at hk'
      cases hk'
    · rw [AList.lookup_erase_ne hkk, AList.lookup_insert_ne (hgk ▸ hkk)] at hk'
      exact hgnew (hb.fds_live k' g hk').1

theorem open_during_close_loses_file_twoOpen :
    twoOpenBooks.Safe ∧ twoOpenBooks.fso.fds.lookup 3 = some ⟨1, 3, false⟩ ∧
      (⟨3⟩ : CloseRequest).fd = 3 ∧
      openedBy (givingContainer ⟨3, 3, false⟩) (.open ⟨"/c", 0, 0o644⟩) = some ⟨3, 3, false⟩ ∧
      (⟨3, 3, false⟩ : File) ∉ twoOpenBooks.opened ∧ (⟨3, 3, false⟩ : File).fd = 3 ∧
      DockerFuseFSOps.closeOn twoFilesContainer ⟨1, 3, false⟩ ≠ .panic ∧
      DockerFuseFSOps.openStat (givingContainer ⟨3, 3, false⟩) ⟨3, 3, false⟩ ≠ .panic ∧
      ((∀ f', (serveConn twoOpenBooks [(twoFilesContainer, .close ⟨3⟩),
            (givingContainer ⟨3, 3, false⟩, .open ⟨"/c", 0, 0o644⟩)]
            [0, 0]).shared.books.history.Live f' → f'.fd ≠ 3) ∧
        (serveConn twoOpenBooks [(twoFilesContainer, .close ⟨3⟩),
          (givingContainer ⟨3, 3, false⟩, .open ⟨"/c", 0, 0o644⟩)]
          [0, 0, 1, 1, 1, 1, 1, 0]).shared.crashed = false ∧
        (serveConn twoOpenBooks [(twoFilesContainer, .close ⟨3⟩),
          (givingContainer ⟨3, 3, false⟩, .open ⟨"/c", 0, 0o644⟩)]
          [0, 0, 1, 1, 1, 1, 1, 0]).threads.all Goroutine.done = true ∧
        (serveConn twoOpenBooks [(twoFilesContainer, .close ⟨3⟩),
          (givingContainer ⟨3, 3, false⟩, .open ⟨"/c", 0, 0o644⟩)]
          [0, 0, 1, 1, 1, 1, 1, 0]).shared.books.history.Live ⟨3, 3, false⟩ ∧
        ∀ k', (serveConn twoOpenBooks [(twoFilesContainer, .close ⟨3⟩),
          (givingContainer ⟨3, 3, false⟩, .open ⟨"/c", 0, 0o644⟩)]
          [0, 0, 1, 1, 1, 1, 1, 0]).shared.books.fso.fds.lookup k' ≠ some ⟨3, 3, false⟩) :=
  have hk : twoOpenBooks.fso.fds.lookup 3 = some ⟨1, 3, false⟩ := by decide
  have hclose : DockerFuseFSOps.closeOn twoFilesContainer ⟨1, 3, false⟩ ≠ .panic := by decide
  have hstat : DockerFuseFSOps.openStat (givingContainer ⟨3, 3, false⟩) ⟨3, 3, false⟩ ≠ .panic := by
    decide
  ⟨twoOpenBooks_safe, hk, rfl, rfl, by decide, rfl, hclose, hstat,
    open_during_close_loses_file twoOpenBooks_safe hk rfl rfl (by decide) rfl hclose hstat⟩

end DockerFuse.Satellite
