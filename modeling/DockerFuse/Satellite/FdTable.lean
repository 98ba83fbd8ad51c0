import DockerFuse.Satellite.Server

/-!
# The satellite's table of open files

`DockerFuseFSOps.fds` holds every file the satellite has open for the client, under
the number `Fd()` gave for it. This module follows it over whole runs: any sequence
of requests, each answered by the container in any way, failures included.

Everything a request can do to the table is said once, in
`DockerFuse.Satellite.serve_cases`: `Open` stores the file `OpenFile` gave (closing a
file stored under the same number), `Close` deletes its number (closing what was
there), `CloseAllFDs` empties the table (closing everything), and every other request
leaves it alone. From it:

* `DockerFuse.Satellite.Books.Inv.run` – over every run, each number in the table
  holds a file whose `Fd()` is that number, and every file `OpenFile` gave the
  satellite is in the table or has been closed: no descriptor leaks inside the
  satellite;
* `DockerFuse.Satellite.mem_fds_run` – the numbers in the table are those that
  `liveAfter` computes: the number of every file `OpenFile` gave, until a `Close`
  names it or `CloseAllFDs` runs.

The table is filled as soon as `OpenFile` succeeds, before `fd.Stat()`, so a number
whose `Open` ended in an error is in it too: the client never learns that number,
and `DockerFuse.Satellite.open_stat_failure_keeps_fd` shows such a run.
-/

namespace DockerFuse.Satellite

open Syscall Rpccommon

/-- The file a call closes, if it is a `Close`. -/
def Call.closedFile : Call → Option File
  | .close f => some f
  | _ => none

/-- The file a call works on, if it is a method of an open file. -/
def Call.file? : Call → Option File
  | .close f | .readAt f .. | .seek f .. | .stat f | .sync f | .writeAt f .. => some f
  | _ => none

/-- The files a list of calls closes. -/
def closedBy (calls : List Call) : List File :=
  calls.filterMap Call.closedFile

/-- The file `OpenFile` gives the satellite while it serves this request, if any. -/
def openedBy (c : Container) : Request → Option File
  | .open r => (c.openFile r.fullPath (saFlagsToSystem linux r.saFlags) r.mode).toOption
  | _ => none

/-- `OpenFile` gave `Open` the file `f`. -/
theorem openedBy_open_eq_some {c : Container} {r : OpenRequest} {f : File} :
    openedBy c (.open r) = some f ↔
      c.openFile r.fullPath (saFlagsToSystem linux r.saFlags) r.mode = .ok f := by
  simp only [openedBy]
  cases h : c.openFile r.fullPath (saFlagsToSystem linux r.saFlags) r.mode <;>
    simp [Except.toOption]

@[simp] theorem closedBy_cons_close (f : File) (calls : List Call) :
    closedBy (.close f :: calls) = f :: closedBy calls := rfl

/-! ### What one request does -/

/-- `Open` when `OpenFile` succeeds: the file is stored under its number whether or
not `fd.Stat()` then fails, and the file stored there before is closed. -/
theorem open_of_openFile_ok (fso : DockerFuseFSOps) {c : Container} {r : OpenRequest} {f : File}
    (hf : c.openFile r.fullPath (saFlagsToSystem linux r.saFlags) r.mode = .ok f) :
    (fso.open c r).fso.fds = fso.fds.insert f.fd f ∧
      ∀ old, fso.fds.lookup f.fd = some old → old ∈ closedBy (fso.open c r).calls := by
  unfold DockerFuseFSOps.open
  dsimp only
  rw [hf]
  dsimp only
  -- both endings of `fd.Stat()` leave the same table and close the same stale file
  refine ⟨?_, fun old hold => ?_⟩
  · cases c.stat f <;> rfl
  · rw [hold]
    cases c.stat f <;> simp [closedBy, Call.closedFile]

/-- `Open` when `OpenFile` fails changes nothing. -/
theorem open_of_openFile_error (fso : DockerFuseFSOps) {c : Container} {r : OpenRequest}
    {err : GoError}
    (hf : c.openFile r.fullPath (saFlagsToSystem linux r.saFlags) r.mode = .error err) :
    (fso.open c r).fso = fso := by
  unfold DockerFuseFSOps.open
  dsimp only
  rw [hf]

/-- `Open` that replies: `OpenFile` gave a file, the reply names its number, and the
file is stored under that number. -/
theorem open_of_ok (fso : DockerFuseFSOps) {c : Container} {r : OpenRequest} {reply : OpenReply}
    (h : (fso.open c r).response = .ok reply) :
    ∃ f, c.openFile r.fullPath (saFlagsToSystem linux r.saFlags) r.mode = .ok f ∧
      reply.fd = f.fd ∧ (fso.open c r).fso.fds = fso.fds.insert f.fd f := by
  unfold DockerFuseFSOps.open at h
  dsimp only at h
  cases hf : c.openFile r.fullPath (saFlagsToSystem linux r.saFlags) r.mode with
  | error err =>
    rw [hf] at h
    exact absurd h (Response.ofError_ne_ok err reply)
  | ok f =>
    refine ⟨f, rfl, ?_, (open_of_openFile_ok fso hf).1⟩
    rw [hf] at h
    dsimp only at h
    -- only a successful `fd.Stat()` makes a reply, and it names the file's number
    cases hs : c.stat f with
    | error err =>
      rw [hs] at h
      exact absurd h (Response.ofError_ne_ok err reply)
    | ok sys =>
      rw [hs] at h
      cases h
      rfl

/-- The only file `Open` closes is the stale one under the new file's number. -/
theorem closedBy_open (fso : DockerFuseFSOps) (c : Container) (r : OpenRequest) :
    closedBy (fso.open c r).calls =
      match c.openFile r.fullPath (saFlagsToSystem linux r.saFlags) r.mode with
      | .ok f => (fso.fds.lookup f.fd).toList
      | .error _ => [] := by
  unfold DockerFuseFSOps.open
  dsimp only
  cases c.openFile r.fullPath (saFlagsToSystem linux r.saFlags) r.mode with
  | error err => rfl
  | ok f =>
    dsimp only
    cases fso.fds.lookup f.fd <;> cases c.stat f <;> rfl

/-- `Close` deletes the number it names, and closes what was stored there. -/
theorem close_fds (fso : DockerFuseFSOps) (c : Container) (r : CloseRequest) :
    (fso.close c r).fso.fds = fso.fds.erase r.fd ∧
      ∀ f, fso.fds.lookup r.fd = some f → f ∈ closedBy (fso.close c r).calls := by
  unfold DockerFuseFSOps.close
  cases hk : fso.fds.lookup r.fd with
  | none =>
    -- the number is not there: deleting it changes nothing
    have hnot : r.fd ∉ fso.fds.entries.keys := fun hmem => by
      have hsome := AList.lookup_isSome.mpr (show r.fd ∈ fso.fds from hmem)
      rw [hk] at hsome
      exact Bool.false_ne_true hsome
    exact ⟨(AList.ext (List.kerase_of_notMem_keys hnot)).symm, fun f hf => nomatch hf⟩
  | some f =>
    refine ⟨rfl, fun g hg => ?_⟩
    cases hg
    simp

/-- `CloseAllFDs` empties the table and closes everything that was in it. -/
theorem closeAllFDs_fds (fso : DockerFuseFSOps) :
    fso.closeAllFDs.1.fds = ∅ ∧
      ∀ k f, fso.fds.lookup k = some f → f ∈ closedBy fso.closeAllFDs.2 := by
  refine ⟨rfl, fun k f hkf => ?_⟩
  have hmem : (⟨k, f⟩ : Sigma fun _ : UInt64 => File) ∈ fso.fds.entries :=
    AList.mem_lookup_iff.mp hkf
  simp only [DockerFuseFSOps.closeAllFDs, closedBy, List.filterMap_map, List.mem_filterMap,
    Function.comp_apply, Call.closedFile, Option.some.injEq]
  exact ⟨⟨k, f⟩, hmem, rfl⟩

/-- **What a request does to the table**, in one statement: `Open` whose `OpenFile`
succeeds stores the file under its number and closes what was stored there;
`Close` deletes its number and closes what was stored there; `CloseAllFDs` empties
the table and closes everything; any other request, a failed `OpenFile` included,
leaves the table alone. Only `Open` is given a file by `OpenFile`. -/
theorem serve_cases (fso : DockerFuseFSOps) (c : Container) (req : Request) :
    let o := fso.serve c req
    (∃ f, openedBy c req = some f ∧ o.fso.fds = fso.fds.insert f.fd f ∧
        ∀ old, fso.fds.lookup f.fd = some old → old ∈ closedBy o.calls) ∨
      (∃ r, req = .close r ∧ openedBy c req = none ∧ o.fso.fds = fso.fds.erase r.fd ∧
        ∀ f, fso.fds.lookup r.fd = some f → f ∈ closedBy o.calls) ∨
      (req = .closeAllFDs ∧ openedBy c req = none ∧ o.fso.fds = ∅ ∧
        ∀ k f, fso.fds.lookup k = some f → f ∈ closedBy o.calls) ∨
      (openedBy c req = none ∧ (∀ r, req ≠ .close r) ∧ req ≠ .closeAllFDs ∧
        o.fso.fds = fso.fds) := by
  intro o
  cases req with
  | «open» r =>
    cases hf : c.openFile r.fullPath (saFlagsToSystem linux r.saFlags) r.mode with
    | error err =>
      have hopen := open_of_openFile_error fso hf
      refine .inr (.inr (.inr ⟨?_, fun _ => ?_, ?_, ?_⟩))
      · simp [openedBy, hf, Except.toOption]
      · simp
      · simp
      · simp [o, DockerFuseFSOps.serve, hopen]
    | ok f =>
      obtain ⟨hfds, hclosed⟩ := open_of_openFile_ok fso hf
      exact .inl ⟨f, by simp [openedBy, hf, Except.toOption], hfds, hclosed⟩
  | close r =>
    obtain ⟨hfds, hclosed⟩ := close_fds fso c r
    exact .inr (.inl ⟨r, rfl, rfl, hfds, hclosed⟩)
  | closeAllFDs =>
    obtain ⟨hfds, hclosed⟩ := closeAllFDs_fds fso
    exact .inr (.inr (.inl ⟨rfl, rfl, hfds, hclosed⟩))
  | stat | readDir | read | seek | write | unlink | fsync | mkdir | rmdir | rename
  | readlink | link | symlink | setAttr =>
    refine .inr (.inr (.inr ⟨rfl, fun _ => ?_, ?_, rfl⟩)) <;> simp

/-! ### Runs -/

/-- A run of the satellite with its books kept: the table, the files `OpenFile` gave
the satellite, and the files it closed. -/
structure Books where
  fso : DockerFuseFSOps
  opened : List File
  closed : List File

/-- Serving one request, and writing it down. -/
def Books.step (b : Books) (c : Container) (req : Request) : Books :=
  let o := b.fso.serve c req
  ⟨o.fso, b.opened ++ (openedBy c req).toList, b.closed ++ closedBy o.calls⟩

@[simp] theorem Books.step_fso (b : Books) (c : Container) (req : Request) :
    (b.step c req).fso = (b.fso.serve c req).fso := rfl

@[simp] theorem Books.step_opened (b : Books) (c : Container) (req : Request) :
    (b.step c req).opened = b.opened ++ (openedBy c req).toList := rfl

@[simp] theorem Books.step_closed (b : Books) (c : Container) (req : Request) :
    (b.step c req).closed = b.closed ++ closedBy (b.fso.serve c req).calls := rfl

/-- Serving the requests in order, each answered by its own container. -/
def Books.run (b : Books) (steps : List (Container × Request)) : Books :=
  steps.foldl (fun b s => b.step s.1 s.2) b

/-- The satellite as it starts. -/
def Books.init : Books :=
  ⟨DockerFuseFSOps.new, [], []⟩

/-- What holds of the books at every point of every run. -/
structure Books.Inv (b : Books) : Prop where
  /-- Each number holds a file whose `Fd()` is that number. -/
  fd_eq : ∀ k f, b.fso.fds.lookup k = some f → f.fd = k
  /-- Every file `OpenFile` gave the satellite is in the table or has been closed. -/
  accounted : ∀ f ∈ b.opened, (∃ k, b.fso.fds.lookup k = some f) ∨ f ∈ b.closed

theorem Books.Inv.init : Books.init.Inv :=
  ⟨fun k f h => by simp [Books.init, DockerFuseFSOps.new, AList.lookup_empty] at h,
    fun f hf => by simp [Books.init] at hf⟩

/-- A file the request closes is in the books' closed files after it. -/
theorem mem_closed_step {b : Books} {c : Container} {req : Request} {f : File}
    (hf : f ∈ closedBy (b.fso.serve c req).calls) : f ∈ (b.step c req).closed :=
  List.mem_append_right _ hf

/-- The files `OpenFile` gave stay accounted for over a step when every stored file
stays stored or is closed by the request, and the file the request opened is stored. -/
theorem Books.Inv.accounted_step {b : Books} (h : b.Inv) {c : Container} {req : Request}
    (hkeep : ∀ k g, b.fso.fds.lookup k = some g →
      (∃ k', (b.step c req).fso.fds.lookup k' = some g) ∨ g ∈ closedBy (b.fso.serve c req).calls)
    (hnew : ∀ f, openedBy c req = some f → ∃ k, (b.step c req).fso.fds.lookup k = some f) :
    ∀ f ∈ (b.step c req).opened,
      (∃ k, (b.step c req).fso.fds.lookup k = some f) ∨ f ∈ (b.step c req).closed := by
  intro g hg
  rw [Books.step_opened, List.mem_append, Option.mem_toList] at hg
  rcases hg with hg | hg
  · rcases h.accounted g hg with ⟨k, hk⟩ | hk
    · exact (hkeep k g hk).imp id mem_closed_step
    · exact .inr (List.mem_append_left _ hk)
  · exact .inl (hnew g hg)

/-- **The step lemma**: every request keeps the books' invariant, whatever the
container answers. -/
theorem Books.Inv.step {b : Books} (h : b.Inv) (c : Container) (req : Request) :
    (b.step c req).Inv := by
  rcases serve_cases b.fso c req with
    ⟨f, hopened, hfds, hstale⟩ | ⟨r, rfl, hopened, hfds, hclosed⟩ |
      ⟨rfl, hopened, hfds, hclosed⟩ | ⟨hopened, -, -, hfds⟩
  · -- `Open` stored `f` under `f.fd`
    have hfds' : (b.step c req).fso.fds = b.fso.fds.insert f.fd f := hfds
    refine ⟨fun k g hg => ?_, h.accounted_step (fun k g hk => ?_) (fun g hg => ?_)⟩
    · by_cases hkf : k = f.fd
      · subst hkf
        rw [hfds', AList.lookup_insert] at hg
        cases hg
        rfl
      · rw [hfds', AList.lookup_insert_ne hkf] at hg
        exact h.fd_eq k g hg
    · by_cases hkf : k = f.fd
      · -- `g` was the stale file under the same number: `Open` closed it
        rw [hkf] at hk
        exact .inr (hstale g hk)
      · exact .inl ⟨k, by rw [hfds', AList.lookup_insert_ne hkf]; exact hk⟩
    · rw [hopened, Option.some_inj] at hg
      rw [← hg]
      exact ⟨f.fd, by rw [hfds', AList.lookup_insert]⟩
  · -- `Close` deleted `r.fd`
    have hfds' : (b.step c (.close r)).fso.fds = b.fso.fds.erase r.fd := hfds
    refine ⟨fun k g hg => ?_, h.accounted_step (fun k g hk => ?_) (fun g hg => ?_)⟩
    · by_cases hkr : k = r.fd
      · subst hkr
        rw [hfds', AList.lookup_erase] at hg
        cases hg
      · rw [hfds', AList.lookup_erase_ne hkr] at hg
        exact h.fd_eq k g hg
    · by_cases hkr : k = r.fd
      · rw [hkr] at hk
        exact .inr (hclosed g hk)
      · exact .inl ⟨k, by rw [hfds', AList.lookup_erase_ne hkr]; exact hk⟩
    · rw [hopened] at hg
      cases hg
  · -- `CloseAllFDs` closed everything
    have hfds' : (b.step c .closeAllFDs).fso.fds = ∅ := hfds
    refine ⟨fun k g hg => ?_, h.accounted_step (fun k g hk => .inr (hclosed k g hk))
      (fun g hg => ?_)⟩
    · rw [hfds', AList.lookup_empty] at hg
      cases hg
    · rw [hopened] at hg
      cases hg
  · -- the table is untouched
    have hfds' : (b.step c req).fso.fds = b.fso.fds := hfds
    refine ⟨fun k g hg => ?_, h.accounted_step (fun k g hk => .inl ⟨k, by rw [hfds']; exact hk⟩)
      (fun g hg => ?_)⟩
    · rw [hfds'] at hg
      exact h.fd_eq k g hg
    · rw [hopened] at hg
      cases hg

/-- **The run lemma**: from any state that satisfies it, the invariant holds after
every run. -/
theorem Books.Inv.run {b : Books} (h : b.Inv) (steps : List (Container × Request)) :
    (b.run steps).Inv := by
  induction steps generalizing b with
  | nil => exact h
  | cons s steps ih => exact ih (h.step s.1 s.2)

/-! ### Which numbers are in the table -/

/-- The numbers the table should hold after a request, as the satellite decides it:
the number of every file `OpenFile` gave, until a `Close` names it or `CloseAllFDs`
runs. -/
def liveAfter (c : Container) (live : Finset UInt64) (req : Request) : Finset UInt64 :=
  match req, openedBy c req with
  | .open _, some f => insert f.fd live
  | .close r, _ => live.erase r.fd
  | .closeAllFDs, _ => ∅
  | _, _ => live

/-- The numbers after a run. -/
def liveRun (live : Finset UInt64) (steps : List (Container × Request)) : Finset UInt64 :=
  steps.foldl (fun live s => liveAfter s.1 live s.2) live

/-- One request moves the table's numbers as `liveAfter` says. -/
theorem mem_serve_fds_iff {fso : DockerFuseFSOps} {live : Finset UInt64}
    (h : ∀ k, k ∈ fso.fds ↔ k ∈ live) (c : Container) (req : Request) (k : UInt64) :
    k ∈ (fso.serve c req).fso.fds ↔ k ∈ liveAfter c live req := by
  rcases serve_cases fso c req with
    ⟨f, hopened, hfds, -⟩ | ⟨r, rfl, -, hfds, -⟩ | ⟨rfl, -, hfds, -⟩ |
      ⟨hopened, hclose, hall, hfds⟩
  · -- only `Open` is given a file
    obtain ⟨r, rfl⟩ : ∃ r, req = .open r := by
      cases req <;> first | exact ⟨_, rfl⟩ | simp [openedBy] at hopened
    have hlive : liveAfter c live (.open r) = insert f.fd live := by
      simp only [liveAfter, hopened]
    rw [hfds, AList.mem_insert, hlive, Finset.mem_insert, h]
  · rw [hfds, AList.mem_erase, liveAfter, Finset.mem_erase, h]
  · rw [hfds, liveAfter]
    simp [AList.mem_keys]
  · have hlive : liveAfter c live req = live := by
      cases req with
      | «open» r => simp only [liveAfter, hopened]
      | close r => exact absurd rfl (hclose r)
      | closeAllFDs => exact absurd rfl hall
      | _ => rfl
    rw [hfds, hlive, h]

/-- **The table refines `liveAfter`**: after every run from the start, a number is in
the table exactly when `liveRun` holds it. -/
theorem mem_fds_run (steps : List (Container × Request)) (k : UInt64) :
    k ∈ (Books.init.run steps).fso.fds ↔ k ∈ liveRun ∅ steps := by
  suffices hgen : ∀ (b : Books) (live : Finset UInt64), (∀ k, k ∈ b.fso.fds ↔ k ∈ live) →
      ∀ k, k ∈ (b.run steps).fso.fds ↔ k ∈ liveRun live steps from
    hgen Books.init ∅ (fun k => by simp [Books.init, DockerFuseFSOps.new, AList.mem_keys]) k
  -- induction on the run, the table and the abstract set moving together
  induction steps with
  | nil => exact fun b live h => h
  | cons s steps ih =>
    intro b live h
    exact ih (b.step s.1 s.2) (liveAfter s.1 live s.2) (mem_serve_fds_iff h s.1 s.2)

/-! ### An `Open` that fails after storing its file -/

/-- The container of the satellite's own test of a failing `fd.Stat()`: `OpenFile`
gives a file numbered 29, and its `Stat()` fails with `EINVAL`. -/
def statFailsContainer : Container :=
  { Container.failing (errnoOf .ENOENT) with
    openFile := fun _ _ _ => .ok ⟨0, 29, false⟩
    stat := fun _ => .error (errnoOf .EINVAL) }

/-- On a fresh satellite, an `Open` whose `fd.Stat()` fails replies with an error,
yet leaves its file stored under number 29, which no reply has named. -/
theorem open_stat_failure_keeps_fd :
    (DockerFuseFSOps.serve DockerFuseFSOps.new statFailsContainer
        (Request.open ⟨"/test/openfile_reg", saFlag .O_RDWR, 0o640⟩)).response =
      .err (.other "errno: EINVAL") ∧
    (DockerFuseFSOps.serve DockerFuseFSOps.new statFailsContainer
        (Request.open ⟨"/test/openfile_reg", saFlag .O_RDWR, 0o640⟩)).fso.fds.lookup 29 =
      some ⟨0, 29, false⟩ := by
  decide

end DockerFuse.Satellite
