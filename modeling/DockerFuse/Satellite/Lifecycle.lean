import DockerFuse.Lifecycle
import DockerFuse.Satellite.FdTable

/-!
# The life of each file the satellite opens

Every `*os.File` the satellite holds comes from `OpenFile` in `Open`, is reached
through the table `fds` by `Read`, `Seek`, `Write`, `Fsync` and `Close`, and is closed
by `Close`, by `Open` when a new file arrives under its number, or by `CloseAllFDs`.
This module shows that the satellite keeps each file to the protocol of
`Lifecycle`: it calls a file's methods only between the `OpenFile` that gave it and
the one `Close` of it, whatever the requests, in whatever order, and however the
container answers.

The satellite's calls are turned into the protocol's events by
`DockerFuse.Satellite.stepEvents`; its books (`DockerFuse.Satellite.Books`) already
record the files opened and those closed, which is a `Lifecycle.History`. One
assumption is made of the container: `OpenFile` never returns a file it returned
before (`DockerFuse.Satellite.FreshOpen`), as `os.OpenFile` returns a new `*os.File`
every time.

`DockerFuse.Satellite.stepEvents_cases` gives the table and the events of each
request, and the books are the history those events lead to
(`DockerFuse.Satellite.history_step`). One request keeps to the protocol and keeps the
invariant (`DockerFuse.Satellite.Books.Safe.step`), and so does a whole run
(`DockerFuse.Satellite.Books.Safe.run`). The table then holds exactly the live files
(`DockerFuse.Satellite.satellite_file_lifecycle`), and shutdown closes every file once
(`DockerFuse.Satellite.closeAllFDs_closes_each_file_once`).
-/

namespace DockerFuse.Satellite

open Syscall Rpccommon Lifecycle

/-- What a call does to the file it is made on: `Close` closes it, every other method
of `file` uses it. Calls on paths touch no open file. -/
def Call.event : Call → Option (Event File)
  | .close f => some (.release f)
  | .readAt f .. | .seek f .. | .stat f | .sync f | .writeAt f .. => some (.use f)
  | _ => none

/-- The events of serving a request that made the calls `calls`: the file `OpenFile`
gave, opened by the first call of `Open` (the only method that calls `OpenFile`),
then the calls on files, in order. -/
def stepEvents (c : Container) (req : Request) (calls : List Call) : List (Event File) :=
  (openedBy c req).toList.map .acquire ++ calls.filterMap Call.event

/-- The books of the satellite as a history of files. -/
def Books.history (b : Books) : History File :=
  ⟨b.opened, b.closed⟩

/-- The events of a run, request after request. -/
def Books.trace : Books → List (Container × Request) → List (Event File)
  | _, [] => []
  | b, (c, req) :: steps => stepEvents c req (b.fso.serve c req).calls ++ (b.step c req).trace steps

/-! ### The books are the history of the events -/

theorem Call.event_bind_acquired (call : Call) : (call.event).bind Event.acquired? = none := by
  cases call <;> rfl

theorem Call.event_bind_released (call : Call) : (call.event).bind Event.released? = call.closedFile := by
  cases call <;> rfl

/-- The one file a request's events open is the one `OpenFile` gave it. -/
theorem filterMap_acquired_stepEvents (c : Container) (req : Request) (calls : List Call) :
    (stepEvents c req calls).filterMap Event.acquired? = (openedBy c req).toList := by
  rw [stepEvents, List.filterMap_append, List.filterMap_filterMap]
  -- the calls open nothing; only the file of `OpenFile` does
  have hcalls : calls.filterMap (fun call => (call.event).bind Event.acquired?) = [] :=
    List.filterMap_eq_nil_iff.mpr fun call _ => Call.event_bind_acquired call
  rw [hcalls, List.append_nil]
  cases openedBy c req <;> rfl

/-- The files a request's events close are those its calls close. -/
theorem filterMap_released_stepEvents (c : Container) (req : Request) (calls : List Call) :
    (stepEvents c req calls).filterMap Event.released? = closedBy calls := by
  rw [stepEvents, List.filterMap_append, List.filterMap_filterMap, closedBy]
  have hopen : ((openedBy c req).toList.map Event.acquire).filterMap Event.released? = [] := by
    cases openedBy c req <;> rfl
  rw [hopen, List.nil_append]
  exact List.filterMap_congr fun call _ => Call.event_bind_released call

/-- **The books after a request are the history its events lead to.** -/
theorem history_step (b : Books) (c : Container) (req : Request) :
    (b.step c req).history = b.history.recordAll (stepEvents c req (b.fso.serve c req).calls) := by
  rw [History.recordAll_eq, filterMap_acquired_stepEvents, filterMap_released_stepEvents]
  rfl

/-! ### The calls each method makes on files -/

section Events

variable {c : Container}

/-- A guarded call on a path adds no event to the rest of the method. -/
theorem guardCall_events_subset {α : Type} {call : Call} (hcall : call.event = none)
    (k : List Call × Response α) :
    (guardCall c call k).1.filterMap Call.event ⊆ k.1.filterMap Call.event := by
  unfold guardCall FailFast.guard
  cases c.answer call with
  | some err => simp [hcall]
  | none => simp [hcall]

theorem guardIf_events_subset {α : Type} (b : Bool) {call : Call} (hcall : call.event = none)
    (k : List Call × Response α) :
    ((if b then guardCall c call else id) k).1.filterMap Call.event ⊆ k.1.filterMap Call.event := by
  cases b with
  | false => exact List.Subset.refl _
  | true => exact guardCall_events_subset hcall k

theorem stat_events (fullPath : String) :
    (DockerFuseFSOps.stat c fullPath).1.filterMap Call.event = [] := by
  unfold DockerFuseFSOps.stat
  cases c.lstat fullPath <;> rfl

/-- The loop of `ReadDir` adds only `Info()` calls, on entries, not on open files. By
induction on the entries left. -/
theorem readDirLoop_events {calls : List Call} (h : calls.filterMap Call.event = [])
    (dirEntries : List DirEntry) (files : List DirEnt) :
    (DockerFuseFSOps.readDirLoop calls dirEntries files).1.filterMap Call.event = [] := by
  induction files generalizing calls dirEntries with
  | nil => exact h
  | cons file files ih =>
    have hinfo : (calls ++ [Call.info file.name]).filterMap Call.event = [] := by
      rw [List.filterMap_append, h]
      rfl
    rw [DockerFuseFSOps.readDirLoop]
    cases file.info with
    | error err =>
      dsimp only
      split_ifs
      · exact ih hinfo _
      · exact hinfo
    | ok sys => exact ih hinfo _

theorem readDir_events (fullPath : String) :
    (DockerFuseFSOps.readDir c fullPath).1.filterMap Call.event = [] := by
  unfold DockerFuseFSOps.readDir
  cases c.readDir fullPath with
  | error err => rfl
  | ok files => exact readDirLoop_events rfl _ files

theorem pathOp_events {call : Call} (hcall : call.event = none) :
    (DockerFuseFSOps.pathOp c call).1.filterMap Call.event = [] :=
  List.subset_nil.mp (guardCall_events_subset hcall _)

theorem mkdir_events (request : MkdirRequest) :
    (DockerFuseFSOps.mkdir c request).1.filterMap Call.event = [] :=
  List.subset_nil.mp (stat_events (c := c) request.fullPath ▸ guardCall_events_subset rfl _)

theorem readlink_events (fullPath : String) :
    (DockerFuseFSOps.readlink c fullPath).1.filterMap Call.event = [] := by
  unfold DockerFuseFSOps.readlink
  cases c.readlink fullPath <;> rfl

/-- `SetAttr` works on its path only: four optional guarded calls and a `Stat`. -/
theorem setAttr_events (request : SetAttrRequest) :
    (DockerFuseFSOps.setAttr c request).1.filterMap Call.event = [] := by
  unfold DockerFuseFSOps.setAttr
  dsimp only
  refine List.subset_nil.mp (List.Subset.trans (guardIf_events_subset _ rfl _) ?_)
  refine List.Subset.trans (guardIf_events_subset _ rfl _) ?_
  refine List.Subset.trans (guardIf_events_subset _ rfl _) ?_
  refine List.Subset.trans (guardIf_events_subset _ rfl _) ?_
  rw [stat_events]
  exact List.Subset.refl _

/-- A method on a descriptor uses at most the file stored under it. -/
theorem withFile_events {α : Type} {fso : DockerFuseFSOps} {fd : UInt64}
    {k : File → List Call × Response α}
    (hk : ∀ f, fso.fds.lookup fd = some f → ∀ e ∈ (k f).1.filterMap Call.event, e = .use f) :
    ∀ e ∈ (fso.withFile fd k).1.filterMap Call.event,
      ∃ f, e = .use f ∧ fso.fds.lookup fd = some f := by
  unfold DockerFuseFSOps.withFile
  cases hf : fso.fds.lookup fd with
  | none => exact fun e he => absurd he List.not_mem_nil
  | some f => exact fun e he => ⟨f, hk f hf e he, rfl⟩

/-- `Open`, when `OpenFile` gives `f`: the file stored under `f`'s number before is
closed, then `f` is asked for its `Stat()`. -/
theorem open_events_ok {fso : DockerFuseFSOps} {r : OpenRequest} {f : File}
    (hf : c.openFile r.fullPath (saFlagsToSystem linux r.saFlags) r.mode = .ok f) :
    (fso.open c r).calls.filterMap Call.event =
      (fso.fds.lookup f.fd).toList.map .release ++ [.use f] := by
  unfold DockerFuseFSOps.open
  dsimp only
  rw [hf]
  dsimp only
  cases fso.fds.lookup f.fd <;> cases c.stat f <;> rfl

theorem open_events_error {fso : DockerFuseFSOps} {r : OpenRequest} {err : GoError}
    (hf : c.openFile r.fullPath (saFlagsToSystem linux r.saFlags) r.mode = .error err) :
    (fso.open c r).calls.filterMap Call.event = [] := by
  unfold DockerFuseFSOps.open
  dsimp only
  rw [hf]
  rfl

theorem close_events (fso : DockerFuseFSOps) (r : CloseRequest) :
    (fso.close c r).calls.filterMap Call.event = (fso.fds.lookup r.fd).toList.map .release := by
  unfold DockerFuseFSOps.close
  cases fso.fds.lookup r.fd <;> rfl

theorem closeAllFDs_events (fso : DockerFuseFSOps) :
    fso.closeAllFDs.2.filterMap Call.event = fso.fds.entries.map fun e => .release e.2 := by
  simp only [DockerFuseFSOps.closeAllFDs, List.filterMap_map]
  exact congrFun List.filterMap_eq_map _

end Events

/-- A request that opens nothing and makes no event on a file has no event at all. -/
theorem stepEvents_uses_of_none {fso : DockerFuseFSOps} {c : Container} {req : Request}
    {calls : List Call} (hcalls : calls.filterMap Call.event = []) (hopen : openedBy c req = none) :
    ∀ e ∈ stepEvents c req calls, ∃ k f, e = .use f ∧ fso.fds.lookup k = some f := by
  intro e he
  rw [stepEvents, hcalls, hopen] at he
  exact absurd he List.not_mem_nil

/-- A request that opens nothing, and whose events use the file stored under its number,
only uses stored files. -/
theorem stepEvents_uses_of_file {fso : DockerFuseFSOps} {c : Container} {req : Request}
    {calls : List Call} (fd : UInt64)
    (hcalls : ∀ e ∈ calls.filterMap Call.event, ∃ f, e = .use f ∧ fso.fds.lookup fd = some f)
    (hopen : openedBy c req = none) :
    ∀ e ∈ stepEvents c req calls, ∃ k f, e = .use f ∧ fso.fds.lookup k = some f := by
  intro e he
  rw [stepEvents, hopen, Option.toList_none, List.map_nil, List.nil_append] at he
  obtain ⟨f, rfl, hf⟩ := hcalls e he
  exact ⟨fd, f, rfl, hf⟩

/-- **What a request does to the table and to the files**, in one statement: `Open`
that is given `f` stores it, closes the file stored under its number and uses `f`;
`Close` deletes its number and closes what was there; `CloseAllFDs` empties the table
and closes everything in it; any other request, a failed `OpenFile` included, leaves
the table alone and only uses files stored in it. -/
theorem stepEvents_cases (fso : DockerFuseFSOps) (c : Container) (req : Request) :
    (∃ f, openedBy c req = some f ∧ (fso.serve c req).fso.fds = fso.fds.insert f.fd f ∧
        stepEvents c req (fso.serve c req).calls =
          .acquire f :: ((fso.fds.lookup f.fd).toList.map .release ++ [.use f])) ∨
      (∃ r, req = .close r ∧ (fso.serve c req).fso.fds = fso.fds.erase r.fd ∧
        stepEvents c req (fso.serve c req).calls = (fso.fds.lookup r.fd).toList.map .release) ∨
      (req = .closeAllFDs ∧ (fso.serve c req).fso.fds = ∅ ∧
        stepEvents c req (fso.serve c req).calls = fso.fds.entries.map fun e => .release e.2) ∨
      ((fso.serve c req).fso.fds = fso.fds ∧
        ∀ e ∈ stepEvents c req (fso.serve c req).calls,
          ∃ k f, e = .use f ∧ fso.fds.lookup k = some f) := by
  cases req with
  | «open» r =>
    cases hf : c.openFile r.fullPath (saFlagsToSystem linux r.saFlags) r.mode with
    | error err =>
      have hopen : openedBy c (.open r) = none := by simp [openedBy, hf, Except.toOption]
      have hev : (fso.open c r).calls.filterMap Call.event = [] := open_events_error hf
      refine .inr (.inr (.inr ⟨?_, stepEvents_uses_of_none hev hopen⟩))
      simp only [DockerFuseFSOps.serve, open_of_openFile_error fso hf]
    | ok f =>
      have hopen : openedBy c (.open r) = some f := by simp [openedBy, hf, Except.toOption]
      refine .inl ⟨f, hopen, (open_of_openFile_ok fso hf).1, ?_⟩
      rw [stepEvents, hopen]
      exact congrArg (List.cons _) (open_events_ok hf)
  | close r =>
    refine .inr (.inl ⟨r, rfl, (close_fds fso c r).1, ?_⟩)
    exact close_events fso r
  | closeAllFDs =>
    refine .inr (.inr (.inl ⟨rfl, (closeAllFDs_fds fso).1, ?_⟩))
    exact closeAllFDs_events fso
  | read r =>
    refine .inr (.inr (.inr ⟨rfl, stepEvents_uses_of_file r.fd
      (withFile_events fun f _ e he => ?_) rfl⟩))
    -- a count out of `make`'s range panics before `ReadAt`
    rw [DockerFuseFSOps.readOn] at he
    split_ifs at he
    · exact absurd he List.not_mem_nil
    · simpa [Call.event] using he
  | seek r =>
    refine .inr (.inr (.inr ⟨rfl, stepEvents_uses_of_file r.fd
      (withFile_events fun f _ e he => ?_) rfl⟩))
    simpa [Call.event, DockerFuseFSOps.seekOn] using he
  | write r =>
    refine .inr (.inr (.inr ⟨rfl, stepEvents_uses_of_file r.fd
      (withFile_events fun f _ e he => ?_) rfl⟩))
    simpa [Call.event, DockerFuseFSOps.writeOn] using he
  | fsync r =>
    refine .inr (.inr (.inr ⟨rfl, stepEvents_uses_of_file r.fd
      (withFile_events fun f _ e he => ?_) rfl⟩))
    -- one `Sync()` of the file, whatever it answers
    unfold DockerFuseFSOps.fsyncOn guardCall FailFast.guard at he
    split at he <;> simpa [Call.event] using he
  | stat p => exact .inr (.inr (.inr ⟨rfl, stepEvents_uses_of_none (stat_events p) rfl⟩))
  | readDir p => exact .inr (.inr (.inr ⟨rfl, stepEvents_uses_of_none (readDir_events p) rfl⟩))
  | unlink p => exact .inr (.inr (.inr ⟨rfl, stepEvents_uses_of_none (pathOp_events rfl) rfl⟩))
  | mkdir r => exact .inr (.inr (.inr ⟨rfl, stepEvents_uses_of_none (mkdir_events r) rfl⟩))
  | rmdir p => exact .inr (.inr (.inr ⟨rfl, stepEvents_uses_of_none (pathOp_events rfl) rfl⟩))
  | rename r => exact .inr (.inr (.inr ⟨rfl, stepEvents_uses_of_none (pathOp_events rfl) rfl⟩))
  | readlink p => exact .inr (.inr (.inr ⟨rfl, stepEvents_uses_of_none (readlink_events p) rfl⟩))
  | link r => exact .inr (.inr (.inr ⟨rfl, stepEvents_uses_of_none (pathOp_events rfl) rfl⟩))
  | symlink r => exact .inr (.inr (.inr ⟨rfl, stepEvents_uses_of_none (pathOp_events rfl) rfl⟩))
  | setAttr r => exact .inr (.inr (.inr ⟨rfl, stepEvents_uses_of_none (setAttr_events r) rfl⟩))

/-! ### The invariant -/

/-- `OpenFile` gives the request, if it opens a file, one it never gave before: each
call of `os.OpenFile` returns a new `*os.File`. -/
def FreshOpen (b : Books) (c : Container) (req : Request) : Prop :=
  ∀ f, openedBy c req = some f → f ∉ b.opened

instance (b : Books) (c : Container) (req : Request) : Decidable (FreshOpen b c req) :=
  match h : openedBy c req with
  | some f =>
    decidable_of_iff (f ∉ b.opened)
      ⟨fun hf g hg => by rw [h, Option.some_inj] at hg; exact hg ▸ hf, fun hall => hall f h⟩
  | none => isTrue fun f hf => by rw [h] at hf; cases hf

/-- At every step of the run, `OpenFile` gives a new file. -/
def Books.FreshRun : Books → List (Container × Request) → Prop
  | _, [] => True
  | b, (c, req) :: steps => FreshOpen b c req ∧ (b.step c req).FreshRun steps

instance Books.decFreshRun :
    (b : Books) → (steps : List (Container × Request)) → Decidable (b.FreshRun steps)
  | _, [] => isTrue trivial
  | b, (c, req) :: steps =>
    haveI := Books.decFreshRun (b.step c req) steps
    inferInstanceAs (Decidable (_ ∧ _))

/-- What the satellite keeps of the protocol, besides `Books.Inv`: its history is well
formed, and every file in its table is live. -/
structure Books.Safe (b : Books) : Prop extends b.Inv where
  wf : b.history.WF
  fds_live : ∀ k f, b.fso.fds.lookup k = some f → b.history.Live f

theorem Books.Safe.init : Books.init.Safe where
  toInv := Books.Inv.init
  wf := History.wf_empty
  fds_live k f h := by simp [Books.init, DockerFuseFSOps.new, AList.lookup_empty] at h

/-- **The table is the live files**: a file is stored under some number exactly when it
was opened and not closed since. -/
theorem Books.Safe.live_iff {b : Books} (h : b.Safe) (f : File) :
    (∃ k, b.fso.fds.lookup k = some f) ↔ b.history.Live f := by
  constructor
  · rintro ⟨k, hk⟩
    exact h.fds_live k f hk
  · rintro ⟨hopened, hclosed⟩
    exact (h.accounted f hopened).resolve_right hclosed

/-- Each file in the table is stored under one number, its own. -/
theorem Books.Inv.values_nodup {b : Books} (h : b.Inv) :
    (b.fso.fds.entries.map Sigma.snd).Nodup := by
  refine List.Nodup.map_on (fun x hx y hy hxy => ?_) b.fso.fds.nodupKeys.nodup
  -- both numbers are the one file's `Fd()`
  have hx' := h.fd_eq x.1 x.2 (AList.mem_lookup_iff.mpr hx)
  have hy' := h.fd_eq y.1 y.2 (AList.mem_lookup_iff.mpr hy)
  have hkey : x.1 = y.1 := by rw [← hx', ← hy', hxy]
  exact Sigma.ext hkey (heq_of_eq hxy)

/-- A file stored under `k` and the file stored under another number are two files. -/
theorem Books.Inv.ne_of_lookup {b : Books} (h : b.Inv) {k k' : UInt64} {f g : File}
    (hf : b.fso.fds.lookup k = some f) (hg : b.fso.fds.lookup k' = some g) (hne : k ≠ k') :
    f ≠ g := by
  rintro rfl
  exact hne ((h.fd_eq k f hf).symm.trans (h.fd_eq k' f hg))

/-- The files a request closes, as its events say. -/
theorem closed_step_of_events {b : Books} {c : Container} {req : Request} {rs : List File}
    {es : List (Event File)} (hev : stepEvents c req (b.fso.serve c req).calls =
      (openedBy c req).toList.map .acquire ++ (rs.map .release ++ es))
    (hes : es.filterMap Event.released? = []) : (b.step c req).closed = b.closed ++ rs := by
  rw [Books.step_closed, ← filterMap_released_stepEvents c req, hev, List.filterMap_append,
    List.filterMap_append, hes, List.append_nil, List.filterMap_map, List.filterMap_map]
  have hopen : (openedBy c req).toList.filterMap (Event.released? ∘ Event.acquire) = [] := by
    cases openedBy c req <;> rfl
  rw [hopen, List.nil_append]
  exact congrArg (b.closed ++ ·) (congrFun List.filterMap_eq_map rs |>.trans (List.map_id _))

/-- **The step lemma**: a request whose `OpenFile`, if it makes one, gives a new file
keeps to the protocol from the books' history, and keeps the invariant. -/
theorem Books.Safe.step {b : Books} (h : b.Safe) {c : Container} {req : Request}
    (hfresh : FreshOpen b c req) :
    b.history.Follows (stepEvents c req (b.fso.serve c req).calls) ∧ (b.step c req).Safe := by
  -- the new history is well formed because the events keep to the protocol
  suffices key : b.history.Follows (stepEvents c req (b.fso.serve c req).calls) ∧
      ∀ k f, (b.step c req).fso.fds.lookup k = some f →
        f ∈ (b.step c req).opened ∧ f ∉ (b.step c req).closed by
    refine ⟨key.1, { toInv := h.toInv.step c req, wf := ?_, fds_live := key.2 }⟩
    rw [history_step]
    exact h.wf.recordAll key.1
  have hfds : (b.step c req).fso.fds = (b.fso.serve c req).fso.fds := rfl
  rcases stepEvents_cases b.fso c req with ⟨f, hopened, hfds', hev⟩ | ⟨r, rfl, hfds', hev⟩ |
    ⟨rfl, hfds', hev⟩ | ⟨hfds', hev⟩
  · -- `Open` was given the new file `f`; the file stored under its number is closed
    have hnew : f ∉ b.opened := hfresh f hopened
    have hf_closed : f ∉ b.closed := fun hc => hnew (h.wf.released_acquired f hc)
    have hopened' : (b.step c req).opened = b.opened ++ [f] := by
      rw [Books.step_opened, hopened]
      rfl
    have hclosed' : (b.step c req).closed = b.closed ++ (b.fso.fds.lookup f.fd).toList :=
      @closed_step_of_events _ _ _ _ [.use f] (by rw [hev, hopened]; rfl) rfl
    refine ⟨?_, fun k g hk => ?_⟩
    · rw [hev]
      cases hs : b.fso.fds.lookup f.fd with
      | none => exact ⟨hnew, ⟨List.mem_append_right _ (List.mem_singleton_self f), hf_closed⟩, trivial⟩
      | some g =>
        -- the stale file is live, and it is not `f`, which was never opened
        obtain ⟨hg_opened, hg_closed⟩ := h.fds_live _ _ hs
        have hgf : g ≠ f := fun hgf => hnew (hgf ▸ hg_opened)
        refine ⟨hnew, ⟨List.mem_append_left _ hg_opened, hg_closed⟩,
          ⟨List.mem_append_right _ (List.mem_singleton_self f), fun hmem => ?_⟩, trivial⟩
        rcases List.mem_append.mp hmem with hmem | hmem
        · exact hf_closed hmem
        · exact hgf (List.mem_singleton.mp hmem).symm
    · rw [hfds, hfds'] at hk
      rw [hopened', hclosed']
      by_cases hkf : k = f.fd
      · -- the new file, which is not the stale one
        rw [hkf, AList.lookup_insert, Option.some_inj] at hk
        subst hk
        refine ⟨List.mem_append_right _ (List.mem_singleton_self _), fun hmem => ?_⟩
        rcases List.mem_append.mp hmem with hmem | hmem
        · exact hf_closed hmem
        · exact hnew (h.fds_live _ _ (Option.mem_toList.mp hmem)).1
      · -- a file stored before, under another number than the stale file
        rw [AList.lookup_insert_ne hkf] at hk
        obtain ⟨hg_opened, hg_closed⟩ := h.fds_live k g hk
        refine ⟨List.mem_append_left _ hg_opened, fun hmem => ?_⟩
        rcases List.mem_append.mp hmem with hmem | hmem
        · exact hg_closed hmem
        · exact h.toInv.ne_of_lookup hk (Option.mem_toList.mp hmem) hkf rfl
  · -- `Close` deleted `r.fd` and closed what was there
    have hopened' : (b.step c (.close r)).opened = b.opened := by
      rw [Books.step_opened]
      exact List.append_nil _
    have hclosed' : (b.step c (.close r)).closed = b.closed ++ (b.fso.fds.lookup r.fd).toList :=
      @closed_step_of_events _ _ _ _ [] (by rw [hev, List.append_nil]; rfl) rfl
    refine ⟨?_, fun k g hk => ?_⟩
    · rw [hev]
      refine History.follows_map_release ?_ fun g hg => h.fds_live r.fd g (Option.mem_toList.mp hg)
      cases b.fso.fds.lookup r.fd with
      | none => exact List.nodup_nil
      | some g => exact List.nodup_singleton g
    · rw [hfds, hfds'] at hk
      have hkr : k ≠ r.fd := by
        rintro rfl
        rw [AList.lookup_erase] at hk
        cases hk
      rw [AList.lookup_erase_ne hkr] at hk
      obtain ⟨hg_opened, hg_closed⟩ := h.fds_live k g hk
      rw [hopened', hclosed']
      refine ⟨hg_opened, fun hmem => ?_⟩
      rcases List.mem_append.mp hmem with hmem | hmem
      · exact hg_closed hmem
      · exact h.toInv.ne_of_lookup hk (Option.mem_toList.mp hmem) hkr rfl
  · -- `CloseAllFDs` closed every stored file, each once
    refine ⟨?_, fun k g hk => ?_⟩
    · have hfiles : (b.fso.fds.entries.map fun e => Event.release e.2) =
          (b.fso.fds.entries.map Sigma.snd).map Event.release := by
        rw [List.map_map]
        rfl
      rw [hev, hfiles]
      refine History.follows_map_release h.toInv.values_nodup fun g hg => ?_
      obtain ⟨e, he, rfl⟩ := List.mem_map.mp hg
      exact h.fds_live e.1 e.2 (AList.mem_lookup_iff.mpr he)
    · rw [hfds, hfds', AList.lookup_empty] at hk
      cases hk
  · -- every other request only uses stored files
    have huses : ∀ e ∈ stepEvents c req (b.fso.serve c req).calls, ∃ f, e = .use f := by
      intro e he
      obtain ⟨k, f, rfl, -⟩ := hev e he
      exact ⟨f, rfl⟩
    have hsame : (b.step c req).history = b.history := by
      rw [history_step, History.recordAll_of_uses huses]
    refine ⟨History.follows_of_uses fun e he => ?_, fun k g hk => ?_⟩
    · obtain ⟨k, f, rfl, hk⟩ := hev e he
      exact ⟨f, rfl, h.fds_live k f hk⟩
    · rw [hfds, hfds'] at hk
      have hlive := h.fds_live k g hk
      rw [← hsame] at hlive
      exact hlive

/-- **The run lemma**: along a run in which `OpenFile` always gives a new file, the
events keep to the protocol from the books' history, and the invariant holds at the
end. By induction on the run, from the step lemma. -/
theorem Books.Safe.run {b : Books} (h : b.Safe) {steps : List (Container × Request)}
    (hfresh : b.FreshRun steps) : b.history.Follows (b.trace steps) ∧ (b.run steps).Safe := by
  induction steps generalizing b with
  | nil => exact ⟨trivial, h⟩
  | cons s steps ih =>
    obtain ⟨c, req⟩ := s
    obtain ⟨hfirst, hrest⟩ := hfresh
    obtain ⟨hfollows, hsafe⟩ := h.step hfirst
    obtain ⟨hfollows', hsafe'⟩ := ih hsafe hrest
    refine ⟨History.follows_append.mpr ⟨hfollows, ?_⟩, hsafe'⟩
    rw [← history_step]
    exact hfollows'

/-! ### Every run from the start -/

/-- **The satellite keeps every file's life in order.** Along every run from
`NewDockerFuseFSOps` in which `OpenFile` gives a new file each time, whatever the
requests and however the container answers, the satellite's calls on files keep to the
protocol: each file is used or closed only after the `OpenFile` that gave it and before
its one close. At the end the table holds exactly the files opened and not closed. -/
theorem satellite_file_lifecycle (steps : List (Container × Request))
    (hfresh : Books.init.FreshRun steps) :
    Books.init.history.Follows (Books.init.trace steps) ∧
      ∀ f, (∃ k, (Books.init.run steps).fso.fds.lookup k = some f) ↔
        f ∈ (Books.init.run steps).opened ∧ f ∉ (Books.init.run steps).closed := by
  obtain ⟨hfollows, hsafe⟩ := Books.Safe.init.run hfresh
  exact ⟨hfollows, hsafe.live_iff⟩

/-- A container whose `OpenFile` gives `/a` the file 1 under number 3 and any other path
the file 2 under number 4; the files' `Close` succeeds. -/
def twoFilesContainer : Container :=
  { Container.failing (errnoOf ErrnoName.ENOENT) with
    openFile := fun name _ _ => if name = "/a" then .ok ⟨1, 3, false⟩ else .ok ⟨2, 4, false⟩
    stat := fun _ => .ok ⟨0x81A4, 1, 12, 0, 0, 0, 0, 0, 0, 0, 4096⟩
    close := fun _ => none }

/-- `Open` of `/a` and `/b`, a `Read` of number 3, and its `Close`. -/
def twoFilesRun : List (Container × Request) :=
  [(twoFilesContainer, .open ⟨"/a", 0, 0o644⟩), (twoFilesContainer, .open ⟨"/b", 0, 0o644⟩),
    (twoFilesContainer, .read ⟨3, 0, 4⟩), (twoFilesContainer, .close ⟨3⟩)]

theorem satellite_file_lifecycle_twoFiles :
    Books.init.FreshRun twoFilesRun ∧
      (Books.init.history.Follows (Books.init.trace twoFilesRun) ∧
        ∀ f, (∃ k, (Books.init.run twoFilesRun).fso.fds.lookup k = some f) ↔
          f ∈ (Books.init.run twoFilesRun).opened ∧ f ∉ (Books.init.run twoFilesRun).closed) :=
  ⟨by decide, satellite_file_lifecycle twoFilesRun (by decide)⟩

/-- **Shutdown closes every file once.** After any run in which `OpenFile` gives a new
file each time, the `CloseAllFDs` of the satellite's signal handler leaves the table
empty, and the files closed are the files `OpenFile` gave, each closed once. -/
theorem closeAllFDs_closes_each_file_once (steps : List (Container × Request))
    (hfresh : Books.init.FreshRun steps) (c : Container) :
    ((Books.init.run steps).step c .closeAllFDs).fso.fds = ∅ ∧
      ((Books.init.run steps).step c .closeAllFDs).closed.Perm
        ((Books.init.run steps).step c .closeAllFDs).opened := by
  have hsafe := (Books.Safe.init.run hfresh).2
  -- `CloseAllFDs` opens nothing, so the step lemma applies to it
  have hlast := (hsafe.step (show FreshOpen _ c .closeAllFDs from fun f hf => by cases hf)).2
  have hempty : ((Books.init.run steps).step c .closeAllFDs).fso.fds = ∅ :=
    (closeAllFDs_fds (Books.init.run steps).fso).1
  refine ⟨hempty, (List.perm_ext_iff_of_nodup hlast.wf.released_nodup
    hlast.wf.acquired_nodup).mpr fun f => ⟨hlast.wf.released_acquired f, fun hf => ?_⟩⟩
  -- an opened file is in the table, which is empty, or closed
  rcases hlast.accounted f hf with ⟨k, hk⟩ | hclosed
  · rw [hempty, AList.lookup_empty] at hk
    cases hk
  · exact hclosed

theorem closeAllFDs_closes_each_file_once_twoFiles :
    Books.init.FreshRun twoFilesRun ∧
      (((Books.init.run twoFilesRun).step twoFilesContainer .closeAllFDs).fso.fds = ∅ ∧
        ((Books.init.run twoFilesRun).step twoFilesContainer .closeAllFDs).closed.Perm
          ((Books.init.run twoFilesRun).step twoFilesContainer .closeAllFDs).opened) :=
  ⟨by decide, closeAllFDs_closes_each_file_once twoFilesRun (by decide) twoFilesContainer⟩

end DockerFuse.Satellite
