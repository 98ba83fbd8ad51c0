import DockerFuse.Client.Client

/-!
# `Setattr`, from the kernel's request to the container's calls

A FUSE `SETATTR` names up to six attributes. The client packs the valid ones into a
`SetAttrRequest` with the `Set*` methods; the satellite unpacks them with the `Get*`
methods and makes up to four calls, `Chmod`, `Chown`, `UtimesNano` and `Truncate`,
stopping at the first that fails, then answers with the `Stat` of the path.

`DockerFuse.Client.getters_setAttrRequest` says that the request arrives as the
kernel sent it: each getter reports exactly the attribute the kernel marked valid.
`DockerFuse.Client.setAttr_eq_chain` reads the satellite's method as a
`FailFast.chain` of its planned calls, and `DockerFuse.Client.setAttrCalls_setAttrRequest`
says which calls those are for a kernel request: `requestedCalls`. The two together
give the whole exchange over any container.

Timestamps are the one place where the request does not reach the container
unchanged: `UtimesNano` gets each time as `NsecToTimespec(t.UnixNano())`, which is
the time itself exactly when its count of nanoseconds fits in an `int64`
(`nsecToTimespec_unixNano_eq_iff`).
-/

namespace DockerFuse.Client

open Syscall Rpccommon Satellite

/-! ### The request the client builds -/

/-- The setter calls `setAttrRequest` makes, in its order. -/
def SetAttrIn.setters (in' : SetAttrIn) : List Setter :=
  (in'.atime.map .aTime).toList ++ (in'.mtime.map .mTime).toList ++
    (in'.uid.map .uid).toList ++ (in'.gid.map .gid).toList ++
    (in'.mode.map .mode).toList ++ (in'.size.map .size).toList

/-- What a `Get*` method returns for an attribute that may be absent. -/
def validOr {α : Type} (v : Option α) (zero : α) : α × Bool :=
  match v with
  | some x => (x, true)
  | none => (zero, false)

theorem applyAll_append (r : SetAttrRequest) (ops₁ ops₂ : List Setter) :
    r.applyAll (ops₁ ++ ops₂) = (r.applyAll ops₁).applyAll ops₂ :=
  List.foldl_append

/-- `if v, ok := in.GetX(); ok { request.SetX(v) }` is the setter call, when there
is one. -/
theorem setIfValid_eq_applyAll {α : Type} (v : Option α) (set : SetAttrRequest → α → SetAttrRequest)
    (op : α → Setter) (hop : ∀ r x, set r x = (op x).apply r) (r : SetAttrRequest) :
    DockerFuseClient.setIfValid v set r = r.applyAll (v.map op).toList := by
  cases v with
  | none => rfl
  | some x => rw [DockerFuseClient.setIfValid, hop]; rfl

theorem setAttrRequest_eq_applyAll (fullPath : String) (in' : SetAttrIn) :
    DockerFuseClient.setAttrRequest fullPath in' =
      (SetAttrRequest.new fullPath).applyAll in'.setters := by
  unfold DockerFuseClient.setAttrRequest SetAttrIn.setters
  dsimp only
  rw [setIfValid_eq_applyAll in'.size SetAttrRequest.setSize Setter.size (fun _ _ => rfl),
    setIfValid_eq_applyAll in'.mode SetAttrRequest.setMode Setter.mode (fun _ _ => rfl),
    setIfValid_eq_applyAll in'.gid SetAttrRequest.setGID Setter.gid (fun _ _ => rfl),
    setIfValid_eq_applyAll in'.uid SetAttrRequest.setUID Setter.uid (fun _ _ => rfl),
    setIfValid_eq_applyAll in'.mtime SetAttrRequest.setMTime Setter.mTime (fun _ _ => rfl),
    setIfValid_eq_applyAll in'.atime SetAttrRequest.setATime Setter.aTime (fun _ _ => rfl)]
  simp only [applyAll_append]

theorem filterMap_toList_map {α β : Type} (v : Option α) (op : α → Setter)
    (setBy : Setter → Option β) :
    (v.map op).toList.filterMap setBy = (v.bind fun x => setBy (op x)).toList := by
  cases v <;> rfl

/-- An attribute of the client's request, read by its getter, is what the kernel
sent for it, when `setters` sets nothing else in its place. -/
theorem get_setAttrRequest {α : Type} (a : Attr α) (fullPath : String) (in' : SetAttrIn)
    (v : Option α) (hv : in'.setters.filterMap a.setBy = v.toList) :
    a.get (DockerFuseClient.setAttrRequest fullPath in') = validOr v a.zero := by
  rw [setAttrRequest_eq_applyAll, Attr.get_applyAll, lastSet, hv]
  cases v <;> rfl

/-- **The request arrives as the kernel sent it**: each getter of the request the client
builds reports the attribute the kernel marked valid, and the zero value and `false`
for one it did not. -/
theorem getters_setAttrRequest (fullPath : String) (in' : SetAttrIn) :
    let r := DockerFuseClient.setAttrRequest fullPath in'
    r.getATime = validOr in'.atime Time.zero ∧ r.getMTime = validOr in'.mtime Time.zero ∧
      r.getUID = validOr in'.uid 0 ∧ r.getGID = validOr in'.gid 0 ∧
      r.getMode = validOr in'.mode 0 ∧ r.getSize = validOr in'.size 0 := by
  -- each attribute is set by its own setter alone
  refine ⟨?_, ?_, ?_, ?_, ?_, ?_⟩
  · rw [getATime_eq]
    exact get_setAttrRequest _ _ _ _ (by
      simp [SetAttrIn.setters, List.filterMap_append, filterMap_toList_map, aTimeAttr])
  · rw [getMTime_eq]
    exact get_setAttrRequest _ _ _ _ (by
      simp [SetAttrIn.setters, List.filterMap_append, filterMap_toList_map, mTimeAttr])
  · rw [getUID_eq]
    exact get_setAttrRequest _ _ _ _ (by
      simp [SetAttrIn.setters, List.filterMap_append, filterMap_toList_map, uidAttr])
  · rw [getGID_eq]
    exact get_setAttrRequest _ _ _ _ (by
      simp [SetAttrIn.setters, List.filterMap_append, filterMap_toList_map, gidAttr])
  · rw [getMode_eq]
    exact get_setAttrRequest _ _ _ _ (by
      simp [SetAttrIn.setters, List.filterMap_append, filterMap_toList_map, modeAttr])
  · rw [getSize_eq]
    exact get_setAttrRequest _ _ _ _ (by
      simp [SetAttrIn.setters, List.filterMap_append, filterMap_toList_map, sizeAttr])

/-! ### The calls the satellite makes -/

/-- The calls `SetAttr` makes for a request when none of them fails, in its order. -/
def setAttrCalls (request : SetAttrRequest) : List Call :=
  let path := request.fullPath
  let (m, ok) := request.getMode
  let (uid, uok) := request.getUID
  let (gid, gok) := request.getGID
  let suid : Int64 := if uok then uid.toUInt64.toInt64 else -1
  let sgid : Int64 := if gok then gid.toUInt64.toInt64 else -1
  let (atime, aok) := request.getATime
  let (mtime, mok) := request.getMTime
  let (sz, sok) := request.getSize
  (if ok then [.chmod path m] else []) ++
    (if uok || gok then [.chown path suid sgid] else []) ++
    (if mok || aok then [.utimesNano path (timespecOf atime aok) (timespecOf mtime mok)]
      else []) ++
    (if sok then [.truncate path sz.toInt64] else [])

/-- **`SetAttr` is a chain of guarded calls**: the planned calls in order, each ending
the method on failure, then `Stat`. -/
theorem setAttr_eq_chain (c : Container) (request : SetAttrRequest) :
    DockerFuseFSOps.setAttr c request =
      FailFast.chain c.answer Response.ofError (setAttrCalls request)
        (DockerFuseFSOps.stat c request.fullPath) := by
  unfold DockerFuseFSOps.setAttr setAttrCalls
  -- name the six getters' results, so that both sides' destructurings reduce
  obtain ⟨m, ok⟩ := request.getMode
  obtain ⟨uid, uok⟩ := request.getUID
  obtain ⟨gid, gok⟩ := request.getGID
  obtain ⟨atime, aok⟩ := request.getATime
  obtain ⟨mtime, mok⟩ := request.getMTime
  obtain ⟨sz, sok⟩ := request.getSize
  simp only [FailFast.chain_append, FailFast.chain_ite]
  -- `guardCall c` is `FailFast.guard c.answer Response.ofError` by definition
  rfl

/-! ### The calls the kernel's request asks for -/

/-- The `Chown` argument for an owner or a group: the id, or `-1` to leave it. -/
def ownerArg (v : Option UInt32) : Int64 :=
  match v with
  | some id => id.toUInt64.toInt64
  | none => -1

/-- The `UtimesNano` slot for a time: the time, split by `NsecToTimespec`, or
`UTIME_OMIT` to leave it. -/
def timeArg (v : Option Time) : Timespec :=
  match v with
  | some t => nsecToTimespec t.unixNano
  | none => ⟨0, UTIME_OMIT⟩

/-- The calls a kernel request asks for, in order: `Chmod` for a mode, `Chown` for an
owner or a group, `UtimesNano` for an access or a modification time, `Truncate` for
a size. -/
def requestedCalls (path : String) (in' : SetAttrIn) : List Call :=
  (in'.mode.map fun m => Call.chmod path m).toList ++
    (if in'.uid.isSome || in'.gid.isSome then
      [.chown path (ownerArg in'.uid) (ownerArg in'.gid)] else []) ++
    (if in'.atime.isSome || in'.mtime.isSome then
      [.utimesNano path (timeArg in'.atime) (timeArg in'.mtime)] else []) ++
    (in'.size.map fun s => Call.truncate path s.toInt64).toList

theorem validOr_eq {α : Type} (v : Option α) (zero : α) : validOr v zero =
    (v.getD zero, v.isSome) := by
  cases v <;> rfl

theorem ownerArg_eq (v : Option UInt32) :
    ownerArg v = if v.isSome then (v.getD 0).toUInt64.toInt64 else -1 := by
  cases v <;> rfl

theorem timeArg_eq (v : Option Time) : timeArg v = timespecOf (v.getD Time.zero) v.isSome := by
  cases v with
  | none => rfl
  | some t => exact (if_pos rfl).symm

theorem toList_map_eq_ite {α β : Type} (v : Option α) (f : α → β) (zero : α) :
    (v.map f).toList = if v.isSome then [f (v.getD zero)] else [] := by
  cases v <;> rfl

/-- The setters leave the path alone. -/
theorem applyAll_fullPath (r : SetAttrRequest) (ops : List Setter) :
    (r.applyAll ops).fullPath = r.fullPath := by
  induction ops generalizing r with
  | nil => rfl
  | cons op ops ih =>
    rw [SetAttrRequest.applyAll, List.foldl_cons, ← SetAttrRequest.applyAll, ih]
    cases op <;> rfl

theorem fullPath_setAttrRequest (path : String) (in' : SetAttrIn) :
    (DockerFuseClient.setAttrRequest path in').fullPath = path := by
  rw [setAttrRequest_eq_applyAll, applyAll_fullPath]
  rfl

/-- **The satellite plans what the kernel asked for**: for the request the client
builds, the calls `SetAttr` plans are `requestedCalls`. -/
theorem setAttrCalls_setAttrRequest (path : String) (in' : SetAttrIn) :
    setAttrCalls (DockerFuseClient.setAttrRequest path in') = requestedCalls path in' := by
  obtain ⟨ha, hm, hu, hg, hmo, hs⟩ := getters_setAttrRequest path in'
  unfold setAttrCalls requestedCalls
  rw [ha, hm, hu, hg, hmo, hs, fullPath_setAttrRequest]
  simp only [validOr_eq, ownerArg_eq, timeArg_eq, toList_map_eq_ite _ _ (0 : UInt32),
    toList_map_eq_ite _ _ (0 : UInt64), Bool.or_comm in'.mtime.isSome]

/-! ### The whole exchange -/

/-- The satellite's `SetAttr` on the client's request is the chain of the requested calls. -/
theorem setAttr_setAttrRequest (c : Container) (path : String) (in' : SetAttrIn) :
    DockerFuseFSOps.setAttr c (DockerFuseClient.setAttrRequest path in') =
      FailFast.chain c.answer Response.ofError (requestedCalls path in')
        (DockerFuseFSOps.stat c path) := by
  rw [setAttr_eq_chain, setAttrCalls_setAttrRequest, fullPath_setAttrRequest]

/-- **`Setattr` applies exactly the requested attributes.** The satellite makes the
calls the kernel's request asks for (`requestedCalls`: `Chmod`, `Chown` with `-1` for an
absent id, `UtimesNano` with `UTIME_OMIT` for an absent time, `Truncate`), in that
order, up to and including the first that fails, and then, if none failed, the calls of
`Stat`. It ends with that failure's error, or as `Stat` does; the client returns the
failure's errno, or what its `stat` of the path returns. And after any sequence of
setter calls on a fresh request, each getter returns the last value set for its
field, or the zero value and `false`. -/
theorem setAttr_applies_requested (p : Platform) (c : Container) (path : String)
    (in' : SetAttrIn) :
    let made := FailFast.run c.answer (requestedCalls path in')
    let server := DockerFuseFSOps.setAttr c (DockerFuseClient.setAttrRequest path in')
    server.1 = made.1 ++ (if made.2 = none then (DockerFuseFSOps.stat c path).1 else []) ∧
      server.2 = (match made.2 with
        | some err => .ofError err
        | none => (DockerFuseFSOps.stat c path).2) ∧
      DockerFuseClient.setAttr p (fun r => (DockerFuseFSOps.setAttr c r).2.toClient) path in' =
        (match made.2 with
        | some err => ((wireErrno p err).getD (p.errno ErrnoName.EIO), .zero)
        | none => DockerFuseClient.stat p (fun q => (DockerFuseFSOps.stat c q).2.toClient) path) ∧
      ∀ fullPath ops, let r := (SetAttrRequest.new fullPath).applyAll ops
        r.getATime = lastSet ops aTimeAttr.setBy Time.zero ∧
          r.getMTime = lastSet ops mTimeAttr.setBy Time.zero ∧
          r.getUID = lastSet ops uidAttr.setBy 0 ∧ r.getGID = lastSet ops gidAttr.setBy 0 ∧
          r.getMode = lastSet ops modeAttr.setBy 0 ∧ r.getSize = lastSet ops sizeAttr.setBy 0 := by
  have hserver := (setAttr_setAttrRequest c path in').trans (FailFast.chain_eq _ _ _ _)
  dsimp only
  -- the client sees what the satellite's method ended with
  rw [DockerFuseClient.setAttr, hserver]
  refine ⟨?_, ?_, ?_, fun fullPath ops => ?_⟩
  · cases FailFast.run c.answer (requestedCalls path in') with
    | mk made failure => cases failure <;> simp
  · cases (FailFast.run c.answer (requestedCalls path in')).2 <;> rfl
  · cases (FailFast.run c.answer (requestedCalls path in')).2 with
    | some err =>
      simp only [toClient_ofError]
      rw [rpcErrorStringTOErrno_ofError]
    | none => rfl
  · -- the getter/setter law, attribute by attribute
    exact ⟨aTimeAttr.get_applyAll fullPath ops, mTimeAttr.get_applyAll fullPath ops,
      uidAttr.get_applyAll fullPath ops, gidAttr.get_applyAll fullPath ops,
      modeAttr.get_applyAll fullPath ops, sizeAttr.get_applyAll fullPath ops⟩

/-! ### Timestamps -/

/-- `Stat` makes no `UtimesNano` call. -/
theorem utimesNano_not_mem_stat (c : Container) (path p : String) (a m : Timespec) :
    Call.utimesNano p a m ∉ (DockerFuseFSOps.stat c path).1 := by
  unfold DockerFuseFSOps.stat
  split <;> simp

/-- **What `UtimesNano` gets for a time.** Every `UtimesNano` call `SetAttr` makes for a
kernel request carries `timeArg` of the request's two times. For a time `t`, `timeArg`
gives back `t` exactly when its count of nanoseconds, `s * 1e9 + ns`, fits in an `int64`,
and in every case gives the floored quotient and remainder by `1e9` of that count
wrapped to `int64`. -/
theorem setAttr_utimesNano_timespecs (c : Container) (path : String) (in' : SetAttrIn) :
    (∀ call ∈ (DockerFuseFSOps.setAttr c (DockerFuseClient.setAttrRequest path in')).1,
      ∀ p a m, call = .utimesNano p a m → a = timeArg in'.atime ∧ m = timeArg in'.mtime) ∧
    ∀ t : Time,
      (timeArg (some t) = ⟨t.sec, t.nsec⟩ ↔
        -2 ^ 63 ≤ t.sec.toInt * 1000000000 + t.nsec.toInt ∧
          t.sec.toInt * 1000000000 + t.nsec.toInt < 2 ^ 63) ∧
      (timeArg (some t)).sec.toInt =
        (t.sec.toInt * 1000000000 + t.nsec.toInt).bmod (2 ^ 64) / 1000000000 ∧
      (timeArg (some t)).nsec.toInt =
        (t.sec.toInt * 1000000000 + t.nsec.toInt).bmod (2 ^ 64) % 1000000000 := by
  refine ⟨fun call hcall p a m hcall_eq => ?_, fun t => ?_⟩
  · subst hcall_eq
    rw [setAttr_setAttrRequest] at hcall
    -- the call was planned: `Stat` makes none
    rcases FailFast.mem_chain hcall with hplan | hstat
    · -- of the requested calls, only the `UtimesNano` one has its shape
      simp [requestedCalls] at hplan
      obtain ⟨-, -, ha, hm⟩ := hplan
      exact ⟨ha, hm⟩
    · exact absurd hstat (utimesNano_not_mem_stat c path p a m)
  · obtain ⟨hs, hn⟩ := nsecToTimespec_toInt t.unixNano
    rw [Time.unixNano_toInt] at hs hn
    exact ⟨nsecToTimespec_unixNano_eq_iff t, hs, hn⟩

/-- A time ten billion seconds after the epoch, in the year 2286, reaches `utimensat`
as one in 1702: its count of nanoseconds has wrapped. -/
theorem setAttr_atime_2286_wraps :
    (DockerFuseFSOps.setAttr (Container.failing (errnoOf ErrnoName.EIO))
        (DockerFuseClient.setAttrRequest "/f"
          ⟨some ⟨10000000000, 0, by decide, by decide⟩, none, none, none, none, none⟩)).1 =
      [.utimesNano "/f" ⟨-8446744074, 290448384⟩ ⟨0, UTIME_OMIT⟩] ∧
    (⟨-8446744074, 290448384⟩ : Timespec) ≠ ⟨10000000000, 0⟩ := by
  decide

end DockerFuse.Client
