import DockerFuse.Mount.Tree

/-!
# What the kernel is told

A container call that fails reaches the kernel after four translations: the satellite
method returns `ErrnoToRPCErrorString(err)`, net/rpc carries its message, the client's
`RPCErrorStringTOErrno` reads an errno of its own platform back from it, and the `Node`
method hands that errno to go-fuse. `DockerFuse.Mount.kernelErrno` is what the four
make of one call's answer: 0 for success, the error's errno as it crosses the wire
(`DockerFuse.Rpccommon.wireErrno`), and `EIO` when the encoder panics and the client's
call fails with `"unexpected EOF"`.

A failure never reaches the kernel as errno 0
(`DockerFuse.Mount.kernelErrno_eq_errnoOK_iff`). A request whose reply is an errno
reports the one container call behind it
(`DockerFuse.Mount.errno_requests_report_container_calls`); `Getattr` and `Lookup`
report `Lstat` (`DockerFuse.Mount.getattr_lookup_report_lstat`). go-fuse drops or moves
an entry exactly when the container did
(`DockerFuse.Mount.tree_follows_container_removals`).
-/

namespace DockerFuse.Mount

open Syscall Rpccommon Satellite Client GoFuse

/-- The errno the kernel gets for the answer of one container call: 0 when the call
succeeded; otherwise the errno its error crosses the wire as, or `EIO` when the
encoder panics on it and the client's pending call fails with `"unexpected EOF"`. -/
def kernelErrno (p : Platform) : Option GoError → Errno
  | none => errnoOK
  | some err => (wireErrno p err).getD (p.errno ErrnoName.EIO)

/-- On a client platform, the kernel is told success exactly when the call succeeded. -/
theorem kernelErrno_eq_errnoOK_iff {p : Platform} (hp : p ∈ clientPlatforms)
    (e : Option GoError) : kernelErrno p e = errnoOK ↔ e = none := by
  cases e with
  | none => exact iff_of_true rfl rfl
  | some err =>
    refine iff_of_false ?_ (Option.some_ne_none err)
    rw [kernelErrno, wireErrno]
    -- a message the client reads, or the panic's `EIO`
    cases errnoToRPCErrorString err with
    | none => exact errno_ne_errnoOK hp ErrnoName.EIO
    | some r => exact rpcErrorStringTOErrno_ne_errnoOK hp r.error

/-- An errno of `ErrnoToSym`'s table that the satellite returns itself reaches the
kernel as the client platform's errno of that name. -/
theorem kernelErrno_errnoOf (p : Platform) {c : ErrnoName × String} (hc : c ∈ errnoToSymCases) :
    kernelErrno p (some (errnoOf c.1)) = p.errno c.1 := by
  have hwire : wireErrno p (Carrier.bare.wrap (linux.errno c.1)) = some (p.errno c.1) := by
    rw [wireErrno_wrap, errnoToSym_of_mem errnoDistinct_linux hc]
    exact congrArg some (symToErrno_of_mem p (swap_mem_symToErrnoCases c hc))
  rw [kernelErrno, errnoOf, ← Carrier.wrap, hwire]
  rfl

/-! ### The client's view of a satellite method -/

/-- A method that fails with `err` reaches a client whose reply is empty as
`kernelErrno` of that failure. -/
theorem errnoOfResult_ofError (p : Platform) (err : GoError) :
    errnoOfResult p (Response.ofError err : Response Unit).toClient = kernelErrno p (some err) := by
  rw [toClient_ofError, errnoOfResult, rpcErrorStringTOErrno_ofError]
  rfl

/-- One guarded call and an empty reply: the client gets that call's errno. -/
theorem errnoOfResult_pathOp (p : Platform) (c : Container) (call : Call) :
    errnoOfResult p (DockerFuseFSOps.pathOp c call).2.toClient = kernelErrno p (c.answer call) := by
  unfold DockerFuseFSOps.pathOp guardCall FailFast.guard
  cases c.answer call with
  | none => rfl
  | some err => exact errnoOfResult_ofError p err

/-- The number check of the methods on descriptors: an unknown number is the client's
`EINVAL`. -/
theorem errnoOfResult_withFile (p : Platform) (fso : DockerFuseFSOps) (fd : UInt64)
    (k : File → List Call × Response Unit) :
    errnoOfResult p (fso.withFile fd k).2.toClient =
      (fso.fds.lookup fd).elim (p.errno .EINVAL) fun f => errnoOfResult p (k f).2.toClient := by
  unfold DockerFuseFSOps.withFile
  cases fso.fds.lookup fd with
  | none =>
    rw [Option.elim_none, errnoOfResult_ofError]
    exact kernelErrno_errnoOf p (c := (.EINVAL, "EINVAL")) (by decide)
  | some f => rfl

/-- `Close`, whatever it does to the table, answers as the close of the stored file. -/
theorem errnoOfResult_close (p : Platform) (fso : DockerFuseFSOps) (c : Container)
    (r : CloseRequest) :
    errnoOfResult p (fso.close c r).response.toClient =
      (fso.fds.lookup r.fd).elim (p.errno .EINVAL) fun f => kernelErrno p (c.close f) := by
  unfold DockerFuseFSOps.close
  cases fso.fds.lookup r.fd with
  | none =>
    rw [Option.elim_none, errnoOfResult_ofError]
    exact kernelErrno_errnoOf p (c := (.EINVAL, "EINVAL")) (by decide)
  | some f =>
    simp only [Option.elim_some, DockerFuseFSOps.closeOn]
    cases c.close f with
    | none => rfl
    | some err => exact errnoOfResult_ofError p err

/-! ### Requests whose reply is an errno -/

section Requests

variable {p : Platform} (fso : DockerFuseFSOps) (c : Container)

/-- **Each request whose reply is an errno reports its container call.** Through the
client and the satellite, `Unlink` and `Rmdir` return the errno of the `Remove` of the
child's path, `Rename` that of the `Rename` the satellite makes, whatever the flags, and
`Fsync`, `Flush` and `Release` that of the `Sync` or `Close` of the file stored under the
handle's number, or `EINVAL` for a number the satellite does not hold. On a Linux or
Darwin client that errno is 0 exactly when the call succeeded. -/
theorem errno_requests_report_container_calls (hp : p ∈ clientPlatforms) (node : Node)
    (name newParentPath newName : String) (flags : UInt32) (fh : UInt64) (fsyncFlags : UInt32) :
    Node.unlink (satelliteClient p fso c) node name =
        kernelErrno p (c.remove (node.childPath name)) ∧
      Node.rmdir (satelliteClient p fso c) node name =
        kernelErrno p (c.remove (node.childPath name)) ∧
      Node.rename (satelliteClient p fso c) node name newParentPath newName flags =
        kernelErrno p (c.rename (node.childPath name)
          (GoPath.clean (GoPath.join newParentPath newName))) ∧
      Node.fsync (satelliteClient p fso c) fh fsyncFlags =
        (fso.fds.lookup fh).elim (p.errno .EINVAL) (fun f => kernelErrno p (c.sync f)) ∧
      Node.flush (satelliteClient p fso c) fh =
        (fso.fds.lookup fh).elim (p.errno .EINVAL) (fun f => kernelErrno p (c.close f)) ∧
      Node.release (satelliteClient p fso c) fh =
        (fso.fds.lookup fh).elim (p.errno .EINVAL) (fun f => kernelErrno p (c.close f)) ∧
      ∀ e : Option GoError, kernelErrno p e = errnoOK ↔ e = none := by
  -- the three path methods are `pathOp`; `Fsync` guards its one call behind the number
  have hfsync : Node.fsync (satelliteClient p fso c) fh fsyncFlags =
      (fso.fds.lookup fh).elim (p.errno .EINVAL) (fun f => kernelErrno p (c.sync f)) := by
    refine (errnoOfResult_withFile p fso fh _).trans ?_
    cases fso.fds.lookup fh with
    | none => rfl
    | some f => exact errnoOfResult_pathOp p c (.sync f)
  exact ⟨errnoOfResult_pathOp p c _, errnoOfResult_pathOp p c _, errnoOfResult_pathOp p c _,
    hfsync, errnoOfResult_close p fso c ⟨fh⟩, errnoOfResult_close p fso c ⟨fh⟩,
    kernelErrno_eq_errnoOK_iff hp⟩

theorem errno_requests_report_container_calls_darwin :
    darwin ∈ clientPlatforms ∧
      Node.unlink (satelliteClient darwin DockerFuseFSOps.new (Container.failing (errnoOf .EACCES)))
          ⟨"/data"⟩ "f" =
        kernelErrno darwin ((Container.failing (errnoOf .EACCES)).remove
          ((⟨"/data"⟩ : Node).childPath "f")) ∧
      Node.rmdir (satelliteClient darwin DockerFuseFSOps.new (Container.failing (errnoOf .EACCES)))
          ⟨"/data"⟩ "f" =
        kernelErrno darwin ((Container.failing (errnoOf .EACCES)).remove
          ((⟨"/data"⟩ : Node).childPath "f")) ∧
      Node.rename (satelliteClient darwin DockerFuseFSOps.new (Container.failing (errnoOf .EACCES)))
          ⟨"/data"⟩ "f" "" "g" 0 =
        kernelErrno darwin ((Container.failing (errnoOf .EACCES)).rename
          ((⟨"/data"⟩ : Node).childPath "f") (GoPath.clean (GoPath.join "" "g"))) ∧
      Node.fsync (satelliteClient darwin DockerFuseFSOps.new (Container.failing (errnoOf .EACCES)))
          3 0 =
        (DockerFuseFSOps.new.fds.lookup 3).elim (darwin.errno .EINVAL)
          (fun f => kernelErrno darwin ((Container.failing (errnoOf .EACCES)).sync f)) ∧
      Node.flush (satelliteClient darwin DockerFuseFSOps.new (Container.failing (errnoOf .EACCES)))
          3 =
        (DockerFuseFSOps.new.fds.lookup 3).elim (darwin.errno .EINVAL)
          (fun f => kernelErrno darwin ((Container.failing (errnoOf .EACCES)).close f)) ∧
      Node.release (satelliteClient darwin DockerFuseFSOps.new (Container.failing (errnoOf .EACCES)))
          3 =
        (DockerFuseFSOps.new.fds.lookup 3).elim (darwin.errno .EINVAL)
          (fun f => kernelErrno darwin ((Container.failing (errnoOf .EACCES)).close f)) ∧
      ∀ e : Option GoError, kernelErrno darwin e = errnoOK ↔ e = none :=
  have hp : darwin ∈ clientPlatforms := by simp [clientPlatforms]
  ⟨hp, errno_requests_report_container_calls DockerFuseFSOps.new _ hp ⟨"/data"⟩ "f" "" "g" 0 3 0⟩

end Requests

/-! ### `Getattr` and `Lookup` -/

/-- The attributes the kernel gets for an `Lstat` answer: the conversions of
`statReplyOf` on the satellite, then those of `statAttrOf` on the client. The link
target the satellite also reads plays no part in them. -/
def fuseAttrOf (sys : StatT) : FuseAttr :=
  (statAttrOf (statReplyOf sys "")).fuseAttr

section Stat

variable (p : Platform) (fso : DockerFuseFSOps) (c : Container) {path : String}

theorem satelliteClient_stat_ok {sys : StatT} (h : c.lstat path = .ok sys) :
    (satelliteClient p fso c).stat path =
      (errnoOK, statAttrOf (statReplyOf sys (linkTargetOf (c.readlink path)))) := by
  simp only [satelliteClient, DockerFuseClient.stat, DockerFuseFSOps.stat, h]
  rfl

theorem satelliteClient_stat_error {err : GoError} (h : c.lstat path = .error err) :
    (satelliteClient p fso c).stat path = (kernelErrno p (some err), .zero) := by
  simp only [satelliteClient, DockerFuseClient.stat, DockerFuseFSOps.stat, h, toClient_ofError]
  rw [rpcErrorStringTOErrno_ofError]
  rfl

end Stat

/-- **`Getattr` and `Lookup` report `Lstat`.** On a client platform, `Getattr` of a node
hands the kernel the attributes of the container's `Lstat` of its path, and `Lookup` of
a name a new node on the child's path with the file type `lookupMode` makes of that
`Lstat`'s mode; when `Lstat` fails, both fail with its errno. -/
theorem getattr_lookup_report_lstat {p : Platform} (hp : p ∈ clientPlatforms)
    (fso : DockerFuseFSOps) (c : Container) (node : Node) (name : String) :
    Node.getattr (satelliteClient p fso c) node =
        ((c.lstat node.fullPath).mapError fun err => kernelErrno p (some err)).map fuseAttrOf ∧
      Node.lookup (satelliteClient p fso c) node name =
        ((c.lstat (node.childPath name)).mapError fun err => kernelErrno p (some err)).map
          fun sys => ⟨newNode (node.childPath name), ⟨lookupMode sys.mode, sys.ino⟩, fuseAttrOf sys⟩ := by
  -- both methods check the errno of one `stat`, which fails exactly when `Lstat` does
  have hfail : ∀ err, kernelErrno p (some err) ≠ errnoOK := fun err h =>
    Option.some_ne_none err ((kernelErrno_eq_errnoOK_iff hp _).mp h)
  constructor
  · unfold Node.getattr
    cases h : c.lstat node.fullPath with
    | error err =>
      rw [satelliteClient_stat_error p fso c h]
      exact if_pos (hfail err)
    | ok sys =>
      rw [satelliteClient_stat_ok p fso c h]
      exact if_neg (not_not_intro rfl)
  · unfold Node.lookup
    cases h : c.lstat (node.childPath name) with
    | error err =>
      simp only [satelliteClient_stat_error p fso c h]
      exact if_pos (hfail err)
    | ok sys =>
      simp only [satelliteClient_stat_ok p fso c h]
      exact if_neg (not_not_intro rfl)

theorem getattr_lookup_report_lstat_darwin :
    darwin ∈ clientPlatforms ∧
      (Node.getattr (satelliteClient darwin DockerFuseFSOps.new
          (Container.failing (errnoOf .ENOENT))) ⟨"/data"⟩ =
        (((Container.failing (errnoOf .ENOENT)).lstat "/data").mapError
          fun err => kernelErrno darwin (some err)).map fuseAttrOf ∧
      Node.lookup (satelliteClient darwin DockerFuseFSOps.new
          (Container.failing (errnoOf .ENOENT))) ⟨"/data"⟩ "f" =
        (((Container.failing (errnoOf .ENOENT)).lstat ((⟨"/data"⟩ : Node).childPath "f")).mapError
          fun err => kernelErrno darwin (some err)).map
          fun sys => ⟨newNode ((⟨"/data"⟩ : Node).childPath "f"), ⟨lookupMode sys.mode, sys.ino⟩,
            fuseAttrOf sys⟩) :=
  ⟨by simp [clientPlatforms], getattr_lookup_report_lstat (by simp [clientPlatforms]) _ _ _ _⟩

/-! ### go-fuse's entries -/

section Entries

variable {p : Platform} (c : Container)

/-- On a client platform, a method that makes one container call and replies with an
errno says 0 exactly when the call succeeded. -/
theorem pathOp_eq_errnoOK_iff (hp : p ∈ clientPlatforms) (call : Call) :
    errnoOfResult p (DockerFuseFSOps.pathOp c call).2.toClient = errnoOK ↔ c.answer call = none := by
  rw [errnoOfResult_pathOp, kernelErrno_eq_errnoOK_iff hp]

variable {σ ι : Type} {T : InodeTree σ ι Node} (fso : DockerFuseFSOps)

/-- **go-fuse drops or moves an entry exactly when the container did.** In every tree
that keeps go-fuse's laws, on a client platform, take an entry `name` of an inode
go-fuse knows. `Unlink` and `Rmdir` remove the entry, and change nothing else, exactly
when the container's `Remove` of the child's path succeeded. A `Rename` whose container
`Rename` succeeded moves the entry to the new name, over whatever that named, or, for
`RENAME_EXCHANGE`, swaps the two entries. On any failure the tree is left as it was. -/
theorem tree_follows_container_removals (hT : T.Lawful) (hp : p ∈ clientPlatforms) {t : σ}
    {parent : ι} {x : Inode Node} (hx : T.inode t parent = some x) {name : String} {i : ι}
    (hi : T.child t parent name = some i) (newParent : ι) (newName : String) (flags : UInt32)
    (hne : (parent, name) ≠ (newParent, newName)) :
    (T.Removed t (Bridge.step T (satelliteClient p fso c) t (.unlink parent name)) parent name ↔
        c.remove (x.node.childPath name) = none) ∧
      (T.Removed t (Bridge.step T (satelliteClient p fso c) t (.rmdir parent name)) parent name ↔
        c.remove (x.node.childPath name) = none) ∧
      (c.remove (x.node.childPath name) ≠ none →
        Bridge.step T (satelliteClient p fso c) t (.unlink parent name) = t ∧
          Bridge.step T (satelliteClient p fso c) t (.rmdir parent name) = t) ∧
      (c.rename (x.node.childPath name) (GoPath.clean (GoPath.join (T.path t newParent) newName)) =
          none →
        if flags &&& RENAME_EXCHANGE ≠ 0 then
          T.Swapped t (Bridge.step T (satelliteClient p fso c) t
            (.rename parent name newParent newName flags)) parent name newParent newName
        else
          T.Moved t (Bridge.step T (satelliteClient p fso c) t
            (.rename parent name newParent newName flags)) parent name newParent newName) ∧
      (c.rename (x.node.childPath name) (GoPath.clean (GoPath.join (T.path t newParent) newName)) ≠
          none →
        Bridge.step T (satelliteClient p fso c) t (.rename parent name newParent newName flags) = t) := by
  -- the three node methods are `pathOp`s, which say 0 exactly on success
  have hremove : Node.unlink (satelliteClient p fso c) x.node name = errnoOK ↔
      c.remove (x.node.childPath name) = none :=
    pathOp_eq_errnoOK_iff c hp (.remove (x.node.childPath name))
  have hrename : Node.rename (satelliteClient p fso c) x.node name (T.path t newParent) newName flags =
      errnoOK ↔ c.rename (x.node.childPath name)
        (GoPath.clean (GoPath.join (T.path t newParent) newName)) = none :=
    pathOp_eq_errnoOK_iff c hp (.rename _ _)
  have hkept : ¬T.Removed t t parent name := fun h => by
    rw [h.1] at hi
    cases hi
  refine ⟨?_, ?_, fun hfail => ?_, fun hok => ?_, fun hfail => ?_⟩
  · rw [Bridge.step_unlink hx]
    split_ifs with h
    · exact iff_of_true (hT.removed_rmChild t parent name) (hremove.mp h)
    · exact iff_of_false hkept (mt hremove.mpr h)
  · rw [Bridge.step_rmdir hx]
    split_ifs with h
    · exact iff_of_true (hT.removed_rmChild t parent name) (hremove.mp h)
    · exact iff_of_false hkept (mt hremove.mpr h)
  · rw [Bridge.step_unlink hx, Bridge.step_rmdir hx, if_neg (mt hremove.mp hfail)]
    exact ⟨rfl, if_neg (mt hremove.mp hfail)⟩
  · rw [Bridge.step_rename hx, if_pos (hrename.mpr hok)]
    split_ifs
    · exact hT.swapped_exchangeChild hne t
    · exact hT.moved_mvChild hne t
  · rw [Bridge.step_rename hx, if_neg (mt hrename.mp hfail)]

theorem tree_follows_container_removals_lookupX :
    nodeTable.Lawful ∧ linux ∈ clientPlatforms ∧
      nodeTable.inode (Bridge.run nodeTable (nodeTable.init (newNode "/")) (lookupX 1 "/x")) 1 =
        some ⟨newNode "/", 1, S_IFDIR⟩ ∧
      nodeTable.child (Bridge.run nodeTable (nodeTable.init (newNode "/")) (lookupX 1 "/x")) 1 "x" =
        some 2 ∧ ((1 : ℕ), "x") ≠ (1, "z") ∧
      ((nodeTable.Removed (Bridge.run nodeTable (nodeTable.init (newNode "/")) (lookupX 1 "/x"))
          (Bridge.step nodeTable (satelliteClient linux DockerFuseFSOps.new (linkContainer ["/x"]))
            (Bridge.run nodeTable (nodeTable.init (newNode "/")) (lookupX 1 "/x")) (.unlink 1 "x"))
          1 "x" ↔
          (linkContainer ["/x"]).remove ((newNode "/").childPath "x") = none) ∧
        (nodeTable.Removed (Bridge.run nodeTable (nodeTable.init (newNode "/")) (lookupX 1 "/x"))
          (Bridge.step nodeTable (satelliteClient linux DockerFuseFSOps.new (linkContainer ["/x"]))
            (Bridge.run nodeTable (nodeTable.init (newNode "/")) (lookupX 1 "/x")) (.rmdir 1 "x"))
          1 "x" ↔
          (linkContainer ["/x"]).remove ((newNode "/").childPath "x") = none) ∧
        ((linkContainer ["/x"]).remove ((newNode "/").childPath "x") ≠ none →
          Bridge.step nodeTable (satelliteClient linux DockerFuseFSOps.new (linkContainer ["/x"]))
              (Bridge.run nodeTable (nodeTable.init (newNode "/")) (lookupX 1 "/x")) (.unlink 1 "x") =
            Bridge.run nodeTable (nodeTable.init (newNode "/")) (lookupX 1 "/x") ∧
          Bridge.step nodeTable (satelliteClient linux DockerFuseFSOps.new (linkContainer ["/x"]))
              (Bridge.run nodeTable (nodeTable.init (newNode "/")) (lookupX 1 "/x")) (.rmdir 1 "x") =
            Bridge.run nodeTable (nodeTable.init (newNode "/")) (lookupX 1 "/x")) ∧
        ((linkContainer ["/x"]).rename ((newNode "/").childPath "x") (GoPath.clean (GoPath.join
            (nodeTable.path (Bridge.run nodeTable (nodeTable.init (newNode "/")) (lookupX 1 "/x")) 1)
              "z")) = none →
          if (0 : UInt32) &&& RENAME_EXCHANGE ≠ 0 then
            nodeTable.Swapped (Bridge.run nodeTable (nodeTable.init (newNode "/")) (lookupX 1 "/x"))
              (Bridge.step nodeTable (satelliteClient linux DockerFuseFSOps.new (linkContainer ["/x"]))
                (Bridge.run nodeTable (nodeTable.init (newNode "/")) (lookupX 1 "/x"))
                (.rename 1 "x" 1 "z" 0)) 1 "x" 1 "z"
          else
            nodeTable.Moved (Bridge.run nodeTable (nodeTable.init (newNode "/")) (lookupX 1 "/x"))
              (Bridge.step nodeTable (satelliteClient linux DockerFuseFSOps.new (linkContainer ["/x"]))
                (Bridge.run nodeTable (nodeTable.init (newNode "/")) (lookupX 1 "/x"))
                (.rename 1 "x" 1 "z" 0)) 1 "x" 1 "z") ∧
        ((linkContainer ["/x"]).rename ((newNode "/").childPath "x") (GoPath.clean (GoPath.join
            (nodeTable.path (Bridge.run nodeTable (nodeTable.init (newNode "/")) (lookupX 1 "/x")) 1)
              "z")) ≠ none →
          Bridge.step nodeTable (satelliteClient linux DockerFuseFSOps.new (linkContainer ["/x"]))
              (Bridge.run nodeTable (nodeTable.init (newNode "/")) (lookupX 1 "/x"))
              (.rename 1 "x" 1 "z" 0) =
            Bridge.run nodeTable (nodeTable.init (newNode "/")) (lookupX 1 "/x"))) :=
  have hx : nodeTable.inode (Bridge.run nodeTable (nodeTable.init (newNode "/")) (lookupX 1 "/x")) 1 =
      some ⟨newNode "/", 1, S_IFDIR⟩ := by
    decide
  have hi : nodeTable.child (Bridge.run nodeTable (nodeTable.init (newNode "/")) (lookupX 1 "/x")) 1
      "x" = some 2 := by
    decide
  ⟨nodeTable_lawful, by simp [clientPlatforms], hx, hi, by decide,
    tree_follows_container_removals (linkContainer ["/x"]) DockerFuseFSOps.new nodeTable_lawful
      (by simp [clientPlatforms]) hx hi 1 "z" 0 (by decide)⟩

end Entries

end DockerFuse.Mount
