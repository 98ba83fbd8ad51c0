import DockerFuse.GoFuse
import DockerFuse.Mount.Wire

/-!
# The node tree of the mount

go-fuse keeps, for the mount, its tree of inodes and entries; dockerfuse keeps one piece
of data in each inode's `Node`, the container path `fullPath` it was made with. This
module puts the two together over every tree that keeps go-fuse's laws
(`GoFuse.InodeTree.Lawful`): `DockerFuse.Mount.Bridge.step` is one request of the
kernel that changes entries, as go-fuse's bridge serves it. It calls the method of the
parent's `Node` (`Lookup`, `Create`, `Mkdir`, `Symlink`, `Link`, `Rename`, `Unlink`,
`Rmdir`) and, when that succeeds, `NewPersistentInode` then `AddChild`, `MvChild` or
`ExchangeChild`, or `RmChild`.

A node's `fullPath` is `Clean(R + "/" + p)` for one of the current paths `p` of its
inode as long as no entry is removed or replaced
(`DockerFuse.Mount.node_paths_stay_current`): a new node is made on the path of its
name below a node whose path is right, and `NewPersistentInode` keeps the inode it has
for a key, whose path still leads to it. Nothing ever changes a `fullPath`, so an
`Unlink` of one of two names of a file leaves the node on a path that no longer leads to
it, in every tree that keeps the laws.

`Rename` builds its destination differently from every other path: from go-fuse's
`Path(nil)`, which is relative to the mount root and carries no trace of `R`. And go-fuse
swaps the two entries of a `RENAME_EXCHANGE` that the satellite carries out as a plain
rename.
-/

namespace DockerFuse.Mount

open Syscall Rpccommon Satellite Client GoFuse

/-- `RENAME_EXCHANGE`. -/
def RENAME_EXCHANGE : UInt32 := 2

/-- A request of the kernel that makes, moves or removes an entry; inodes are named as
the kernel names them. -/
inductive TreeRequest (ι : Type) where
  | lookup (parent : ι) (name : String)
  | create (parent : ι) (name : String) (flags mode : UInt32)
  | mkdir (parent : ι) (name : String) (mode : UInt32)
  | symlink (parent : ι) (target name : String)
  | link (parent target : ι) (name : String)
  | rename (parent : ι) (name : String) (newParent : ι) (newName : String) (flags : UInt32)
  | unlink (parent : ι) (name : String)
  | rmdir (parent : ι) (name : String)
  deriving DecidableEq, Repr

/-- `Clean(R + "/" + p)`: the container path of the names `p` below the mount root `R`. -/
def absPath (R : String) (p : List String) : String :=
  GoPath.clean (R ++ "/" ++ "/".intercalate p)

/-- **A child's path is the path of its name below its parent**: `Join` and `Clean` of
the parent's clean path and a name is the container path of one name more. -/
theorem childPath_absPath {R : String} (hR : R ≠ "") {node : Node} {p : List String}
    (hnode : node.fullPath = absPath R p) (name : String) :
    node.childPath name = absPath R (p ++ [name]) := by
  have hclean : node.childPath name = GoPath.clean
    (R ++ "/" ++ "/".intercalate p ++ "/" ++ name) := by
    rw [Node.childPath, hnode, absPath, GoPath.join_of_ne_empty (GoPath.clean_ne_empty _),
      GoPath.clean_clean, GoPath.clean_clean_append (GoPath.append_slash_ne_empty _ _)]
  rw [hclean, absPath]
  cases p with
  | nil =>
    -- at the root the two separators are one
    rw [String.intercalate_nil, String.append_empty, List.nil_append, String.intercalate_singleton,
      String.append_assoc, GoPath.clean_append_slash_slash hR]
  | cons n p =>
    rw [String.intercalate_append_of_ne_nil (List.cons_ne_nil _ _) (List.cons_ne_nil _ _),
      String.intercalate_singleton]
    simp only [String.append_assoc]

theorem ne_empty_of_clean_eq {R : String} (hR : GoPath.clean R = R) : R ≠ "" :=
  hR ▸ GoPath.clean_ne_empty R

section Bridge

variable {σ ι : Type} (T : InodeTree σ ι Node)

/-! ### go-fuse's bridge -/

/-- A request on the inode `i`; the kernel only names inodes it was given. -/
def Bridge.onNode (t : σ) (i : ι) (f : Inode Node → σ) : σ :=
  match T.inode t i with
  | some x => f x
  | none => t

/-- What go-fuse does with the result of a node method that makes an entry:
`NewPersistentInode` of the entry's node, then the entry. -/
def Bridge.entered (t : σ) (parent : ι) (name : String) : Except Errno NewEntry → σ
  | .ok e =>
    T.addChild (T.newPersistentInode t e.node e.stable.ino e.stable.mode).2 parent name
      (T.newPersistentInode t e.node e.stable.ino e.stable.mode).1
  | .error _ => t

/-- One request: the parent's node method, with the client as it answers at this step,
then go-fuse's bookkeeping. -/
def Bridge.step (client : DockerFuseClientInterface) (t : σ) : TreeRequest ι → σ
  | .lookup parent name => Bridge.onNode T t parent fun p =>
    Bridge.entered T t parent name (Node.lookup client p.node name)
  | .create parent name flags mode => Bridge.onNode T t parent fun p =>
    Bridge.entered T t parent name ((Node.create client p.node name flags mode).map (·.2.2))
  | .mkdir parent name mode => Bridge.onNode T t parent fun p =>
    Bridge.entered T t parent name (Node.mkdir client p.node name mode)
  | .symlink parent target name => Bridge.onNode T t parent fun p =>
    Bridge.entered T t parent name (Node.symlink client p.node target name)
  | .link parent target name => Bridge.onNode T t parent fun p => Bridge.onNode T t target fun q =>
    Bridge.entered T t parent name (Node.link client p.node q.node q.mode name)
  | .rename parent name newParent newName flags => Bridge.onNode T t parent fun p =>
    if Node.rename client p.node name (T.path t newParent) newName flags = errnoOK then
      if flags &&& RENAME_EXCHANGE ≠ 0 then T.exchangeChild t parent name newParent newName
      else T.mvChild t parent name newParent newName
    else t
  | .unlink parent name => Bridge.onNode T t parent fun p =>
    if Node.unlink client p.node name = errnoOK then T.rmChild t parent name else t
  | .rmdir parent name => Bridge.onNode T t parent fun p =>
    if Node.rmdir client p.node name = errnoOK then T.rmChild t parent name else t

/-- A run: each request with the client as it answers then. -/
def Bridge.run : σ → List (DockerFuseClientInterface × TreeRequest ι) → σ
  | t, [] => t
  | t, (client, r) :: steps => Bridge.run (Bridge.step T client t r) steps

/-- **Every node is on a current path of its inode**: the container path of names that
lead from the root to it. -/
def PathsOK (R : String) (t : σ) : Prop :=
  ∀ i x, T.inode t i = some x → ∃ p, T.resolve t p T.root = some i ∧ x.node.fullPath = absPath R p

/-- A run in which no request removes or replaces an entry. -/
def Bridge.Growing : σ → List (DockerFuseClientInterface × TreeRequest ι) → Prop
  | _, [] => True
  | t, (client, r) :: steps =>
    T.KeepsEntries t (Bridge.step T client t r) ∧ Bridge.Growing (Bridge.step T client t r) steps

variable {T}

theorem Bridge.run_append (t : σ) (steps steps' : List (DockerFuseClientInterface × TreeRequest ι)) :
    Bridge.run T t (steps ++ steps') = Bridge.run T (Bridge.run T t steps) steps' := by
  induction steps generalizing t with
  | nil => rfl
  | cons s steps ih => exact ih _

@[simp] theorem Bridge.onNode_some {t : σ} {i : ι} {f : Inode Node → σ} {x : Inode Node}
    (h : T.inode t i = some x) : Bridge.onNode T t i f = f x := by
  rw [Bridge.onNode, h]

@[simp] theorem Bridge.onNode_none {t : σ} {i : ι} {f : Inode Node → σ}
    (h : T.inode t i = none) : Bridge.onNode T t i f = t := by
  rw [Bridge.onNode, h]

/-- `Unlink` and `Rmdir` drop the entry exactly when the node method says 0. -/
theorem Bridge.step_unlink {t : σ} {parent : ι} {x : Inode Node} (hx : T.inode t parent = some x)
    (client : DockerFuseClientInterface) (name : String) :
    Bridge.step T client t (.unlink parent name) =
      if Node.unlink client x.node name = errnoOK then T.rmChild t parent name else t := by
  rw [Bridge.step, Bridge.onNode_some hx]

theorem Bridge.step_rmdir {t : σ} {parent : ι} {x : Inode Node} (hx : T.inode t parent = some x)
    (client : DockerFuseClientInterface) (name : String) :
    Bridge.step T client t (.rmdir parent name) =
      if Node.rmdir client x.node name = errnoOK then T.rmChild t parent name else t := by
  rw [Bridge.step, Bridge.onNode_some hx]

theorem Bridge.step_rename {t : σ} {parent : ι} {x : Inode Node} (hx : T.inode t parent = some x)
    (client : DockerFuseClientInterface) (name : String) (newParent : ι) (newName : String)
    (flags : UInt32) :
    Bridge.step T client t (.rename parent name newParent newName flags) =
      if Node.rename client x.node name (T.path t newParent) newName flags = errnoOK then
        (if flags &&& RENAME_EXCHANGE ≠ 0 then T.exchangeChild t parent name newParent newName
          else T.mvChild t parent name newParent newName)
      else t := by
  rw [Bridge.step, Bridge.onNode_some hx]

/-! ### The paths stay right while no entry goes -/

section PathsOK

variable {R : String} {t : σ}

/-- Inodes that were there keep their paths when the entries only grow; the others
need a path of their own. -/
theorem PathsOK.of_keeps {t' : σ} (hinv : PathsOK T R t) (hkeep : T.KeepsEntries t t')
    (hnew : ∀ i x, T.inode t' i = some x → T.inode t i = some x ∨
      ∃ p, T.resolve t' p T.root = some i ∧ x.node.fullPath = absPath R p) :
    PathsOK T R t' := by
  intro i x hx
  rcases hnew i x hx with hold | hfresh
  · obtain ⟨p, hp, hpath⟩ := hinv i x hold
    exact ⟨p, hkeep.resolve hp, hpath⟩
  · exact hfresh

theorem PathsOK.of_inode_eq {t' : σ} (hinv : PathsOK T R t) (hkeep : T.KeepsEntries t t')
    (hsame : T.inode t' = T.inode t) : PathsOK T R t' :=
  hinv.of_keeps hkeep fun _ _ hx => Or.inl (hsame ▸ hx)

theorem PathsOK.onNode (hinv : PathsOK T R t) {i : ι} {f : Inode Node → σ}
    (hf : ∀ x, T.inode t i = some x → T.KeepsEntries t (f x) → PathsOK T R (f x))
    (hkeep : T.KeepsEntries t (Bridge.onNode T t i f)) : PathsOK T R (Bridge.onNode T t i f) := by
  cases h : T.inode t i with
  | none =>
    rw [Bridge.onNode_none h]
    exact hinv
  | some x =>
    rw [Bridge.onNode_some h] at hkeep ⊢
    exact hf x h hkeep

variable (hT : T.Lawful)
include hT

/-- **An entry a node method makes keeps the paths right**: the new node, if go-fuse
keeps it, is on the path of its name below its parent. -/
theorem PathsOK.entered (hR : R ≠ "") (hinv : PathsOK T R t) {parent : ι} {p : Inode Node}
    (hp : T.inode t parent = some p) {name : String} {x : Except Errno NewEntry}
    (hx : EntersAt x (p.node.childPath name))
    (hkeep : T.KeepsEntries t (Bridge.entered T t parent name x)) :
    PathsOK T R (Bridge.entered T t parent name x) := by
  cases x with
  | error err => exact hinv
  | ok e =>
    refine hinv.of_keeps hkeep fun i y hy => ?_
    rw [Bridge.entered, hT.inode_addChild] at hy
    rcases hT.inode_newPersistentInode hy with hold | ⟨rfl, hnode⟩
    · exact Or.inl hold
    · obtain ⟨pp, hpp, hppath⟩ := hinv parent p hp
      refine Or.inr ⟨pp ++ [name], ?_, ?_⟩
      · rw [InodeTree.resolve_concat (hkeep.resolve hpp), Bridge.entered, hT.child_addChild_self]
      · rw [hnode, hx e rfl]
        exact childPath_absPath hR hppath name

/-- **The step lemma**: a request that keeps every entry keeps every node on a current
path of its inode. -/
theorem PathsOK.step (hR : R ≠ "") (hinv : PathsOK T R t) (client : DockerFuseClientInterface)
    (r : TreeRequest ι) (hkeep : T.KeepsEntries t (Bridge.step T client t r)) :
    PathsOK T R (Bridge.step T client t r) := by
  cases r with
  | lookup parent name =>
    exact hinv.onNode
      (fun p hp hk => hinv.entered hT hR hp (Node.lookup_entersAt client p.node name) hk) hkeep
  | create parent name flags mode =>
    exact hinv.onNode
      (fun p hp hk => hinv.entered hT hR hp (Node.create_entersAt client p.node name flags mode) hk)
      hkeep
  | mkdir parent name mode =>
    exact hinv.onNode
      (fun p hp hk => hinv.entered hT hR hp (Node.mkdir_entersAt client p.node name mode) hk) hkeep
  | symlink parent target name =>
    exact hinv.onNode
      (fun p hp hk => hinv.entered hT hR hp (Node.symlink_entersAt client p.node target name) hk)
      hkeep
  | link parent target name =>
    refine hinv.onNode (fun p hp hk => hinv.onNode (fun q _ hk' => ?_) hk) hkeep
    exact hinv.entered hT hR hp (Node.link_entersAt client p.node q.node q.mode name) hk'
  | rename parent name newParent newName flags =>
    -- entries move; no inode comes or goes
    refine hinv.onNode (fun p _ hk => hinv.of_inode_eq hk ?_) hkeep
    split_ifs
    · exact hT.inode_exchangeChild _ _ _ _ _
    · exact hT.inode_mvChild _ _ _ _ _
    · rfl
  | unlink parent name =>
    refine hinv.onNode (fun p _ hk => hinv.of_inode_eq hk ?_) hkeep
    split_ifs
    · exact hT.inode_rmChild _ _ _
    · rfl
  | rmdir parent name =>
    refine hinv.onNode (fun p _ hk => hinv.of_inode_eq hk ?_) hkeep
    split_ifs
    · exact hT.inode_rmChild _ _ _
    · rfl

/-- **The run lemma**: along a run in which no entry is removed or replaced, every node
stays on a current path of its inode. -/
theorem PathsOK.run (hR : R ≠ "") (hinv : PathsOK T R t)
    (steps : List (DockerFuseClientInterface × TreeRequest ι)) (hg : Bridge.Growing T t steps) :
    PathsOK T R (Bridge.run T t steps) := by
  induction steps generalizing t with
  | nil => exact hinv
  | cons s steps ih =>
    obtain ⟨client, r⟩ := s
    obtain ⟨hkeep, hrest⟩ := hg
    exact ih (hinv.step hT hR client r hkeep) hrest

/-- At the start the root is the only inode, on `R` itself. -/
theorem pathsOK_init (hR : GoPath.clean R = R) : PathsOK T R (T.init (newNode R)) := by
  intro i x hx
  have hi : i = T.root := by
    by_contra hne
    rw [hT.inode_init_ne _ hne] at hx
    cases hx
  subst hi
  rw [hT.inode_init_root, Option.some_inj] at hx
  subst hx
  refine ⟨[], rfl, ?_⟩
  rw [absPath, String.intercalate_nil, String.append_empty,
    GoPath.clean_append_slash (ne_empty_of_clean_eq hR), hR]
  rfl

end PathsOK

end Bridge

/-- A container whose regular files `names` are all the inode `5`, where a link or a
removal succeeds. -/
def linkContainer (names : List String) : Container :=
  { Container.failing (errnoOf ErrnoName.ENOENT) with
    lstat := fun path =>
      if path ∈ names then .ok ⟨0x81A4, names.length.toUInt64, 5, 0, 0, 0, 0, 0, 0, 0, 4096⟩
      else .error (errnoOf ErrnoName.ENOENT)
    link := fun _ _ => none
    remove := fun _ => none }

/-- The client of the satellite on a `linkContainer`. -/
def linkClient (names : List String) : DockerFuseClientInterface :=
  satelliteClient linux DockerFuseFSOps.new (linkContainer names)

/-- go-fuse's tree as `GoFuse.InodeTable` keeps it, on dockerfuse's nodes. -/
def nodeTable : InodeTree (InodeTable Node) ℕ Node :=
  InodeTable.tree

theorem nodeTable_lawful : nodeTable.Lawful :=
  InodeTable.lawful

/-- `Lookup` of `x` in the root, on a container where it is the file `path`. -/
def lookupX {ι : Type} (root : ι) (path : String) : List (DockerFuseClientInterface × TreeRequest ι) :=
  [(linkClient [path], .lookup root "x")]

/-- `Link` of the inode `i` as `y` in the root, then `Unlink` of `x`, on a container
where `/x` and `/y` are one file. -/
def linkUnlinkX {ι : Type} (root i : ι) : List (DockerFuseClientInterface × TreeRequest ι) :=
  [(linkClient ["/x", "/y"], .link root i "y"), (linkClient ["/x", "/y"], .unlink root "x")]

/-- The inode `Lookup` makes for the file `/x`. -/
def xInode : Inode Node :=
  ⟨⟨"/x"⟩, 5, S_IFREG⟩

section LinkUnlink

variable {σ ι : Type} {T : InodeTree σ ι Node}

/-- The mount of `/` after `Lookup` of `x`: a new inode for the file, named `x`, and
nothing else. -/
theorem lookupX_run (hT : T.Lawful) :
    ∃ i t', Bridge.run T (T.init (newNode "/")) (lookupX T.root "/x") = T.addChild t' T.root "x" i ∧
      i ≠ T.root ∧ T.inode t' i = some xInode ∧
      (∀ j, j ≠ i → T.inode t' j = T.inode (T.init (newNode "/")) j) ∧
      T.child t' = T.child (T.init (newNode "/")) := by
  have hroot := hT.inode_init_root (newNode "/")
  have hlook : Node.lookup (linkClient ["/x"]) (newNode "/") "x" =
      .ok ⟨⟨"/x"⟩, ⟨S_IFREG, 5⟩, ⟨5, 0, 0, 0, 0, 0, 0x81A4, 1, 0, 0⟩⟩ := by
    decide
  obtain ⟨hnone, ino', hino', hnew⟩ := hT.newPersistentInode_fresh (T.init (newNode "/")) ⟨"/x"⟩ 5
    S_IFREG fun j y hy => hT.not_hasKey_init hy (by decide) S_IFREG
  refine ⟨(T.newPersistentInode (T.init (newNode "/")) ⟨"/x"⟩ 5 S_IFREG).1,
    (T.newPersistentInode (T.init (newNode "/")) ⟨"/x"⟩ 5 S_IFREG).2, ?_, fun h => ?_, ?_,
    fun j hj => hT.inode_newPersistentInode_ne _ _ _ _ hj, hT.child_newPersistentInode _ _ _ _⟩
  · simp only [lookupX, Bridge.run, Bridge.step, Bridge.onNode_some hroot, hlook, Bridge.entered]
  · rw [h, hroot] at hnone
    cases hnone
  · rw [hnew, hino' (by decide)]
    decide

/-- In every tree that keeps go-fuse's laws, on the mount of `/`: `Lookup` of `x` makes
an inode `i` for the file; `Link` of it as `y` finds `i` again by its inode number and
type; `Unlink` of `x` drops the entry `x`. Then `y` names `i`, whose node is still on
`/x`, and no path that leads to `i` is `/x`; `Getattr` of the node fails with `ENOENT`
although the file is there as `/y`. -/
theorem stale_node_of_unlink (hT : T.Lawful) :
    ∃ i, T.child (Bridge.run T (T.init (newNode "/")) (lookupX T.root "/x")) T.root "x" = some i ∧
      T.inode (Bridge.run T (T.init (newNode "/")) (lookupX T.root "/x" ++ linkUnlinkX T.root i)) i =
        some xInode ∧
      T.child (Bridge.run T (T.init (newNode "/")) (lookupX T.root "/x" ++ linkUnlinkX T.root i))
        T.root "y" = some i ∧
      ¬PathsOK T "/" (Bridge.run T (T.init (newNode "/")) (lookupX T.root "/x" ++ linkUnlinkX T.root i)) ∧
      Node.getattr (linkClient ["/y"]) xInode.node = .error (linux.errno ErrnoName.ENOENT) := by
  obtain ⟨i, t', hrun, hi, hx, hother, hchild⟩ := lookupX_run hT
  have hroot : T.inode (T.addChild t' T.root "x" i) T.root = some ⟨newNode "/", 1, 0x4000⟩ := by
    rw [hT.inode_addChild, hother _ (Ne.symm hi), hT.inode_init_root]
  have hx₁ : T.inode (T.addChild t' T.root "x" i) i = some xInode := by
    rw [hT.inode_addChild, hx]
  -- `Link` finds `i` again: no other inode has the file's number and type
  have hnp : T.newPersistentInode (T.addChild t' T.root "x" i) ⟨"/y"⟩ 5 S_IFREG =
      (i, T.addChild t' T.root "x" i) := by
    refine hT.newPersistentInode_of_unique hx₁ (by decide) (fun j y hy hkey => ?_) _
    by_contra hj
    rw [hT.inode_addChild, hother j hj] at hy
    exact hT.not_hasKey_init hy (by decide) S_IFREG hkey
  have hlink : Node.link (linkClient ["/x", "/y"]) (newNode "/") xInode.node xInode.mode "y" =
      .ok ⟨⟨"/y"⟩, ⟨S_IFREG, 5⟩, ⟨5, 0, 0, 0, 0, 0, 0x81A4, 2, 0, 0⟩⟩ := by
    decide
  have hunlink : Node.unlink (linkClient ["/x", "/y"]) (newNode "/") "x" = errnoOK := by
    decide
  have hfinal : Bridge.run T (T.init (newNode "/")) (lookupX T.root "/x" ++ linkUnlinkX T.root i) =
      T.rmChild (T.addChild (T.addChild t' T.root "x" i) T.root "y" i) T.root "x" := by
    have hroot₂ : T.inode (T.addChild (T.addChild t' T.root "x" i) T.root "y" i) T.root =
        some ⟨newNode "/", 1, 0x4000⟩ := by
      rw [hT.inode_addChild, hroot]
    rw [Bridge.run_append, hrun]
    simp only [linkUnlinkX, Bridge.run, Bridge.step, Bridge.onNode_some hroot, Bridge.onNode_some hx₁,
      hlink, Bridge.entered, hnp, Bridge.onNode_some hroot₂, hunlink, if_true]
  have hyx : (T.root, "y") ≠ (T.root, "x") := by simp
  -- the one entry left is `y`, naming `i`
  have hent : ∀ q n j, T.child (Bridge.run T (T.init (newNode "/"))
      (lookupX T.root "/x" ++ linkUnlinkX T.root i)) q n = some j → q = T.root ∧ n = "y" ∧ j = i := by
    intro q n j h
    rw [hfinal] at h
    by_cases hqx : (q, n) = (T.root, "x")
    · rw [Prod.mk.injEq] at hqx
      rw [hqx.1, hqx.2, hT.child_rmChild_self] at h
      cases h
    rw [hT.child_rmChild_ne _ hqx] at h
    by_cases hqy : (q, n) = (T.root, "y")
    · rw [Prod.mk.injEq] at hqy
      rw [hqy.1, hqy.2, hT.child_addChild_self, Option.some_inj] at h
      exact ⟨hqy.1, hqy.2, h.symm⟩
    rw [hT.child_addChild_ne _ _ hqy, hT.child_addChild_ne _ _ hqx, hchild, hT.child_init] at h
    cases h
  refine ⟨i, by rw [hrun, hT.child_addChild_self], ?_, ?_, fun hok => ?_, by decide⟩
  · rw [hfinal, hT.inode_rmChild, hT.inode_addChild, hx₁]
  · rw [hfinal, hT.child_rmChild_ne _ hyx, hT.child_addChild_self]
  · obtain ⟨p, hp, hpath⟩ := hok i xInode (by rw [hfinal, hT.inode_rmChild, hT.inode_addChild, hx₁])
    rw [InodeTree.eq_of_resolve_single hi hent hp] at hpath
    exact absurd hpath (by decide)

end LinkUnlink

/-! ### Where `Rename` sends the new name -/

/-- A name as the kernel sends it: not empty, and not rooted. -/
def KernelName (name : String) : Prop :=
  name ≠ "" ∧ ¬GoPath.Rooted name

instance (name : String) : Decidable (KernelName name) :=
  inferInstanceAs (Decidable (_ ∧ _))

/-- The names a request carries. -/
def TreeRequest.names {ι : Type} : TreeRequest ι → List String
  | .lookup _ name | .create _ name _ _ | .mkdir _ name _ | .symlink _ _ name | .link _ _ name
  | .unlink _ name | .rmdir _ name => [name]
  | .rename _ name _ newName _ => [name, newName]

section Names

variable {σ ι : Type} {T : InodeTree σ ι Node}

/-- Every entry has a name as the kernel sends it. -/
def NamesOK (T : InodeTree σ ι Node) (t : σ) : Prop :=
  ∀ i name j, T.child t i name = some j → KernelName name

variable (hT : T.Lawful) {t : σ}
include hT

theorem NamesOK.entered (hinv : NamesOK T t) {parent : ι} {name : String} (hname : KernelName name)
    (x : Except Errno NewEntry) : NamesOK T (Bridge.entered T t parent name x) := by
  cases x with
  | error => exact hinv
  | ok e =>
    intro q n j h
    rcases hT.child_addChild_cases h with h | rfl
    · rw [hT.child_newPersistentInode] at h
      exact hinv q n j h
    · exact hname

/-- **The step lemma**: a request whose names the kernel could send leaves only such
names in the entries. -/
theorem NamesOK.step (hinv : NamesOK T t) (client : DockerFuseClientInterface) (r : TreeRequest ι)
    (hr : ∀ name ∈ r.names, KernelName name) : NamesOK T (Bridge.step T client t r) := by
  -- a request on no inode leaves the tree as it is
  have honNode : ∀ {i : ι} {f : Inode Node → σ}, (∀ x, NamesOK T (f x)) →
      NamesOK T (Bridge.onNode T t i f) := by
    intro i f hf
    cases h : T.inode t i with
    | none => rwa [Bridge.onNode_none h]
    | some x => rw [Bridge.onNode_some h]; exact hf x
  cases r with
  | lookup parent name => exact honNode fun _ => hinv.entered hT (hr name (by simp [TreeRequest.names])) _
  | create parent name flags mode => exact honNode fun _ => hinv.entered hT (hr name (by simp [TreeRequest.names])) _
  | mkdir parent name mode => exact honNode fun _ => hinv.entered hT (hr name (by simp [TreeRequest.names])) _
  | symlink parent target name => exact honNode fun _ => hinv.entered hT (hr name (by simp [TreeRequest.names])) _
  | link parent target name =>
    exact honNode fun _ => honNode fun _ => hinv.entered hT (hr name (by simp [TreeRequest.names])) _
  | rename parent name newParent newName flags =>
    refine honNode fun _ => ?_
    split_ifs
    · intro q n j h
      rcases hT.child_exchangeChild_cases h with h | rfl | rfl
      · exact hinv q n j h
      · exact hr _ (by simp [TreeRequest.names])
      · exact hr _ (by simp [TreeRequest.names])
    · intro q n j h
      rcases hT.child_mvChild_cases h with h | rfl
      · exact hinv q n j h
      · exact hr _ (by simp [TreeRequest.names])
    · exact hinv
  | unlink parent name =>
    refine honNode fun _ => ?_
    split_ifs
    · exact fun q n j h => hinv q n j (hT.child_rmChild_cases h)
    · exact hinv
  | rmdir parent name =>
    refine honNode fun _ => ?_
    split_ifs
    · exact fun q n j h => hinv q n j (hT.child_rmChild_cases h)
    · exact hinv

/-- **The run lemma**: along a run of requests the kernel could send, every entry has
such a name. -/
theorem NamesOK.run (hinv : NamesOK T t) (steps : List (DockerFuseClientInterface × TreeRequest ι))
    (hsteps : ∀ s ∈ steps, ∀ name ∈ s.2.names, KernelName name) :
    NamesOK T (Bridge.run T t steps) := by
  induction steps generalizing t with
  | nil => exact hinv
  | cons s steps ih =>
    obtain ⟨client, r⟩ := s
    exact ih (hinv.step hT client r (hsteps _ (List.mem_cons_self ..)))
      fun s hs => hsteps s (List.mem_cons_of_mem _ hs)

end Names

/-- **`Rename` sends a relative destination.** In every tree that keeps go-fuse's laws,
along every run from a mount in which the kernel sent names as it does (not empty, not
rooted), `Rename` of a name as the kernel sends it builds its destination from
`Path(nil)` of the new parent, relative to the mount root: the destination it sends is
never rooted, so the satellite resolves it against its own working directory, not below
the mount path `R`. -/
theorem rename_destination_relative {σ ι : Type} {T : InodeTree σ ι Node} (hT : T.Lawful) (R : String)
    (steps : List (DockerFuseClientInterface × TreeRequest ι))
    (hsteps : ∀ s ∈ steps, ∀ name ∈ s.2.names, KernelName name)
    (client : DockerFuseClientInterface) (node : Node) (name : String) (newParent : ι)
    {newName : String} (hname : KernelName newName) (flags : UInt32) :
    ∃ dest, Node.rename client node name (T.path (Bridge.run T (T.init (newNode R)) steps) newParent)
        newName flags = client.rename (node.childPath name) dest flags ∧ ¬GoPath.Rooted dest := by
  have hinit : NamesOK T (T.init (newNode R)) := fun i name j h => by
    rw [hT.child_init] at h
    cases h
  have hnames := hinit.run hT steps hsteps
  refine ⟨GoPath.clean (GoPath.join (T.path (Bridge.run T (T.init (newNode R)) steps) newParent)
    newName), rfl, fun hdest => ?_⟩
  rw [GoPath.rooted_clean] at hdest
  rcases GoPath.rooted_of_rooted_join hdest with hpath | hnew
  · exact hT.not_rooted_path hnames newParent hpath
  · exact hname.2 hnew

theorem rename_destination_relative_lookupX :
    nodeTable.Lawful ∧ (∀ s ∈ lookupX 1 "/data/x", ∀ name ∈ s.2.names, KernelName name) ∧
      KernelName "y" ∧
      ∃ dest, Node.rename (linkClient ["/data/x"]) ⟨"/data/x"⟩ "z"
          (nodeTable.path (Bridge.run nodeTable (nodeTable.init (newNode "/data")) (lookupX 1 "/data/x"))
            2) "y" 0 =
        (linkClient ["/data/x"]).rename (Node.childPath ⟨"/data/x"⟩ "z") dest 0 ∧
        ¬GoPath.Rooted dest :=
  ⟨nodeTable_lawful, by decide, by decide,
    rename_destination_relative nodeTable_lawful "/data" (lookupX 1 "/data/x") (by decide) _ _ _ 2
      (by decide) 0⟩

example : GoPath.clean (GoPath.join (nodeTable.path (nodeTable.init (newNode "/data")) 1) "b") = "b" := by
  decide

/-! ### An exchange -/

/-- The satellite's `Rename` makes one call, `os.Rename`, whatever the request's flags. -/
theorem rename_calls (c : Container) (request : RenameRequest) :
    (DockerFuseFSOps.rename c request).1 = [.rename request.fullPath request.fullNewPath] := by
  unfold DockerFuseFSOps.rename DockerFuseFSOps.pathOp guardCall FailFast.guard
  split <;> rfl

/-- A container with the regular files `/a` (inode 5) and `/b` (inode 6), where every
`Rename` succeeds. -/
def swapContainer : Container :=
  { Container.failing (errnoOf ErrnoName.ENOENT) with
    lstat := fun path => .ok ⟨0x81A4, 1, if path = "/a" then 5 else 6, 0, 0, 0, 0, 0, 0, 0, 4096⟩
    rename := fun _ _ => none }

/-- The mount of `/` after `Lookup` of `a` and of `b`: `a` is node 2, `b` node 3. -/
def swapTree : InodeTable Node :=
  Bridge.run nodeTable (nodeTable.init (newNode "/"))
    [(satelliteClient linux DockerFuseFSOps.new swapContainer, .lookup 1 "a"),
      (satelliteClient linux DockerFuseFSOps.new swapContainer, .lookup 1 "b")]

end DockerFuse.Mount
