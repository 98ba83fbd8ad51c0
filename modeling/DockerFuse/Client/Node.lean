import DockerFuse.GoPath
import DockerFuse.Client.Client

/-!
# The FUSE node

`Node` is what go-fuse calls for each file system request on a file, directory or
link of the mount. It holds one piece of data of its own, `fullPath`, the container
path it was created with, and forwards every request to the client through the
interface `DockerFuseClientInterface`. Here that interface is a record of the client's
methods, and each `Node` method takes it as an argument: the satellite behind it, and
what happens to the satellite's state, are for `DockerFuse.Mount`.

A method that names a child (`Lookup`, `Create`, `Mkdir`, `Symlink`, `Link`, `Unlink`,
`Rmdir`, the source of `Rename`) sends `filepath.Clean(filepath.Join(node.fullPath,
name))`, `DockerFuse.Client.Node.childPath`. The destination of `Rename` is built
instead from what go-fuse's `Inode.Path(nil)` says of the new parent, an argument
here. A method that makes an entry returns the `Node` and the `StableAttr` it hands
to `NewPersistentInode`; go-fuse decides whether that node is kept.
-/

namespace DockerFuse.Client

open Syscall Rpccommon

/-- `DockerFuseClientInterface`: the client methods, with their results as the node
sees them. -/
structure DockerFuseClientInterface where
  stat : String → Errno × StatAttr
  create : String → BitVec 64 → UInt32 → UInt64 × Errno × StatAttr
  readDir : String → List FuseDirEntry × Errno
  «open» : String → BitVec 64 → UInt32 → UInt64 × UInt32 × Errno
  close : UInt64 → Errno
  read : UInt64 → Int64 → Int64 → List UInt8 × Errno
  seek : UInt64 → Int64 → Int64 → Int64 × Errno
  write : UInt64 → Int64 → List UInt8 → Int64 × Errno
  unlink : String → Errno
  fsync : UInt64 → UInt32 → Errno
  mkdir : String → UInt32 → Errno × StatAttr
  rmdir : String → Errno
  rename : String → String → UInt32 → Errno
  readlink : String → String × Errno
  link : String → String → Errno
  symlink : String → String → Errno
  setAttr : String → SetAttrIn → Errno × StatAttr

/-- A `Node`, by its `fullPath`. -/
structure Node where
  fullPath : String
  deriving DecidableEq, Repr

/-- `NewNode`. The link target it copies into `Data` is never read again. -/
def newNode (fullPath : String) : Node :=
  ⟨fullPath⟩

/-- go-fuse's `StableAttr`: the file type bits and the inode number that identify an
`Inode`. -/
structure StableAttr where
  mode : UInt32
  ino : UInt64
  deriving DecidableEq, Repr

/-- `fuse.S_IFDIR`. -/
def S_IFDIR : UInt32 := 0x4000
/-- `fuse.S_IFLNK`. -/
def S_IFLNK : UInt32 := 0xA000
/-- `fuse.S_IFIFO`. -/
def S_IFIFO : UInt32 := 0x1000
/-- `fuse.S_IFREG`. -/
def S_IFREG : UInt32 := 0x8000
/-- `fuse.FOPEN_DIRECT_IO`. -/
def FOPEN_DIRECT_IO : UInt32 := 1

/-- What a method that makes an entry returns: the node and the stable attributes
passed to `NewPersistentInode`, and `out.Attr`. -/
structure NewEntry where
  node : Node
  stable : StableAttr
  attr : FuseAttr
  deriving DecidableEq, Repr

/-- `int(flags)` of a `uint32` flag word. -/
def flagWord (flags : UInt32) : BitVec 64 :=
  flags.toBitVec.setWidth 64

/-- The file type `Lookup` gives the new inode: the first of directory, link and
FIFO whose bits are all set in the mode, and regular file otherwise. -/
def lookupMode (mode : UInt32) : UInt32 :=
  if mode &&& S_IFDIR = S_IFDIR then S_IFDIR
  else if mode &&& S_IFLNK = S_IFLNK then S_IFLNK
  else if mode &&& S_IFIFO = S_IFIFO then S_IFIFO
  else S_IFREG

/-- `Lookup` takes an entry for a directory exactly when its mode holds the bit of
`S_IFDIR`, whatever its other type bits are. -/
theorem lookupMode_eq_S_IFDIR_iff (mode : UInt32) :
    lookupMode mode = S_IFDIR ↔ mode &&& S_IFDIR = S_IFDIR := by
  unfold lookupMode
  by_cases hd : mode &&& S_IFDIR = S_IFDIR
  · simp [hd]
  · -- the three later answers are other file types
    rw [if_neg hd, iff_false_intro hd, iff_false]
    split_ifs <;> decide

/-- `filepath.Clean(filepath.Join(node.fullPath, name))`. -/
def Node.childPath (node : Node) (name : String) : String :=
  GoPath.clean (GoPath.join node.fullPath name)

/-- How each node method that hands back a value ends: with the errno when it is not
0, else with the value. So it succeeds exactly when the errno is 0, with that value. -/
theorem errnoGuard_eq_ok_iff {α : Type} {errno : Errno} {v w : α} :
    (if errno ≠ errnoOK then .error errno else .ok v : Except Errno α) = .ok w ↔
      errno = errnoOK ∧ w = v := by
  by_cases h : errno = errnoOK
  · simp [h, eq_comm]
  · simp [h]

section Methods

variable (client : DockerFuseClientInterface)

/-- `Create`: the handle, the open flags handed back, and the new entry. -/
def Node.create (node : Node) (name : String) (flags mode : UInt32) :
    Except Errno (UInt64 × UInt32 × NewEntry) :=
  let fullPath := node.childPath name
  let (fh, errno, fuseAttr) := client.create fullPath (flagWord flags) mode
  if errno ≠ errnoOK then .error errno
  else .ok (fh, flags, ⟨newNode fullPath, ⟨0, fuseAttr.fuseAttr.ino⟩, fuseAttr.fuseAttr⟩)

/-- `Create` succeeds exactly when the client's `create` returned errno 0, and then
hands back the client's handle. -/
theorem Node.create_eq_ok {node : Node} {name : String} {flags mode : UInt32} {fh : UInt64}
    {fuseFlags : UInt32} {e : NewEntry}
    (h : Node.create client node name flags mode = .ok (fh, fuseFlags, e)) :
    (client.create (node.childPath name) (flagWord flags) mode).2.1 = errnoOK ∧
      (client.create (node.childPath name) (flagWord flags) mode).1 = fh := by
  unfold Node.create at h
  dsimp only at h
  obtain ⟨hok, hv⟩ := errnoGuard_eq_ok_iff.mp h
  exact ⟨hok, (congrArg Prod.fst hv).symm⟩

/-- `Flush`: the handle is closed on the satellite. -/
def Node.flush (fh : UInt64) : Errno :=
  client.close fh

/-- `Release`: the handle is closed on the satellite. -/
def Node.release (fh : UInt64) : Errno :=
  client.close fh

/-- `Fsync`. -/
def Node.fsync (fh : UInt64) (flags : UInt32) : Errno :=
  client.fsync fh flags

/-- `Getattr`. -/
def Node.getattr (node : Node) : Except Errno FuseAttr :=
  let (errno, fuseAttr) := client.stat node.fullPath
  if errno ≠ errnoOK then .error errno else .ok fuseAttr.fuseAttr

/-- `Link`: the link, then a `stat` of it for its inode number; the file type is the
target inode's, `targetMode`. -/
def Node.link (node target : Node) (targetMode : UInt32) (name : String) : Except Errno NewEntry :=
  let newFullPath := node.childPath name
  let errno := client.link target.fullPath newFullPath
  if errno ≠ errnoOK then .error errno
  else
    let (errno, fuseAttr) := client.stat newFullPath
    if errno ≠ errnoOK then .error errno
    else .ok ⟨newNode newFullPath, ⟨targetMode, fuseAttr.fuseAttr.ino⟩, fuseAttr.fuseAttr⟩

/-- `Lookup`. -/
def Node.lookup (node : Node) (name : String) : Except Errno NewEntry :=
  let fullPath := node.childPath name
  let (syserr, fuseAttr) := client.stat fullPath
  if syserr ≠ errnoOK then .error syserr
  else
    .ok ⟨newNode fullPath, ⟨lookupMode fuseAttr.fuseAttr.mode, fuseAttr.fuseAttr.ino⟩,
      fuseAttr.fuseAttr⟩

/-- `Lseek`: the offset and the result pass through `int64` and back. -/
def Node.lseek (fh off : UInt64) (whence : UInt32) : UInt64 × Errno :=
  let (ntmp, syserr) := client.seek fh off.toInt64 whence.toUInt64.toInt64
  (ntmp.toUInt64, syserr)

/-- `Mkdir`. -/
def Node.mkdir (node : Node) (name : String) (mode : UInt32) : Except Errno NewEntry :=
  let fullPath := node.childPath name
  let (errno, fuseAttr) := client.mkdir fullPath mode
  if errno ≠ errnoOK then .error errno
  else .ok ⟨newNode fullPath, ⟨S_IFDIR, fuseAttr.fuseAttr.ino⟩, fuseAttr.fuseAttr⟩

/-- `Open`: the flags are sent, and sent again as the mode; the handle is returned
even on failure, and direct I/O is asked for. -/
def Node.open (node : Node) (flags : UInt32) : UInt64 × UInt32 × Errno :=
  let (fh, _, syserr) := client.open node.fullPath (flagWord flags) flags
  (fh, FOPEN_DIRECT_IO, syserr)

/-- `Readdir`. -/
def Node.readdir (node : Node) : Except Errno (List FuseDirEntry) :=
  let (ds, errno) := client.readDir node.fullPath
  if errno ≠ errnoOK then .error errno else .ok ds

/-- `Read`: as many bytes as `dest` holds are asked for. The result is `none` (a nil
`ReadResult`) on error. -/
def Node.read (fh : UInt64) (dest : List UInt8) (off : Int64) : Option (List UInt8) × Errno :=
  let (data, syserr) := client.read fh off dest.length.toInt64
  if syserr ≠ errnoOK then (none, syserr) else (some data, syserr)

/-- `Readlink`. -/
def Node.readlink (node : Node) : String × Errno :=
  let (linkTarget, errno) := client.readlink node.fullPath
  if errno ≠ errnoOK then ("", errno) else (linkTarget, errno)

/-- `Rename`. The source is below this node's `fullPath`; the destination is below
`newParentPath`, what `newParent.EmbeddedInode().Path(nil)` returns. -/
def Node.rename (node : Node) (name newParentPath newName : String) (flags : UInt32) : Errno :=
  let fullPath := node.childPath name
  let fullNewPath := GoPath.clean (GoPath.join newParentPath newName)
  client.rename fullPath fullNewPath flags

/-- `Rmdir`. -/
def Node.rmdir (node : Node) (name : String) : Errno :=
  client.rmdir (node.childPath name)

/-- `Setattr`. -/
def Node.setattr (node : Node) (in' : SetAttrIn) : Except Errno FuseAttr :=
  let (errno, fuseAttr) := client.setAttr node.fullPath in'
  if errno ≠ errnoOK then .error errno else .ok fuseAttr.fuseAttr

/-- `Symlink`. `out` is not filled in, so the entry's attributes are zero. -/
def Node.symlink (node : Node) (target name : String) : Except Errno NewEntry :=
  let newFullPath := node.childPath name
  let errno := client.symlink target newFullPath
  if errno ≠ errnoOK then .error errno
  else .ok ⟨newNode newFullPath, ⟨S_IFLNK, 0⟩, StatAttr.zero.fuseAttr⟩

/-- `Unlink`. -/
def Node.unlink (node : Node) (name : String) : Errno :=
  client.unlink (node.childPath name)

/-- `Write`: the count comes back as a `uint32`. -/
def Node.write (fh : UInt64) (data : List UInt8) (off : Int64) : UInt32 × Errno :=
  let (ntmp, syserr) := client.write fh off data
  (ntmp.toUInt64.toUInt32, syserr)

/-! ### What the methods hand back -/

/-- The response flags of a `Create` that succeeds are the open flags of its request. -/
theorem Node.create_fuseFlags {node : Node} {name : String} {flags mode : UInt32} {fh : UInt64}
    {fuseFlags : UInt32} {e : NewEntry}
    (h : Node.create client node name flags mode = .ok (fh, fuseFlags, e)) :
    fuseFlags = flags := by
  unfold Node.create at h
  dsimp only at h
  exact congrArg (·.2.1) (errnoGuard_eq_ok_iff.mp h).2

/-- `Lookup` succeeds exactly when the client's `stat` of the child's path said 0. It
then makes a node on that path, whose file type is what `lookupMode` makes of the mode
`stat` returned, with the attributes `stat` returned. -/
theorem Node.lookup_eq_ok_iff {node : Node} {name : String} {e : NewEntry} :
    Node.lookup client node name = .ok e ↔
      (client.stat (node.childPath name)).1 = errnoOK ∧
        e = ⟨newNode (node.childPath name),
          ⟨lookupMode (client.stat (node.childPath name)).2.fuseAttr.mode,
            (client.stat (node.childPath name)).2.fuseAttr.ino⟩,
          (client.stat (node.childPath name)).2.fuseAttr⟩ := by
  unfold Node.lookup
  dsimp only
  exact errnoGuard_eq_ok_iff

/-- `Getattr` succeeds exactly when the client's `stat` of the node's path said 0, and
then reports the attributes `stat` returned. -/
theorem Node.getattr_eq_ok_iff {node : Node} {attr : FuseAttr} :
    Node.getattr client node = .ok attr ↔
      (client.stat node.fullPath).1 = errnoOK ∧ attr = (client.stat node.fullPath).2.fuseAttr := by
  unfold Node.getattr
  dsimp only
  exact errnoGuard_eq_ok_iff

/-! ### The entries the node methods make -/

/-- Whatever entry `x` holds, it is a new node on the container path `path`. -/
def EntersAt (x : Except Errno NewEntry) (path : String) : Prop :=
  ∀ e, x = .ok e → e.node = newNode path

theorem Node.lookup_entersAt (node : Node) (name : String) :
    EntersAt (Node.lookup client node name) (node.childPath name) := by
  intro e h
  obtain ⟨-, rfl⟩ := (Node.lookup_eq_ok_iff client).mp h
  rfl

theorem Node.create_entersAt (node : Node) (name : String) (flags mode : UInt32) :
    EntersAt ((Node.create client node name flags mode).map (·.2.2)) (node.childPath name) := by
  intro e h
  unfold Node.create at h
  dsimp only at h
  -- `map` hides the failure under the projection: both branches are cased
  split_ifs at h <;> cases h
  rfl

theorem Node.mkdir_entersAt (node : Node) (name : String) (mode : UInt32) :
    EntersAt (Node.mkdir client node name mode) (node.childPath name) := by
  intro e h
  unfold Node.mkdir at h
  dsimp only at h
  rw [(errnoGuard_eq_ok_iff.mp h).2]

theorem Node.symlink_entersAt (node : Node) (target name : String) :
    EntersAt (Node.symlink client node target name) (node.childPath name) := by
  intro e h
  unfold Node.symlink at h
  dsimp only at h
  rw [(errnoGuard_eq_ok_iff.mp h).2]

theorem Node.link_entersAt (node target : Node) (targetMode : UInt32) (name : String) :
    EntersAt (Node.link client node target targetMode name) (node.childPath name) := by
  intro e h
  unfold Node.link at h
  dsimp only at h
  split_ifs at h
  cases h
  rfl

end Methods

end DockerFuse.Client
