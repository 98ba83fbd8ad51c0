import DockerFuse.BitField
import DockerFuse.Mount.Wire

/-!
# What the node methods tell go-fuse and the kernel

Beyond the attributes it passes through, a `Node` method hands go-fuse two words of
its own making, and both are read as something other than what the code put there.

**The file type of a new inode.** `Lookup` picks the `StableAttr.Mode` of the inode it
makes with a `switch` of masked tests: directory, then symlink, then FIFO, each when
all its bits are in the mode, else a regular file. The file type is a four-bit code,
not a set of flags, so a test passes on every code that holds its bits: a socket
(`0xC000`) and a block device (`0x6000`) hold the bit of a directory (`0x4000`), and
`Lookup` makes a directory inode of them, while `Getattr` and `Readdir` pass the mode
on as it is.

**The open flags of a new handle.** `Create` hands back the `O_*` flags of the request
where go-fuse expects `FOPEN_*` response flags, which the kernel reads bit by bit;
`Open` hands back `FOPEN_DIRECT_IO`.

`DockerFuse.Mount.lookupMode_eq_type_iff` gives the type codes `Lookup` keeps, and
`DockerFuse.Mount.create_open_fuseFlags` the flags on which `Create` and `Open` agree.
-/

namespace DockerFuse.Mount

open Syscall Rpccommon Satellite Client

/-! ### The file type of a new inode -/

/-- `syscall.S_IFMT`, the file type bits of a mode. -/
def S_IFMT : UInt32 := 0xF000
/-- `syscall.S_IFCHR`. -/
def S_IFCHR : UInt32 := 0x2000
/-- `syscall.S_IFBLK`. -/
def S_IFBLK : UInt32 := 0x6000
/-- `syscall.S_IFSOCK`. -/
def S_IFSOCK : UInt32 := 0xC000

/-- `S_IFMT` is the field of the four bits from bit 12. -/
theorem mask_eq_S_IFMT : (BitField.mask 12 4).toUInt32 = S_IFMT := by
  decide

/-- A test of bits within `S_IFMT` reads the type code only. -/
theorem and_S_IFMT_and {mode c : UInt32} (hc : S_IFMT &&& c = c) :
    mode &&& S_IFMT &&& c = mode &&& c := by
  rw [UInt32.and_assoc, hc]

theorem lookupMode_and_S_IFMT (mode : UInt32) : lookupMode (mode &&& S_IFMT) = lookupMode mode := by
  unfold lookupMode
  rw [and_S_IFMT_and (by decide : S_IFMT &&& S_IFDIR = S_IFDIR),
    and_S_IFMT_and (by decide : S_IFMT &&& S_IFLNK = S_IFLNK),
    and_S_IFMT_and (by decide : S_IFMT &&& S_IFIFO = S_IFIFO)]

/-- **Where `Lookup`'s file type is the mode's.** The file type `Lookup` gives a new
inode is the type code of the mode itself exactly for FIFOs, directories, regular files
and symbolic links. A character device, a block device, a socket, the code 0 and the
codes no file type has are given another type. -/
theorem lookupMode_eq_type_iff (mode : UInt32) :
    lookupMode mode = mode &&& S_IFMT ↔ mode &&& S_IFMT ∈ [S_IFIFO, S_IFDIR, S_IFREG, S_IFLNK] := by
  -- both sides read the type code only, which takes sixteen values
  refine BitField.forall_of_values (a := 12) (b := 4)
    (P := fun m => lookupMode m = m &&& S_IFMT ↔ m &&& S_IFMT ∈ [S_IFIFO, S_IFDIR, S_IFREG, S_IFLNK])
    (by decide) (fun m hm => ?_) (by decide) mode
  rw [mask_eq_S_IFMT, lookupMode_and_S_IFMT,
    and_S_IFMT_and (by decide : S_IFMT &&& S_IFMT = S_IFMT)] at hm
  exact hm

/-- **The node `Lookup` makes reports the mode `Lookup` saw.** While the satellite
answers `Stat` alike, `Getattr` on the new node returns the attributes of the
`Lookup`, whose file type is what `lookupMode` made of their mode. -/
theorem getattr_of_lookup {client : DockerFuseClientInterface} {node : Node} {name : String}
    {e : NewEntry} (h : Node.lookup client node name = .ok e) :
    Node.getattr client e.node = .ok e.attr ∧ e.stable.mode = lookupMode e.attr.mode := by
  obtain ⟨hstat, rfl⟩ := (Node.lookup_eq_ok_iff client).mp h
  exact ⟨(Node.getattr_eq_ok_iff client).mpr ⟨hstat, rfl⟩, rfl⟩

/-- `lstat` of a Unix socket: file type `S_IFSOCK`, permissions `0755`, inode 12. -/
def socketStat : StatT :=
  ⟨0xC1ED, 1, 12, 0, 0, 0, 0, 0, 0, 0, 4096⟩

/-- A container whose directory `/run` holds one Unix socket, `app.sock`. -/
def socketContainer : Container :=
  { Container.failing (errnoOf ErrnoName.ENOENT) with
    lstat := fun path =>
      if path = "/run/app.sock" then .ok socketStat else .error (errnoOf ErrnoName.ENOENT)
    readDir := fun path =>
      if path = "/run" then .ok [⟨"app.sock", .ok socketStat⟩]
      else .error (errnoOf ErrnoName.ENOENT) }

/-- The client of a mount of the container's `/run`. -/
def socketClient : DockerFuseClientInterface :=
  satelliteClient linux DockerFuseFSOps.new socketContainer

theorem socket_looked_up_as_directory :
    (Node.lookup socketClient ⟨"/run"⟩ "app.sock").map (·.stable.mode) = .ok S_IFDIR ∧
      (Node.getattr socketClient ⟨"/run/app.sock"⟩).map (·.mode &&& S_IFMT) = .ok S_IFSOCK ∧
      (Node.readdir socketClient ⟨"/run"⟩).map (·.map (·.mode &&& S_IFMT)) = .ok [S_IFSOCK] := by
  decide

/-! ### The open flags of a new handle -/

/-- `fuse.FOPEN_KEEP_CACHE`. -/
def FOPEN_KEEP_CACHE : UInt32 := 0x2
/-- `fuse.FOPEN_PARALLEL_DIRECT_WRITES`. -/
def FOPEN_PARALLEL_DIRECT_WRITES : UInt32 := 0x40
/-- `fuse.FOPEN_PASSTHROUGH`. -/
def FOPEN_PASSTHROUGH : UInt32 := 0x80

/-- **`Create` answers with the open flags.** Whatever the satellite answers, a
`Create` that succeeds hands the kernel the `O_*` flags of its request as its
`FOPEN_*` response flags, where an `Open` of any node with any flags hands it
`FOPEN_DIRECT_IO`: the two agree only when the request's flags are the word `1`. -/
theorem create_open_fuseFlags {client client' : DockerFuseClientInterface} {node : Node}
    {name : String} {flags mode : UInt32} {fh : UInt64} {fuseFlags : UInt32} {e : NewEntry}
    (h : Node.create client node name flags mode = .ok (fh, fuseFlags, e)) (node' : Node)
    (openFlags : UInt32) :
    fuseFlags = flags ∧ (fuseFlags = (Node.open client' node' openFlags).2.1 ↔ flags = 1) := by
  have hflags := Node.create_fuseFlags client h
  refine ⟨hflags, ?_⟩
  rw [hflags]
  rfl

theorem create_hands_back_open_flags :
    flagWord 0xC2 = linux.oflag .O_RDWR ||| linux.oflag .O_CREAT ||| linux.oflag .O_EXCL ∧
      (Node.create (satelliteClient linux DockerFuseFSOps.new appendContainer) ⟨"/data"⟩ "new"
          0xC2 0o644).map (·.2.1) =
        .ok (FOPEN_KEEP_CACHE ||| FOPEN_PARALLEL_DIRECT_WRITES ||| FOPEN_PASSTHROUGH) ∧
      (Node.open (satelliteClient linux DockerFuseFSOps.new appendContainer) ⟨"/data/new"⟩
          0xC2).2.1 = FOPEN_DIRECT_IO := by
  decide

end DockerFuse.Mount
