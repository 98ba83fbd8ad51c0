import DockerFuse.Satellite.Server

/-!
# The client's side of each call

`DockerFuseClient` turns each FUSE operation into one net/rpc call to the satellite
and the call's result into an errno and the values FUSE wants. Its `rpcClient` is an
interface; here each method takes the call itself as an argument,
`call : request → Except String reply`, standing for `d.rpcClient.Call(...)` on that
method: the reply, or the message of the error the call returned.

What reaches the client of a method's ending is `DockerFuse.Satellite.Response.toClient`:
net/rpc sends a returned error as its message, and a panic ends the satellite, so
that the pending call fails with `io.ErrUnexpectedEOF`. Every error the client gets
is turned into an errno by `RPCErrorStringTOErrno` for the client's platform `p`,
except in `read`, which first looks for the message `"EOF"`.

`fusefs.FileHandle` is an `interface{}` that holds the satellite's descriptor number;
the client stores the number and asserts it back with `fh.(uintptr)`, so a handle is
a `UInt64` here.
-/

namespace DockerFuse.Client

open Syscall Rpccommon Satellite

/-- Errno 0, the success every method returns. -/
def errnoOK : Errno := ⟨0⟩

/-- The shape of the methods whose reply is empty (`close`, `unlink`, `fsync`,
`rmdir`, `rename`, `link`, `symlink`): no error is errno 0, an error is its errno. -/
def errnoOfResult (p : Platform) : Except String Unit → Errno
  | .ok () => errnoOK
  | .error msg => rpcErrorStringTOErrno p msg

/-- A `fuse.Attr`, with the fields the client fills in. -/
structure FuseAttr where
  ino : UInt64
  size : UInt64
  blocks : UInt64
  atime : UInt64
  mtime : UInt64
  ctime : UInt64
  mode : UInt32
  nlink : UInt32
  uid : UInt32
  gid : UInt32
  deriving DecidableEq, Repr

/-- `statAttr`: the attributes, and the target of a symbolic link. -/
structure StatAttr where
  fuseAttr : FuseAttr
  linkTarget : String
  deriving DecidableEq, Repr

/-- A `statAttr` as declared, before a method fills it in. -/
def StatAttr.zero : StatAttr :=
  ⟨⟨0, 0, 0, 0, 0, 0, 0, 0, 0, 0⟩, ""⟩

/-- The assignments `stat`, `create` and `setAttr` make from a `StatReply`. -/
def statAttrOf (reply : StatReply) : StatAttr :=
  ⟨⟨reply.ino, reply.size.toUInt64, reply.blocks.toUInt64, reply.atime.toUInt64,
    reply.mtime.toUInt64, reply.ctime.toUInt64, reply.mode, reply.nlink, reply.uid, reply.gid⟩,
    reply.linkTarget⟩

/-- A `fuse.DirEntry`. -/
structure FuseDirEntry where
  mode : UInt32
  ino : UInt64
  name : String
  deriving DecidableEq, Repr

/-- `stat`. -/
def DockerFuseClient.stat (p : Platform) (call : String → Except String StatReply)
    (fullPath : String) :
    Errno × StatAttr :=
  match call fullPath with
  | .error msg => (rpcErrorStringTOErrno p msg, .zero)
  | .ok reply => (errnoOK, statAttrOf reply)

/-- The request `create` and `open` send: the flags in system-agnostic form. -/
def DockerFuseClient.openRequest (p : Platform) (fullPath : String) (flags : BitVec 64)
    (mode : UInt32) :
    OpenRequest :=
  ⟨fullPath, systemToSAFlags p flags, mode⟩

/-- `create`: the handle is the satellite's descriptor number. -/
def DockerFuseClient.create (p : Platform) (call : OpenRequest → Except String OpenReply)
    (fullPath : String)
    (flags : BitVec 64) (mode : UInt32) : UInt64 × Errno × StatAttr :=
  match call (openRequest p fullPath flags mode) with
  | .error msg => (0, rpcErrorStringTOErrno p msg, .zero)
  | .ok reply => (reply.fd, errnoOK, statAttrOf reply.statReply)

/-- The loop of `readDir`: an entry is kept when its inode number is above 2. -/
def DockerFuseClient.keepEntries (entries : List DirEntry) : List FuseDirEntry :=
  entries.filterMap fun entry =>
    if entry.ino > 2 then some ⟨entry.mode, entry.ino, entry.name⟩ else none

/-- `readDir`: the entries of the `DirStream` it returns. -/
def DockerFuseClient.readDir (p : Platform) (call : String → Except String (List DirEntry))
    (fullPath : String) :
    List FuseDirEntry × Errno :=
  match call fullPath with
  | .error msg => ([], rpcErrorStringTOErrno p msg)
  | .ok dirEntries => (keepEntries dirEntries, errnoOK)

/-- `open`: the handle, and the mode of the reply. -/
def DockerFuseClient.open (p : Platform) (call : OpenRequest → Except String OpenReply)
    (fullPath : String)
    (flags : BitVec 64) (modeIn : UInt32) : UInt64 × UInt32 × Errno :=
  match call (openRequest p fullPath flags modeIn) with
  | .error msg => (0, 0, rpcErrorStringTOErrno p msg)
  | .ok reply => (reply.fd, reply.statReply.mode, errnoOK)

/-- `close`. -/
def DockerFuseClient.close (p : Platform) (call : CloseRequest → Except String Unit)
    (fh : UInt64) : Errno :=
  errnoOfResult p (call ⟨fh⟩)

/-- `read`: the message `"EOF"` is an empty read, not an error. -/
def DockerFuseClient.read (p : Platform) (call : ReadRequest → Except String (List UInt8))
    (fh : UInt64)
    (offset n : Int64) : List UInt8 × Errno :=
  match call ⟨fh, offset, n⟩ with
  | .error msg => if msg = "EOF" then ([], errnoOK) else ([], rpcErrorStringTOErrno p msg)
  | .ok data => (data, errnoOK)

/-- `seek`. -/
def DockerFuseClient.seek (p : Platform) (call : SeekRequest → Except String Int64) (fh : UInt64)
    (offset whence : Int64) : Int64 × Errno :=
  match call ⟨fh, offset, whence⟩ with
  | .error msg => (0, rpcErrorStringTOErrno p msg)
  | .ok n => (n, errnoOK)

/-- `write`. -/
def DockerFuseClient.write (p : Platform) (call : WriteRequest → Except String Int64) (fh : UInt64)
    (offset : Int64) (data : List UInt8) : Int64 × Errno :=
  match call ⟨fh, offset, data⟩ with
  | .error msg => (0, rpcErrorStringTOErrno p msg)
  | .ok n => (n, errnoOK)

/-- `fsync`. -/
def DockerFuseClient.fsync (p : Platform) (call : FsyncRequest → Except String Unit) (fh : UInt64)
    (flags : UInt32) : Errno :=
  errnoOfResult p (call ⟨fh, flags⟩)

/-- `mkdir`: the attributes of the reply, with no link target. -/
def DockerFuseClient.mkdir (p : Platform) (call : MkdirRequest → Except String StatReply)
    (fullPath : String)
    (mode : UInt32) : Errno × StatAttr :=
  match call ⟨fullPath, mode⟩ with
  | .error msg => (rpcErrorStringTOErrno p msg, .zero)
  | .ok reply => (errnoOK, { statAttrOf reply with linkTarget := "" })

/-- `readlink`. -/
def DockerFuseClient.readlink (p : Platform) (call : String → Except String String)
    (fullPath : String) :
    String × Errno :=
  match call fullPath with
  | .error msg => ("", rpcErrorStringTOErrno p msg)
  | .ok linkTarget => (linkTarget, errnoOK)

/-- `unlink`. -/
def DockerFuseClient.unlink (p : Platform) (call : String → Except String Unit)
    (fullPath : String) :
    Errno :=
  errnoOfResult p (call fullPath)

/-- `rmdir`. -/
def DockerFuseClient.rmdir (p : Platform) (call : String → Except String Unit) (fullPath : String) :
    Errno :=
  errnoOfResult p (call fullPath)

/-- `rename`. -/
def DockerFuseClient.rename (p : Platform) (call : RenameRequest → Except String Unit)
    (fullPath fullNewPath : String) (flags : UInt32) : Errno :=
  errnoOfResult p (call ⟨fullPath, fullNewPath, flags⟩)

/-- `link`. -/
def DockerFuseClient.link (p : Platform) (call : LinkRequest → Except String Unit)
    (oldFullPath newFullPath : String) : Errno :=
  errnoOfResult p (call ⟨oldFullPath, newFullPath⟩)

/-- `symlink`. -/
def DockerFuseClient.symlink (p : Platform) (call : LinkRequest → Except String Unit)
    (oldFullPath newFullPath : String) : Errno :=
  errnoOfResult p (call ⟨oldFullPath, newFullPath⟩)

/-! ### What the client makes of a failure -/

/-- The message `"unexpected EOF"` of a call cut short by a panic is `EIO`. -/
theorem rpcErrorStringTOErrno_unexpectedEOF (p : Platform) :
    rpcErrorStringTOErrno p "unexpected EOF" = p.errno ErrnoName.EIO := by
  have hno : hasPrefix "unexpected EOF" "errno: " = false := by
    simp [hasPrefix, List.isPrefixOf]
  rw [rpcErrorStringTOErrno, hno]
  rfl

/-- The message a client gets for a method that failed with `err`. -/
theorem toClient_ofError {α : Type} (err : GoError) :
    (Response.ofError err : Response α).toClient =
      .error (((errnoToRPCErrorString err).map GoError.error).getD "unexpected EOF") := by
  unfold Response.ofError
  cases errnoToRPCErrorString err <;> rfl

/-- The errno a client on `p` makes of that message is the failure's errno on `p`. -/
theorem rpcErrorStringTOErrno_ofError (p : Platform) (err : GoError) :
    rpcErrorStringTOErrno p
      (((errnoToRPCErrorString err).map GoError.error).getD "unexpected EOF") =
      (wireErrno p err).getD (p.errno ErrnoName.EIO) := by
  unfold wireErrno
  cases errnoToRPCErrorString err with
  | none => exact rpcErrorStringTOErrno_unexpectedEOF p
  | some e => rfl

/-- Whatever the message, the client makes one of its platform's error constants of it. -/
theorem rpcErrorStringTOErrno_eq_errno (p : Platform) (msg : String) :
    ∃ n, rpcErrorStringTOErrno p msg = p.errno n := by
  unfold rpcErrorStringTOErrno symToErrno
  split
  · rcases CaseTable.select_mem (symToErrnoCases.map fun c => (c.1, p.errno c.2))
      (p.errno ErrnoName.EIO) ((splitN msg ' ' 2).getD 1 "") with h | h
    · obtain ⟨c, -, hc⟩ := List.mem_map.mp (by simpa only [List.map_map] using h)
      exact ⟨c.2, hc.symm⟩
    · exact ⟨ ErrnoName.EIO, h⟩
  · exact ⟨ ErrnoName.EIO, rfl⟩

/-- No error constant of a client platform is 0. -/
theorem errno_ne_errnoOK {p : Platform} (hp : p ∈ clientPlatforms) (n : ErrnoName) :
    p.errno n ≠ errnoOK := by
  simp only [clientPlatforms, List.mem_cons, List.not_mem_nil, or_false] at hp
  rcases hp with rfl | rfl <;> cases n <;> decide

/-- So a failed call never reaches the kernel as a success. -/
theorem rpcErrorStringTOErrno_ne_errnoOK {p : Platform} (hp : p ∈ clientPlatforms) (msg : String) :
    rpcErrorStringTOErrno p msg ≠ errnoOK := by
  obtain ⟨n, hn⟩ := rpcErrorStringTOErrno_eq_errno p msg
  rw [hn]
  exact errno_ne_errnoOK hp n

/-- On a client platform, `open` returns errno 0 only when the call replied, and then
it returns the reply's number. -/
theorem DockerFuseClient.open_of_errnoOK {p : Platform} (hp : p ∈ clientPlatforms)
    (call : OpenRequest → Except String OpenReply) {fullPath : String} {flags : BitVec 64}
    {modeIn : UInt32} (h : (DockerFuseClient.open p call fullPath flags modeIn).2.2 = errnoOK) :
    ∃ reply, call (openRequest p fullPath flags modeIn) = .ok reply ∧
      (DockerFuseClient.open p call fullPath flags modeIn).1 = reply.fd := by
  unfold DockerFuseClient.open at h ⊢
  cases hcall : call (openRequest p fullPath flags modeIn) with
  | error msg =>
    rw [hcall] at h
    exact absurd h (rpcErrorStringTOErrno_ne_errnoOK hp msg)
  | ok reply => exact ⟨reply, rfl, rfl⟩

/-- The same for `create`. -/
theorem DockerFuseClient.create_of_errnoOK {p : Platform} (hp : p ∈ clientPlatforms)
    (call : OpenRequest → Except String OpenReply) {fullPath : String} {flags : BitVec 64}
    {mode : UInt32} (h : (DockerFuseClient.create p call fullPath flags mode).2.1 = errnoOK) :
    ∃ reply, call (openRequest p fullPath flags mode) = .ok reply ∧
      (DockerFuseClient.create p call fullPath flags mode).1 = reply.fd := by
  unfold DockerFuseClient.create at h ⊢
  cases hcall : call (openRequest p fullPath flags mode) with
  | error msg =>
    rw [hcall] at h
    exact absurd h (rpcErrorStringTOErrno_ne_errnoOK hp msg)
  | ok reply => exact ⟨reply, rfl, rfl⟩

/-! ### `setAttr` -/

/-- A `fuse.SetAttrIn` as its `Get*` methods report it: each attribute, when the
kernel marked it valid with its `FATTR_*` bit. -/
structure SetAttrIn where
  atime : Option Time
  mtime : Option Time
  uid : Option UInt32
  gid : Option UInt32
  mode : Option UInt32
  size : Option UInt64

/-- `if v, ok := in.GetX(); ok { request.SetX(v) }`. -/
def DockerFuseClient.setIfValid {α : Type} (v : Option α)
    (set : SetAttrRequest → α → SetAttrRequest)
    (request : SetAttrRequest) : SetAttrRequest :=
  match v with
  | some x => set request x
  | none => request

/-- The request `setAttr` builds: the valid attributes of `in'`, set in this order. -/
def DockerFuseClient.setAttrRequest (fullPath : String) (in' : SetAttrIn) : SetAttrRequest :=
  let request := SetAttrRequest.new fullPath
  let request := setIfValid in'.atime SetAttrRequest.setATime request
  let request := setIfValid in'.mtime SetAttrRequest.setMTime request
  let request := setIfValid in'.uid SetAttrRequest.setUID request
  let request := setIfValid in'.gid SetAttrRequest.setGID request
  let request := setIfValid in'.mode SetAttrRequest.setMode request
  setIfValid in'.size SetAttrRequest.setSize request

/-- `setAttr`. -/
def DockerFuseClient.setAttr (p : Platform) (call : SetAttrRequest → Except String StatReply)
    (fullPath : String)
    (in' : SetAttrIn) : Errno × StatAttr :=
  match call (setAttrRequest fullPath in') with
  | .error msg => (rpcErrorStringTOErrno p msg, .zero)
  | .ok reply => (errnoOK, statAttrOf reply)


end DockerFuse.Client
