import Mathlib.Data.List.AList
import DockerFuse.FailFast
import DockerFuse.Rpccommon.Flags
import DockerFuse.Rpccommon.Errno
import DockerFuse.Rpccommon.Types
import DockerFuse.Satellite.FileSystem

/-!
# The satellite's methods

`DockerFuseFSOps` is the object the satellite registers with net/rpc; its one piece
of state is `fds`, the open files by descriptor number. Each method is modelled
as a function of that state, of the container's answers and of the request,
returning the new state, the calls made on the container in order, and how the
method ended: a reply, an error (already passed through `ErrnoToRPCErrorString`,
whose message is what the client receives), or a panic, which ends the satellite.

Two idioms of the source are definitions of their own, so that each method reads
as its Go text does: `DockerFuse.Satellite.guardCall` is
`if err := call; err != nil { return ErrnoToRPCErrorString(err) }` followed by the
rest of the method, and `DockerFuse.Satellite.Response.ofError` is the `return`
itself. The five methods that make one path call and reply with nothing
(`Unlink`, `Rmdir`, `Rename`, `Link`, `Symlink`) are one definition,
`DockerFuse.Satellite.DockerFuseFSOps.pathOp`, applied to each one's call.

Requests are served one at a time here: the model is of what one method does to
the state, and a run is a sequence of them.
-/

namespace DockerFuse.Satellite

open Syscall Rpccommon

/-- How a method of `DockerFuseFSOps` ends. -/
inductive Response (α : Type)
  /-- It returned `nil`, having filled in its reply. -/
  | ok (reply : α)
  /-- It returned this error; net/rpc sends its message. -/
  | err (e : GoError)
  /-- It panicked. -/
  | panic
  deriving DecidableEq, Repr

/-- `return rpccommon.ErrnoToRPCErrorString(err)`: the encoder's result, or its panic. -/
def Response.ofError {α : Type} (err : GoError) : Response α :=
  match errnoToRPCErrorString err with
  | some e => .err e
  | none => .panic

/-- A failure never ends in a reply. -/
theorem Response.ofError_ne_ok {α : Type} (err : GoError) (reply : α) :
    Response.ofError err ≠ .ok reply := by
  unfold Response.ofError
  split <;> exact fun h => nomatch h

/-- The same ending, with the reply transformed. -/
def Response.map {α β : Type} (f : α → β) : Response α → Response β
  | .ok r => .ok (f r)
  | .err e => .err e
  | .panic => .panic

/-- What the client's `Call` returns for a method's ending: net/rpc sends a returned
error as its message, and a panic ends the satellite, so that the pending call fails
with `io.ErrUnexpectedEOF`. -/
def Response.toClient {α : Type} : Response α → Except String α
  | .ok reply => .ok reply
  | .err e => .error e.error
  | .panic => .error "unexpected EOF"

/-- The client gets a reply exactly when the method replied. -/
theorem Response.toClient_eq_ok {α : Type} {r : Response α} {reply : α} :
    r.toClient = .ok reply ↔ r = .ok reply := by
  cases r <;> simp [Response.toClient]

/-- The container's `syscall.Errno` of this name, as a bare error value. -/
def errnoOf (n : ErrnoName) : GoError :=
  .errno (linux.errno n)

/-- The container's answer to a call whose only result is an `error`. -/
def Container.answer (c : Container) : Call → Option GoError
  | .chmod name mode => c.chmod name mode
  | .chown name uid gid => c.chown name uid gid
  | .link oldname newname => c.link oldname newname
  | .mkdir name perm => c.mkdir name perm
  | .remove name => c.remove name
  | .rename oldpath newpath => c.rename oldpath newpath
  | .symlink oldname newname => c.symlink oldname newname
  | .truncate name size => c.truncate name size
  | .utimesNano path atime mtime => c.utimesNano path atime mtime
  | .close f => c.close f
  | .sync f => c.sync f
  | _ => none

/-- `if err := call; err != nil { return ErrnoToRPCErrorString(err) }`, followed by
`k`, the rest of the method. -/
def guardCall {α : Type} (c : Container) (call : Call) (k : List Call × Response α) :
    List Call × Response α :=
  FailFast.guard c.answer Response.ofError call k

/-- One slot of the `ts` that `SetAttr` hands to `UtimesNano`: the time in nanoseconds
split by `NsecToTimespec` when it was requested, `Nsec = UTIME_OMIT` (and `Sec` zero)
when not. -/
def timespecOf (t : Time) (ok : Bool) : Timespec :=
  if ok then nsecToTimespec t.unixNano else ⟨0, UTIME_OMIT⟩

/-- `reply.LinkTarget, err = dfFS.Readlink(path)`, emptied when `err != nil`. -/
def linkTargetOf (answer : Except GoError String) : String :=
  match answer with
  | .ok linkTarget => linkTarget
  | .error _ => ""

/-- The fields `Stat` and `Open` copy from a `Stat_t`, with Go's conversions. -/
def statReplyOf (sys : StatT) (linkTarget : String) : StatReply :=
  ⟨sys.mode, sys.nlink.toUInt32, sys.ino, sys.uid, sys.gid, sys.atime, sys.mtime, sys.ctime,
    sys.size, sys.blocks, sys.blksize.toInt32, linkTarget⟩

/-- `DockerFuseFSOps`: the open files, by the number `Fd()` gave for them. A Go map
has one value per key, which `AList` keeps as an invariant. -/
structure DockerFuseFSOps where
  fds : AList (fun _ : UInt64 => File)

/-- What a method that may change `fds` returns. -/
structure Outcome (α : Type) where
  fso : DockerFuseFSOps
  calls : List Call
  response : Response α

/-- `NewDockerFuseFSOps`. -/
def DockerFuseFSOps.new : DockerFuseFSOps :=
  ⟨∅⟩

/-! ### Methods on paths -/

/-- `Stat`. -/
def DockerFuseFSOps.stat (c : Container) (fullPath : String) : List Call × Response StatReply :=
  match c.lstat fullPath with
  | .error err => ([.lstat fullPath], .ofError err)
  | .ok sys =>
    ([.lstat fullPath, .readlink fullPath],
      .ok (statReplyOf sys (linkTargetOf (c.readlink fullPath))))

/-- The loop of `ReadDir`, with the calls made so far and its accumulator
`reply.DirEntries`: an entry that vanished since the listing is skipped, any other
`Info()` error ends the method with `EIO`. -/
def DockerFuseFSOps.readDirLoop (calls : List Call) (dirEntries : List DirEntry) :
    List DirEnt → List Call × Response (List DirEntry)
  | [] => (calls, .ok dirEntries)
  | file :: files =>
    let calls := calls ++ [.info file.name]
    match file.info with
    | .error err =>
      if err.isNotExist linux then readDirLoop calls dirEntries files
      else (calls, .ofError (errnoOf ErrnoName.EIO))
    | .ok sys => readDirLoop calls (dirEntries ++ [⟨sys.mode, file.name, sys.ino⟩]) files

/-- `ReadDir`. -/
def DockerFuseFSOps.readDir (c : Container) (fullPath : String) :
    List Call × Response (List DirEntry) :=
  match c.readDir fullPath with
  | .error err => ([.readDir fullPath], .ofError err)
  | .ok files => readDirLoop [.readDir fullPath] [] files

/-- The shape of `Unlink`, `Rmdir`, `Rename`, `Link` and `Symlink`: one call, whose
error is returned, and an empty reply. -/
def DockerFuseFSOps.pathOp (c : Container) (call : Call) : List Call × Response Unit :=
  guardCall c call ([], .ok ())

/-- `Unlink`. -/
def DockerFuseFSOps.unlink (c : Container) (fullPath : String) : List Call × Response Unit :=
  pathOp c (.remove fullPath)

/-- `Rmdir`. -/
def DockerFuseFSOps.rmdir (c : Container) (fullPath : String) : List Call × Response Unit :=
  pathOp c (.remove fullPath)

/-- `Rename`; the request's `Flags` are not passed on. -/
def DockerFuseFSOps.rename (c : Container) (request : RenameRequest) : List Call × Response Unit :=
  pathOp c (.rename request.fullPath request.fullNewPath)

/-- `Link`. -/
def DockerFuseFSOps.link (c : Container) (request : LinkRequest) : List Call × Response Unit :=
  pathOp c (.link request.oldFullPath request.newFullPath)

/-- `Symlink`. -/
def DockerFuseFSOps.symlink (c : Container) (request : LinkRequest) : List Call × Response Unit :=
  pathOp c (.symlink request.oldFullPath request.newFullPath)

/-- `Mkdir`: the directory, then its `Stat`. -/
def DockerFuseFSOps.mkdir (c : Container)
    (request : MkdirRequest) : List Call × Response StatReply :=
  guardCall c (.mkdir request.fullPath request.mode) (stat c request.fullPath)

/-- `Readlink`. -/
def DockerFuseFSOps.readlink (c : Container) (fullPath : String) : List Call × Response String :=
  match c.readlink fullPath with
  | .error err => ([.readlink fullPath], .ofError err)
  | .ok linkTarget => ([.readlink fullPath], .ok linkTarget)

/-- `SetAttr`: mode, then owner and group, then both times, then size, each only
when requested and each ending the method on failure; then the `Stat` of the path. -/
def DockerFuseFSOps.setAttr (c : Container)
    (request : SetAttrRequest) : List Call × Response StatReply :=
  let path := request.fullPath
  let (m, ok) := request.getMode
  let (uid, uok) := request.getUID
  let (gid, gok) := request.getGID
  let suid : Int64 := if uok then uid.toUInt64.toInt64 else -1
  let sgid : Int64 := if gok then gid.toUInt64.toInt64 else -1
  let (atime, aok) := request.getATime
  let (mtime, mok) := request.getMTime
  let ts0 := timespecOf atime aok
  let ts1 := timespecOf mtime mok
  let (sz, sok) := request.getSize
  (if ok then guardCall c (.chmod path m) else id) <|
  (if uok || gok then guardCall c (.chown path suid sgid) else id) <|
  (if mok || aok then guardCall c (.utimesNano path ts0 ts1) else id) <|
  (if sok then guardCall c (.truncate path sz.toInt64) else id) <|
  stat c path

/-! ### Methods on descriptors -/

/-- `Open`. The new file is stored under its number before `fd.Stat()`, whose
failure still ends the method with an error. -/
def DockerFuseFSOps.open (fso : DockerFuseFSOps) (c : Container)
    (request : OpenRequest) : Outcome OpenReply :=
  let flag := saFlagsToSystem linux request.saFlags
  let call := Call.openFile request.fullPath flag request.mode
  match c.openFile request.fullPath flag request.mode with
  | .error err => ⟨fso, [call], .ofError err⟩
  | .ok fd =>
    let uintptrFD := fd.fd
    -- "Make sure we don't leak stale FDs": whatever is stored under the number is closed
    let stale : List Call := match fso.fds.lookup uintptrFD with
      | some old => [.close old]
      | none => []
    let fso' : DockerFuseFSOps := ⟨fso.fds.insert uintptrFD fd⟩
    match c.stat fd with
    | .error err => ⟨fso', call :: stale ++ [.stat fd], .ofError err⟩
    | .ok sys =>
      ⟨fso', call :: stale ++ [.stat fd, .readlink request.fullPath],
        .ok ⟨uintptrFD, statReplyOf sys (linkTargetOf (c.readlink request.fullPath))⟩⟩

/-- `Close` once it has its file: the error of `fd.Close()`, returned. -/
def DockerFuseFSOps.closeOn (c : Container) (fd : File) : Response Unit :=
  match c.close fd with
  | some err => .ofError err
  | none => .ok ()

/-- `Close`. The entry is deleted (by a `defer`) whether or not closing fails. -/
def DockerFuseFSOps.close (fso : DockerFuseFSOps) (c : Container)
    (request : CloseRequest) : Outcome Unit :=
  match fso.fds.lookup request.fd with
  | none => ⟨fso, [], .ofError (errnoOf .EINVAL)⟩
  | some fd => ⟨⟨fso.fds.erase request.fd⟩, [.close fd], closeOn c fd⟩

/-- The check every method on a descriptor starts with: an unknown number is
`EINVAL`, a known one goes on with its file. -/
def DockerFuseFSOps.withFile {α : Type} (fso : DockerFuseFSOps) (fd : UInt64)
    (k : File → List Call × Response α) : List Call × Response α :=
  match fso.fds.lookup fd with
  | none => ([], .ofError (errnoOf .EINVAL))
  | some file => k file

/-- `maxAlloc`, the largest allocation of Go's runtime on 64-bit Linux: `make` of a longer
slice panics (`makeslice: len out of range`). Below it the allocation is taken to succeed;
the runtime's `out of memory` on a machine with less memory is not modelled. -/
def maxAlloc : ℤ := 2 ^ 48

/-- `Read` once it has its file. `make([]byte, request.Num)` panics on a count below 0 or
above `maxAlloc`; a read that reached the end of the file is an error unless it read
something. -/
def DockerFuseFSOps.readOn (c : Container) (request : ReadRequest) (file : File) :
    List Call × Response (List UInt8) :=
  if request.num < 0 ∨ maxAlloc < request.num.toInt then ([], .panic)
  else
    let n := request.num.toNatClampNeg
    let (data, err) := c.readAt file n request.offset
    ([.readAt file n request.offset],
      match err with
      | some e => if e.error != "EOF" || data.length == 0 then .ofError e else .ok data
      | none => .ok data)

/-- `Read`. -/
def DockerFuseFSOps.read (fso : DockerFuseFSOps) (c : Container) (request : ReadRequest) :
    List Call × Response (List UInt8) :=
  fso.withFile request.fd (readOn c request)

/-- `Seek` once it has its file. -/
def DockerFuseFSOps.seekOn (c : Container) (request : SeekRequest) (file : File) :
    List Call × Response Int64 :=
  ([.seek file request.offset request.whence],
    match c.seek file request.offset request.whence with
    | .error err => .ofError err
    | .ok n => .ok n)

/-- `Seek`. -/
def DockerFuseFSOps.seek (fso : DockerFuseFSOps) (c : Container) (request : SeekRequest) :
    List Call × Response Int64 :=
  fso.withFile request.fd (seekOn c request)

/-- `Write` once it has its file: a positional `WriteAt`, whatever the mode the file was
opened in. -/
def DockerFuseFSOps.writeOn (c : Container) (request : WriteRequest) (file : File) :
    List Call × Response Int64 :=
  ([.writeAt file request.data request.offset],
    match c.writeAt file request.data request.offset with
    | .error err => .ofError err
    | .ok n => .ok n)

/-- `Write`. -/
def DockerFuseFSOps.write (fso : DockerFuseFSOps) (c : Container) (request : WriteRequest) :
    List Call × Response Int64 :=
  fso.withFile request.fd (writeOn c request)

/-- `Fsync` once it has its file; the request's `Flags` are not passed on. -/
def DockerFuseFSOps.fsyncOn (c : Container) (file : File) : List Call × Response Unit :=
  guardCall c (.sync file) ([], .ok ())

/-- `Fsync`. -/
def DockerFuseFSOps.fsync (fso : DockerFuseFSOps) (c : Container) (request : FsyncRequest) :
    List Call × Response Unit :=
  fso.withFile request.fd (fun file => fsyncOn c file)

/-- `CloseAllFDs`: every stored file is closed, its result ignored, and the table
emptied. Go visits the map in no fixed order; the model visits it in the order
`AList` keeps. -/
def DockerFuseFSOps.closeAllFDs (fso : DockerFuseFSOps) : DockerFuseFSOps × List Call :=
  (new, fso.fds.entries.map fun e => .close e.2)


/-! ### Dispatch -/

/-- A call of one of the satellite's methods, with its request. `CloseAllFDs` is not
served over net/rpc: the satellite's signal handler calls it before exiting. -/
inductive Request
  | stat (fullPath : String)
  | readDir (fullPath : String)
  | open (request : OpenRequest)
  | close (request : CloseRequest)
  | read (request : ReadRequest)
  | seek (request : SeekRequest)
  | write (request : WriteRequest)
  | unlink (fullPath : String)
  | fsync (request : FsyncRequest)
  | mkdir (request : MkdirRequest)
  | rmdir (fullPath : String)
  | rename (request : RenameRequest)
  | readlink (fullPath : String)
  | link (request : LinkRequest)
  | symlink (request : LinkRequest)
  | setAttr (request : SetAttrRequest)
  | closeAllFDs

/-- The replies of the methods. -/
inductive Reply
  /-- `StatReply`, and `MkdirReply` and `SetAttrReply`, which are the same. -/
  | stat (reply : StatReply)
  | readDir (dirEntries : List DirEntry)
  | open (reply : OpenReply)
  | read (data : List UInt8)
  | seek (num : Int64)
  | write (num : Int64)
  | readlink (linkTarget : String)
  /-- The empty replies. -/
  | empty
  deriving DecidableEq, Repr

/-- A method that leaves `fds` alone, its reply wrapped. -/
def Outcome.keep {α : Type} (fso : DockerFuseFSOps) (r : List Call × Response α)
    (reply : α → Reply) : Outcome Reply :=
  ⟨fso, r.1, r.2.map reply⟩

/-- The method a request names, run on the satellite's state. -/
def DockerFuseFSOps.serve (fso : DockerFuseFSOps) (c : Container) : Request → Outcome Reply
  | .stat p => .keep fso (stat c p) .stat
  | .readDir p => .keep fso (readDir c p) .readDir
  | .open r =>
    let o := fso.open c r
    ⟨o.fso, o.calls, o.response.map .open⟩
  | .close r =>
    let o := fso.close c r
    ⟨o.fso, o.calls, o.response.map fun _ => .empty⟩
  | .read r => .keep fso (fso.read c r) .read
  | .seek r => .keep fso (fso.seek c r) .seek
  | .write r => .keep fso (fso.write c r) .write
  | .unlink p => .keep fso (unlink c p) fun _ => .empty
  | .fsync r => .keep fso (fso.fsync c r) fun _ => .empty
  | .mkdir r => .keep fso (mkdir c r) .stat
  | .rmdir p => .keep fso (rmdir c p) fun _ => .empty
  | .rename r => .keep fso (rename c r) fun _ => .empty
  | .readlink p => .keep fso (readlink c p) .readlink
  | .link r => .keep fso (link c r) fun _ => .empty
  | .symlink r => .keep fso (symlink c r) fun _ => .empty
  | .setAttr r => .keep fso (setAttr c r) .stat
  | .closeAllFDs =>
    let (fso', calls) := fso.closeAllFDs
    ⟨fso', calls, .ok .empty⟩

end DockerFuse.Satellite
