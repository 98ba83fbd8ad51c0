import DockerFuse.Errors
import DockerFuse.GoTime

/-!
# What the satellite asks of the container

The satellite reaches the container's file system through two Go interfaces,
`fileSystem` (the path operations of `os` and `syscall.UtimesNano`) and `file` (an
open `*os.File`). What the container answers to each call is outside the program:
it depends on the files there, on other processes and on the kernel. So a
`DockerFuse.Satellite.Container` is any assignment of answers to calls, and a
result proved for every `Container` holds whatever the container does, failures
included. Where a result needs more of the container (that it is a Linux kernel
allocating the lowest free descriptor, say), the assumption is stated where it is
used.

Each handler also reports the calls it made, in order, as `DockerFuse.Satellite.Call`
values: which calls a request causes, and in which order, is part of what the
satellite does.
-/

namespace DockerFuse.Satellite

/-- A `syscall.Stat_t` of Linux on amd64, with the fields the satellite reads. The
timestamps are the seconds that `csys.StatAtime` and its siblings read. -/
structure StatT where
  mode : UInt32
  nlink : UInt64
  ino : UInt64
  uid : UInt32
  gid : UInt32
  atime : Int64
  mtime : Int64
  ctime : Int64
  size : Int64
  blocks : Int64
  blksize : Int64
  deriving DecidableEq, Repr

/-- An `os.DirEntry` of a listing: its `Name()`, and what its `Info()` (an `lstat`
of the entry, made when it is called) answers. -/
structure DirEnt where
  name : String
  info : Except GoError StatT
  deriving DecidableEq, Repr

/-- An `*os.File`. `id` tells apart the values `OpenFile` returns, as their pointers
do in Go; `fd` is what `Fd()` returns; `appendMode` is the flag `os.OpenFile` records
when the open flags hold `O_APPEND`. -/
structure File where
  id : ℕ
  fd : UInt64
  appendMode : Bool
  deriving DecidableEq, Repr

/-- A call the satellite makes on the container, with its arguments. -/
inductive Call
  | chmod (name : String) (mode : UInt32)
  | chown (name : String) (uid gid : Int64)
  | link (oldname newname : String)
  | lstat (name : String)
  | mkdir (name : String) (perm : UInt32)
  | openFile (name : String) (flag : BitVec 64) (perm : UInt32)
  | readDir (name : String)
  | readlink (name : String)
  | remove (name : String)
  | rename (oldpath newpath : String)
  | symlink (oldname newname : String)
  | truncate (name : String) (size : Int64)
  | utimesNano (path : String) (atime mtime : Timespec)
  /-- `Info()` on the entry of a listing with this name. -/
  | info (name : String)
  /-- The methods of an open `file`. -/
  | close (f : File)
  | readAt (f : File) (n : ℕ) (off : Int64)
  | seek (f : File) (offset whence : Int64)
  | stat (f : File)
  | sync (f : File)
  | writeAt (f : File) (data : List UInt8) (off : Int64)
  deriving DecidableEq, Repr

/-- What the container answers to each call. An `error` result is `none` on
success. `readAt f n off` is the bytes that `ReadAt` stored in a buffer of length
`n`, with its error; `writeAt` is `WriteAt`'s count, or its error. -/
structure Container where
  chmod : String → UInt32 → Option GoError
  chown : String → Int64 → Int64 → Option GoError
  link : String → String → Option GoError
  lstat : String → Except GoError StatT
  mkdir : String → UInt32 → Option GoError
  openFile : String → BitVec 64 → UInt32 → Except GoError File
  readDir : String → Except GoError (List DirEnt)
  readlink : String → Except GoError String
  remove : String → Option GoError
  rename : String → String → Option GoError
  symlink : String → String → Option GoError
  truncate : String → Int64 → Option GoError
  utimesNano : String → Timespec → Timespec → Option GoError
  close : File → Option GoError
  readAt : File → ℕ → Int64 → List UInt8 × Option GoError
  seek : File → Int64 → Int64 → Except GoError Int64
  stat : File → Except GoError StatT
  sync : File → Option GoError
  writeAt : File → List UInt8 → Int64 → Except GoError Int64

/-- A container that refuses every call with `err`: the base from which a concrete
run is built, by giving the calls it needs their answers. -/
def Container.failing (err : GoError) : Container where
  chmod _ _ := some err
  chown _ _ _ := some err
  link _ _ := some err
  lstat _ := .error err
  mkdir _ _ := some err
  openFile _ _ _ := .error err
  readDir _ := .error err
  readlink _ := .error err
  remove _ := some err
  rename _ _ := some err
  symlink _ _ := some err
  truncate _ _ := some err
  utimesNano _ _ _ := some err
  close _ := some err
  readAt _ _ _ := ([], some err)
  seek _ _ _ := .error err
  stat _ := .error err
  sync _ := some err
  writeAt _ _ _ := .error err

end DockerFuse.Satellite
