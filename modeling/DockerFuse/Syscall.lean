import Mathlib.Data.BitVec

/-!
# The constants of Go's `syscall` package on the two platforms

dockerfuse runs its client on Linux or Darwin and its satellite inside a Linux
container. What differs between the two sides is the numbering: the numbers of the
error codes and the bits of the `open(2)` flags. This file records, for each
platform, the constants that `pkg/rpccommon` reads, as Go's `zerrors_linux_*.go`
and `zerrors_darwin_*.go` define them (amd64 and arm64 agree on every one of them).

A `DockerFuse.Syscall.Platform` is that table. Its two instances are
`DockerFuse.Syscall.linux` and `DockerFuse.Syscall.darwin`; no other platform is
built.
-/

namespace DockerFuse

namespace Syscall

/-- A `syscall.Errno`: an error number, of Go's type `uintptr`. -/
structure Errno where
  /-- The number. -/
  val : UInt64
  deriving DecidableEq, Repr

/-- The names of the error constants that `ErrnoToSym` and `SymToErrno` mention.
The two aliases `EOPNOTSUPP` and `EWOULDBLOCK` appear only in `SymToErrno`. -/
inductive ErrnoName
  | E2BIG | EACCES | EADDRINUSE | EADDRNOTAVAIL | EAFNOSUPPORT | EAGAIN | EALREADY
  | EBADF | EBADMSG | EBUSY | ECANCELED | ECHILD | ECONNABORTED | ECONNREFUSED
  | ECONNRESET | EDEADLK | EDESTADDRREQ | EDOM | EDQUOT | EEXIST | EFAULT | EFBIG
  | EHOSTDOWN | EHOSTUNREACH | EIDRM | EILSEQ | EINPROGRESS | EINTR | EINVAL | EIO
  | EISCONN | EISDIR | ELOOP | EMFILE | EMLINK | EMSGSIZE | EMULTIHOP | ENAMETOOLONG
  | ENETDOWN | ENETRESET | ENETUNREACH | ENFILE | ENOBUFS | ENODATA | ENODEV | ENOENT
  | ENOEXEC | ENOLCK | ENOLINK | ENOMEM | ENOMSG | ENOPROTOOPT | ENOSPC | ENOSR
  | ENOSTR | ENOSYS | ENOTBLK | ENOTCONN | ENOTDIR | ENOTEMPTY | ENOTRECOVERABLE
  | ENOTSOCK | ENOTSUP | ENOTTY | ENXIO | EOPNOTSUPP | EOVERFLOW | EOWNERDEAD | EPERM
  | EPFNOSUPPORT | EPIPE | EPROTO | EPROTONOSUPPORT | EPROTOTYPE | ERANGE | EREMOTE
  | EROFS | ESHUTDOWN | ESOCKTNOSUPPORT | ESPIPE | ESRCH | ESTALE | ETIME | ETIMEDOUT
  | ETOOMANYREFS | ETXTBSY | EUSERS | EWOULDBLOCK | EXDEV
  deriving DecidableEq, Repr

/-- The ten `open(2)` flags that dockerfuse carries across; `O_RDONLY` is the
empty word and is not one of them. -/
inductive OpenFlag
  | O_WRONLY | O_RDWR | O_APPEND | O_ASYNC | O_CREAT | O_EXCL | O_NOCTTY | O_NONBLOCK
  | O_SYNC | O_TRUNC
  deriving DecidableEq, Repr

/-- The `syscall` constants of one platform. Go's `int` is 64 bits wide on both
architectures, so a flag word is a `BitVec 64`. -/
structure Platform where
  /-- The number of each error constant. -/
  errno : ErrnoName → Errno
  /-- `syscall.O_RDONLY`. -/
  O_RDONLY : BitVec 64
  /-- The bits of each flag. -/
  oflag : OpenFlag → BitVec 64

/-- The error numbers of Linux (`asm-generic/errno.h`). -/
def linuxErrno : ErrnoName → Errno
  | .E2BIG => ⟨7⟩ | .EACCES => ⟨13⟩ | .EADDRINUSE => ⟨98⟩ | .EADDRNOTAVAIL => ⟨99⟩
  | .EAFNOSUPPORT => ⟨97⟩ | .EAGAIN => ⟨11⟩ | .EALREADY => ⟨114⟩ | .EBADF => ⟨9⟩
  | .EBADMSG => ⟨74⟩ | .EBUSY => ⟨16⟩ | .ECANCELED => ⟨125⟩ | .ECHILD => ⟨10⟩
  | .ECONNABORTED => ⟨103⟩ | .ECONNREFUSED => ⟨111⟩ | .ECONNRESET => ⟨104⟩
  | .EDEADLK => ⟨35⟩ | .EDESTADDRREQ => ⟨89⟩ | .EDOM => ⟨33⟩ | .EDQUOT => ⟨122⟩
  | .EEXIST => ⟨17⟩ | .EFAULT => ⟨14⟩ | .EFBIG => ⟨27⟩ | .EHOSTDOWN => ⟨112⟩
  | .EHOSTUNREACH => ⟨113⟩ | .EIDRM => ⟨43⟩ | .EILSEQ => ⟨84⟩ | .EINPROGRESS => ⟨115⟩
  | .EINTR => ⟨4⟩ | .EINVAL => ⟨22⟩ | ErrnoName.EIO => ⟨5⟩ | .EISCONN => ⟨106⟩ | .EISDIR => ⟨21⟩
  | .ELOOP => ⟨40⟩ | .EMFILE => ⟨24⟩ | .EMLINK => ⟨31⟩ | .EMSGSIZE => ⟨90⟩
  | .EMULTIHOP => ⟨72⟩ | .ENAMETOOLONG => ⟨36⟩ | .ENETDOWN => ⟨100⟩
  | .ENETRESET => ⟨102⟩ | .ENETUNREACH => ⟨101⟩ | .ENFILE => ⟨23⟩ | .ENOBUFS => ⟨105⟩
  | .ENODATA => ⟨61⟩ | .ENODEV => ⟨19⟩ | .ENOENT => ⟨2⟩ | .ENOEXEC => ⟨8⟩
  | .ENOLCK => ⟨37⟩ | .ENOLINK => ⟨67⟩ | .ENOMEM => ⟨12⟩ | .ENOMSG => ⟨42⟩
  | .ENOPROTOOPT => ⟨92⟩ | .ENOSPC => ⟨28⟩ | .ENOSR => ⟨63⟩ | .ENOSTR => ⟨60⟩
  | .ENOSYS => ⟨38⟩ | .ENOTBLK => ⟨15⟩ | .ENOTCONN => ⟨107⟩ | .ENOTDIR => ⟨20⟩
  | .ENOTEMPTY => ⟨39⟩ | .ENOTRECOVERABLE => ⟨131⟩ | .ENOTSOCK => ⟨88⟩
  | .ENOTSUP => ⟨95⟩ | .ENOTTY => ⟨25⟩ | ErrnoName.ENXIO => ⟨6⟩ | .EOPNOTSUPP => ⟨95⟩
  | .EOVERFLOW => ⟨75⟩ | .EOWNERDEAD => ⟨130⟩ | .EPERM => ⟨1⟩ | .EPFNOSUPPORT => ⟨96⟩
  | .EPIPE => ⟨32⟩ | .EPROTO => ⟨71⟩ | .EPROTONOSUPPORT => ⟨93⟩ | .EPROTOTYPE => ⟨91⟩
  | .ERANGE => ⟨34⟩ | .EREMOTE => ⟨66⟩ | .EROFS => ⟨30⟩ | .ESHUTDOWN => ⟨108⟩
  | .ESOCKTNOSUPPORT => ⟨94⟩ | .ESPIPE => ⟨29⟩ | .ESRCH => ⟨3⟩ | .ESTALE => ⟨116⟩
  | .ETIME => ⟨62⟩ | .ETIMEDOUT => ⟨110⟩ | .ETOOMANYREFS => ⟨109⟩ | .ETXTBSY => ⟨26⟩
  | .EUSERS => ⟨87⟩ | .EWOULDBLOCK => ⟨11⟩ | .EXDEV => ⟨18⟩

/-- The error numbers of Darwin (`sys/errno.h`). -/
def darwinErrno : ErrnoName → Errno
  | .E2BIG => ⟨7⟩ | .EACCES => ⟨13⟩ | .EADDRINUSE => ⟨48⟩ | .EADDRNOTAVAIL => ⟨49⟩
  | .EAFNOSUPPORT => ⟨47⟩ | .EAGAIN => ⟨35⟩ | .EALREADY => ⟨37⟩ | .EBADF => ⟨9⟩
  | .EBADMSG => ⟨94⟩ | .EBUSY => ⟨16⟩ | .ECANCELED => ⟨89⟩ | .ECHILD => ⟨10⟩
  | .ECONNABORTED => ⟨53⟩ | .ECONNREFUSED => ⟨61⟩ | .ECONNRESET => ⟨54⟩
  | .EDEADLK => ⟨11⟩ | .EDESTADDRREQ => ⟨39⟩ | .EDOM => ⟨33⟩ | .EDQUOT => ⟨69⟩
  | .EEXIST => ⟨17⟩ | .EFAULT => ⟨14⟩ | .EFBIG => ⟨27⟩ | .EHOSTDOWN => ⟨64⟩
  | .EHOSTUNREACH => ⟨65⟩ | .EIDRM => ⟨90⟩ | .EILSEQ => ⟨92⟩ | .EINPROGRESS => ⟨36⟩
  | .EINTR => ⟨4⟩ | .EINVAL => ⟨22⟩ | ErrnoName.EIO => ⟨5⟩ | .EISCONN => ⟨56⟩ | .EISDIR => ⟨21⟩
  | .ELOOP => ⟨62⟩ | .EMFILE => ⟨24⟩ | .EMLINK => ⟨31⟩ | .EMSGSIZE => ⟨40⟩
  | .EMULTIHOP => ⟨95⟩ | .ENAMETOOLONG => ⟨63⟩ | .ENETDOWN => ⟨50⟩
  | .ENETRESET => ⟨52⟩ | .ENETUNREACH => ⟨51⟩ | .ENFILE => ⟨23⟩ | .ENOBUFS => ⟨55⟩
  | .ENODATA => ⟨96⟩ | .ENODEV => ⟨19⟩ | .ENOENT => ⟨2⟩ | .ENOEXEC => ⟨8⟩
  | .ENOLCK => ⟨77⟩ | .ENOLINK => ⟨97⟩ | .ENOMEM => ⟨12⟩ | .ENOMSG => ⟨91⟩
  | .ENOPROTOOPT => ⟨42⟩ | .ENOSPC => ⟨28⟩ | .ENOSR => ⟨98⟩ | .ENOSTR => ⟨99⟩
  | .ENOSYS => ⟨78⟩ | .ENOTBLK => ⟨15⟩ | .ENOTCONN => ⟨57⟩ | .ENOTDIR => ⟨20⟩
  | .ENOTEMPTY => ⟨66⟩ | .ENOTRECOVERABLE => ⟨104⟩ | .ENOTSOCK => ⟨38⟩
  | .ENOTSUP => ⟨45⟩ | .ENOTTY => ⟨25⟩ | ErrnoName.ENXIO => ⟨6⟩ | .EOPNOTSUPP => ⟨102⟩
  | .EOVERFLOW => ⟨84⟩ | .EOWNERDEAD => ⟨105⟩ | .EPERM => ⟨1⟩ | .EPFNOSUPPORT => ⟨46⟩
  | .EPIPE => ⟨32⟩ | .EPROTO => ⟨100⟩ | .EPROTONOSUPPORT => ⟨43⟩ | .EPROTOTYPE => ⟨41⟩
  | .ERANGE => ⟨34⟩ | .EREMOTE => ⟨71⟩ | .EROFS => ⟨30⟩ | .ESHUTDOWN => ⟨58⟩
  | .ESOCKTNOSUPPORT => ⟨44⟩ | .ESPIPE => ⟨29⟩ | .ESRCH => ⟨3⟩ | .ESTALE => ⟨70⟩
  | .ETIME => ⟨101⟩ | .ETIMEDOUT => ⟨60⟩ | .ETOOMANYREFS => ⟨59⟩ | .ETXTBSY => ⟨26⟩
  | .EUSERS => ⟨68⟩ | .EWOULDBLOCK => ⟨35⟩ | .EXDEV => ⟨18⟩

/-- The `open(2)` flags of Linux. `O_SYNC` is `O_DSYNC | __O_SYNC`, two bits. -/
def linuxOflag : OpenFlag → BitVec 64
  | .O_WRONLY => 0x1 | .O_RDWR => 0x2 | .O_APPEND => 0x400 | .O_ASYNC => 0x2000
  | .O_CREAT => 0x40 | .O_EXCL => 0x80 | .O_NOCTTY => 0x100 | .O_NONBLOCK => 0x800
  | .O_SYNC => 0x101000 | .O_TRUNC => 0x200

/-- The `open(2)` flags of Darwin. -/
def darwinOflag : OpenFlag → BitVec 64
  | .O_WRONLY => 0x1 | .O_RDWR => 0x2 | .O_APPEND => 0x8 | .O_ASYNC => 0x40
  | .O_CREAT => 0x200 | .O_EXCL => 0x800 | .O_NOCTTY => 0x20000 | .O_NONBLOCK => 0x4
  | .O_SYNC => 0x80 | .O_TRUNC => 0x400

/-- Linux, where the satellite always runs and the client may run. -/
def linux : Platform where
  errno := linuxErrno
  O_RDONLY := 0
  oflag := linuxOflag

/-- Darwin, where the client may run. -/
def darwin : Platform where
  errno := darwinErrno
  O_RDONLY := 0
  oflag := darwinOflag

/-- The platforms a client can be built for. -/
def clientPlatforms : List Platform := [linux, darwin]

end Syscall

end DockerFuse
