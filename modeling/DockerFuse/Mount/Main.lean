import DockerFuse.GoFlag
import DockerFuse.Client.Node

/-!
# The `dockerfuse` command

`main` parses the command line with Go's `flag` (`GoFlag.parse`), prints the version
if asked, checks that a container and a mount point are given, daemonizes if asked,
creates the mount point, reads the current user's ids, connects to the container's
satellite and mounts the file system, with the root `Node` at the container path of
`-path`. Every failure ends the process with an exit code named for it, from
`errorArgs = 1` to `errorMountUnmount = 7`; once mounted, `shutdown` unmounts on
`SIGTERM` or `SIGINT` and exits.

Two of those steps need care. `user.Current` gives the ids as strings and go-fuse
wants `uint32`s: `main` reads them with `strconv.Atoi` and refuses what is out of the
range of `uint32` before converting, so the conversion, which would otherwise keep
the low 32 bits, is exact (`DockerFuse.Mount.main_mounts_as_asked`), and the ids of
the user running the command reach go-fuse as they are
(`DockerFuse.Mount.main_mounts_as_current_user`). And the exit codes do not all name
one failure: `flag.Parse` ends a command line it cannot read with status `2`, the
code `main` gives to a failed daemonization
(`DockerFuse.Mount.exitStatus_eq_errorDaemon_iff`).

What the system answers (`Reborn`, `MkdirAll`, `user.Current`, the connection to the
satellite, `fs.Mount`, `Unmount`) is a `DockerFuse.Mount.Host`. The messages `main`
logs and the usage `flag` prints are left out.
-/

namespace DockerFuse.Mount

open Client GoFlag

/-! ### The command line -/

/-- The package's flag variables. -/
structure Flags where
  containerID : String
  mountPoint : String
  path : String
  daemonize : Bool
  debug : Bool
  jsonlog : Bool
  printVersion : Bool
  deriving DecidableEq, Repr

/-- The variables as `init` leaves them: the defaults of their flags. -/
def Flags.init : Flags :=
  ⟨"", "", "/", false, false, false, false⟩

/-- The flags `init` defines: a long and a short name for each variable, but `debug`. -/
def flagSet : FlagSet Flags where
  formal :=
    [("version", .bool fun f b => { f with printVersion := b }),
     ("v", .bool fun f b => { f with printVersion := b }),
     ("id", .string fun f s => { f with containerID := s }),
     ("i", .string fun f s => { f with containerID := s }),
     ("mount", .string fun f s => { f with mountPoint := s }),
     ("m", .string fun f s => { f with mountPoint := s }),
     ("path", .string fun f s => { f with path := s }),
     ("p", .string fun f s => { f with path := s }),
     ("daemonize", .bool fun f b => { f with daemonize := b }),
     ("d", .bool fun f b => { f with daemonize := b }),
     ("debug", .bool fun f b => { f with debug := b }),
     ("json", .bool fun f b => { f with jsonlog := b }),
     ("j", .bool fun f b => { f with jsonlog := b })]
  nodup := by decide

/-! ### `main` -/

/-- `errorNone`. -/
def errorNone : ℕ := 0
/-- `errorArgs`. -/
def errorArgs : ℕ := 1
/-- `errorDaemon`. -/
def errorDaemon : ℕ := 2
/-- `errorCreateMount`. -/
def errorCreateMount : ℕ := 3
/-- `errorGetUser`. -/
def errorGetUser : ℕ := 4
/-- `errorInvalidUIDGid`. -/
def errorInvalidUIDGid : ℕ := 5
/-- `errorInitDockerClient`. -/
def errorInitDockerClient : ℕ := 6
/-- `errorMountUnmount`. -/
def errorMountUnmount : ℕ := 7

/-- `entryTTL`, `1500 * time.Millisecond`, in nanoseconds. -/
def entryTTL : ℕ := 1500 * 1000000
/-- `attrTTL`, `1500 * time.Millisecond`, in nanoseconds. -/
def attrTTL : ℕ := 1500 * 1000000

/-- `math.MaxUint32`. -/
def maxUint32 : ℤ := 2 ^ 32 - 1

/-- The outcome of `daemon.Context.Reborn`, in the process that calls it. -/
inductive Reborn
  /-- It returned an error. -/
  | failed
  /-- In the parent: a child was started, with the same arguments. -/
  | parent
  /-- In that child: `Reborn` returned `nil`. -/
  | child
  deriving DecidableEq, Repr

/-- A `user.User`, by the ids `main` reads, which Go gives as strings. -/
structure User where
  uid : String
  gid : String
  deriving DecidableEq, Repr

/-- The mount `main` asks `fs.Mount` for: the mount point, the root node and the
`fs.Options` (timeouts in nanoseconds). -/
structure MountOptions where
  mountPoint : String
  root : Node
  entryTimeout : ℕ
  attrTimeout : ℕ
  negativeTimeout : ℕ
  fsName : String
  uid : UInt32
  gid : UInt32
  deriving DecidableEq, Repr

/-- What the system answers `main`. -/
structure Host where
  /-- `daemon.Context.Reborn()`. -/
  reborn : Reborn
  /-- Whether `os.MkdirAll(path, 0755)` succeeds. -/
  mkdirAll : String → Bool
  /-- `user.Current()`, `none` for an error. -/
  currentUser : Option User
  /-- Whether `client.NewDockerFuseClient(containerID)` uploads and connects the
  satellite. -/
  newDockerFuseClient : String → Bool
  /-- Whether `fs.Mount` succeeds. -/
  mount : MountOptions → Bool
  /-- Whether `server.Unmount()` succeeds. -/
  unmount : Bool

/-- How `main` ends. -/
inductive Outcome
  /-- `os.Exit(code)`. -/
  | exit (code : ℕ)
  /-- `main` returns: the parent of a daemon. -/
  | returns
  /-- The file system is mounted: `main` waits in `server.Wait()`. -/
  | serving (opts : MountOptions)
  deriving DecidableEq, Repr

/-- A user id as `main` reads it: `strconv.Atoi`, then the check
`uid < 0 || uid > int(math.MaxUint32)`. -/
def parseID (s : String) : Option ℤ :=
  (atoi s).bind fun n => if n < 0 ∨ n > maxUint32 then none else some n

/-- The mount of `fs.Mount(mountPoint, client.NewNode(fuseDockerClient, path, ""),
&fs.Options{..})`; `uint32(uid)` keeps the low 32 bits. -/
def mountOptions (f : Flags) (uid gid : ℤ) : MountOptions where
  mountPoint := f.mountPoint
  root := newNode f.path
  entryTimeout := entryTTL
  attrTimeout := attrTTL
  negativeTimeout := entryTTL
  fsName := "dockerfuse-" ++ f.containerID
  uid := UInt32.ofInt uid
  gid := UInt32.ofInt gid

/-- `main` from `os.MkdirAll` on, in the process that mounts: the only one, or the
child of a daemon. -/
def mountProcess (host : Host) (f : Flags) : Outcome :=
  if host.mkdirAll f.mountPoint = false then .exit errorCreateMount
  else
    match host.currentUser with
    | none => .exit errorGetUser
    | some user =>
      match parseID user.uid with
      | none => .exit errorInvalidUIDGid
      | some uid =>
        match parseID user.gid with
        | none => .exit errorInvalidUIDGid
        | some gid =>
          if host.newDockerFuseClient f.containerID = false then .exit errorInitDockerClient
          else if host.mount (mountOptions f uid gid) then .serving (mountOptions f uid gid)
          else .exit errorMountUnmount

/-- `main`, on the arguments after the program name. -/
def main (host : Host) (args : List String) : Outcome :=
  match parse flagSet Flags.init args with
  | .error e => .exit (exitOnError e)
  | .ok f =>
    if f.printVersion then .exit errorNone
    else if f.containerID = "" then .exit errorArgs
    else if f.mountPoint = "" then .exit errorArgs
    else if f.daemonize then
      match host.reborn with
      | .failed => .exit errorDaemon
      | .parent => .returns
      | .child => mountProcess host f
    else mountProcess host f

/-- `shutdown`, on `SIGTERM` or `SIGINT`: the status after `server.Unmount()`. -/
def shutdown (host : Host) : ℕ :=
  if host.unmount then errorNone else errorMountUnmount

/-- The status the process ends with, when a file system it mounted is unmounted on a
signal. -/
def exitStatus (host : Host) (args : List String) : ℕ :=
  match main host args with
  | .exit code => code
  | .returns => errorNone
  | .serving _ => shutdown host

example : parse flagSet Flags.init ["-i", "web", "--mount=/mnt/web", "-d", "web2", "-j"] =
    .ok { Flags.init with containerID := "web", mountPoint := "/mnt/web", daemonize := true } := by
  decide +kernel

/-! ### The ids -/

/-- `main` takes an id when `Atoi` reads it within the range of `uint32`. -/
theorem parseID_eq_some {s : String} {n : ℤ} :
    parseID s = some n ↔ atoi s = some n ∧ 0 ≤ n ∧ n ≤ maxUint32 := by
  unfold parseID
  cases atoi s with
  | none => simp
  | some m =>
    by_cases hm : m < 0 ∨ m > maxUint32
    · simp only [Option.bind_some, hm, if_true, reduceCtorEq, Option.some.injEq, false_iff]
      omega
    · simp only [Option.bind_some, hm, if_false, Option.some.injEq]
      omega

/-- **`uint32` of an id `main` takes is exact**: the range check leaves nothing for the
conversion to cut. -/
theorem toNat_ofInt_of_parseID {s : String} {n : ℤ} (h : parseID s = some n) :
    ((UInt32.ofInt n).toNat : ℤ) = n := by
  obtain ⟨-, hlo, hhi⟩ := parseID_eq_some.mp h
  have hlt : n < 2 ^ 32 := by unfold maxUint32 at hhi; omega
  rw [UInt32.ofInt, UInt32.toNat_ofNat', Int.emod_eq_of_lt hlo hlt]
  have hlt' : n.toNat < 2 ^ 32 := by omega
  rw [Nat.mod_eq_of_lt hlt']
  omega

/-- The decimal form of a `uint32`, as `user.Current` writes a `uid_t`, is taken as it is. -/
theorem parseID_toString (u : UInt32) : parseID (toString u.toNat) = some (u.toNat : ℤ) := by
  have hlt : u.toNat < 2 ^ 32 := u.toNat_lt
  refine parseID_eq_some.mpr ⟨atoi_toString (by omega), by omega, ?_⟩
  unfold maxUint32
  omega

/-- `uint32()` gives back a `uint32` read as an `int`. -/
theorem ofInt_toNat (u : UInt32) : UInt32.ofInt (u.toNat : ℤ) = u := by
  rw [← UInt32.toNat_inj]
  exact_mod_cast toNat_ofInt_of_parseID (parseID_toString u)

/-! ### How `main` ends -/

/-- Everything `main` can do: exit on a command line `flag` refuses, print the
version, miss an argument, fail to daemonize or return in the daemon's parent, or go
on in the process that mounts. -/
theorem main_cases (host : Host) (args : List String) :
    (∃ e, parse flagSet Flags.init args = .error e ∧ main host args = .exit (exitOnError e)) ∨
    ∃ f, parse flagSet Flags.init args = .ok f ∧
      (f.printVersion = true ∧ main host args = .exit errorNone ∨
       f.printVersion = false ∧ (f.containerID = "" ∨ f.mountPoint = "") ∧
         main host args = .exit errorArgs ∨
       f.printVersion = false ∧ f.containerID ≠ "" ∧ f.mountPoint ≠ "" ∧ f.daemonize = true ∧
         (host.reborn = .failed ∧ main host args = .exit errorDaemon ∨
          host.reborn = .parent ∧ main host args = .returns) ∨
       f.printVersion = false ∧ f.containerID ≠ "" ∧ f.mountPoint ≠ "" ∧
         (f.daemonize = true → host.reborn = .child) ∧ main host args = mountProcess host f) := by
  cases hp : parse flagSet Flags.init args with
  | error e => exact .inl ⟨e, rfl, by rw [main, hp]⟩
  | ok f =>
    refine .inr ⟨f, rfl, ?_⟩
    simp only [main, hp]
    -- the checks in `main`'s order
    by_cases hv : f.printVersion = true
    · exact .inl ⟨hv, by rw [if_pos hv]⟩
    rw [Bool.not_eq_true] at hv
    by_cases ha : f.containerID = "" ∨ f.mountPoint = ""
    · refine .inr (.inl ⟨hv, ha, ?_⟩)
      rcases ha with ha | ha <;> simp [hv, ha]
    rw [not_or] at ha
    cases hd : f.daemonize with
    | true =>
      cases hr : host.reborn with
      | failed =>
        exact .inr (.inr (.inl ⟨hv, ha.1, ha.2, rfl, .inl ⟨rfl, by simp [hv, ha]⟩⟩))
      | parent =>
        exact .inr (.inr (.inl ⟨hv, ha.1, ha.2, rfl, .inr ⟨rfl, by simp [hv, ha]⟩⟩))
      | child => exact .inr (.inr (.inr ⟨hv, ha.1, ha.2, fun _ => rfl, by simp [hv, ha]⟩))
    | false =>
      exact .inr (.inr (.inr ⟨hv, ha.1, ha.2, fun h => absurd h (by simp), by simp [hv, ha]⟩))

/-- Everything an exit of the process that mounts can be: every code is one of the
steps from `os.MkdirAll` on, and `errorInvalidUIDGid` is an id `main` does not take. -/
theorem mountProcess_eq_exit {host : Host} {f : Flags} {c : ℕ}
    (h : mountProcess host f = .exit c) :
    c = errorCreateMount ∨ c = errorGetUser ∨ c = errorInitDockerClient ∨ c = errorMountUnmount ∨
      c = errorInvalidUIDGid ∧
        ∃ user, host.currentUser = some user ∧ (parseID user.uid = none ∨ parseID user.gid = none) := by
  unfold mountProcess at h
  split at h
  · simp_all
  split at h
  · simp_all
  next user hu =>
    split at h
    · exact .inr (.inr (.inr (.inr ⟨by simp_all, user, hu, .inl ‹_›⟩)))
    split at h
    · exact .inr (.inr (.inr (.inr ⟨by simp_all, user, hu, .inr ‹_›⟩)))
    split at h
    · simp_all
    split at h <;> simp_all

/-- Everything that leads the process that mounts to mount. -/
theorem mountProcess_eq_serving {host : Host} {f : Flags} {opts : MountOptions}
    (h : mountProcess host f = .serving opts) :
    host.mkdirAll f.mountPoint = true ∧
      ∃ user uid gid, host.currentUser = some user ∧ parseID user.uid = some uid ∧
        parseID user.gid = some gid ∧ host.newDockerFuseClient f.containerID = true ∧
        host.mount opts = true ∧ opts = mountOptions f uid gid := by
  unfold mountProcess at h
  split at h
  · cases h
  next hmk =>
    split at h
    · cases h
    next user hu =>
      split at h
      · cases h
      next uid huid =>
        split at h
        · cases h
        next gid hgid =>
          split at h
          · cases h
          next hc =>
            split at h
            · next hm =>
              cases h
              exact ⟨by simpa using hmk, user, uid, gid, hu, huid, hgid, by simpa using hc, hm, rfl⟩
            · cases h

/-- What `main` has checked when it mounts. -/
theorem main_eq_serving {host : Host} {args : List String} {opts : MountOptions}
    (h : main host args = .serving opts) :
    ∃ f, parse flagSet Flags.init args = .ok f ∧ f.printVersion = false ∧
      f.containerID ≠ "" ∧ f.mountPoint ≠ "" ∧ mountProcess host f = .serving opts := by
  rcases main_cases host args with ⟨e, -, he⟩ | ⟨f, hp, hf⟩
  · rw [he] at h; cases h
  rcases hf with ⟨-, he⟩ | ⟨-, -, he⟩ | ⟨-, -, -, -, ⟨-, he⟩ | ⟨-, he⟩⟩ | ⟨hv, hid, hmp, -, he⟩
  · rw [he] at h; cases h
  · rw [he] at h; cases h
  · rw [he] at h; cases h
  · rw [he] at h; cases h
  · exact ⟨f, hp, hv, hid, hmp, he ▸ h⟩

/-- `main` exits with `errorInvalidUIDGid` only on an id of the current user it does not
take. -/
theorem main_eq_exit_errorInvalidUIDGid {host : Host} {args : List String}
    (h : main host args = .exit errorInvalidUIDGid) :
    ∃ user, host.currentUser = some user ∧ (parseID user.uid = none ∨ parseID user.gid = none) := by
  rcases main_cases host args with ⟨e, -, he⟩ | ⟨f, -, hf⟩
  · rw [he] at h
    cases e <;> simp [exitOnError, errorInvalidUIDGid] at h
  rcases hf with ⟨-, he⟩ | ⟨-, -, he⟩ | ⟨-, -, -, -, ⟨-, he⟩ | ⟨-, he⟩⟩ | ⟨-, -, -, -, he⟩
  · rw [he] at h; simp [errorNone, errorInvalidUIDGid] at h
  · rw [he] at h; simp [errorArgs, errorInvalidUIDGid] at h
  · rw [he] at h; simp [errorDaemon, errorInvalidUIDGid] at h
  · rw [he] at h; cases h
  · -- the process that mounts, at the ids
    rw [he] at h
    rcases mountProcess_eq_exit h with hc | hc | hc | hc | ⟨-, hid⟩
    · simp [errorInvalidUIDGid, errorCreateMount] at hc
    · simp [errorInvalidUIDGid, errorGetUser] at hc
    · simp [errorInvalidUIDGid, errorInitDockerClient] at hc
    · simp [errorInvalidUIDGid, errorMountUnmount] at hc
    · exact hid

/-- A host on which every step succeeds, for the user `1000` of the group `100`. -/
def readyHost : Host :=
  ⟨.child, fun _ => true, some ⟨"1000", "100"⟩, fun _ => true, fun _ => true, true⟩

/-- **The current user's ids reach go-fuse exactly**: when `user.Current` gives the
decimal forms of a `uid_t` and a `gid_t`, as Go writes them, `main` never exits with
`errorInvalidUIDGid`, and the mount options it hands go-fuse carry exactly those ids:
`Atoi` reads the decimal form back, and the range check leaves nothing for `uint32()`
to cut. -/
theorem main_mounts_as_current_user (host : Host) (args : List String) (u g : UInt32)
    (hu : host.currentUser = some ⟨toString u.toNat, toString g.toNat⟩) :
    main host args ≠ .exit errorInvalidUIDGid ∧
      ∀ opts, main host args = .serving opts → opts.uid = u ∧ opts.gid = g := by
  constructor
  · intro h
    obtain ⟨user, hu', hid⟩ := main_eq_exit_errorInvalidUIDGid h
    rw [hu, Option.some_inj] at hu'
    subst hu'
    rcases hid with hid | hid <;> rw [parseID_toString] at hid <;> cases hid
  · intro opts h
    obtain ⟨f, -, -, -, -, hm⟩ := main_eq_serving h
    obtain ⟨-, user, uid, gid, hu', huid, hgid, -, -, rfl⟩ := mountProcess_eq_serving hm
    rw [hu, Option.some_inj] at hu'
    subst hu'
    rw [parseID_toString, Option.some_inj] at huid hgid
    subst huid hgid
    exact ⟨ofInt_toNat u, ofInt_toNat g⟩

theorem main_mounts_as_current_user_readyHost :
    readyHost.currentUser = some ⟨toString (1000 : UInt32).toNat, toString (100 : UInt32).toNat⟩ ∧
      main readyHost ["-i", "web", "-m", "/mnt/web"] ≠ .exit errorInvalidUIDGid ∧
      ∀ opts, main readyHost ["-i", "web", "-m", "/mnt/web"] = .serving opts →
        opts.uid = 1000 ∧ opts.gid = 100 :=
  have hu : readyHost.currentUser =
      some ⟨toString (1000 : UInt32).toNat, toString (100 : UInt32).toNat⟩ := by
    decide +kernel
  ⟨hu, main_mounts_as_current_user readyHost ["-i", "web", "-m", "/mnt/web"] 1000 100 hu⟩

/-- The status of a process that went on to mount is one of its own steps', or
`shutdown`'s: never below `errorCreateMount` but for a clean unmount. -/
theorem exitStatus_of_mountProcess {host : Host} {args : List String} {f : Flags}
    (h : main host args = mountProcess host f) :
    exitStatus host args = errorNone ∨ errorCreateMount ≤ exitStatus host args := by
  cases hm : mountProcess host f with
  | exit c =>
    have hc : exitStatus host args = c := by rw [exitStatus, h, hm]
    rw [hc]
    rcases mountProcess_eq_exit hm with rfl | rfl | rfl | rfl | ⟨rfl, -⟩ <;>
      simp [errorCreateMount, errorGetUser, errorInitDockerClient, errorMountUnmount,
        errorInvalidUIDGid]
  | returns => exact .inl (by rw [exitStatus, h, hm])
  | serving opts =>
    have hs : exitStatus host args = shutdown host := by rw [exitStatus, h, hm]
    rw [hs, shutdown]
    split
    · exact .inl rfl
    · exact .inr (by simp [errorCreateMount, errorMountUnmount])

/-- **Status `2` names two failures**: the process exits with `errorDaemon` when the
daemonization it was asked for fails, and also when `flag.Parse` refuses the command
line, for which the `flag` package exits with `2` itself. -/
theorem exitStatus_eq_errorDaemon_iff (host : Host) (args : List String) :
    exitStatus host args = errorDaemon ↔
      (∃ e, parse flagSet Flags.init args = .error e ∧ e ≠ .help) ∨
      ∃ f, parse flagSet Flags.init args = .ok f ∧ f.printVersion = false ∧
        f.containerID ≠ "" ∧ f.mountPoint ≠ "" ∧ f.daemonize = true ∧ host.reborn = .failed := by
  have hstatus : ∀ c, main host args = .exit c → exitStatus host args = c := fun c h => by
    rw [exitStatus, h]
  rcases main_cases host args with ⟨e, hp, he⟩ | ⟨f, hp, hf⟩
  · -- a refused command line: `2` unless it asked for help
    rw [hstatus _ he, hp]
    cases e <;> simp [exitOnError, errorDaemon]
  simp only [hp, reduceCtorEq, false_and, exists_false, Except.ok.injEq, exists_eq_left',
    false_or]
  rcases hf with ⟨hv, he⟩ | ⟨hv, ha, he⟩ | ⟨hv, hid, hmp, hd, ⟨hr, he⟩ | ⟨hr, he⟩⟩ |
      ⟨hv, hid, hmp, hd, he⟩
  · rw [hstatus _ he]
    simp [hv, errorNone, errorDaemon]
  · rw [hstatus _ he]
    rcases ha with ha | ha <;> simp [ha, errorArgs, errorDaemon]
  · rw [hstatus _ he]
    simp [hv, hid, hmp, hd, hr]
  · rw [exitStatus, he]
    simp [hr, errorNone, errorDaemon]
  · -- the process that mounts never exits with `2`
    have hne : exitStatus host args ≠ errorDaemon := by
      rcases exitStatus_of_mountProcess he with h | h
      · rw [h]
        decide
      · unfold errorCreateMount at h
        unfold errorDaemon
        omega
    simp only [hne, false_iff]
    rintro ⟨-, -, -, hd', hr⟩
    rw [hd (by simpa using hd')] at hr
    cases hr

example : exitStatus ⟨.child, fun _ => true, some ⟨"1000", "100"⟩, fun _ => true, fun _ => true, true⟩
    ["-daemon"] = errorDaemon := by
  decide +kernel

end DockerFuse.Mount
