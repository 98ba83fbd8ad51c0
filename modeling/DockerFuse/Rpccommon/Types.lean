import Mathlib.Data.List.Induction
import DockerFuse.FlagMap
import DockerFuse.GoTime

/-!
# The messages of the protocol

`rpc_types.go` declares what the client and the satellite exchange over net/rpc.
Most of it is plain records, kept here with the fields the two sides read. A request
that holds nothing but `FullPath` (`StatRequest`, `ReadDirRequest`, `UnlinkRequest`,
`RmdirRequest`, `ReadlinkRequest`) is passed as that path, and the empty replies are
`Unit`.

One message has behaviour of its own. A `SetAttrRequest` carries six attributes and
a bitmap `ValidAttrs` saying which of them to change. The client fills it with the
`Set*` methods, each storing a value and setting its `SATTR_*` bit, and the
satellite reads it with the `Get*` methods, each giving the value and `true` when
the bit is set and the zero value and `false` otherwise. The two families are one
definition each (`SetAttrRequest.markValid`, `SetAttrRequest.getValid`) applied to
each attribute's field, bit and zero.

`DockerFuse.Rpccommon.Attr` bundles what the law between them needs of an attribute,
and `DockerFuse.Rpccommon.Attr.get_applyAll` is the law itself: after any sequence of
setter calls on a fresh request, a getter returns the last value set for its field,
or the zero value and `false` if its setter was never called.
-/

namespace DockerFuse.Rpccommon

/-- `DirEntry`. -/
structure DirEntry where
  mode : UInt32
  name : String
  ino : UInt64
  deriving DecidableEq, Repr

/-- `StatReply`, which is also `MkdirReply` and `SetAttrReply`. -/
structure StatReply where
  mode : UInt32
  nlink : UInt32
  ino : UInt64
  uid : UInt32
  gid : UInt32
  atime : Int64
  mtime : Int64
  ctime : Int64
  size : Int64
  blocks : Int64
  blksize : Int32
  linkTarget : String
  deriving DecidableEq, Repr

/-- `OpenRequest`; `os.FileMode` is a `uint32`. -/
structure OpenRequest where
  fullPath : String
  /-- System-agnostic flags. -/
  saFlags : BitVec 16
  mode : UInt32
  deriving DecidableEq, Repr

/-- `OpenReply`: the descriptor, and the `StatReply` it embeds. -/
structure OpenReply where
  fd : UInt64
  statReply : StatReply
  deriving DecidableEq, Repr

/-- `CloseRequest`. -/
structure CloseRequest where
  fd : UInt64
  deriving DecidableEq, Repr

/-- `ReadRequest`; `int` is 64 bits wide on the platforms the satellite runs on. -/
structure ReadRequest where
  fd : UInt64
  offset : Int64
  num : Int64
  deriving DecidableEq, Repr

/-- `SeekRequest`. -/
structure SeekRequest where
  fd : UInt64
  offset : Int64
  whence : Int64
  deriving DecidableEq, Repr

/-- `WriteRequest`. -/
structure WriteRequest where
  fd : UInt64
  offset : Int64
  data : List UInt8
  deriving DecidableEq, Repr

/-- `FsyncRequest`. -/
structure FsyncRequest where
  fd : UInt64
  flags : UInt32
  deriving DecidableEq, Repr

/-- `MkdirRequest`. -/
structure MkdirRequest where
  fullPath : String
  mode : UInt32
  deriving DecidableEq, Repr

/-- `RenameRequest`. -/
structure RenameRequest where
  fullPath : String
  fullNewPath : String
  flags : UInt32
  deriving DecidableEq, Repr

/-- `LinkRequest`, and `SymlinkRequest`, which has the same fields. -/
structure LinkRequest where
  oldFullPath : String
  newFullPath : String
  deriving DecidableEq, Repr

/-! ### `SetAttrRequest` -/

/-- `SATTR_ATIME`. -/
def SATTR_ATIME : BitVec 32 := 1 <<< 0
/-- `SATTR_GID`. -/
def SATTR_GID : BitVec 32 := 1 <<< 1
/-- `SATTR_MODE`. -/
def SATTR_MODE : BitVec 32 := 1 <<< 2
/-- `SATTR_MTIME`. -/
def SATTR_MTIME : BitVec 32 := 1 <<< 3
/-- `SATTR_SIZE`. -/
def SATTR_SIZE : BitVec 32 := 1 <<< 4
/-- `SATTR_UID`. -/
def SATTR_UID : BitVec 32 := 1 <<< 5

/-- `UTIME_OMIT`: the `Nsec` that tells `utimensat` to leave a timestamp alone. -/
def UTIME_OMIT : Int64 := ((1 : Int64) <<< 30) - 2

/-- `SetAttrRequest`; `ValidAttrs` is a `uint32` bitmap of `SATTR_*` bits. -/
structure SetAttrRequest where
  fullPath : String
  validAttrs : BitVec 32
  aTime : Time
  mTime : Time
  uid : UInt32
  gid : UInt32
  mode : UInt32
  size : UInt64

/-- `SetAttrRequest{FullPath: fullPath}`: every other field at its zero value. -/
def SetAttrRequest.new (fullPath : String) : SetAttrRequest :=
  ⟨fullPath, 0, Time.zero, Time.zero, 0, 0, 0, 0⟩

namespace SetAttrRequest

/-- The body of every `Get*` method: `value, true` when `bit` is set in `ValidAttrs`,
the zero value and `false` otherwise. -/
def getValid {α : Type} (r : SetAttrRequest) (bit : BitVec 32) (value zero : α) : α × Bool :=
  if r.validAttrs &&& bit = bit then (value, true) else (zero, false)

/-- The second half of every `Set*` method: `r.ValidAttrs |= bit`. -/
def markValid (r : SetAttrRequest) (bit : BitVec 32) : SetAttrRequest :=
  { r with validAttrs := r.validAttrs ||| bit }

/-- `GetMode`. -/
def getMode (r : SetAttrRequest) : UInt32 × Bool := r.getValid SATTR_MODE r.mode 0
/-- `GetUID`. -/
def getUID (r : SetAttrRequest) : UInt32 × Bool := r.getValid SATTR_UID r.uid 0
/-- `GetGID`. -/
def getGID (r : SetAttrRequest) : UInt32 × Bool := r.getValid SATTR_GID r.gid 0
/-- `GetATime`. -/
def getATime (r : SetAttrRequest) : Time × Bool := r.getValid SATTR_ATIME r.aTime Time.zero
/-- `GetMTime`. -/
def getMTime (r : SetAttrRequest) : Time × Bool := r.getValid SATTR_MTIME r.mTime Time.zero
/-- `GetSize`. -/
def getSize (r : SetAttrRequest) : UInt64 × Bool := r.getValid SATTR_SIZE r.size 0

/-- `SetMode`. -/
def setMode (r : SetAttrRequest) (m : UInt32) : SetAttrRequest :=
  markValid { r with mode := m } SATTR_MODE
/-- `SetUID`. -/
def setUID (r : SetAttrRequest) (u : UInt32) : SetAttrRequest :=
  markValid { r with uid := u } SATTR_UID
/-- `SetGID`. -/
def setGID (r : SetAttrRequest) (g : UInt32) : SetAttrRequest :=
  markValid { r with gid := g } SATTR_GID
/-- `SetATime`. -/
def setATime (r : SetAttrRequest) (a : Time) : SetAttrRequest :=
  markValid { r with aTime := a } SATTR_ATIME
/-- `SetMTime`. -/
def setMTime (r : SetAttrRequest) (m : Time) : SetAttrRequest :=
  markValid { r with mTime := m } SATTR_MTIME
/-- `SetSize`. -/
def setSize (r : SetAttrRequest) (s : UInt64) : SetAttrRequest :=
  markValid { r with size := s } SATTR_SIZE

end SetAttrRequest

/-! ### Sequences of setter calls -/

/-- One call of a `Set*` method, with its argument. -/
inductive Setter
  | aTime (a : Time)
  | mTime (m : Time)
  | uid (u : UInt32)
  | gid (g : UInt32)
  | mode (m : UInt32)
  | size (s : UInt64)

/-- Making the call. -/
def Setter.apply : Setter → SetAttrRequest → SetAttrRequest
  | .aTime a, r => r.setATime a
  | .mTime m, r => r.setMTime m
  | .uid u, r => r.setUID u
  | .gid g, r => r.setGID g
  | .mode m, r => r.setMode m
  | .size s, r => r.setSize s

/-- Making the calls, first to last. -/
def SetAttrRequest.applyAll (r : SetAttrRequest) (ops : List Setter) : SetAttrRequest :=
  ops.foldl (fun r op => op.apply r) r

/-- The bit of `ValidAttrs` a call marks. -/
def Setter.bit : Setter → BitVec 32
  | .aTime _ => SATTR_ATIME
  | .mTime _ => SATTR_MTIME
  | .uid _ => SATTR_UID
  | .gid _ => SATTR_GID
  | .mode _ => SATTR_MODE
  | .size _ => SATTR_SIZE

theorem Setter.apply_validAttrs (op : Setter) (r : SetAttrRequest) :
    (op.apply r).validAttrs = r.validAttrs ||| op.bit := by
  cases op <;> rfl

/-- A getter of the bit a call marks reports what the getter is given, and `true`. -/
theorem Setter.getValid_apply_self {α : Type} (op : Setter) (r : SetAttrRequest) (v zero : α) :
    (op.apply r).getValid op.bit v zero = (v, true) := by
  rw [SetAttrRequest.getValid, Setter.apply_validAttrs, FlagMap.or_self_and_eq, if_pos rfl]

/-- A call that marks another bit leaves every getter of `bit` reading as before. -/
theorem Setter.getValid_apply_of_and_eq_zero {α : Type} {op : Setter} {bit : BitVec 32}
    (h : op.bit &&& bit = 0) (r : SetAttrRequest) (v zero : α) :
    (op.apply r).getValid bit v zero = r.getValid bit v zero := by
  simp only [SetAttrRequest.getValid, Setter.apply_validAttrs, FlagMap.or_and_eq_self_iff h]

/-- What a getter should report after `ops`: the last value its field was set to,
with `true`, or its zero value and `false` when no call set it. -/
def lastSet {α : Type} (ops : List Setter) (setBy : Setter → Option α) (zero : α) : α × Bool :=
  match (ops.filterMap setBy).getLast? with
  | some v => (v, true)
  | none => (zero, false)

/-- An attribute of a `SetAttrRequest` as the getter/setter law sees it: its bit, its
field, which setter calls set it and to what, its zero value; and the law of one
call, that the getter then reports the value that call set, or what it reported
before when the call sets another attribute. -/
structure Attr (α : Type) where
  bit : BitVec 32
  field : SetAttrRequest → α
  setBy : Setter → Option α
  zero : α
  bit_ne_zero : bit ≠ 0
  get_apply : ∀ op r, (op.apply r).getValid bit (field (op.apply r)) zero =
    match setBy op with
    | some v => (v, true)
    | none => r.getValid bit (field r) zero

/-- The getter of an attribute. -/
def Attr.get {α : Type} (a : Attr α) (r : SetAttrRequest) : α × Bool :=
  r.getValid a.bit (a.field r) a.zero

/-- A fresh request reports every attribute absent. -/
theorem Attr.get_new {α : Type} (a : Attr α) (fullPath : String) :
    a.get (SetAttrRequest.new fullPath) = (a.zero, false) := by
  have hz : (SetAttrRequest.new fullPath).validAttrs &&& a.bit ≠ a.bit := by
    show (0 : BitVec 32) &&& a.bit ≠ a.bit
    simpa using a.bit_ne_zero.symm
  rw [Attr.get, SetAttrRequest.getValid, if_neg hz]

/-- **The getter/setter law**: after any sequence of setter calls on a fresh request, a
getter returns the last value set for its field, and `true`, or its zero value and
`false` when its setter was never called. -/
theorem Attr.get_applyAll {α : Type} (a : Attr α) (fullPath : String) (ops : List Setter) :
    a.get ((SetAttrRequest.new fullPath).applyAll ops) = lastSet ops a.setBy a.zero := by
  -- induction from the right: the last call decides, through `Attr.get_apply`
  induction ops using List.reverseRecOn with
  | nil => exact a.get_new fullPath
  | append_singleton ops op ih =>
    have happ : (SetAttrRequest.new fullPath).applyAll (ops ++ [op]) =
        op.apply ((SetAttrRequest.new fullPath).applyAll ops) := by
      simp [SetAttrRequest.applyAll]
    rw [happ, Attr.get, a.get_apply, lastSet, List.filterMap_append, List.getLast?_append]
    cases hop : a.setBy op with
    | some v => simp [hop]
    | none => simpa [hop, lastSet, Attr.get] using ih

/-! ### The six attributes -/

/-- The access time, read by `GetATime` and set by `SetATime`. -/
def aTimeAttr : Attr Time where
  bit := SATTR_ATIME
  field := SetAttrRequest.aTime
  setBy
    | .aTime v => some v
    | _ => none
  zero := Time.zero
  bit_ne_zero := by decide
  get_apply op r := by
    -- its own setter reports the value it stores; every other leaves the getter alone
    cases op with
    | aTime v => exact Setter.getValid_apply_self (.aTime v) r v _
    | _ => exact Setter.getValid_apply_of_and_eq_zero (by dsimp only [Setter.bit]; decide) r _ _

theorem getATime_eq (r : SetAttrRequest) : r.getATime = aTimeAttr.get r := rfl

/-- The modification time, read by `GetMTime` and set by `SetMTime`. -/
def mTimeAttr : Attr Time where
  bit := SATTR_MTIME
  field := SetAttrRequest.mTime
  setBy
    | .mTime v => some v
    | _ => none
  zero := Time.zero
  bit_ne_zero := by decide
  get_apply op r := by
    -- its own setter reports the value it stores; every other leaves the getter alone
    cases op with
    | mTime v => exact Setter.getValid_apply_self (.mTime v) r v _
    | _ => exact Setter.getValid_apply_of_and_eq_zero (by dsimp only [Setter.bit]; decide) r _ _

theorem getMTime_eq (r : SetAttrRequest) : r.getMTime = mTimeAttr.get r := rfl

/-- The owner, read by `GetUID` and set by `SetUID`. -/
def uidAttr : Attr UInt32 where
  bit := SATTR_UID
  field := SetAttrRequest.uid
  setBy
    | .uid v => some v
    | _ => none
  zero := 0
  bit_ne_zero := by decide
  get_apply op r := by
    -- its own setter reports the value it stores; every other leaves the getter alone
    cases op with
    | uid v => exact Setter.getValid_apply_self (.uid v) r v _
    | _ => exact Setter.getValid_apply_of_and_eq_zero (by dsimp only [Setter.bit]; decide) r _ _

theorem getUID_eq (r : SetAttrRequest) : r.getUID = uidAttr.get r := rfl

/-- The group, read by `GetGID` and set by `SetGID`. -/
def gidAttr : Attr UInt32 where
  bit := SATTR_GID
  field := SetAttrRequest.gid
  setBy
    | .gid v => some v
    | _ => none
  zero := 0
  bit_ne_zero := by decide
  get_apply op r := by
    -- its own setter reports the value it stores; every other leaves the getter alone
    cases op with
    | gid v => exact Setter.getValid_apply_self (.gid v) r v _
    | _ => exact Setter.getValid_apply_of_and_eq_zero (by dsimp only [Setter.bit]; decide) r _ _

theorem getGID_eq (r : SetAttrRequest) : r.getGID = gidAttr.get r := rfl

/-- The mode, read by `GetMode` and set by `SetMode`. -/
def modeAttr : Attr UInt32 where
  bit := SATTR_MODE
  field := SetAttrRequest.mode
  setBy
    | .mode v => some v
    | _ => none
  zero := 0
  bit_ne_zero := by decide
  get_apply op r := by
    -- its own setter reports the value it stores; every other leaves the getter alone
    cases op with
    | mode v => exact Setter.getValid_apply_self (.mode v) r v _
    | _ => exact Setter.getValid_apply_of_and_eq_zero (by dsimp only [Setter.bit]; decide) r _ _

theorem getMode_eq (r : SetAttrRequest) : r.getMode = modeAttr.get r := rfl

/-- The size, read by `GetSize` and set by `SetSize`. -/
def sizeAttr : Attr UInt64 where
  bit := SATTR_SIZE
  field := SetAttrRequest.size
  setBy
    | .size v => some v
    | _ => none
  zero := 0
  bit_ne_zero := by decide
  get_apply op r := by
    -- its own setter reports the value it stores; every other leaves the getter alone
    cases op with
    | size v => exact Setter.getValid_apply_self (.size v) r v _
    | _ => exact Setter.getValid_apply_of_and_eq_zero (by dsimp only [Setter.bit]; decide) r _ _

theorem getSize_eq (r : SetAttrRequest) : r.getSize = sizeAttr.get r := rfl

end DockerFuse.Rpccommon
