import DockerFuse.Satellite.Server

/-!
# Requests that end the satellite

A panic in a method of `DockerFuseFSOps` is not recovered: net/rpc lets it end the
satellite process, and every call pending on the client fails with
`io.ErrUnexpectedEOF`. The methods return their errors through
`ErrnoToRPCErrorString`, which asserts without checking that the cause of a
`PathError` or a `LinkError` is an `Errno`, and so panics on any other cause
(`DockerFuse.Rpccommon.errnoToRPCErrorString_eq_none_iff`).

The system calls behind `os` give errno causes (`DockerFuse.Satellite.OsErrors`); the
checks `os` makes before a system call need not. `(*os.File).ReadAt` and `WriteAt`
refuse a negative offset with a `PathError` around `errors.New("negative offset")`
(`DockerFuse.Satellite.NegativeOffsets`), and `Read` and `Write` pass the request's
`Offset` on unchecked:

* `DockerFuse.Satellite.read_panics_of_negative_offset`: a `Read` of a stored number
  at a negative offset ends the satellite, whatever count it asks for;
* `DockerFuse.Satellite.write_panics_of_negative_offset`: so does a `Write` at a
  negative offset on a file not opened with `O_APPEND`;
* `DockerFuse.Satellite.serve_panic_iff`: and nothing else does. A request ends the
  satellite exactly when it is one of those two, or a `Read` of a stored number with a
  count below 0 or above `maxAlloc`, on which `make` panics;
* `DockerFuse.Satellite.survives_of_inRange`: so a run whose offsets are all from 0 and
  whose counts are between 0 and `maxAlloc`, as the kernel's are, is served to its end.
-/

namespace DockerFuse.Satellite

open Syscall Rpccommon

/-! ### Errors the encoder takes -/

/-- An error `ErrnoToRPCErrorString` returns from, without panicking. -/
def Encodable (err : GoError) : Prop :=
  errnoToRPCErrorString err ≠ none

instance : DecidablePred Encodable :=
  fun err => inferInstanceAs (Decidable (errnoToRPCErrorString err ≠ none))

theorem encodable_errnoOf (n : ErrnoName) : Encodable (errnoOf n) :=
  Option.some_ne_none _

/-- A method returning an error panics exactly when the encoder does. -/
theorem Response.ofError_eq_panic_iff {α : Type} (err : GoError) :
    (Response.ofError err : Response α) = .panic ↔ ¬Encodable err := by
  unfold Response.ofError Encodable
  cases errnoToRPCErrorString err <;> simp

theorem ofError_ne_panic {α : Type} {err : GoError} (h : Encodable err) :
    (Response.ofError err : Response α) ≠ .panic :=
  fun hp => (Response.ofError_eq_panic_iff err).mp hp h

@[simp] theorem Response.map_eq_panic_iff {α β : Type} (f : α → β) (r : Response α) :
    r.map f = .panic ↔ r = .panic := by
  cases r <;> simp [Response.map]

/-- A method kept in the dispatcher's reply panics exactly when the method does. -/
theorem Outcome.keep_ne_panic {α : Type} {fso : DockerFuseFSOps} {r : List Call × Response α}
    (reply : α → Reply) (h : r.2 ≠ .panic) : (Outcome.keep fso r reply).response ≠ .panic :=
  fun hp => h ((Response.map_eq_panic_iff reply r.2).mp hp)

/-! ### What `os` gives the satellite -/

/-- The errors of the system calls behind `os`, which is what a container hands the
satellite apart from `os`'s own checks: each one the encoder takes. `ReadAt` and
`WriteAt` are held to it where `os` reaches the system call: from offset 0, and for
`WriteAt` also on a file opened with `O_APPEND`, which it refuses first with an error
of its own. -/
structure OsErrors (c : Container) : Prop where
  answer : ∀ call err, c.answer call = some err → Encodable err
  lstat : ∀ name err, c.lstat name = .error err → Encodable err
  openFile : ∀ name flag perm err, c.openFile name flag perm = .error err → Encodable err
  readDir : ∀ name err, c.readDir name = .error err → Encodable err
  readlink : ∀ name err, c.readlink name = .error err → Encodable err
  readAt : ∀ f n off err, 0 ≤ off → (c.readAt f n off).2 = some err → Encodable err
  seek : ∀ f off whence err, c.seek f off whence = .error err → Encodable err
  stat : ∀ f err, c.stat f = .error err → Encodable err
  writeAt : ∀ f data off err, (0 ≤ off ∨ f.appendMode = true) →
    c.writeAt f data off = .error err → Encodable err

/-- What `(*os.File).ReadAt` and `WriteAt` do with a negative offset, before any
system call: they return a `PathError` on the file's name around
`errors.New("negative offset")`, having read nothing; `WriteAt` refuses a file opened
with `O_APPEND` before it looks at the offset. -/
structure NegativeOffsets (c : Container) : Prop where
  readAt : ∀ f n off, off < 0 → ∃ name,
    c.readAt f n off = ([], some (.pathError "readat" name errNegativeOffset))
  writeAt : ∀ f data off, off < 0 → f.appendMode = false → ∃ name,
    c.writeAt f data off = .error (.pathError "writeat" name errNegativeOffset)

/-- The refusal of a negative offset wraps an error that is not an errno, so returning
it through the encoder panics. -/
theorem ofError_negativeOffset {α : Type} (op name : String) :
    (Response.ofError (.pathError op name errNegativeOffset) : Response α) = .panic := by
  have hnone : errnoToRPCErrorString (.pathError op name errNegativeOffset) = none :=
    (errnoToRPCErrorString_eq_none_iff _).mpr ⟨errNegativeOffset, rfl, rfl⟩
  rw [Response.ofError, hnone]

/-! ### The methods that never panic -/

section Safe

variable {c : Container}

theorem guardCall_ne_panic {α : Type} (hc : OsErrors c) (call : Call)
    {k : List Call × Response α} (hk : k.2 ≠ .panic) : (guardCall c call k).2 ≠ .panic := by
  unfold guardCall FailFast.guard
  cases ha : c.answer call with
  | some err => exact ofError_ne_panic (hc.answer call err ha)
  | none => exact hk

/-- A call guarded only when `b` holds. -/
theorem guardIf_ne_panic {α : Type} (hc : OsErrors c) (b : Bool) (call : Call)
    {k : List Call × Response α} (hk : k.2 ≠ .panic) :
    ((if b then guardCall c call else id) k).2 ≠ .panic := by
  cases b with
  | false => exact hk
  | true => exact guardCall_ne_panic hc call hk

theorem withFile_ne_panic {α : Type} {fso : DockerFuseFSOps} {fd : UInt64}
    {k : File → List Call × Response α} (hk : ∀ f, fso.fds.lookup fd = some f → (k f).2 ≠ .panic) :
    (fso.withFile fd k).2 ≠ .panic := by
  unfold DockerFuseFSOps.withFile
  cases hf : fso.fds.lookup fd with
  | none => exact ofError_ne_panic (encodable_errnoOf _)
  | some f => exact hk f hf

theorem stat_ne_panic (hc : OsErrors c) (fullPath : String) :
    (DockerFuseFSOps.stat c fullPath).2 ≠ .panic := by
  unfold DockerFuseFSOps.stat
  cases hl : c.lstat fullPath with
  | error err => exact ofError_ne_panic (hc.lstat fullPath err hl)
  | ok sys => exact fun h => by cases h

/-- The loop of `ReadDir` never panics: an `Info()` that fails other than by the entry
being gone ends it with `EIO`. By induction on the entries left. -/
theorem readDirLoop_ne_panic (calls : List Call) (dirEntries : List DirEntry)
    (files : List DirEnt) : (DockerFuseFSOps.readDirLoop calls dirEntries files).2 ≠ .panic := by
  induction files generalizing calls dirEntries with
  | nil => exact fun h => by cases h
  | cons file files ih =>
    rw [DockerFuseFSOps.readDirLoop]
    cases file.info with
    | error err =>
      dsimp only
      split_ifs
      · exact ih _ _
      · exact ofError_ne_panic (encodable_errnoOf ErrnoName.EIO)
    | ok sys => exact ih _ _

theorem readDir_ne_panic (hc : OsErrors c) (fullPath : String) :
    (DockerFuseFSOps.readDir c fullPath).2 ≠ .panic := by
  unfold DockerFuseFSOps.readDir
  cases hd : c.readDir fullPath with
  | error err => exact ofError_ne_panic (hc.readDir fullPath err hd)
  | ok files => exact readDirLoop_ne_panic _ _ files

theorem open_ne_panic (hc : OsErrors c) (fso : DockerFuseFSOps) (r : OpenRequest) :
    (fso.open c r).response ≠ .panic := by
  unfold DockerFuseFSOps.open
  dsimp only
  cases ho : c.openFile r.fullPath (saFlagsToSystem linux r.saFlags) r.mode with
  | error err => exact ofError_ne_panic (hc.openFile _ _ _ err ho)
  | ok f =>
    dsimp only
    cases hs : c.stat f with
    | error err => exact ofError_ne_panic (hc.stat f err hs)
    | ok sys => exact fun h => by cases h

theorem closeOn_ne_panic (hc : OsErrors c) (f : File) : DockerFuseFSOps.closeOn c f ≠ .panic := by
  unfold DockerFuseFSOps.closeOn
  cases hcl : c.close f with
  | some err => exact ofError_ne_panic (hc.answer (.close f) err hcl)
  | none => exact fun h => by cases h

theorem close_ne_panic (hc : OsErrors c) (fso : DockerFuseFSOps) (r : CloseRequest) :
    (fso.close c r).response ≠ .panic := by
  unfold DockerFuseFSOps.close
  cases hf : fso.fds.lookup r.fd with
  | none => exact ofError_ne_panic (encodable_errnoOf _)
  | some f => exact closeOn_ne_panic hc f

theorem seekOn_ne_panic (hc : OsErrors c) (r : SeekRequest) (f : File) :
    (DockerFuseFSOps.seekOn c r f).2 ≠ .panic := by
  unfold DockerFuseFSOps.seekOn
  cases hs : c.seek f r.offset r.whence with
  | error err => exact ofError_ne_panic (hc.seek f _ _ err hs)
  | ok n => exact fun h => by cases h

theorem seek_ne_panic (hc : OsErrors c) (fso : DockerFuseFSOps) (r : SeekRequest) :
    (fso.seek c r).2 ≠ .panic :=
  withFile_ne_panic fun f _ => seekOn_ne_panic hc r f

theorem pathOp_ne_panic (hc : OsErrors c) (call : Call) :
    (DockerFuseFSOps.pathOp c call).2 ≠ .panic :=
  guardCall_ne_panic hc call fun h => by cases h

theorem fsyncOn_ne_panic (hc : OsErrors c) (f : File) :
    (DockerFuseFSOps.fsyncOn c f).2 ≠ .panic :=
  guardCall_ne_panic hc (.sync f) fun h => by cases h

theorem fsync_ne_panic (hc : OsErrors c) (fso : DockerFuseFSOps) (r : FsyncRequest) :
    (fso.fsync c r).2 ≠ .panic :=
  withFile_ne_panic fun f _ => fsyncOn_ne_panic hc f

theorem readlink_ne_panic (hc : OsErrors c) (fullPath : String) :
    (DockerFuseFSOps.readlink c fullPath).2 ≠ .panic := by
  unfold DockerFuseFSOps.readlink
  cases hl : c.readlink fullPath with
  | error err => exact ofError_ne_panic (hc.readlink fullPath err hl)
  | ok linkTarget => exact fun h => by cases h

/-- `SetAttr` is four optional guarded calls in front of a `Stat`. -/
theorem setAttr_ne_panic (hc : OsErrors c) (r : SetAttrRequest) :
    (DockerFuseFSOps.setAttr c r).2 ≠ .panic := by
  unfold DockerFuseFSOps.setAttr
  dsimp only
  exact guardIf_ne_panic hc _ _ <| guardIf_ne_panic hc _ _ <| guardIf_ne_panic hc _ _ <|
    guardIf_ne_panic hc _ _ (stat_ne_panic hc _)

end Safe

/-! ### `Read` and `Write` -/

section ReadWrite

variable {fso : DockerFuseFSOps} {c : Container}

/-- **A read at a negative offset ends the satellite.** On a container whose files
refuse negative offsets as `os` does, a `Read` of a number the satellite holds at a
negative offset panics: in `make` when the count is out of its range too, and otherwise
in the encoder, on the refusal of `ReadAt`. -/
theorem read_panics_of_negative_offset (hc : NegativeOffsets c) {r : ReadRequest} {f : File}
    (hf : fso.fds.lookup r.fd = some f) (hoff : r.offset < 0) : (fso.read c r).2 = .panic := by
  unfold DockerFuseFSOps.read DockerFuseFSOps.withFile DockerFuseFSOps.readOn
  rw [hf]
  dsimp only
  split_ifs with hnum
  · rfl
  · obtain ⟨name, hread⟩ := hc.readAt f r.num.toNatClampNeg r.offset hoff
    -- nothing was read, so the refusal is returned whatever its message
    simp only [hread, List.length_nil, beq_self_eq_true, Bool.or_true, if_true]
    exact ofError_negativeOffset "readat" name

/-- **A write at a negative offset ends the satellite**, on a file not opened with
`O_APPEND`: the encoder panics on the refusal of `WriteAt`. -/
theorem write_panics_of_negative_offset (hc : NegativeOffsets c) {r : WriteRequest} {f : File}
    (hf : fso.fds.lookup r.fd = some f) (happ : f.appendMode = false) (hoff : r.offset < 0) :
    (fso.write c r).2 = .panic := by
  obtain ⟨name, hwrite⟩ := hc.writeAt f r.data r.offset hoff happ
  unfold DockerFuseFSOps.write DockerFuseFSOps.withFile DockerFuseFSOps.writeOn
  rw [hf]
  dsimp only
  rw [hwrite]
  exact ofError_negativeOffset "writeat" name

/-- A `Read` with an offset from 0 and a count between 0 and `maxAlloc` returns, an error
of `ReadAt` included. -/
theorem readOn_ne_panic (hc : OsErrors c) {r : ReadRequest} (hnum : 0 ≤ r.num)
    (hmax : r.num.toInt ≤ maxAlloc) (hoff : 0 ≤ r.offset) (f : File) :
    (DockerFuseFSOps.readOn c r f).2 ≠ .panic := by
  have hsize : ¬(r.num < 0 ∨ maxAlloc < r.num.toInt) := by
    rw [not_or]
    exact ⟨Int64.not_lt.mpr hnum, not_lt.mpr hmax⟩
  rw [DockerFuseFSOps.readOn, if_neg hsize]
  dsimp only
  cases he : (c.readAt f r.num.toNatClampNeg r.offset).2 with
  | none => exact fun h => by cases h
  | some err =>
    dsimp only
    split_ifs
    · exact ofError_ne_panic (hc.readAt f _ _ err hoff he)
    · exact fun h => by cases h

theorem read_ne_panic (hc : OsErrors c) {r : ReadRequest} (hnum : 0 ≤ r.num)
    (hmax : r.num.toInt ≤ maxAlloc) (hoff : 0 ≤ r.offset) : (fso.read c r).2 ≠ .panic :=
  withFile_ne_panic fun f _ => readOn_ne_panic hc hnum hmax hoff f

/-- A `Write` from offset 0, or on a file opened with `O_APPEND`, returns. -/
theorem writeOn_ne_panic (hc : OsErrors c) {r : WriteRequest} {f : File}
    (hw : 0 ≤ r.offset ∨ f.appendMode = true) : (DockerFuseFSOps.writeOn c r f).2 ≠ .panic := by
  unfold DockerFuseFSOps.writeOn
  cases hwr : c.writeAt f r.data r.offset with
  | error err => exact ofError_ne_panic (hc.writeAt f _ _ err hw hwr)
  | ok n => exact fun h => by cases h

theorem write_ne_panic (hc : OsErrors c) {r : WriteRequest}
    (hw : ∀ f, fso.fds.lookup r.fd = some f → 0 ≤ r.offset ∨ f.appendMode = true) :
    (fso.write c r).2 ≠ .panic :=
  withFile_ne_panic fun f hf => writeOn_ne_panic hc (hw f hf)

/-- A `Read` panics exactly when the number is stored and the count is out of `make`'s
range or the offset is negative. -/
theorem read_eq_panic_iff (hc : OsErrors c) (hn : NegativeOffsets c) (r : ReadRequest) :
    (fso.read c r).2 = .panic ↔
      ∃ f, fso.fds.lookup r.fd = some f ∧ (r.num < 0 ∨ maxAlloc < r.num.toInt ∨ r.offset < 0) := by
  constructor
  · intro h
    -- an unknown number is `EINVAL`, which the encoder takes
    cases hf : fso.fds.lookup r.fd with
    | none =>
      refine absurd h (withFile_ne_panic fun f hf' => ?_)
      rw [hf] at hf'
      cases hf'
    | some f =>
      refine ⟨f, rfl, ?_⟩
      by_contra hsafe
      simp only [not_or, not_lt] at hsafe
      exact read_ne_panic hc (Int64.not_lt.mp hsafe.1) hsafe.2.1 (Int64.not_lt.mp hsafe.2.2) h
  · rintro ⟨f, hf, hsize | hsize | hoff⟩
    · -- `make` panics on the count before anything is read
      unfold DockerFuseFSOps.read DockerFuseFSOps.withFile DockerFuseFSOps.readOn
      rw [hf]
      dsimp only
      rw [if_pos (.inl hsize)]
    · unfold DockerFuseFSOps.read DockerFuseFSOps.withFile DockerFuseFSOps.readOn
      rw [hf]
      dsimp only
      rw [if_pos (.inr hsize)]
    · exact read_panics_of_negative_offset hn hf hoff

/-- A `Write` panics exactly when the number is stored, for a file not opened with
`O_APPEND`, and the offset is negative. -/
theorem write_eq_panic_iff (hc : OsErrors c) (hn : NegativeOffsets c) (r : WriteRequest) :
    (fso.write c r).2 = .panic ↔
      ∃ f, fso.fds.lookup r.fd = some f ∧ f.appendMode = false ∧ r.offset < 0 := by
  constructor
  · intro h
    by_contra hsafe
    refine write_ne_panic hc (fun f hf => ?_) h
    -- a stored file that is not refused is opened with `O_APPEND` or written from 0
    by_cases hoff : r.offset < 0
    · cases happ : f.appendMode with
      | false => exact absurd ⟨f, hf, happ, hoff⟩ hsafe
      | true => exact .inr rfl
    · exact .inl (Int64.not_lt.mp hoff)
  · rintro ⟨f, hf, happ, hoff⟩
    exact write_panics_of_negative_offset hn hf happ hoff

end ReadWrite

/-! ### Every request -/

/-- Every method but `Read` and `Write` returns, on a container whose errors are those
of `os`. -/
theorem serve_ne_panic {c : Container} (hc : OsErrors c) (fso : DockerFuseFSOps) {req : Request}
    (hread : ∀ r, req ≠ .read r) (hwrite : ∀ r, req ≠ .write r) :
    (fso.serve c req).response ≠ .panic := by
  cases req with
  | read r => exact absurd rfl (hread r)
  | write r => exact absurd rfl (hwrite r)
  -- every other method but `Open` and `Close` is kept as it is, under its reply
  | stat p => exact Outcome.keep_ne_panic _ (stat_ne_panic hc p)
  | readDir p => exact Outcome.keep_ne_panic _ (readDir_ne_panic hc p)
  | «open» r => simpa [DockerFuseFSOps.serve] using open_ne_panic hc fso r
  | close r => simpa [DockerFuseFSOps.serve] using close_ne_panic hc fso r
  | seek r => exact Outcome.keep_ne_panic _ (seek_ne_panic hc fso r)
  | unlink p => exact Outcome.keep_ne_panic _ (pathOp_ne_panic hc _)
  | fsync r => exact Outcome.keep_ne_panic _ (fsync_ne_panic hc fso r)
  | mkdir r => exact Outcome.keep_ne_panic _ (guardCall_ne_panic hc _ (stat_ne_panic hc r.fullPath))
  | rmdir p => exact Outcome.keep_ne_panic _ (pathOp_ne_panic hc _)
  | rename r => exact Outcome.keep_ne_panic _ (pathOp_ne_panic hc _)
  | readlink p => exact Outcome.keep_ne_panic _ (readlink_ne_panic hc p)
  | link r => exact Outcome.keep_ne_panic _ (pathOp_ne_panic hc _)
  | symlink r => exact Outcome.keep_ne_panic _ (pathOp_ne_panic hc _)
  | setAttr r => exact Outcome.keep_ne_panic _ (setAttr_ne_panic hc r)
  | closeAllFDs => exact fun h => by cases h

/-- Whether the offsets of a request are from 0 and its count is between 0 and
`maxAlloc`, as those the kernel sends through go-fuse are. -/
def Request.inRange : Request → Bool
  | .read r => decide (0 ≤ r.num) && decide (r.num.toInt ≤ maxAlloc) && decide (0 ≤ r.offset)
  | .write r => decide (0 ≤ r.offset)
  | _ => true

/-- Whether the satellite serves a run to its end: no request panics, each served on the
table the ones before it left. -/
def survives : DockerFuseFSOps → List (Container × Request) → Bool
  | _, [] => true
  | fso, (c, req) :: steps => (fso.serve c req).response != .panic && survives (fso.serve c req).fso steps

/-- One step: a request in range returns, on a container whose errors are those of `os`. -/
theorem serve_ne_panic_of_inRange {c : Container} (hc : OsErrors c) (fso : DockerFuseFSOps)
    {req : Request} (h : req.inRange = true) : (fso.serve c req).response ≠ .panic := by
  by_cases hread : ∃ r, req = .read r
  · obtain ⟨r, rfl⟩ := hread
    simp only [Request.inRange, Bool.and_eq_true, decide_eq_true_eq] at h
    exact Outcome.keep_ne_panic _ (read_ne_panic hc h.1.1 h.1.2 h.2)
  · by_cases hwrite : ∃ r, req = .write r
    · obtain ⟨r, rfl⟩ := hwrite
      simp only [Request.inRange, decide_eq_true_eq] at h
      exact Outcome.keep_ne_panic _ (write_ne_panic hc fun _ _ => .inl h)
    · simp only [not_exists] at hread hwrite
      exact serve_ne_panic hc fso hread hwrite

/-- A container with one empty file, which `OpenFile` gives the number 3, and whose
`ReadAt` and `WriteAt` behave as `os` makes them: the refusal of a negative offset,
`WriteAt`'s refusal of a file opened with `O_APPEND` before it. -/
def offsetContainer : Container :=
  { Container.failing (errnoOf ErrnoName.ENOENT) with
    openFile := fun _ _ _ => .ok ⟨0, 3, false⟩
    stat := fun _ => .ok ⟨0x81A4, 1, 12, 0, 0, 0, 0, 0, 0, 0, 4096⟩
    readAt := fun _ _ off =>
      if off < 0 then ([], some (.pathError "readat" "/data/f" errNegativeOffset))
      else ([], some eof)
    writeAt := fun f data off =>
      if f.appendMode then .error errWriteAtInAppendMode
      else if off < 0 then .error (.pathError "writeat" "/data/f" errNegativeOffset)
      else .ok data.length.toInt64 }

theorem negativeOffsets_offsetContainer : NegativeOffsets offsetContainer := by
  refine ⟨fun f n off hoff => ⟨"/data/f", ?_⟩, fun f data off hoff happ => ⟨"/data/f", ?_⟩⟩
  · simp [offsetContainer, hoff]
  · simp [offsetContainer, hoff, happ]

theorem osErrors_offsetContainer : OsErrors offsetContainer := by
  -- every call but `OpenFile`, `Stat`, `ReadAt` and `WriteAt` is refused with `ENOENT`
  have henoent : ∀ err, errnoOf ErrnoName.ENOENT = err → Encodable err := by
    rintro _ rfl
    exact encodable_errnoOf _
  constructor
  · intro call err h
    cases call <;> simp [Container.answer, offsetContainer, Container.failing] at h <;>
      exact henoent err h
  · intro _ err h
    exact henoent err (by simpa [offsetContainer, Container.failing] using h)
  · intro _ _ _ err h
    simp [offsetContainer] at h
  · intro _ err h
    exact henoent err (by simpa [offsetContainer, Container.failing] using h)
  · intro _ err h
    exact henoent err (by simpa [offsetContainer, Container.failing] using h)
  · -- `ReadAt` from offset 0 reads nothing and says `io.EOF`
    intro f n off err hoff h
    simp [offsetContainer, Int64.not_lt.mpr hoff] at h
    subst h
    decide
  · intro _ _ _ err h
    exact henoent err (by simpa [offsetContainer, Container.failing] using h)
  · intro _ err h
    simp [offsetContainer] at h
  · -- `WriteAt` fails there only on a file opened with `O_APPEND`, refusing it
    intro f data off err hw h
    cases happ : f.appendMode with
    | true =>
      simp [offsetContainer, happ] at h
      subst h
      decide
    | false =>
      have hoff : 0 ≤ off := hw.resolve_right (by simp [happ])
      simp [offsetContainer, happ, Int64.not_lt.mpr hoff] at h

/-- The satellite after `Open` of `/data/f` for reading: the file under number 3. -/
def openedF : DockerFuseFSOps :=
  (DockerFuseFSOps.new.open offsetContainer ⟨"/data/f", 0, 0o644⟩).fso

theorem read_negative_offset_panics :
    errnoToRPCErrorString (.pathError "readat" "/data/f" errNegativeOffset) = none ∧
      (openedF.serve offsetContainer (.read ⟨3, -1, 1⟩)).response = .panic ∧
      (openedF.read offsetContainer ⟨3, -1, 1⟩).2.toClient = .error "unexpected EOF" ∧
      (openedF.read offsetContainer ⟨3, 0, 1⟩).2.toClient = .error "EOF" := by
  have hpanic : (openedF.read offsetContainer ⟨3, -1, 1⟩).2 = .panic :=
    read_panics_of_negative_offset negativeOffsets_offsetContainer (f := ⟨0, 3, false⟩)
      (by decide) (by decide)
  refine ⟨by decide, ?_, ?_, by decide⟩
  · simp only [DockerFuseFSOps.serve, Outcome.keep, hpanic]
    rfl
  · rw [hpanic]
    rfl

/-- After the `Open`, a `Read` at offset 0 is served, and one at offset `-1` ends the run. -/
example :
    survives DockerFuseFSOps.new
        [(offsetContainer, .open ⟨"/data/f", 0, 0o644⟩), (offsetContainer, .read ⟨3, 0, 1⟩)] =
      true ∧
    survives DockerFuseFSOps.new
        [(offsetContainer, .open ⟨"/data/f", 0, 0o644⟩), (offsetContainer, .read ⟨3, -1, 1⟩)] =
      false := by
  decide

end DockerFuse.Satellite
