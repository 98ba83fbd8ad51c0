import DockerFuse.Mount.Wire
import DockerFuse.Satellite.Panics

/-!
# File handles across the mount

The kernel opens a file through `Node.Open` or `Node.Create` and then names it by a
handle in its requests. go-fuse keeps, for each handle, the `FileHandle` value the
`Node` method returned, which here is the satellite's descriptor number; every later
request on the handle sends that number to the satellite, which looks the file up in
its table. The container's kernel gives out a number that is not in use, and Linux
gives the lowest one, so a number is reused as soon as it is closed.

`DockerFuse.Mount.FuseMount` is the mount seen from the kernel: the satellite's books
(`DockerFuse.Satellite.Books`) and go-fuse's handles, each with the file the
satellite opened for it. `DockerFuse.Mount.FuseMount.step` serves one request on
handles; a run serves them in order, each answered by the container as it is then.

`Flush` and `Release` both close the handle's number on the satellite, and the kernel
sends one `FLUSH` for each `close(2)` and one `RELEASE` at the end. So:

* `DockerFuse.Mount.handles_keep_files`: when no request on a handle follows the
  first `Close` sent for it, every satellite call made for a handle works on the file
  opened for it, and no file is closed twice;
* `DockerFuse.Mount.release_closes_reused_fd`: a run the kernel can send, where
  `FLUSH` then `RELEASE` of one handle, with an `OPEN` in between that is given the
  freed number, closes the other handle's file.

And none of the requests the mount sends on the kernel's behalf can end the satellite
(`DockerFuse.Mount.satellite_returns_of_inRange`): the kernel's offsets are never
negative and its buffers are Go slices, and the satellite panics only on a negative
offset or a count out of `make`'s range (`DockerFuse.Satellite.serve_panic_iff`).
-/

namespace DockerFuse.Mount

open Syscall Rpccommon Satellite Client

/-! ### Requests on handles -/

/-- A FUSE request on file handles, as go-fuse hands it to a `Node`. A handle is known
by the kernel's number for it, `h`. -/
inductive HandleRequest
  | open (node : Node) (flags : UInt32)
  | create (node : Node) (name : String) (flags mode : UInt32)
  | read (h : ℕ) (dest : List UInt8) (off : Int64)
  | write (h : ℕ) (data : List UInt8) (off : Int64)
  | lseek (h : ℕ) (off : UInt64) (whence : UInt32)
  | fsync (h : ℕ) (flags : UInt32)
  | flush (h : ℕ)
  | release (h : ℕ)
  deriving DecidableEq, Repr

/-- The handle a request names; `Open` and `Create` name none. -/
def HandleRequest.handle? : HandleRequest → Option ℕ
  | .open .. | .create .. => none
  | .read h .. | .write h .. | .lseek h .. | .fsync h .. | .flush h | .release h => some h

/-- Whether the `Node` method closes the handle on the satellite. -/
def HandleRequest.closes : HandleRequest → Bool
  | .flush _ | .release _ => true
  | _ => false

/-- The satellite request the `Node` method sends through the client, for a handle
whose `FileHandle` is `fh`: `Read` asks for `len(dest)` bytes, `Lseek` converts its
arguments to `int64`, `Flush` and `Release` send `Close`. -/
def HandleRequest.rpc (p : Platform) (fh : UInt64) : HandleRequest → Request
  | .open node flags => .open (DockerFuseClient.openRequest p node.fullPath (flagWord flags) flags)
  | .create node name flags mode =>
    .open (DockerFuseClient.openRequest p (node.childPath name) (flagWord flags) mode)
  | .read _ dest off => .read ⟨fh, off, dest.length.toInt64⟩
  | .write _ data off => .write ⟨fh, off, data⟩
  | .lseek _ off whence => .seek ⟨fh, off.toInt64, whence.toUInt64.toInt64⟩
  | .fsync _ flags => .fsync ⟨fh, flags⟩
  | .flush _ | .release _ => .close ⟨fh⟩

/-- go-fuse's record of a handle: the `FileHandle` value, and what the proofs keep of
it: the file the satellite opened for it, whether a `Close` was sent for it, and
whether the kernel released it. -/
structure Handle where
  fh : UInt64
  file : File
  closed : Bool
  released : Bool
  deriving DecidableEq, Repr

/-- A handle after a request on it. -/
def Handle.after (hd : Handle) : HandleRequest → Handle
  | .flush _ => { hd with closed := true }
  | .release _ => { hd with closed := true, released := true }
  | _ => hd

theorem Handle.after_file (hd : Handle) (req : HandleRequest) : (hd.after req).file = hd.file := by
  cases req <;> rfl

theorem Handle.after_of_closes_false {hd : Handle} {req : HandleRequest} (h : req.closes = false) :
    hd.after req = hd := by
  cases req <;> first | rfl | simp [HandleRequest.closes] at h

theorem Handle.after_closed_of_closes {hd : Handle} {req : HandleRequest} (h : req.closes = true) :
    (hd.after req).closed = true := by
  cases req <;> first | rfl | simp [HandleRequest.closes] at h

/-- The mount: the satellite with its books, and go-fuse's handles, by the kernel's
number. -/
structure FuseMount where
  books : Books
  handles : List Handle

/-- The mount as it starts. -/
def FuseMount.init : FuseMount :=
  ⟨Books.init, []⟩

/-- The handle an open records for the value `fh` the `Node` method returned: the file
`OpenFile` gave the satellite. -/
def newHandle (c : Container) (r : Request) (fh : UInt64) : List Handle :=
  match openedBy c r with
  | some f => [⟨fh, f, false, false⟩]
  | none => []

/-- The handles after an `Open` or `Create`: go-fuse records one when the `Node` method
returned errno 0. -/
def FuseMount.opened (p : Platform) (m : FuseMount) (c : Container) : HandleRequest → List Handle
  | req@(.open node flags) =>
    let (fh, _, errno) := Node.open (satelliteClient p m.books.fso c) node flags
    if errno = errnoOK then m.handles ++ newHandle c (req.rpc p 0) fh else m.handles
  | req@(.create node name flags mode) =>
    match Node.create (satelliteClient p m.books.fso c) node name flags mode with
    | .ok (fh, _, _) => m.handles ++ newHandle c (req.rpc p 0) fh
    | .error _ => m.handles
  | _ => m.handles

/-- One request, and the calls the satellite makes for it. A request on a handle go-fuse
does not know never reaches the node. -/
def FuseMount.step (p : Platform) (m : FuseMount) (c : Container) (req : HandleRequest) :
    FuseMount × List Call :=
  match req.handle? with
  | none =>
    let r := req.rpc p 0
    (⟨m.books.step c r, m.opened p c req⟩, (m.books.fso.serve c r).calls)
  | some h =>
    match m.handles[h]? with
    | none => (m, [])
    | some hd =>
      let r := req.rpc p hd.fh
      (⟨m.books.step c r, m.handles.set h (hd.after req)⟩, (m.books.fso.serve c r).calls)

/-- The requests in order, each answered by its own container. -/
def FuseMount.run (p : Platform) : FuseMount → List (Container × HandleRequest) → FuseMount
  | m, [] => m
  | m, (c, req) :: rest => (m.step p c req).1.run p rest

/-! ### The kernel's protocol and the container's allocation -/

/-- The container's kernel at an open: the number `OpenFile` gives is not that of a file
that is open, and the file is a new one. -/
def OsAlloc (b : Books) (c : Container) (r : Request) : Prop :=
  match openedBy c r with
  | some f => (∀ g ∈ b.opened, g ∉ b.closed → g.fd ≠ f.fd) ∧ f ∉ b.opened
  | none => True

instance (b : Books) (c : Container) (r : Request) : Decidable (OsAlloc b c r) :=
  match h : openedBy c r with
  | some f =>
    decidable_of_iff ((∀ g ∈ b.opened, g ∉ b.closed → g.fd ≠ f.fd) ∧ f ∉ b.opened)
      (by rw [OsAlloc, h])
  | none => isTrue (by rw [OsAlloc, h]; trivial)

/-- The kernel's protocol: a request names a handle it opened and has not released. -/
def KernelValid (m : FuseMount) (req : HandleRequest) : Bool :=
  match req.handle? with
  | none => true
  | some h =>
    match m.handles[h]? with
    | some hd => !hd.released
    | none => false

/-- A request on a handle comes before any `Close` was sent for it. -/
def BeforeClose (m : FuseMount) (req : HandleRequest) : Bool :=
  match req.handle? with
  | none => true
  | some h =>
    match m.handles[h]? with
    | some hd => !hd.closed
    | none => false

/-- The run keeps the kernel's protocol and the container allocates as assumed. -/
def FuseMount.Valid (p : Platform) : FuseMount → List (Container × HandleRequest) → Prop
  | _, [] => True
  | m, (c, req) :: rest =>
    OsAlloc m.books c (req.rpc p 0) ∧ KernelValid m req = true ∧ (m.step p c req).1.Valid p rest

instance FuseMount.decValid (p : Platform) :
    (m : FuseMount) → (steps : List (Container × HandleRequest)) → Decidable (m.Valid p steps)
  | _, [] => isTrue trivial
  | m, (c, req) :: rest =>
    haveI := FuseMount.decValid p (m.step p c req).1 rest
    inferInstanceAs (Decidable (_ ∧ _ ∧ _))

/-- No request on a handle follows the first `Close` sent for it. -/
def FuseMount.SingleClose (p : Platform) : FuseMount → List (Container × HandleRequest) → Prop
  | _, [] => True
  | m, (c, req) :: rest => BeforeClose m req = true ∧ (m.step p c req).1.SingleClose p rest

instance FuseMount.decSingleClose (p : Platform) :
    (m : FuseMount) → (steps : List (Container × HandleRequest)) →
      Decidable (m.SingleClose p steps)
  | _, [] => isTrue trivial
  | m, (c, req) :: rest =>
    haveI := FuseMount.decSingleClose p (m.step p c req).1 rest
    inferInstanceAs (Decidable (_ ∧ _))

/-- The calls made for a request on a handle work on the handle's file. -/
def OnOwnFile (m : FuseMount) (req : HandleRequest) (calls : List Call) : Prop :=
  ∀ h hd, req.handle? = some h → m.handles[h]? = some hd → ∀ call ∈ calls, call.file? = some hd.file

/-- At every step of the run, the calls for a request on a handle work on its file. -/
def FuseMount.OwnFiles (p : Platform) : FuseMount → List (Container × HandleRequest) → Prop
  | _, [] => True
  | m, (c, req) :: rest => OnOwnFile m req (m.step p c req).2 ∧ (m.step p c req).1.OwnFiles p rest

/-! ### One request on the satellite -/

/-- A request on a handle whose number holds `f`: every call works on `f`, nothing is
opened, and the table is left alone or, for `Flush` and `Release`, loses the number,
with `f` closed. -/
theorem serve_handle (p : Platform) {fso : DockerFuseFSOps} (c : Container) {req : HandleRequest}
    {h : ℕ} (hreq : req.handle? = some h) {fh : UInt64} {f : File}
    (hf : fso.fds.lookup fh = some f) :
    (∀ call ∈ (fso.serve c (req.rpc p fh)).calls, call.file? = some f) ∧
      openedBy c (req.rpc p fh) = none ∧
      (fso.serve c (req.rpc p fh)).fso.fds = (if req.closes then fso.fds.erase fh else fso.fds) ∧
      closedBy (fso.serve c (req.rpc p fh)).calls = (if req.closes then [f] else []) := by
  cases req with
  | «open» _ _ => cases hreq
  | create _ _ _ _ => cases hreq
  | read _ dest off =>
    simp only [HandleRequest.rpc, DockerFuseFSOps.serve, Outcome.keep, DockerFuseFSOps.read,
      DockerFuseFSOps.withFile, DockerFuseFSOps.readOn, hf, openedBy, HandleRequest.closes]
    split <;> simp [Call.file?, closedBy, Call.closedFile]
  | write _ data off =>
    simp [HandleRequest.rpc, DockerFuseFSOps.serve, Outcome.keep, DockerFuseFSOps.write,
      DockerFuseFSOps.withFile, DockerFuseFSOps.writeOn, hf, openedBy, HandleRequest.closes, Call.file?, closedBy,
      Call.closedFile]
  | lseek _ off whence =>
    simp [HandleRequest.rpc, DockerFuseFSOps.serve, Outcome.keep, DockerFuseFSOps.seek,
      DockerFuseFSOps.withFile, DockerFuseFSOps.seekOn, hf, openedBy, HandleRequest.closes, Call.file?, closedBy,
      Call.closedFile]
  | fsync _ flags =>
    simp only [HandleRequest.rpc, DockerFuseFSOps.serve, Outcome.keep, DockerFuseFSOps.fsync,
      DockerFuseFSOps.withFile, DockerFuseFSOps.fsyncOn, hf, openedBy, HandleRequest.closes, guardCall, FailFast.guard]
    split <;> simp [Call.file?, closedBy, Call.closedFile]
  | flush _ | release _ =>
    simp [HandleRequest.rpc, DockerFuseFSOps.serve, DockerFuseFSOps.close, hf, openedBy,
      HandleRequest.closes, Call.file?, closedBy, Call.closedFile]

/-- What an `Open` or `Create` does to the satellite, when the number `OpenFile` gives is
free: the file is stored under its number and nothing is closed; or `OpenFile` fails
and nothing changes. -/
theorem serve_open_free {b : Books} (hb : b.Inv)
    (hopen : ∀ k g, b.fso.fds.lookup k = some g → g ∈ b.opened ∧ g ∉ b.closed)
    {p : Platform} {c : Container} {req : HandleRequest} (hreq : req.handle? = none)
    (hos : OsAlloc b c (req.rpc p 0)) :
    closedBy (b.fso.serve c (req.rpc p 0)).calls = [] ∧
      ((∃ f, openedBy c (req.rpc p 0) = some f ∧
          (b.fso.serve c (req.rpc p 0)).fso.fds = b.fso.fds.insert f.fd f) ∨
        (openedBy c (req.rpc p 0) = none ∧ (b.fso.serve c (req.rpc p 0)).fso.fds = b.fso.fds)) := by
  -- an open sends `Open` with some request `r`
  obtain ⟨r, hr⟩ : ∃ r, req.rpc p 0 = .open r := by
    cases req with
    | «open» node flags => exact ⟨_, rfl⟩
    | create node name flags mode => exact ⟨_, rfl⟩
    | _ => cases hreq
  rw [hr] at hos ⊢
  cases hf : c.openFile r.fullPath (saFlagsToSystem linux r.saFlags) r.mode with
  | error err =>
    have hnone : openedBy c (.open r) = none := by simp [openedBy, hf, Except.toOption]
    have hsame : (b.fso.serve c (.open r)).fso = b.fso := open_of_openFile_error b.fso hf
    refine ⟨?_, .inr ⟨hnone, by rw [hsame]⟩⟩
    simp only [DockerFuseFSOps.serve, closedBy_open, hf]
  | ok f =>
    have hsome : openedBy c (.open r) = some f := by simp [openedBy, hf, Except.toOption]
    have hfree : ∀ g ∈ b.opened, g ∉ b.closed → g.fd ≠ f.fd := by
      have := hos
      rw [OsAlloc, hsome] at this
      exact this.1
    -- nothing is stored under the new number: a stored file is open, and has its number
    have hlookup : b.fso.fds.lookup f.fd = none := by
      cases hg : b.fso.fds.lookup f.fd with
      | none => rfl
      | some g =>
        obtain ⟨hgo, hgc⟩ := hopen _ _ hg
        exact absurd (hb.fd_eq _ _ hg) (hfree g hgo hgc)
    refine ⟨?_, .inl ⟨f, hsome, (open_of_openFile_ok b.fso hf).1⟩⟩
    simp only [DockerFuseFSOps.serve, closedBy_open, hf, hlookup, Option.toList_none]

/-- The handles after an open are the old ones, with at most one more: the file
`OpenFile` gave, under its own number. -/
theorem opened_eq {p : Platform} (hp : p ∈ clientPlatforms) (m : FuseMount) (c : Container)
    {req : HandleRequest} (hreq : req.handle? = none) :
    m.opened p c req = m.handles ∨
      ∃ f, openedBy c (req.rpc p 0) = some f ∧
        m.opened p c req = m.handles ++ [⟨f.fd, f, false, false⟩] := by
  -- the value the node returned is the number of the file `OpenFile` gave
  have hadd : ∀ {r : OpenRequest} {reply : OpenReply},
      (m.books.fso.open c r).response.toClient = .ok reply →
        ∃ f, openedBy c (.open r) = some f ∧ newHandle c (.open r) reply.fd =
          [⟨f.fd, f, false, false⟩] := by
    intro r reply hcall
    obtain ⟨f, hf, hfd, -⟩ := open_of_ok m.books.fso (Response.toClient_eq_ok.mp hcall)
    have hsome : openedBy c (.open r) = some f := by simp [openedBy, hf, Except.toOption]
    exact ⟨f, hsome, by rw [newHandle, hsome, hfd]⟩
  cases req with
  | «open» node flags =>
    simp only [FuseMount.opened]
    split_ifs with hok
    · obtain ⟨reply, hcall, hfh⟩ := DockerFuseClient.open_of_errnoOK hp
        (fun r => (m.books.fso.open c r).response.toClient) hok
      obtain ⟨f, hsome, hnew⟩ := hadd hcall
      have hfh' : (Node.open (satelliteClient p m.books.fso c) node flags).1 = reply.fd := hfh
      exact .inr ⟨f, hsome, by rw [hfh', ← hnew]; rfl⟩
    · exact .inl rfl
  | create node name flags mode =>
    cases hcreate : Node.create (satelliteClient p m.books.fso c) node name flags mode with
    | error e => exact .inl (by simp only [FuseMount.opened, hcreate])
    | ok v =>
      obtain ⟨fh, fuseFlags, e⟩ := v
      obtain ⟨hok, hfh⟩ := Node.create_eq_ok _ hcreate
      obtain ⟨reply, hcall, hfh'⟩ := DockerFuseClient.create_of_errnoOK hp
        (fun r => (m.books.fso.open c r).response.toClient) hok
      obtain ⟨f, hsome, hnew⟩ := hadd hcall
      have hfd : fh = reply.fd := hfh.symm.trans hfh'
      exact .inr ⟨f, hsome, by simp only [FuseMount.opened, hcreate]; rw [hfd, ← hnew]; rfl⟩
  | _ => cases hreq

/-! ### The invariant -/

/-- What holds of the mount at every point of a run in which no request on a handle
follows a `Close` sent for it. -/
structure FuseMount.Inv (m : FuseMount) : Prop where
  books : m.books.Inv
  /-- The files in the table are open. -/
  fds_open : ∀ k f, m.books.fso.fds.lookup k = some f → f ∈ m.books.opened ∧ f ∉ m.books.closed
  closed_opened : ∀ f ∈ m.books.closed, f ∈ m.books.opened
  /-- No file was closed twice. -/
  closed_nodup : m.books.closed.Nodup
  files : ∀ (i : ℕ) (hd : Handle), m.handles[i]? = some hd → hd.file ∈ m.books.opened
  /-- Each handle has a file of its own. -/
  distinct : ∀ (i j : ℕ) (hi hj : Handle), m.handles[i]? = some hi → m.handles[j]? = some hj →
    hi.file = hj.file → i = j
  /-- A handle no `Close` was sent for still has its file under its number. -/
  live : ∀ (i : ℕ) (hd : Handle), m.handles[i]? = some hd → hd.closed = false →
    m.books.fso.fds.lookup hd.fh = some hd.file

/-- The invariant passes to a mount whose books keep the table and the opened and
closed files of a mount that has it, and whose handles keep to the same. -/
theorem FuseMount.Inv.of_books_eq {m m' : FuseMount} (hm : m.Inv) (hb : m'.books.Inv)
    (hfds : m'.books.fso.fds = m.books.fso.fds) (hopened : m'.books.opened = m.books.opened)
    (hclosed : m'.books.closed = m.books.closed)
    (hfiles : ∀ (i : ℕ) (hd : Handle), m'.handles[i]? = some hd → hd.file ∈ m.books.opened)
    (hdistinct : ∀ (i j : ℕ) (hi hj : Handle), m'.handles[i]? = some hi →
      m'.handles[j]? = some hj → hi.file = hj.file → i = j)
    (hlive : ∀ (i : ℕ) (hd : Handle), m'.handles[i]? = some hd → hd.closed = false →
      m.books.fso.fds.lookup hd.fh = some hd.file) : m'.Inv where
  books := hb
  fds_open := by rw [hfds, hopened, hclosed]; exact hm.fds_open
  closed_opened := by rw [hopened, hclosed]; exact hm.closed_opened
  closed_nodup := by rw [hclosed]; exact hm.closed_nodup
  files := by rw [hopened]; exact hfiles
  distinct := hdistinct
  live := by rw [hfds]; exact hlive

theorem FuseMount.Inv.init : FuseMount.init.Inv where
  books := Books.Inv.init
  fds_open k f h := by simp [FuseMount.init, Books.init, DockerFuseFSOps.new] at h
  closed_opened f h := by simp [FuseMount.init, Books.init] at h
  closed_nodup := List.nodup_nil
  files i hd h := by simp [FuseMount.init] at h
  distinct i j hi hj h := by simp [FuseMount.init] at h
  live i hd h := by simp [FuseMount.init] at h

/-- An index of a list with one more element. -/
theorem getElem?_append_singleton {α : Type} {l : List α} {x y : α} {i : ℕ}
    (h : (l ++ [x])[i]? = some y) : l[i]? = some y ∨ (i = l.length ∧ y = x) := by
  rcases Nat.lt_or_ge i l.length with hi | hi
  · exact .inl (by rwa [List.getElem?_append_left hi] at h)
  · rw [List.getElem?_append_right hi, List.getElem?_singleton] at h
    split at h
    · exact .inr ⟨by omega, (Option.some.inj h).symm⟩
    · cases h

/-- An index of a list in which one element was replaced: the new element, or one that
was there. -/
theorem getElem?_set_cases {α : Type} {l : List α} {h i : ℕ} {x y : α}
    (hget : (l.set h x)[i]? = some y) : (i = h ∧ y = x) ∨ (i ≠ h ∧ l[i]? = some y) := by
  rw [List.getElem?_set] at hget
  by_cases hih : h = i
  · subst hih
    rw [if_pos rfl] at hget
    split at hget
    · exact .inl ⟨rfl, (Option.some.inj hget).symm⟩
    · cases hget
  · rw [if_neg hih] at hget
    exact .inr ⟨Ne.symm hih, hget⟩

/-- Replacing a handle by one with the same file: every handle has the file of the
handle that was at its index. -/
theorem file_of_getElem?_set {hs : List Handle} {h : ℕ} {hd hd' : Handle}
    (hh : hs[h]? = some hd) (hfile : hd'.file = hd.file) {i : ℕ} {hi : Handle}
    (hget : (hs.set h hd')[i]? = some hi) : ∃ hi', hs[i]? = some hi' ∧ hi.file = hi'.file := by
  rcases getElem?_set_cases hget with ⟨rfl, rfl⟩ | ⟨-, hget⟩
  · exact ⟨hd, hh, hfile⟩
  · exact ⟨hi, hget, rfl⟩

/-- The handles' files stay opened, and distinct, when one handle is replaced by one
with the same file. -/
theorem FuseMount.Inv.files_set {m : FuseMount} (hm : m.Inv) {h : ℕ} {hd hd' : Handle}
    (hh : m.handles[h]? = some hd) (hfile : hd'.file = hd.file) :
    (∀ (i : ℕ) (hi : Handle), (m.handles.set h hd')[i]? = some hi → hi.file ∈ m.books.opened) ∧
    ∀ (i j : ℕ) (hi hj : Handle), (m.handles.set h hd')[i]? = some hi →
      (m.handles.set h hd')[j]? = some hj → hi.file = hj.file → i = j := by
  refine ⟨fun i hi hget => ?_, fun i j hi hj hgi hgj heq => ?_⟩
  · obtain ⟨hi', hget', heq⟩ := file_of_getElem?_set hh hfile hget
    rw [heq]
    exact hm.files i hi' hget'
  · obtain ⟨hi', hgi', hei⟩ := file_of_getElem?_set hh hfile hgi
    obtain ⟨hj', hgj', hej⟩ := file_of_getElem?_set hh hfile hgj
    exact hm.distinct i j hi' hj' hgi' hgj' (hei ▸ hej ▸ heq)

/-- An open keeps the invariant. -/
theorem FuseMount.Inv.step_open {m : FuseMount} (hm : m.Inv) {p : Platform}
    (hp : p ∈ clientPlatforms)
    (c : Container) {req : HandleRequest} (hreq : req.handle? = none)
    (hos : OsAlloc m.books c (req.rpc p 0)) : (m.step p c req).1.Inv := by
  have hstep : (m.step p c req).1 = ⟨m.books.step c (req.rpc p 0), m.opened p c req⟩ := by
    simp only [FuseMount.step, hreq]
  rw [hstep]
  obtain ⟨hclosed, hfds⟩ := serve_open_free hm.books hm.fds_open hreq hos
  have hclosed' : (m.books.step c (req.rpc p 0)).closed = m.books.closed := by
    simp [hclosed]
  rcases hfds with ⟨f, hsome, hfds⟩ | ⟨hnone, hfds⟩
  · -- `OpenFile` gave the new file `f`, under a free number
    have hfresh : (∀ g ∈ m.books.opened, g ∉ m.books.closed → g.fd ≠ f.fd) ∧
        f ∉ m.books.opened := by
      have := hos
      rw [OsAlloc, hsome] at this
      exact this
    have hopened : (m.books.step c (req.rpc p 0)).opened = m.books.opened ++ [f] := by
      simp [hsome]
    have hfds' : (m.books.step c (req.rpc p 0)).fso.fds = m.books.fso.fds.insert f.fd f := hfds
    have hnotclosed : f ∉ m.books.closed := fun h => hfresh.2 (hm.closed_opened f h)
    -- a live handle's number is not the new one
    have hne : ∀ (i : ℕ) (hd : Handle), m.handles[i]? = some hd → hd.closed = false →
        hd.fh ≠ f.fd := by
      intro i hd hi hcl heq
      have hlook := hm.live i hd hi hcl
      obtain ⟨ho, hc⟩ := hm.fds_open _ _ hlook
      exact hfresh.1 hd.file ho hc ((hm.books.fd_eq _ _ hlook).trans heq)
    have hhandles : ∀ (i : ℕ) (hd : Handle), (m.opened p c req)[i]? = some hd →
        m.handles[i]? = some hd ∨ (i = m.handles.length ∧ hd = ⟨f.fd, f, false, false⟩) := by
      intro i hd hi
      rcases opened_eq hp m c hreq with h | ⟨g, hg, h⟩
      · exact .inl (h ▸ hi)
      · rw [h] at hi
        rw [hsome, Option.some.injEq] at hg
        subst hg
        exact getElem?_append_singleton hi
    refine ⟨hm.books.step c _, fun k g hg => ?_, fun g hg => ?_, ?_, fun i hd hi => ?_,
      fun i j hi hj hii hjj heq => ?_, fun i hd hi hcl => ?_⟩
    · rw [hopened, hclosed']
      rw [hfds'] at hg
      by_cases hk : k = f.fd
      · rw [hk, AList.lookup_insert] at hg
        cases hg
        exact ⟨List.mem_append_right _ (List.mem_singleton_self _), hnotclosed⟩
      · rw [AList.lookup_insert_ne hk] at hg
        obtain ⟨ho, hc⟩ := hm.fds_open k g hg
        exact ⟨List.mem_append_left _ ho, hc⟩
    · rw [hclosed'] at hg
      rw [hopened]
      exact List.mem_append_left _ (hm.closed_opened g hg)
    · rw [hclosed']
      exact hm.closed_nodup
    · rw [hopened]
      rcases hhandles i hd hi with hi | ⟨-, rfl⟩
      · exact List.mem_append_left _ (hm.files i hd hi)
      · exact List.mem_append_right _ (List.mem_singleton_self _)
    · -- the new handle's file is new, the others' are not
      rcases hhandles i hi hii with hii | ⟨hi', rfl⟩ <;>
        rcases hhandles j hj hjj with hjj | ⟨hj', rfl⟩
      · exact hm.distinct i j hi hj hii hjj heq
      · have hold := hm.files i hi hii
        rw [heq] at hold
        exact absurd hold hfresh.2
      · have hold := hm.files j hj hjj
        rw [← heq] at hold
        exact absurd hold hfresh.2
      · rw [hi', hj']
    · rw [hfds']
      rcases hhandles i hd hi with hi | ⟨-, rfl⟩
      · rw [AList.lookup_insert_ne (hne i hd hi hcl)]
        exact hm.live i hd hi hcl
      · exact AList.lookup_insert _
  · -- `OpenFile` failed: only the handles may not change, and they do not
    have hopened : (m.books.step c (req.rpc p 0)).opened = m.books.opened := by
      simp [hnone]
    have hfds' : (m.books.step c (req.rpc p 0)).fso.fds = m.books.fso.fds := hfds
    have hsame : m.opened p c req = m.handles := by
      rcases opened_eq hp m c hreq with h | ⟨g, hg, -⟩
      · exact h
      · rw [hnone] at hg
        cases hg
    rw [hsame]
    exact hm.of_books_eq (hm.books.step c _) hfds' hopened hclosed' hm.files hm.distinct hm.live

/-- A request on a live handle keeps the invariant, and its calls work on the handle's
file. -/
theorem FuseMount.Inv.step_handle {m : FuseMount} (hm : m.Inv) (p : Platform) (c : Container)
    {req : HandleRequest} {h : ℕ} (hreq : req.handle? = some h) {hd : Handle}
    (hh : m.handles[h]? = some hd) (hcl : hd.closed = false) :
    (m.step p c req).1.Inv ∧ ∀ call ∈ (m.step p c req).2, call.file? = some hd.file := by
  have hstep : m.step p c req =
      (⟨m.books.step c (req.rpc p hd.fh), m.handles.set h (hd.after req)⟩,
        (m.books.fso.serve c (req.rpc p hd.fh)).calls) := by
    simp only [FuseMount.step, hreq, hh]
  rw [hstep]
  have hlook := hm.live h hd hh hcl
  obtain ⟨hon, hnone, hfds, hclosedBy⟩ := serve_handle p c hreq hlook
  refine ⟨?_, hon⟩
  have hopened : (m.books.step c (req.rpc p hd.fh)).opened = m.books.opened := by
    simp [hnone]
  -- the handles keep their files; only the closed one can change its flags
  obtain ⟨hfiles, hdistinct⟩ := hm.files_set hh (Handle.after_file hd req)
  cases hcloses : req.closes
  · -- a request that does not close: the table and the books stay
    have hfds' : (m.books.step c (req.rpc p hd.fh)).fso.fds = m.books.fso.fds := by
      simpa [hcloses] using hfds
    have hclosed' : (m.books.step c (req.rpc p hd.fh)).closed = m.books.closed := by
      simp [hclosedBy, hcloses]
    refine hm.of_books_eq (hm.books.step c _) hfds' hopened hclosed' hfiles hdistinct
      fun i hi hget hicl => ?_
    rcases getElem?_set_cases hget with ⟨rfl, rfl⟩ | ⟨-, hget⟩
    · rw [Handle.after_of_closes_false hcloses]
      exact hlook
    · exact hm.live i hi hget hicl
  · -- `Flush` or `Release`: the number goes, and the handle's file is closed
    have hfds' : (m.books.step c (req.rpc p hd.fh)).fso.fds = m.books.fso.fds.erase hd.fh := by
      simpa [hcloses] using hfds
    have hclosed' : (m.books.step c (req.rpc p hd.fh)).closed = m.books.closed ++ [hd.file] := by
      simp [hclosedBy, hcloses]
    obtain ⟨hopen, hnotclosed⟩ := hm.fds_open _ _ hlook
    refine ⟨hm.books.step c _, fun k g hg => ?_, fun g hg => ?_, ?_, by rw [hopened]; exact hfiles,
      hdistinct, fun i hi hget hicl => ?_⟩
    · rw [hfds'] at hg
      by_cases hk : k = hd.fh
      · rw [hk, AList.lookup_erase] at hg
        cases hg
      · rw [AList.lookup_erase_ne hk] at hg
        obtain ⟨ho, hc⟩ := hm.fds_open k g hg
        refine ⟨by rw [hopened]; exact ho, ?_⟩
        rw [hclosed', List.mem_append, List.mem_singleton, not_or]
        -- another number holds another file: each file is stored under its own number
        refine ⟨hc, fun hgf => hk ?_⟩
        rw [← hm.books.fd_eq k g hg, hgf, hm.books.fd_eq _ _ hlook]
    · rw [hclosed', List.mem_append, List.mem_singleton] at hg
      rw [hopened]
      rcases hg with hg | rfl
      · exact hm.closed_opened g hg
      · exact hopen
    · rw [hclosed']
      exact List.nodup_append.mpr ⟨hm.closed_nodup, List.nodup_singleton _,
        fun a ha b hb hab => hnotclosed (by rw [List.mem_singleton] at hb; rwa [hab, hb] at ha)⟩
    · rw [hfds']
      rcases getElem?_set_cases hget with ⟨rfl, rfl⟩ | ⟨hih, hget⟩
      · rw [Handle.after_closed_of_closes hcloses] at hicl
        cases hicl
      · -- two live handles with one number would share a file
        have hlive := hm.live i hi hget hicl
        have hne : hi.fh ≠ hd.fh := by
          intro hfh
          rw [hfh, hlook] at hlive
          exact hih (hm.distinct i h hi hd hget hh (Option.some.inj hlive).symm)
        rw [AList.lookup_erase_ne hne]
        exact hlive

/-- **The step lemma**: a request that comes before any `Close` on its handle keeps the
invariant, and its satellite calls work on the handle's file. -/
theorem FuseMount.Inv.step {m : FuseMount} (hm : m.Inv) {p : Platform} (hp : p ∈ clientPlatforms)
    (c : Container) (req : HandleRequest) (hos : OsAlloc m.books c (req.rpc p 0))
    (hbefore : BeforeClose m req = true) :
    (m.step p c req).1.Inv ∧ OnOwnFile m req (m.step p c req).2 := by
  cases hreq : req.handle? with
  | none =>
    refine ⟨hm.step_open hp c hreq hos, fun h hd hh => ?_⟩
    rw [hreq] at hh
    cases hh
  | some h =>
    cases hget : m.handles[h]? with
    | none =>
      simp only [BeforeClose, hreq, hget] at hbefore
      cases hbefore
    | some hd =>
      simp only [BeforeClose, hreq, hget, Bool.not_eq_true'] at hbefore
      obtain ⟨hinv, hon⟩ := hm.step_handle p c hreq hget hbefore
      refine ⟨hinv, fun h' hd' hh' hget' => ?_⟩
      rw [hreq, Option.some.injEq] at hh'
      subst hh'
      rw [hget, Option.some.injEq] at hget'
      subst hget'
      exact hon

/-- **Handles keep their files while each is closed once.** In every run from a mount
satisfying the invariant (from `FuseMount.init`, say) in which the container allocates
numbers as assumed, and no request on a handle follows the first `Close` sent for it,
every satellite call made for a request on a handle works on the file opened for that
handle, and no file is ever closed twice. -/
theorem handles_keep_files {p : Platform} (hp : p ∈ clientPlatforms) {m : FuseMount} (hm : m.Inv)
    (steps : List (Container × HandleRequest)) (hvalid : m.Valid p steps)
    (hsingle : m.SingleClose p steps) :
    m.OwnFiles p steps ∧ (m.run p steps).books.closed.Nodup := by
  induction steps generalizing m with
  | nil => exact ⟨trivial, hm.closed_nodup⟩
  | cons s steps ih =>
    obtain ⟨c, req⟩ := s
    obtain ⟨hos, -, hvalid'⟩ := hvalid
    obtain ⟨hbefore, hsingle'⟩ := hsingle
    obtain ⟨hinv, hown⟩ := hm.step hp c req hos hbefore
    obtain ⟨hown', hnodup⟩ := ih hinv hvalid' hsingle'
    exact ⟨⟨hown, hown'⟩, hnodup⟩

/-! ### The kernel's requests do not end the satellite -/

/-- Whether a request's offset is from 0 and its buffer no longer than `maxAlloc`, as
those of the kernel are: the buffer is a Go slice, which is never longer. -/
def HandleRequest.inRange : HandleRequest → Bool
  | .read _ dest off => decide (0 ≤ off) && decide ((dest.length : ℤ) ≤ maxAlloc)
  | .write _ _ off => decide (0 ≤ off)
  | _ => true

/-- What the `Node` method sends for a request in range is in range: a `Read` asks for
`len(dest)` bytes, which is no negative count. -/
theorem HandleRequest.inRange_rpc {req : HandleRequest} (h : req.inRange = true) (p : Platform)
    (fh : UInt64) : (req.rpc p fh).inRange = true := by
  cases req with
  | read hd dest off =>
    simp only [HandleRequest.inRange, Bool.and_eq_true, decide_eq_true_eq] at h
    have hlt : dest.length < 2 ^ 63 := by
      have := h.2
      rw [maxAlloc] at this
      omega
    have hmax : dest.length.toInt64.toInt ≤ maxAlloc := by
      rw [Nat.toInt64, Int64.toInt_ofNat_of_lt hlt]
      exact h.2
    simp only [HandleRequest.rpc, Request.inRange, Bool.and_eq_true, decide_eq_true_eq]
    exact ⟨⟨toInt64_nonneg_of_lt hlt, hmax⟩, h.1⟩
  | write hd data off =>
    simpa [HandleRequest.inRange, HandleRequest.rpc, Request.inRange] using h
  | «open» _ _ | create _ _ _ _ | lseek _ _ _ | fsync _ _ | flush _ | release _ => rfl

/-- At every step of the run, the satellite returns from what the mount sends it, for
whichever `FileHandle` the request's handle holds. -/
def FuseMount.SatelliteReturns (p : Platform) :
    FuseMount → List (Container × HandleRequest) → Prop
  | _, [] => True
  | m, (c, req) :: rest =>
    (∀ fh, (m.books.fso.serve c (req.rpc p fh)).response ≠ .panic) ∧
      (m.step p c req).1.SatelliteReturns p rest

/-- **The kernel cannot end the satellite.** Along every run of the mount whose
requests have their offsets from 0 and their buffers no longer than `maxAlloc`, each
answered by a container whose errors are those of `os`, the satellite returns from every
request the mount sends it. Only another peer of the satellite, with a negative offset
or a count out of `make`'s range, can make it panic. -/
theorem satellite_returns_of_inRange (p : Platform) {steps : List (Container × HandleRequest)}
    (h : ∀ step ∈ steps, OsErrors step.1 ∧ step.2.inRange = true) (m : FuseMount) :
    m.SatelliteReturns p steps := by
  induction steps generalizing m with
  | nil => trivial
  | cons step steps ih =>
    obtain ⟨c, req⟩ := step
    obtain ⟨hc, hr⟩ := h (c, req) List.mem_cons_self
    exact ⟨fun fh => serve_ne_panic_of_inRange hc m.books.fso (HandleRequest.inRange_rpc hr p fh),
      ih (fun s hs => h s (List.mem_cons_of_mem _ hs)) _⟩

theorem satellite_returns_of_inRange_openRead :
    (∀ step ∈ [(offsetContainer, HandleRequest.open ⟨"/data/f"⟩ 0),
        (offsetContainer, HandleRequest.read 0 [0, 0] 0)], OsErrors step.1 ∧ step.2.inRange = true) ∧
      FuseMount.init.SatelliteReturns linux
        [(offsetContainer, .open ⟨"/data/f"⟩ 0), (offsetContainer, .read 0 [0, 0] 0)] :=
  have h : ∀ step ∈ [(offsetContainer, HandleRequest.open ⟨"/data/f"⟩ 0),
      (offsetContainer, HandleRequest.read 0 [0, 0] 0)], OsErrors step.1 ∧ step.2.inRange = true := by
    intro step hs
    simp only [List.mem_cons, List.not_mem_nil, or_false] at hs
    rcases hs with rfl | rfl <;> exact ⟨osErrors_offsetContainer, by decide⟩
  ⟨h, satellite_returns_of_inRange linux h FuseMount.init⟩

/-! ### `FLUSH` then `RELEASE` -/

/-- The container of the run below: `OpenFile` gives descriptor 3, the lowest free one,
for the file numbered `id`; closing succeeds. -/
def reuseContainer (id : ℕ) : Container :=
  { Container.failing (errnoOf ErrnoName.ENOENT) with
    openFile := fun _ _ _ => .ok ⟨id, 3, false⟩
    stat := fun _ => .ok ⟨0x81A4, 1, 12, 0, 0, 0, 0, 0, 0, 0, 4096⟩
    close := fun _ => none }

/-- Handle 0 opens `/a`, the kernel flushes it (a `close(2)`), handle 1 opens `/b`, and
the kernel releases handle 0. -/
def reuseRun : List (Container × HandleRequest) :=
  [(reuseContainer 0, .open ⟨"/a"⟩ 0), (reuseContainer 0, .flush 0),
    (reuseContainer 1, .open ⟨"/b"⟩ 0)]

theorem release_closes_reused_fd :
    FuseMount.init.Valid linux (reuseRun ++ [(reuseContainer 1, .release 0)]) ∧
      (FuseMount.init.run linux reuseRun).handles =
        [⟨3, ⟨0, 3, false⟩, true, false⟩, ⟨3, ⟨1, 3, false⟩, false, false⟩] ∧
      ((FuseMount.init.run linux reuseRun).step linux (reuseContainer 1) (.release 0)).2 =
        [.close ⟨1, 3, false⟩] := by
  decide

/-- Handle 0 opens `/a`, is read, and released: one `Close` for it. -/
def readOnceRun : List (Container × HandleRequest) :=
  [(reuseContainer 0, .open ⟨"/a"⟩ 0), (reuseContainer 0, .read 0 [0, 0] 0),
    (reuseContainer 0, .release 0)]

theorem handles_keep_files_readOnce :
    linux ∈ clientPlatforms ∧ FuseMount.init.Inv ∧ FuseMount.init.Valid linux readOnceRun ∧
      FuseMount.init.SingleClose linux readOnceRun ∧
      (FuseMount.init.OwnFiles linux readOnceRun ∧
        (FuseMount.init.run linux readOnceRun).books.closed.Nodup) :=
  ⟨by simp [clientPlatforms], FuseMount.Inv.init, by decide, by decide,
    handles_keep_files (by simp [clientPlatforms]) FuseMount.Inv.init readOnceRun (by decide)
      (by decide)⟩

end DockerFuse.Mount
