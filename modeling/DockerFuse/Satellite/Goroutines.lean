import DockerFuse.Interleaving
import DockerFuse.Satellite.Lifecycle
import DockerFuse.Satellite.Panics

/-!
# The table's handlers as goroutines

net/rpc's `ServeConn` runs every call in a goroutine of its own, and the methods that
work on the table (`Open`, `Close`, `Read`, `Write`, `Seek`, `Fsync`) share
`fso.fds` with no lock. This module runs them as goroutines
(`Interleaving.Threads`): each access to the table and each method called on a file
is one atomic step, in the order the source makes them. A goroutine carries its
request, with every field the handler reads, and the container's answers to its calls
(`DockerFuse.Satellite.Goroutine`); the goroutines share the books of the table and of
the files, and whether one of them has panicked, which ends the process.

What a goroutine calls on a file it looked up depends on the other goroutines: once a
`Close` has closed the file, `os` answers its methods itself, without a system call
(`DockerFuse.Satellite.Container.closing`). It refuses each with a `PathError` around
`os.ErrClosed`, on which the encoder panics, except for what the method checks before
any call: `ReadAt` into an empty buffer and `WriteAt` of nothing return `(0, nil)`,
`WriteAt` refuses a file opened with `O_APPEND`, and a negative offset is refused as
on an open file (`DockerFuse.Satellite.FileRequest.isPanic_response_closing`).

A goroutine that runs alone does what the handler does in
`DockerFuse.Satellite.Books.step`, and panics exactly when the handler does
(`DockerFuse.Satellite.Goroutine.alone_eq_step`): the model of the rest of this
development is the case of calls that never overlap. What holds across every
interleaving, and the interleavings that go wrong, are in
`DockerFuse.Satellite.Concurrency`. Each access to the map is taken to be atomic here;
`DockerFuse.Satellite.MapChecks` splits it into the steps Go's runtime makes, with its
checks.
-/

namespace DockerFuse.Satellite

open Syscall Rpccommon Lifecycle Interleaving

/-! ### A method's ending -/

/-- Whether a method ends in a panic. -/
def Response.isPanic {α : Type} : Response α → Bool
  | .panic => true
  | .ok _ | .err _ => false

theorem Response.isPanic_eq_true {α : Type} {r : Response α} : r.isPanic = true ↔ r = .panic := by
  cases r <;> simp [isPanic]

theorem Response.isPanic_eq_false {α : Type} {r : Response α} (h : r ≠ .panic) :
    r.isPanic = false := by
  cases r <;> simp_all [isPanic]

@[simp] theorem Response.isPanic_map {α β : Type} (f : α → β) (r : Response α) :
    (r.map f).isPanic = r.isPanic := by
  cases r <;> rfl

/-- Returning an error panics when the encoder does. -/
theorem Response.isPanic_ofError {α : Type} (err : GoError) :
    (Response.ofError err : Response α).isPanic = (errnoToRPCErrorString err).isNone := by
  unfold Response.ofError
  cases errnoToRPCErrorString err <;> rfl

@[simp] theorem Response.map_ofError {α β : Type} (f : α → β) (err : GoError) :
    (Response.ofError err : Response α).map f = .ofError err := by
  unfold Response.ofError
  cases errnoToRPCErrorString err <;> rfl

/-! ### Files closed under a goroutine -/

/-- What a method of an `*os.File` returns once the file is closed: a `PathError` for
the method's operation, wrapping `os.ErrClosed`. Its path, the name the file was
opened with, is not kept by `File`; the encoder does not read it. -/
def closedError (op : String) : GoError :=
  .pathError op "" errClosed

/-- The encoder's type assertion panics on it. -/
@[simp] theorem errnoToRPCErrorString_closedError (op : String) :
    errnoToRPCErrorString (closedError op) = none :=
  rfl

/-- The container as a goroutine meets it once the files for which `closed` holds are
closed: `os` answers their methods itself. The descriptor's `poll.FD` refuses every
system call with `ErrFileClosing`, which the method wraps as `closedError`; what
`ReadAt` and `WriteAt` check first they still check, and a `ReadAt` into an empty
buffer or a `WriteAt` of nothing makes no call and returns `(0, nil)`. -/
def Container.closing (c : Container) (closed : File → Bool) : Container :=
  { c with
    close := fun f => if closed f then some (closedError "close") else c.close f
    readAt := fun f n off =>
      if closed f then
        if off < 0 then ([], some (.pathError "readat" "" errNegativeOffset))
        else if n = 0 then ([], none) else ([], some (closedError "read"))
      else c.readAt f n off
    seek := fun f offset whence =>
      if closed f then .error (closedError "seek") else c.seek f offset whence
    stat := fun f => if closed f then .error (closedError "stat") else c.stat f
    sync := fun f => if closed f then some (closedError "sync") else c.sync f
    writeAt := fun f data off =>
      if closed f then
        if f.appendMode then .error errWriteAtInAppendMode
        else if off < 0 then .error (.pathError "writeat" "" errNegativeOffset)
        else if data = [] then .ok 0
        else .error (closedError "write")
      else c.writeAt f data off }

/-- A request on a descriptor that calls a method of its file. -/
inductive FileRequest
  | read (request : ReadRequest)
  | write (request : WriteRequest)
  | seek (request : SeekRequest)
  | fsync (request : FsyncRequest)
  deriving DecidableEq, Repr

/-- The descriptor number of the request. -/
def FileRequest.fd : FileRequest → UInt64
  | .read r => r.fd
  | .write r => r.fd
  | .seek r => r.fd
  | .fsync r => r.fd

/-- The request as net/rpc delivers it. -/
def FileRequest.toRequest : FileRequest → Request
  | .read r => .read r
  | .write r => .write r
  | .seek r => .seek r
  | .fsync r => .fsync r

/-- How `Read`, `Write`, `Seek` or `Fsync` ends once it has its file. -/
def FileRequest.response (c : Container) : FileRequest → File → Response Reply
  | .read r, f => (DockerFuseFSOps.readOn c r f).2.map .read
  | .write r, f => (DockerFuseFSOps.writeOn c r f).2.map .write
  | .seek r, f => (DockerFuseFSOps.seekOn c r f).2.map .seek
  | .fsync _, f => (DockerFuseFSOps.fsyncOn c f).2.map fun _ => .empty

/-- How the method ends on a nil `*os.File`: `Read` still makes its buffer, and every
method of `os` returns `os.ErrInvalid` for a nil receiver. -/
def FileRequest.nilResponse : FileRequest → Response Reply
  | .read r => if r.num < 0 ∨ maxAlloc < r.num.toInt then .panic else .ofError errInvalid
  | .write _ | .seek _ | .fsync _ => .ofError errInvalid

/-- Whether the method panics on a closed file: `Seek` and `Fsync` always, `Read`
unless it asks for no bytes from an offset at or above 0, `Write` unless the file was
opened with `O_APPEND` or it writes nothing from such an offset. -/
def FileRequest.panicsOnClosed : FileRequest → File → Bool
  | .read r, _ => !(r.num == 0 && decide (0 ≤ r.offset))
  | .write r, f => !f.appendMode && (decide (r.offset < 0) || !r.data.isEmpty)
  | .seek _, _ => true
  | .fsync _, _ => true

/-- The method a request calls, once it has its file: the part of `Read`, `Write`,
`Seek` or `Fsync` after the look-up. -/
theorem FileRequest.serve_response (fso : DockerFuseFSOps) (c : Container) (q : FileRequest) :
    (fso.serve c q.toRequest).response =
      (fso.fds.lookup q.fd).elim (.ofError (errnoOf .EINVAL)) (q.response c) := by
  cases q <;>
  · simp only [toRequest, fd, DockerFuseFSOps.serve, Outcome.keep, DockerFuseFSOps.read,
      DockerFuseFSOps.write, DockerFuseFSOps.seek, DockerFuseFSOps.fsync,
      DockerFuseFSOps.withFile]
    cases fso.fds.lookup _ <;> simp [response]

section Closing

variable (c : Container) {closed : File → Bool} {f : File}

/-- On a file that is not closed, the container answers as it does. -/
theorem FileRequest.response_closing_of_open (hf : closed f = false) (q : FileRequest) :
    q.response (c.closing closed) f = q.response c f := by
  cases q <;>
  simp [response, DockerFuseFSOps.readOn, DockerFuseFSOps.writeOn, DockerFuseFSOps.seekOn,
    DockerFuseFSOps.fsyncOn, guardCall, FailFast.guard, Container.answer, Container.closing, hf]

theorem closeOn_closing_of_open (hf : closed f = false) :
    DockerFuseFSOps.closeOn (c.closing closed) f = DockerFuseFSOps.closeOn c f := by
  simp [DockerFuseFSOps.closeOn, Container.closing, hf]

/-- `Close()` of a closed file fails with an error the encoder cannot take. -/
theorem closeOn_closing_of_closed (hf : closed f = true) :
    DockerFuseFSOps.closeOn (c.closing closed) f = .panic := by
  simp [DockerFuseFSOps.closeOn, Container.closing, hf, Response.ofError]

/-- **A method on a closed file** panics exactly as `panicsOnClosed` says. -/
theorem FileRequest.isPanic_response_closing (hf : closed f = true) (q : FileRequest) :
    (q.response (c.closing closed) f).isPanic = q.panicsOnClosed f := by
  cases q with
  | read r =>
    simp only [response, Response.isPanic_map, DockerFuseFSOps.readOn, Container.closing, hf,
      if_true, panicsOnClosed]
    by_cases hsize : r.num < 0 ∨ maxAlloc < r.num.toInt
    · -- `make` panics on the count, which is not 0
      have hne : r.num ≠ 0 := fun h => by
        rw [h] at hsize
        revert hsize
        decide
      simp [hsize, hne, Response.isPanic]
    · rw [if_neg hsize]
      have hnum : 0 ≤ r.num := Int64.not_lt.mp (not_or.mp hsize).1
      by_cases hoff : r.offset < 0
      · simp [hoff, Int64.not_le.mpr hoff, Response.isPanic_ofError, errnoToRPCErrorString,
          errNegativeOffset]
      · -- from an offset at or above 0, only an empty buffer makes no call
        by_cases hzero : r.num = 0
        · simp [hoff, hzero, Int64.not_lt.mp hoff, Response.isPanic]
        · have hn : r.num.toNatClampNeg ≠ 0 := fun h =>
            hzero (Int64.le_antisymm (Int64.toNatClampNeg_eq_zero_iff.mp h) hnum)
          have hzero' : (r.num == 0) = false := by simpa using hzero
          simp [hoff, hn, hzero', Response.isPanic_ofError, errnoToRPCErrorString, closedError,
            errClosed]
  | write r =>
    simp only [response, Response.isPanic_map, DockerFuseFSOps.writeOn, Container.closing, hf,
      if_true, panicsOnClosed]
    cases happ : f.appendMode with
    | true => simp [Response.isPanic_ofError, errWriteAtInAppendMode, errnoToRPCErrorString]
    | false =>
      by_cases hoff : r.offset < 0
      · simp [hoff, Response.isPanic_ofError, errnoToRPCErrorString, errNegativeOffset]
      · by_cases hdata : r.data = []
        · simp [hoff, hdata, Response.isPanic]
        · simp [hoff, hdata, Response.isPanic_ofError]
  | seek r => simp [response, DockerFuseFSOps.seekOn, Container.closing, hf, panicsOnClosed,
      Response.isPanic_ofError]
  | fsync r => simp [response, DockerFuseFSOps.fsyncOn, guardCall, FailFast.guard,
      Container.answer, Container.closing, hf, panicsOnClosed, Response.isPanic_ofError]

end Closing

/-! ### Goroutines -/

/-- A handler that works on the table, as a goroutine of its own, with its request. -/
inductive Handler
  | open (request : OpenRequest)
  | close (request : CloseRequest)
  /-- `Read`, `Write`, `Seek` or `Fsync`. -/
  | use (request : FileRequest)
  deriving DecidableEq, Repr

/-- The goroutine a request starts on the table. A request on paths works on no state
the goroutines share; `CloseAllFDs` runs in the signal handler, right before the
process exits. -/
def Handler.of : Request → Option Handler
  | .open r => some (.open r)
  | .close r => some (.close r)
  | .read r => some (.use (.read r))
  | .write r => some (.use (.write r))
  | .seek r => some (.use (.seek r))
  | .fsync r => some (.use (.fsync r))
  | _ => none

/-- The request a handler serves. -/
def Handler.toRequest : Handler → Request
  | .open r => .open r
  | .close r => .close r
  | .use q => q.toRequest

theorem Handler.toRequest_of {req : Request} {h : Handler} (hh : Handler.of req = some h) :
    h.toRequest = req := by
  cases req <;> simp only [Handler.of, Option.some_inj, reduceCtorEq] at hh <;> subst hh <;> rfl

/-- A goroutine: the container's answers to its calls, its handler, how far it has got,
the file in its local variable (the one `OpenFile` gave, or the one it looked up; at a
method, `none` is a nil `*os.File`), and, for `Open`, the file it found under the new
number. -/
structure Goroutine where
  container : Container
  handler : Handler
  pc : ℕ
  held : Option File
  stale : Option File

/-- The goroutine net/rpc starts for a call, answered by its container. -/
def Goroutine.start (call : Container × Handler) : Goroutine :=
  ⟨call.1, call.2, 0, none, none⟩

/-- What the goroutines share: the books of the table and of the files, and whether
one of them panicked, which ends the process. -/
structure Shared where
  books : Books
  crashed : Bool

namespace Shared

/-- `OpenFile` gives the file `f`. -/
def acquire (s : Shared) (f : File) : Shared :=
  ⟨{ s.books with opened := s.books.opened ++ [f] }, s.crashed⟩

/-- `f.Close()`: the first `Close` of a file closes it, a later one only fails. -/
def closeFile (s : Shared) (f : File) : Shared :=
  if f ∈ s.books.closed then s else ⟨{ s.books with closed := s.books.closed ++ [f] }, s.crashed⟩

/-- A method's ending: the process ends if it panicked. -/
def crash (s : Shared) (b : Bool) : Shared :=
  ⟨s.books, s.crashed || b⟩

/-- `fso.fds[f.Fd()] = f`. -/
def store (s : Shared) (f : File) : Shared :=
  ⟨{ s.books with fso := ⟨s.books.fso.fds.insert f.fd f⟩ }, s.crashed⟩

/-- `delete(fso.fds, k)`. -/
def erase (s : Shared) (k : UInt64) : Shared :=
  ⟨{ s.books with fso := ⟨s.books.fso.fds.erase k⟩ }, s.crashed⟩

/-- The container with answers `c` as a goroutine meets it: `os` answers for the files
closed so far. -/
def container (s : Shared) (c : Container) : Container :=
  c.closing fun f => decide (f ∈ s.books.closed)

end Shared

/-- The end of `Open` once its file is stored: `fd.Stat()`, whose error is returned. -/
def DockerFuseFSOps.openStat (c : Container) (fd : File) : Response Unit :=
  match c.stat fd with
  | .error err => .ofError err
  | .ok _ => .ok ()

/-- One atomic step of a goroutine, in the order of the source: for `Open`, `OpenFile`,
the read of the new number, the stale file's `Close()`, the write of the number, and
`fd.Stat()`; for `Close`, the read of the number, `fd.Close()` and the deferred
`delete`; for the others, the read of the number and the method on the file. A
method's ending sets the crash flag when it is a panic. -/
def Goroutine.step (g : Goroutine) (s : Shared) : Goroutine × Shared :=
  match g.handler with
  | .open r =>
    match g.pc, g.held with
    | 0, _ =>
      match g.container.openFile r.fullPath (saFlagsToSystem linux r.saFlags) r.mode with
      | .error err =>
        ({ g with pc := 5 }, s.crash (Response.ofError err : Response OpenReply).isPanic)
      | .ok f => ({ g with pc := 1, held := some f }, s.acquire f)
    | 1, some f => ({ g with pc := 2, stale := s.books.fso.fds.lookup f.fd }, s)
    -- the stale file's `Close()`, whose error `Open` ignores
    | 2, _ => ({ g with pc := 3 }, g.stale.elim s s.closeFile)
    | 3, some f => ({ g with pc := 4 }, s.store f)
    | 4, some f =>
      ({ g with pc := 5 }, s.crash (DockerFuseFSOps.openStat (s.container g.container) f).isPanic)
    | _, _ => (g, s)
  | .close r =>
    match g.pc, g.held with
    | 0, _ =>
      ({ g with
          pc := if (s.books.fso.fds.lookup r.fd).isSome then 1 else 3
          held := s.books.fso.fds.lookup r.fd }, s)
    | 1, some f =>
      ({ g with pc := 2 },
        (s.crash (DockerFuseFSOps.closeOn (s.container g.container) f).isPanic).closeFile f)
    -- a nil file's `Close()` returns `os.ErrInvalid`, which the encoder takes
    | 1, none => ({ g with pc := 2 }, s)
    | 2, _ => ({ g with pc := 3 }, s.erase r.fd)
    | _, _ => (g, s)
  | .use q =>
    match g.pc, g.held with
    | 0, _ =>
      ({ g with
          pc := if (s.books.fso.fds.lookup q.fd).isSome then 1 else 2
          held := s.books.fso.fds.lookup q.fd }, s)
    | 1, some f => ({ g with pc := 2 }, s.crash (q.response (s.container g.container) f).isPanic)
    | 1, none => ({ g with pc := 2 }, s.crash q.nilResponse.isPanic)
    | _, _ => (g, s)

/-- The table's goroutines, interleaved. -/
def satellite : Threads Shared Goroutine :=
  ⟨Goroutine.step⟩

@[simp] theorem satellite_step (g : Goroutine) (s : Shared) : satellite.step g s = g.step s :=
  rfl

/-! ### One step at a time -/

section Steps

variable (s : Shared) (c : Container) (held stale : Option File) (f : File) (r : OpenRequest)
  (r' : CloseRequest) (q : FileRequest)

theorem step_open_error {err : GoError}
    (h : c.openFile r.fullPath (saFlagsToSystem linux r.saFlags) r.mode = .error err) :
    (⟨c, .open r, 0, held, stale⟩ : Goroutine).step s =
      (⟨c, .open r, 5, held, stale⟩,
        s.crash (Response.ofError err : Response OpenReply).isPanic) := by
  simp [Goroutine.step, h]

theorem step_open_acquire (h : openedBy c (.open r) = some f) :
    (⟨c, .open r, 0, held, stale⟩ : Goroutine).step s =
      (⟨c, .open r, 1, some f, stale⟩, s.acquire f) := by
  have hf : c.openFile r.fullPath (saFlagsToSystem linux r.saFlags) r.mode = .ok f := by
    exact openedBy_open_eq_some.mp h
  simp [Goroutine.step, hf]

@[simp] theorem step_open_lookup :
    (⟨c, .open r, 1, some f, stale⟩ : Goroutine).step s =
      (⟨c, .open r, 2, some f, s.books.fso.fds.lookup f.fd⟩, s) :=
  rfl

@[simp] theorem step_open_closeStale :
    (⟨c, .open r, 2, held, stale⟩ : Goroutine).step s =
      (⟨c, .open r, 3, held, stale⟩, stale.elim s s.closeFile) :=
  rfl

@[simp] theorem step_open_store :
    (⟨c, .open r, 3, some f, stale⟩ : Goroutine).step s =
      (⟨c, .open r, 4, some f, stale⟩, s.store f) :=
  rfl

@[simp] theorem step_open_stat :
    (⟨c, .open r, 4, some f, stale⟩ : Goroutine).step s =
      (⟨c, .open r, 5, some f, stale⟩,
        s.crash (DockerFuseFSOps.openStat (s.container c) f).isPanic) :=
  rfl

@[simp] theorem step_close_lookup :
    (⟨c, .close r', 0, held, stale⟩ : Goroutine).step s =
      (⟨c, .close r', if (s.books.fso.fds.lookup r'.fd).isSome then 1 else 3,
        s.books.fso.fds.lookup r'.fd, stale⟩, s) :=
  rfl

@[simp] theorem step_close_close :
    (⟨c, .close r', 1, some f, stale⟩ : Goroutine).step s =
      (⟨c, .close r', 2, some f, stale⟩,
        (s.crash (DockerFuseFSOps.closeOn (s.container c) f).isPanic).closeFile f) :=
  rfl

@[simp] theorem step_close_nil :
    (⟨c, .close r', 1, none, stale⟩ : Goroutine).step s = (⟨c, .close r', 2, none, stale⟩, s) :=
  rfl

@[simp] theorem step_close_erase :
    (⟨c, .close r', 2, held, stale⟩ : Goroutine).step s =
      (⟨c, .close r', 3, held, stale⟩, s.erase r'.fd) :=
  rfl

@[simp] theorem step_use_lookup :
    (⟨c, .use q, 0, held, stale⟩ : Goroutine).step s =
      (⟨c, .use q, if (s.books.fso.fds.lookup q.fd).isSome then 1 else 2,
        s.books.fso.fds.lookup q.fd, stale⟩, s) :=
  rfl

@[simp] theorem step_use_method :
    (⟨c, .use q, 1, some f, stale⟩ : Goroutine).step s =
      (⟨c, .use q, 2, some f, stale⟩, s.crash (q.response (s.container c) f).isPanic) :=
  rfl

@[simp] theorem step_use_nil :
    (⟨c, .use q, 1, none, stale⟩ : Goroutine).step s =
      (⟨c, .use q, 2, none, stale⟩, s.crash q.nilResponse.isPanic) :=
  rfl

/-- A goroutine that is done takes no more steps. -/
@[simp] theorem step_open_done :
    (⟨c, .open r, 5, held, stale⟩ : Goroutine).step s = (⟨c, .open r, 5, held, stale⟩, s) := by
  cases held <;> rfl

@[simp] theorem step_close_done :
    (⟨c, .close r', 3, held, stale⟩ : Goroutine).step s = (⟨c, .close r', 3, held, stale⟩, s) := by
  cases held <;> rfl

@[simp] theorem step_use_done :
    (⟨c, .use q, 2, held, stale⟩ : Goroutine).step s = (⟨c, .use q, 2, held, stale⟩, s) := by
  cases held <;> rfl

/-- A goroutine runs its own handler to the end, with its own container. -/
theorem Goroutine.step_handler (g : Goroutine) : (g.step s).1.handler = g.handler := by
  unfold Goroutine.step
  split <;> split <;> (try split) <;> rfl

theorem Goroutine.step_container (g : Goroutine) : (g.step s).1.container = g.container := by
  unfold Goroutine.step
  split <;> split <;> (try split) <;> rfl

/-- A goroutine never goes back. -/
theorem Goroutine.pc_le_step (g : Goroutine) : g.pc ≤ (g.step s).1.pc := by
  unfold Goroutine.step
  -- by handler, then by the goroutine's place in it
  split <;> split <;> (try split) <;> simp_all

end Steps

/-! ### The shared state -/

namespace Shared

variable (s : Shared) (f : File)

@[simp] theorem acquire_books_fso : (s.acquire f).books.fso = s.books.fso := rfl
@[simp] theorem acquire_books_opened : (s.acquire f).books.opened = s.books.opened ++ [f] := rfl
@[simp] theorem acquire_books_closed : (s.acquire f).books.closed = s.books.closed := rfl
@[simp] theorem acquire_crashed : (s.acquire f).crashed = s.crashed := rfl
@[simp] theorem store_books_fso : (s.store f).books.fso = ⟨s.books.fso.fds.insert f.fd f⟩ := rfl
@[simp] theorem store_books_opened : (s.store f).books.opened = s.books.opened := rfl
@[simp] theorem store_books_closed : (s.store f).books.closed = s.books.closed := rfl
@[simp] theorem store_crashed : (s.store f).crashed = s.crashed := rfl
@[simp] theorem crash_books (b : Bool) : (s.crash b).books = s.books := rfl
@[simp] theorem crash_crashed (b : Bool) : (s.crash b).crashed = (s.crashed || b) := rfl

@[simp] theorem crash_false : s.crash false = s := by
  simp [crash]

/-- The stored file is under its own number, and every other number holds what it held. -/
theorem lookup_store_self : (s.store f).books.fso.fds.lookup f.fd = some f :=
  AList.lookup_insert _

theorem lookup_store_ne {k : UInt64} (hk : k ≠ f.fd) :
    (s.store f).books.fso.fds.lookup k = s.books.fso.fds.lookup k :=
  AList.lookup_insert_ne hk

/-- What a number holds after `f` is stored: `f` under its own number, or what it held. -/
theorem lookup_store_eq_some {k : UInt64} {x : File}
    (h : (s.store f).books.fso.fds.lookup k = some x) :
    (k = f.fd ∧ x = f) ∨ (k ≠ f.fd ∧ s.books.fso.fds.lookup k = some x) := by
  by_cases hkf : k = f.fd
  · rw [hkf, lookup_store_self, Option.some_inj] at h
    exact .inl ⟨hkf, h.symm⟩
  · rw [lookup_store_ne s f hkf] at h
    exact .inr ⟨hkf, h⟩

@[simp] theorem erase_crashed (k : UInt64) : (s.erase k).crashed = s.crashed := rfl
@[simp] theorem erase_books_history (k : UInt64) : (s.erase k).books.history = s.books.history :=
  rfl
@[simp] theorem erase_books_opened (k : UInt64) : (s.erase k).books.opened = s.books.opened := rfl
@[simp] theorem erase_books_closed (k : UInt64) : (s.erase k).books.closed = s.books.closed := rfl

/-- The deleted number is empty, and every other one holds what it held. -/
theorem lookup_erase_self (k : UInt64) : (s.erase k).books.fso.fds.lookup k = none :=
  AList.lookup_erase _ _

theorem lookup_erase_ne {k k' : UInt64} (hk : k' ≠ k) :
    (s.erase k).books.fso.fds.lookup k' = s.books.fso.fds.lookup k' :=
  AList.lookup_erase_ne hk

/-- What a number holds after a `delete`: what it held, if it is another number. -/
theorem lookup_erase_eq_some {k k' : UInt64} {x : File}
    (h : (s.erase k).books.fso.fds.lookup k' = some x) :
    k' ≠ k ∧ s.books.fso.fds.lookup k' = some x := by
  by_cases hk : k' = k
  · rw [hk, lookup_erase_self] at h
    cases h
  · rw [lookup_erase_ne s hk] at h
    exact ⟨hk, h⟩

/-- `OpenFile` adds its file to the history. -/
theorem history_acquire : (s.acquire f).books.history = s.books.history.record (.acquire f) := rfl
@[simp] theorem history_store : (s.store f).books.history = s.books.history := rfl

theorem closeFile_of_not_mem {s : Shared} {f : File} (h : f ∉ s.books.closed) :
    s.closeFile f = ⟨{ s.books with closed := s.books.closed ++ [f] }, s.crashed⟩ :=
  if_neg h

theorem closeFile_of_mem {s : Shared} {f : File} (h : f ∈ s.books.closed) : s.closeFile f = s :=
  if_pos h

/-- `Close()` never ends the process; the encoder may, on its error. -/
@[simp] theorem closeFile_crashed : (s.closeFile f).crashed = s.crashed := by
  unfold closeFile
  split <;> rfl

@[simp] theorem closeFile_books_fso : (s.closeFile f).books.fso = s.books.fso := by
  unfold closeFile
  split <;> rfl

@[simp] theorem closeFile_books_opened : (s.closeFile f).books.opened = s.books.opened := by
  unfold closeFile
  split <;> rfl

theorem closeFile_books_closed {s : Shared} {f : File} (h : f ∉ s.books.closed) :
    (s.closeFile f).books.closed = s.books.closed ++ [f] := by
  rw [closeFile_of_not_mem h]

/-- The first `Close()` of a file adds its closing to the history. -/
theorem history_closeFile {s : Shared} {f : File} (h : f ∉ s.books.closed) :
    (s.closeFile f).books.history = s.books.history.record (.release f) := by
  rw [closeFile_of_not_mem h]
  rfl

/-- A file is closed once it has been closed. -/
theorem mem_closeFile_closed : f ∈ (s.closeFile f).books.closed := by
  unfold closeFile
  split
  · assumption
  · exact List.mem_append_right _ (List.mem_singleton_self f)

end Shared

/-! ### The container a goroutine meets -/

section Container

variable {s : Shared} {f : File} (c : Container)

theorem Shared.response_container_of_not_mem (hf : f ∉ s.books.closed) (q : FileRequest) :
    q.response (s.container c) f = q.response c f :=
  FileRequest.response_closing_of_open c (decide_eq_false hf) q

theorem Shared.closeOn_container_of_not_mem (hf : f ∉ s.books.closed) :
    DockerFuseFSOps.closeOn (s.container c) f = DockerFuseFSOps.closeOn c f :=
  closeOn_closing_of_open c (decide_eq_false hf)

theorem Shared.openStat_container_of_not_mem (hf : f ∉ s.books.closed) :
    DockerFuseFSOps.openStat (s.container c) f = DockerFuseFSOps.openStat c f := by
  simp [Shared.container, DockerFuseFSOps.openStat, Container.closing, hf]

theorem Shared.closeOn_container_of_mem (hf : f ∈ s.books.closed) :
    DockerFuseFSOps.closeOn (s.container c) f = .panic :=
  closeOn_closing_of_closed c (decide_eq_true hf)

theorem Shared.isPanic_response_container_of_mem (hf : f ∈ s.books.closed) (q : FileRequest) :
    (q.response (s.container c) f).isPanic = q.panicsOnClosed f :=
  FileRequest.isPanic_response_closing c (decide_eq_true hf) q

end Container

/-- Books that agree on the table and on the two lists of files are equal. -/
theorem Books.ext_of {b b' : Books} (hfds : b.fso.fds = b'.fso.fds) (hopened : b.opened = b'.opened)
    (hclosed : b.closed = b'.closed) : b = b' := by
  obtain ⟨⟨fds⟩, opened, closed⟩ := b
  obtain ⟨⟨fds'⟩, opened', closed'⟩ := b'
  simp only at hfds hopened hclosed
  subst hfds hopened hclosed
  rfl

/-! ### A goroutine alone -/

/-- Deleting a number the table does not hold leaves it as it is. -/
theorem erase_of_lookup_eq_none {fds : AList fun _ : UInt64 => File} {k : UInt64}
    (h : fds.lookup k = none) : fds.erase k = fds :=
  AList.ext (List.kerase_of_notMem_keys (AList.lookup_eq_none.mp h))

/-- `Open` whose `OpenFile` failed returns the error, and changes nothing else. -/
theorem alone_open_error (b : Books) {c : Container} {r : OpenRequest} {err : GoError}
    (h : c.openFile r.fullPath (saFlagsToSystem linux r.saFlags) r.mode = .error err) :
    (satellite.stepN (Goroutine.start (c, .open r)) ⟨b, false⟩ 5).2 =
      ⟨b, (Response.ofError err : Response OpenReply).isPanic⟩ := by
  simp only [Threads.stepN, satellite, Goroutine.start, step_open_error _ _ _ _ _ h,
    step_open_done]
  rfl

section Alone

variable {b : Books} (hb : b.Safe)
include hb

/-- `Read`, `Write`, `Seek` or `Fsync` alone: the file it finds is open, and nothing
changes but the crash flag, set as the handler panics. -/
theorem alone_use (c : Container) (q : FileRequest) :
    (satellite.stepN (Goroutine.start (c, .use q)) ⟨b, false⟩ 5).2 =
      ⟨b, (b.fso.serve c q.toRequest).response.isPanic⟩ := by
  simp only [Threads.stepN, satellite, Goroutine.start, step_use_lookup,
    FileRequest.serve_response]
  cases hk : b.fso.fds.lookup q.fd with
  | none => simp [Response.isPanic_ofError, errnoOf, errnoToRPCErrorString]
  | some f =>
    have hopen : f ∉ b.closed := (hb.fds_live q.fd f hk).2
    simp [Shared.response_container_of_not_mem (s := ⟨b, false⟩) c hopen, Shared.crash]

/-- `Close` alone: the file under the number, if there is one, is closed and the number
deleted. -/
theorem alone_close (c : Container) (r : CloseRequest) :
    (satellite.stepN (Goroutine.start (c, .close r)) ⟨b, false⟩ 5).2 =
      ⟨⟨⟨b.fso.fds.erase r.fd⟩, b.opened, b.closed ++ (b.fso.fds.lookup r.fd).toList⟩,
        (b.fso.close c r).response.isPanic⟩ := by
  simp only [DockerFuseFSOps.close]
  cases hk : b.fso.fds.lookup r.fd with
  | none =>
    -- nothing to close, and nothing to delete
    simp [Threads.stepN, satellite, Goroutine.start, hk, erase_of_lookup_eq_none hk,
      Response.isPanic_ofError, errnoOf, errnoToRPCErrorString]
  | some f =>
    have hopen : f ∉ b.closed := (hb.fds_live r.fd f hk).2
    simp [Threads.stepN, satellite, Goroutine.start, hk,
      Shared.closeOn_container_of_not_mem (s := ⟨b, false⟩) c hopen, Shared.crash,
      Shared.closeFile_of_not_mem (s := ⟨b, _⟩) hopen, Shared.erase]

/-- `Open` alone, given a new file: the file is recorded, the one under its number is
closed, and the file is stored; the process ends when `fd.Stat()`'s error does. -/
theorem alone_open {c : Container} {r : OpenRequest} {g : File}
    (hopen : openedBy c (.open r) = some g) (hg : g ∉ b.opened) :
    (satellite.stepN (Goroutine.start (c, .open r)) ⟨b, false⟩ 5).2 =
      ⟨⟨⟨b.fso.fds.insert g.fd g⟩, b.opened ++ [g], b.closed ++ (b.fso.fds.lookup g.fd).toList⟩,
        (DockerFuseFSOps.openStat c g).isPanic⟩ := by
  -- `g` is new, so not closed, and it is not the file stored under its number
  have hg_closed : g ∉ b.closed := fun h => hg (hb.wf.released_acquired g h)
  simp only [Threads.stepN, satellite, Goroutine.start, step_open_acquire _ _ _ _ _ _ hopen,
    step_open_lookup, Shared.acquire_books_fso, step_open_closeStale, step_open_store,
    step_open_stat]
  cases hst : b.fso.fds.lookup g.fd with
  | none =>
    simp [Shared.container, Shared.crash, Shared.store, Shared.acquire,
      DockerFuseFSOps.openStat, Container.closing, hg_closed]
  | some st =>
    have hst_live := hb.fds_live _ _ hst
    have hne : g ≠ st := fun h => hg (h ▸ hst_live.1)
    simp [Shared.container, Shared.crash, Shared.closeFile, Shared.store, Shared.acquire,
      DockerFuseFSOps.openStat, Container.closing, hg_closed, hne,
      show st ∉ b.closed from hst_live.2]

end Alone

/-! ### What one request does to the books -/

/-- The books after a request, read off its events. -/
theorem Books.step_eq_events (b : Books) (c : Container) (req : Request) :
    b.step c req = ⟨(b.fso.serve c req).fso, b.opened ++ (openedBy c req).toList,
      b.closed ++ (stepEvents c req (b.fso.serve c req).calls).filterMap Event.released?⟩ := by
  rw [filterMap_released_stepEvents]
  rfl

/-- `Open` given `g` stores it, and closes the file stored under its number. -/
theorem Books.step_open_of_some (b : Books) {c : Container} {r : OpenRequest} {g : File}
    (hg : openedBy c (.open r) = some g) :
    b.step c (.open r) = ⟨⟨b.fso.fds.insert g.fd g⟩, b.opened ++ [g],
      b.closed ++ (b.fso.fds.lookup g.fd).toList⟩ := by
  have hok : c.openFile r.fullPath (saFlagsToSystem linux r.saFlags) r.mode = .ok g := by
    exact openedBy_open_eq_some.mp hg
  refine Books.ext_of (open_of_openFile_ok b.fso hok).1 (by rw [Books.step_opened, hg]; rfl) ?_
  rw [Books.step_closed]
  exact congrArg (b.closed ++ ·) ((closedBy_open b.fso c r).trans (by rw [hok]))

/-- `Open` given `g` panics when `fd.Stat()`'s error does. -/
theorem open_response_isPanic (fso : DockerFuseFSOps) {c : Container} {r : OpenRequest} {g : File}
    (hg : openedBy c (.open r) = some g) :
    (fso.open c r).response.isPanic = (DockerFuseFSOps.openStat c g).isPanic := by
  have hok : c.openFile r.fullPath (saFlagsToSystem linux r.saFlags) r.mode = .ok g := by
    exact openedBy_open_eq_some.mp hg
  unfold DockerFuseFSOps.open DockerFuseFSOps.openStat
  simp only [hok]
  cases c.stat g with
  | error err => simp only [Response.isPanic_ofError]
  | ok sys => rfl

/-- The files `Close` closes: the one under its number, if there is one. -/
theorem closedBy_close (fso : DockerFuseFSOps) (c : Container) (r : CloseRequest) :
    closedBy (fso.close c r).calls = (fso.fds.lookup r.fd).toList := by
  unfold DockerFuseFSOps.close
  cases fso.fds.lookup r.fd <;> rfl

/-- `Close` deletes its number and closes the file stored there. -/
theorem Books.step_close (b : Books) (c : Container) (r : CloseRequest) :
    b.step c (.close r) =
      ⟨⟨b.fso.fds.erase r.fd⟩, b.opened, b.closed ++ (b.fso.fds.lookup r.fd).toList⟩ := by
  refine Books.ext_of (close_fds b.fso c r).1 (by simp [openedBy]) ?_
  rw [Books.step_closed]
  exact congrArg (b.closed ++ ·) (closedBy_close b.fso c r)

/-- A request that opens nothing, and is neither `Close` nor `CloseAllFDs`, leaves the
books as they are: it only uses stored files. -/
theorem Books.step_of_uses (b : Books) {c : Container} {req : Request}
    (hopen : openedBy c req = none) (hclose : ∀ r, req ≠ .close r) (hall : req ≠ .closeAllFDs) :
    b.step c req = b := by
  rcases stepEvents_cases b.fso c req with ⟨g, hg, -, -⟩ | ⟨r, hr, -, -⟩ | ⟨hr, -, -⟩ |
    ⟨hfds, hev⟩
  · rw [hopen] at hg
    cases hg
  · exact absurd hr (hclose r)
  · exact absurd hr hall
  · -- its events are uses, which close nothing
    have hnil : (stepEvents c req (b.fso.serve c req).calls).filterMap Event.released? = [] :=
      List.filterMap_eq_nil_iff.mpr fun e he => by
        obtain ⟨k, f, rfl, -⟩ := hev e he
        rfl
    rw [Books.step_eq_events, hnil]
    exact Books.ext_of hfds (by rw [hopen, Option.toList_none, List.append_nil])
      (List.append_nil _)

/-- **A goroutine alone is the handler.** From books that are `Safe`, the goroutine a
request starts, run to its end with no other goroutine in between, leaves the books
`Books.step` gives, and ends the process exactly when the handler panics, when
`OpenFile` gives a new file. The model of one request at a time is the case of
goroutines that never overlap. -/
theorem Goroutine.alone_eq_step {b : Books} (hb : b.Safe) (c : Container) {req : Request}
    {h : Handler} (hh : Handler.of req = some h) (hfresh : FreshOpen b c req) :
    (satellite.run ⟨⟨b, false⟩, [Goroutine.start (c, h)]⟩ (List.replicate 5 0)).shared =
      ⟨b.step c req, (b.fso.serve c req).response.isPanic⟩ := by
  rw [Threads.run_replicate (rfl : ([Goroutine.start (c, h)] : List Goroutine)[0]? = some _)]
  dsimp only
  obtain rfl := Handler.toRequest_of hh
  -- each handler runs alone as `Books.step` serves its request
  cases h with
  | «open» r =>
    simp only [Handler.toRequest] at hfresh ⊢
    cases hf : c.openFile r.fullPath (saFlagsToSystem linux r.saFlags) r.mode with
    | error err =>
      have hg : openedBy c (.open r) = none := by simp [openedBy, hf, Except.toOption]
      rw [alone_open_error b hf, Books.step_of_uses b hg (fun _ h => by cases h)
        (fun h => by cases h)]
      simp [DockerFuseFSOps.serve, DockerFuseFSOps.open, hf, Response.isPanic_ofError]
    | ok g =>
      have hg : openedBy c (.open r) = some g := openedBy_open_eq_some.mpr hf
      rw [alone_open hb hg (hfresh g hg), Books.step_open_of_some b hg]
      simp [DockerFuseFSOps.serve, open_response_isPanic b.fso hg]
  | close r =>
    simp only [Handler.toRequest]
    rw [alone_close hb, Books.step_close]
    simp [DockerFuseFSOps.serve]
  | use q =>
    simp only [Handler.toRequest]
    rw [alone_use hb, Books.step_of_uses b (by cases q <;> rfl)
      (by cases q <;> simp [FileRequest.toRequest]) (by cases q <;> simp [FileRequest.toRequest])]

theorem Goroutine.alone_eq_step_openA :
    Books.init.Safe ∧ Handler.of (.open ⟨"/a", 0, 0o644⟩) = some (.open ⟨"/a", 0, 0o644⟩) ∧
      FreshOpen Books.init twoFilesContainer (.open ⟨"/a", 0, 0o644⟩) ∧
      (satellite.run ⟨⟨Books.init, false⟩, [Goroutine.start (twoFilesContainer,
          .open ⟨"/a", 0, 0o644⟩)]⟩ (List.replicate 5 0)).shared =
        ⟨Books.init.step twoFilesContainer (.open ⟨"/a", 0, 0o644⟩),
          (Books.init.fso.serve twoFilesContainer (.open ⟨"/a", 0, 0o644⟩)).response.isPanic⟩ :=
  ⟨Books.Safe.init, rfl, by decide,
    Goroutine.alone_eq_step Books.Safe.init twoFilesContainer rfl (by decide)⟩

end DockerFuse.Satellite
