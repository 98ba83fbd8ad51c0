import DockerFuse.CaseTable
import DockerFuse.Errors

/-!
# Error numbers across platforms

An error number means nothing on the other side: Linux's `ENOTEMPTY` is 39, Darwin's
`EDESTADDRREQ` is 39 too. So the satellite sends an errno by *name*.
`ErrnoToSym` turns a number into its name through a `switch` of 87 cases and
`SymToErrno` turns a name into the number of the client's platform through a
`switch` of 89 cases: the same 87 names and the two aliases `EOPNOTSUPP` and
`EWOULDBLOCK`, which cannot appear in the first switch because on Linux they have
the numbers of `ENOTSUP` and `EAGAIN`. Between them, `ErrnoToRPCErrorString` writes
`errno: NAME` as the message of the error a satellite method returns, and the
client's `RPCErrorStringTOErrno` reads the name back from net/rpc's error string.

Both switches are `CaseTable.select` over their case lists, copied in source order.
Whether they are inverse is a property of the two lists alone, checked here for both
platforms: the numbers of the first list are distinct on each platform (Go's compiler
demands it of a `switch`), its names are distinct in the second list, and each of its
pairs appears there swapped (`DockerFuse.Rpccommon.symToErrno_errnoToSym`). The
aliases are the names the second list has beyond that, and they do not come back
(`DockerFuse.Rpccommon.errnoToSym_symToErrno_EWOULDBLOCK`).
-/

namespace DockerFuse

namespace Rpccommon

open Syscall

/-- The cases of `ErrnoToSym`, in source order. -/
def errnoToSymCases : List (ErrnoName × String) :=
  [(.E2BIG, "E2BIG"), (.EACCES, "EACCES"), (.EADDRINUSE, "EADDRINUSE"),
    (.EADDRNOTAVAIL, "EADDRNOTAVAIL"), (.EAFNOSUPPORT, "EAFNOSUPPORT"), (.EAGAIN, "EAGAIN"),
    (.EALREADY, "EALREADY"), (.EBADF, "EBADF"), (.EBADMSG, "EBADMSG"), (.EBUSY, "EBUSY"),
    (.ECANCELED, "ECANCELED"), (.ECHILD, "ECHILD"), (.ECONNABORTED, "ECONNABORTED"),
    (.ECONNREFUSED, "ECONNREFUSED"), (.ECONNRESET, "ECONNRESET"), (.EDEADLK, "EDEADLK"),
    (.EDESTADDRREQ, "EDESTADDRREQ"), (.EDOM, "EDOM"), (.EDQUOT, "EDQUOT"), (.EEXIST, "EEXIST"),
    (.EFAULT, "EFAULT"), (.EFBIG, "EFBIG"), (.EHOSTDOWN, "EHOSTDOWN"),
    (.EHOSTUNREACH, "EHOSTUNREACH"), (.EIDRM, "EIDRM"), (.EILSEQ, "EILSEQ"),
    (.EINPROGRESS, "EINPROGRESS"), (.EINTR, "EINTR"), (.EINVAL, "EINVAL"),
    ( ErrnoName.EIO, "EIO"), (.EISCONN, "EISCONN"), (.EISDIR, "EISDIR"), (.ELOOP, "ELOOP"),
    (.EMFILE, "EMFILE"), (.EMLINK, "EMLINK"), (.EMSGSIZE, "EMSGSIZE"), (.EMULTIHOP, "EMULTIHOP"),
    (.ENAMETOOLONG, "ENAMETOOLONG"), (.ENETDOWN, "ENETDOWN"), (.ENETRESET, "ENETRESET"),
    (.ENETUNREACH, "ENETUNREACH"), (.ENFILE, "ENFILE"), (.ENOBUFS, "ENOBUFS"),
    (.ENODATA, "ENODATA"), (.ENODEV, "ENODEV"), (.ENOENT, "ENOENT"), (.ENOEXEC, "ENOEXEC"),
    (.ENOLCK, "ENOLCK"), (.ENOLINK, "ENOLINK"), (.ENOMEM, "ENOMEM"), (.ENOMSG, "ENOMSG"),
    (.ENOPROTOOPT, "ENOPROTOOPT"), (.ENOSPC, "ENOSPC"), (.ENOSR, "ENOSR"), (.ENOSTR, "ENOSTR"),
    (.ENOSYS, "ENOSYS"), (.ENOTBLK, "ENOTBLK"), (.ENOTCONN, "ENOTCONN"), (.ENOTDIR, "ENOTDIR"),
    (.ENOTEMPTY, "ENOTEMPTY"), (.ENOTRECOVERABLE, "ENOTRECOVERABLE"), (.ENOTSOCK, "ENOTSOCK"),
    (.ENOTSUP, "ENOTSUP"), (.ENOTTY, "ENOTTY"), ( ErrnoName.ENXIO, "ENXIO"),
    (.EOVERFLOW, "EOVERFLOW"), (.EOWNERDEAD, "EOWNERDEAD"), (.EPERM, "EPERM"),
    (.EPFNOSUPPORT, "EPFNOSUPPORT"), (.EPIPE, "EPIPE"), (.EPROTO, "EPROTO"),
    (.EPROTONOSUPPORT, "EPROTONOSUPPORT"), (.EPROTOTYPE, "EPROTOTYPE"), (.ERANGE, "ERANGE"),
    (.EREMOTE, "EREMOTE"), (.EROFS, "EROFS"), (.ESHUTDOWN, "ESHUTDOWN"),
    (.ESOCKTNOSUPPORT, "ESOCKTNOSUPPORT"), (.ESPIPE, "ESPIPE"), (.ESRCH, "ESRCH"),
    (.ESTALE, "ESTALE"), (.ETIME, "ETIME"), (.ETIMEDOUT, "ETIMEDOUT"),
    (.ETOOMANYREFS, "ETOOMANYREFS"), (.ETXTBSY, "ETXTBSY"), (.EUSERS, "EUSERS"),
    (.EXDEV, "EXDEV")]

/-- The cases of `SymToErrno`, in source order. -/
def symToErrnoCases : List (String × ErrnoName) :=
  [("E2BIG", .E2BIG), ("EACCES", .EACCES), ("EADDRINUSE", .EADDRINUSE),
    ("EADDRNOTAVAIL", .EADDRNOTAVAIL), ("EAFNOSUPPORT", .EAFNOSUPPORT), ("EAGAIN", .EAGAIN),
    ("EALREADY", .EALREADY), ("EBADF", .EBADF), ("EBADMSG", .EBADMSG), ("EBUSY", .EBUSY),
    ("ECANCELED", .ECANCELED), ("ECHILD", .ECHILD), ("ECONNABORTED", .ECONNABORTED),
    ("ECONNREFUSED", .ECONNREFUSED), ("ECONNRESET", .ECONNRESET), ("EDEADLK", .EDEADLK),
    ("EDESTADDRREQ", .EDESTADDRREQ), ("EDOM", .EDOM), ("EDQUOT", .EDQUOT), ("EEXIST", .EEXIST),
    ("EFAULT", .EFAULT), ("EFBIG", .EFBIG), ("EHOSTDOWN", .EHOSTDOWN),
    ("EHOSTUNREACH", .EHOSTUNREACH), ("EIDRM", .EIDRM), ("EILSEQ", .EILSEQ),
    ("EINPROGRESS", .EINPROGRESS), ("EINTR", .EINTR), ("EINVAL", .EINVAL),
    ("EIO", ErrnoName.EIO), ("EISCONN", .EISCONN), ("EISDIR", .EISDIR), ("ELOOP", .ELOOP),
    ("EMFILE", .EMFILE), ("EMLINK", .EMLINK), ("EMSGSIZE", .EMSGSIZE), ("EMULTIHOP", .EMULTIHOP),
    ("ENAMETOOLONG", .ENAMETOOLONG), ("ENETDOWN", .ENETDOWN), ("ENETRESET", .ENETRESET),
    ("ENETUNREACH", .ENETUNREACH), ("ENFILE", .ENFILE), ("ENOBUFS", .ENOBUFS),
    ("ENODATA", .ENODATA), ("ENODEV", .ENODEV), ("ENOENT", .ENOENT), ("ENOEXEC", .ENOEXEC),
    ("ENOLCK", .ENOLCK), ("ENOLINK", .ENOLINK), ("ENOMEM", .ENOMEM), ("ENOMSG", .ENOMSG),
    ("ENOPROTOOPT", .ENOPROTOOPT), ("ENOSPC", .ENOSPC), ("ENOSR", .ENOSR), ("ENOSTR", .ENOSTR),
    ("ENOSYS", .ENOSYS), ("ENOTBLK", .ENOTBLK), ("ENOTCONN", .ENOTCONN), ("ENOTDIR", .ENOTDIR),
    ("ENOTEMPTY", .ENOTEMPTY), ("ENOTRECOVERABLE", .ENOTRECOVERABLE), ("ENOTSOCK", .ENOTSOCK),
    ("ENOTSUP", .ENOTSUP), ("ENOTTY", .ENOTTY), ("ENXIO", ErrnoName.ENXIO),
    ("EOPNOTSUPP", .EOPNOTSUPP), ("EOVERFLOW", .EOVERFLOW), ("EOWNERDEAD", .EOWNERDEAD),
    ("EPERM", .EPERM), ("EPFNOSUPPORT", .EPFNOSUPPORT), ("EPIPE", .EPIPE), ("EPROTO", .EPROTO),
    ("EPROTONOSUPPORT", .EPROTONOSUPPORT), ("EPROTOTYPE", .EPROTOTYPE), ("ERANGE", .ERANGE),
    ("EREMOTE", .EREMOTE), ("EROFS", .EROFS), ("ESHUTDOWN", .ESHUTDOWN),
    ("ESOCKTNOSUPPORT", .ESOCKTNOSUPPORT), ("ESPIPE", .ESPIPE), ("ESRCH", .ESRCH),
    ("ESTALE", .ESTALE), ("ETIME", .ETIME), ("ETIMEDOUT", .ETIMEDOUT),
    ("ETOOMANYREFS", .ETOOMANYREFS), ("ETXTBSY", .ETXTBSY), ("EUSERS", .EUSERS),
    ("EWOULDBLOCK", .EWOULDBLOCK), ("EXDEV", .EXDEV)]

/-- `ErrnoToSym` on platform `p`: the name of the first case whose number is `errno`,
else `"EIO"`. -/
def errnoToSym (p : Platform) (errno : Errno) : String :=
  CaseTable.select (errnoToSymCases.map fun c => (p.errno c.1, c.2)) "EIO" errno

/-- `SymToErrno` on platform `p`: the number of the first case named `sym`, else
`EIO`. -/
def symToErrno (p : Platform) (sym : String) : Errno :=
  CaseTable.select (symToErrnoCases.map fun c => (c.1, p.errno c.2)) (p.errno ErrnoName.EIO) sym

/-- `ErrnoToRPCErrorString`, which runs on the satellite, a Linux process. An errno,
bare or inside a `PathError` or `LinkError`, becomes `errno: NAME`; an error whose
message is `"EOF"` passes unchanged; any other becomes `unknown error: ...`. The type
assertion `e.Err.(syscall.Errno)` panics when a `PathError` or `LinkError` wraps
anything but an errno: `none` is that panic. -/
def errnoToRPCErrorString (err : GoError) : Option GoError :=
  match err with
  | .pathError _ _ (.errno e) => some (.other ("errno: " ++ errnoToSym linux e))
  | .pathError _ _ _ => none
  | .linkError _ _ _ (.errno e) => some (.other ("errno: " ++ errnoToSym linux e))
  | .linkError _ _ _ _ => none
  | .errno e => some (.other ("errno: " ++ errnoToSym linux e))
  | .other msg => if msg = "EOF" then some err else some (.other ("unknown error: " ++ msg))

/-- `RPCErrorStringTOErrno` on the client's platform `p`, given the message of the error
net/rpc returned. Index 1 of the split always exists after the prefix test, whose
prefix holds a space. -/
def rpcErrorStringTOErrno (p : Platform) (err : String) : Errno :=
  if hasPrefix err "errno: " then symToErrno p ((splitN err ' ' 2).getD 1 "")
  else p.errno ErrnoName.EIO

/-! ### The two tables -/

/-- The numbers of `ErrnoToSym`'s cases are distinct on platform `p`: Go's compiler
refuses a `switch` with two equal constant cases, so the package builds on `p` only
if this holds. -/
def ErrnoDistinct (p : Platform) : Prop :=
  (errnoToSymCases.map fun c => p.errno c.1).Nodup

instance (p : Platform) : Decidable (ErrnoDistinct p) :=
  inferInstanceAs (Decidable (List.Nodup _))

/-- The numbers are distinct when marking them one by one never meets a marked one. -/
theorem errnoDistinct_of_distinctBits {p : Platform}
    (h : CaseTable.distinctBits (errnoToSymCases.map fun c => (p.errno c.1).val.toNat) 0 = true) :
    ErrnoDistinct p := by
  have hnd := (CaseTable.nodup_of_distinctBits h).1
  have hmap : (errnoToSymCases.map fun c => (p.errno c.1).val.toNat) =
      (errnoToSymCases.map fun c => p.errno c.1).map fun e => e.val.toNat := by
    rw [List.map_map]
    rfl
  exact (hmap ▸ hnd).of_map _

theorem errnoDistinct_linux : ErrnoDistinct linux := errnoDistinct_of_distinctBits (by decide)

theorem errnoDistinct_darwin : ErrnoDistinct darwin := errnoDistinct_of_distinctBits (by decide)

theorem errnoDistinct_of_mem {p : Platform} (hp : p ∈ clientPlatforms) : ErrnoDistinct p := by
  simp only [clientPlatforms, List.mem_cons, List.not_mem_nil, or_false] at hp
  rcases hp with rfl | rfl
  · exact errnoDistinct_linux
  · exact errnoDistinct_darwin

set_option maxRecDepth 8000 in
/-- The names of `SymToErrno`'s cases are distinct. -/
theorem symToErrnoCases_nodup : (symToErrnoCases.map Prod.fst).Nodup := by
  -- the names are in strictly increasing order: one comparison per neighbour
  have hsorted : (symToErrnoCases.map Prod.fst).IsChain (· < ·) := by decide
  apply List.nodup_iff_pairwise_ne.mpr
  exact hsorted.pairwise.imp fun hlt he => by
    subst he
    exact String.lt_irrefl _ hlt

/-- Every case of `ErrnoToSym` is a case of `SymToErrno`, the other way round. -/
theorem swap_mem_symToErrnoCases : ∀ c ∈ errnoToSymCases, c.swap ∈ symToErrnoCases := by
  -- both tables list the names in the same order
  have hsub : (errnoToSymCases.map Prod.swap).Sublist symToErrnoCases := by decide
  intro c hc
  exact hsub.subset (List.mem_map_of_mem hc)

/-! ### The two switches -/

theorem errnoToSym_of_mem {p : Platform} (hp : ErrnoDistinct p) {c : ErrnoName × String}
    (hc : c ∈ errnoToSymCases) : errnoToSym p (p.errno c.1) = c.2 := by
  apply CaseTable.select_of_mem
  · rw [List.map_map]
    exact hp
  · exact List.mem_map.mpr ⟨c, hc, rfl⟩

/-- An untabulated number is called `EIO`. -/
theorem errnoToSym_of_forall_ne (p : Platform) {e : Errno}
    (h : ∀ c ∈ errnoToSymCases, p.errno c.1 ≠ e) : errnoToSym p e = "EIO" := by
  apply CaseTable.select_of_forall_ne
  intro c hc
  obtain ⟨c', hc', rfl⟩ := List.mem_map.mp hc
  exact h c' hc'

/-- Every name `ErrnoToSym` gives is one of its table's: its default `EIO` is one too. -/
theorem errnoToSym_mem (p : Platform) (e : Errno) :
    errnoToSym p e ∈ errnoToSymCases.map Prod.snd := by
  rcases CaseTable.select_mem (errnoToSymCases.map fun c => (p.errno c.1, c.2)) "EIO" e with
    h | h
  · rw [List.map_map] at h
    exact h
  · rw [errnoToSym, h]
    decide

theorem symToErrno_of_mem (p : Platform) {c : String × ErrnoName} (hc : c ∈ symToErrnoCases) :
    symToErrno p c.1 = p.errno c.2 := by
  apply CaseTable.select_of_mem
  · rw [List.map_map]
    exact symToErrnoCases_nodup
  · exact List.mem_map.mpr ⟨c, hc, rfl⟩

/-- A number comes back from its name. -/
theorem symToErrno_errnoToSym {p : Platform} (hp : ErrnoDistinct p) {c : ErrnoName × String}
    (hc : c ∈ errnoToSymCases) : symToErrno p (errnoToSym p (p.errno c.1)) = p.errno c.1 := by
  rw [errnoToSym_of_mem hp hc]
  exact symToErrno_of_mem p (swap_mem_symToErrnoCases c hc)

/-- A name of `ErrnoToSym` comes back from its number. -/
theorem errnoToSym_symToErrno {p : Platform} (hp : ErrnoDistinct p) {c : ErrnoName × String}
    (hc : c ∈ errnoToSymCases) : errnoToSym p (symToErrno p c.2) = c.2 := by
  have hsym := symToErrno_of_mem p (swap_mem_symToErrnoCases c hc)
  simp only [Prod.fst_swap, Prod.snd_swap] at hsym
  rw [hsym]
  exact errnoToSym_of_mem hp hc

/-! ### The wire format -/

/-- The client reads the name back out of `errno: NAME`: the split at the first space
leaves the name whole. -/
theorem rpcErrorStringTOErrno_errno (p : Platform) (sym : String) :
    rpcErrorStringTOErrno p ("errno: " ++ sym) = symToErrno p sym := by
  have hsplit : ("errno: " : String) = "errno:" ++ String.singleton ' ' := by decide
  rw [rpcErrorStringTOErrno, if_pos (hasPrefix_append _ _), hsplit,
    splitN_two (by decide)]
  rfl

/-- Any other message is `EIO` on the client. -/
theorem rpcErrorStringTOErrno_unknown (p : Platform) (msg : String) :
    rpcErrorStringTOErrno p ("unknown error: " ++ msg) = p.errno ErrnoName.EIO := by
  have hno : hasPrefix ("unknown error: " ++ msg) "errno: " = false := by
    simp [hasPrefix, List.isPrefixOf]
  rw [rpcErrorStringTOErrno, if_neg (by simp [hno])]

/-! ### From the satellite to the client -/

/-- How a satellite method can hand an errno to `ErrnoToRPCErrorString`: bare, or as
the `Err` of a `PathError` or a `LinkError`. -/
inductive Carrier
  | bare
  | path (op name : String)
  | link (op old new : String)

/-- The error value a carrier makes of an errno. -/
def Carrier.wrap : Carrier → Errno → GoError
  | .bare, e => .errno e
  | .path op name, e => .pathError op name (.errno e)
  | .link op old new, e => .linkError op old new (.errno e)

/-- However it is carried, an errno is sent as its Linux name. -/
theorem errnoToRPCErrorString_wrap (w : Carrier) (e : Errno) :
    errnoToRPCErrorString (w.wrap e) = some (.other ("errno: " ++ errnoToSym linux e)) := by
  cases w <;> rfl

/-- What the client makes of what the satellite sends for `err`: the errno read back
from the message of the returned error, or `none` when the encoder panics. -/
def wireErrno (client : Platform) (err : GoError) : Option Errno :=
  (errnoToRPCErrorString err).map fun r => rpcErrorStringTOErrno client r.error

theorem wireErrno_wrap (client : Platform) (w : Carrier) (e : Errno) :
    wireErrno client (w.wrap e) = some (symToErrno client (errnoToSym linux e)) := by
  rw [wireErrno, errnoToRPCErrorString_wrap, Option.map_some, GoError.error,
    rpcErrorStringTOErrno_errno]

/-- **Errnos cross by name.** A tabulated Linux errno, however it is carried, reaches
a Linux or Darwin client as that platform's errno of the same name, and any other
errno as `EIO`; an error of another type whose message is not `"EOF"` reaches it as
`EIO`. On each platform the two switches are inverse on the 87 names of
`ErrnoToSym`; the two aliases that only `SymToErrno` knows come back under another
name: `EWOULDBLOCK` as `EAGAIN`, and `EOPNOTSUPP` as `ENOTSUP` on Linux and as `EIO`
on Darwin. -/
theorem errno_wire_round_trip :
    (∀ client ∈ clientPlatforms, ∀ w : Carrier,
      (∀ c ∈ errnoToSymCases,
        wireErrno client (w.wrap (linux.errno c.1)) = some (client.errno c.1)) ∧
      ∀ e, (∀ c ∈ errnoToSymCases, linux.errno c.1 ≠ e) →
        wireErrno client (w.wrap e) = some (client.errno ErrnoName.EIO)) ∧
    (∀ client ∈ clientPlatforms, ∀ msg, msg ≠ "EOF" →
      wireErrno client (.other msg) = some (client.errno ErrnoName.EIO)) ∧
    (∀ p ∈ clientPlatforms, ∀ c ∈ errnoToSymCases,
      errnoToSym p (symToErrno p c.2) = c.2 ∧
        symToErrno p (errnoToSym p (p.errno c.1)) = p.errno c.1) ∧
    (∀ p ∈ clientPlatforms, errnoToSym p (symToErrno p "EWOULDBLOCK") = "EAGAIN") ∧
    errnoToSym linux (symToErrno linux "EOPNOTSUPP") = "ENOTSUP" ∧
    errnoToSym darwin (symToErrno darwin "EOPNOTSUPP") = "EIO" := by
  refine ⟨fun client hc w => ⟨fun c hcase => ?_, fun e he => ?_⟩, fun client _ msg hmsg => ?_,
    fun p hp c hcase => ⟨errnoToSym_symToErrno (errnoDistinct_of_mem hp) hcase,
      symToErrno_errnoToSym (errnoDistinct_of_mem hp) hcase⟩, ?_, by decide, by decide⟩
  · -- the name crosses, and the client looks it up in its own table
    rw [wireErrno_wrap, errnoToSym_of_mem errnoDistinct_linux hcase]
    exact congrArg some (symToErrno_of_mem client (swap_mem_symToErrnoCases c hcase))
  · rw [wireErrno_wrap, errnoToSym_of_forall_ne linux he]
    exact congrArg some (symToErrno_of_mem client (c := ("EIO", ErrnoName.EIO)) (by decide))
  · rw [wireErrno, errnoToRPCErrorString, if_neg hmsg, Option.map_some, GoError.error,
      rpcErrorStringTOErrno_unknown]
  · intro p hp
    simp only [clientPlatforms, List.mem_cons, List.not_mem_nil, or_false] at hp
    rcases hp with rfl | rfl <;> decide

/-- Linux's `ENOTEMPTY` (39) inside a `PathError` reaches a Darwin client as Darwin's
`ENOTEMPTY` (66), Linux's untabulated `ECHRNG` (44) as `EIO`, and an unknown error as
`EIO`. -/
theorem errno_wire_round_trip_darwin :
    wireErrno darwin ((Carrier.path "rmdir" "/d").wrap (linux.errno .ENOTEMPTY)) =
        some (darwin.errno .ENOTEMPTY) ∧
      wireErrno darwin (Carrier.bare.wrap ⟨44⟩) = some (darwin.errno ErrnoName.EIO) ∧
      wireErrno darwin (.other "negative offset") = some (darwin.errno ErrnoName.EIO) := by
  have hd : darwin ∈ clientPlatforms := by simp [clientPlatforms]
  exact ⟨(errno_wire_round_trip.1 darwin hd _).1 (.ENOTEMPTY, "ENOTEMPTY") (by decide),
    (errno_wire_round_trip.1 darwin hd _).2 ⟨44⟩ (by decide),
    errno_wire_round_trip.2.1 darwin hd _ (by decide)⟩

/-- `EWOULDBLOCK` is a name `SymToErrno` knows, and it does not come back. -/
theorem errnoToSym_symToErrno_EWOULDBLOCK :
    errnoToSym linux (symToErrno linux "EWOULDBLOCK") ≠ "EWOULDBLOCK" := by
  decide

/-! ### When the encoder panics -/

/-- **The encoder panics on a wrapped error that is not an errno.** The type assertion
`e.Err.(syscall.Errno)` is not checked, so `ErrnoToRPCErrorString` panics exactly on a
`PathError` or a `LinkError` whose cause is not a bare `Errno`. -/
theorem errnoToRPCErrorString_eq_none_iff (err : GoError) :
    errnoToRPCErrorString err = none ↔
      ∃ cause, err.unwrap = some cause ∧ cause.isErrno = false := by
  cases err with
  | errno e => simp [errnoToRPCErrorString, GoError.unwrap]
  | pathError op path cause =>
    cases cause <;> simp [errnoToRPCErrorString, GoError.unwrap, GoError.isErrno]
  | linkError op old new cause =>
    cases cause <;> simp [errnoToRPCErrorString, GoError.unwrap, GoError.isErrno]
  | other msg =>
    by_cases heof : msg = "EOF" <;> simp [errnoToRPCErrorString, GoError.unwrap, heof]

/-- **What the encoder returns when it does not panic**: `errno: S` for a name `S` of
`ErrnoToSym`'s table, the error itself when its message is `"EOF"`, or
`unknown error: ` followed by the message. -/
theorem errnoToRPCErrorString_eq_some {err r : GoError} (h : errnoToRPCErrorString err = some r) :
    (∃ sym ∈ errnoToSymCases.map Prod.snd, r = .other ("errno: " ++ sym)) ∨
      (r = err ∧ err.error = "EOF") ∨ r = .other ("unknown error: " ++ err.error) := by
  unfold errnoToRPCErrorString at h
  split at h
  · cases h
    exact .inl ⟨_, errnoToSym_mem linux _, rfl⟩
  · cases h
  · cases h
    exact .inl ⟨_, errnoToSym_mem linux _, rfl⟩
  · cases h
  · cases h
    exact .inl ⟨_, errnoToSym_mem linux _, rfl⟩
  · -- a value of another type: kept when it is `io.EOF`'s message, else unknown
    split_ifs at h with heof
    · cases h
      exact .inr (.inl ⟨rfl, heof⟩)
    · cases h
      exact .inr (.inr rfl)

end Rpccommon

end DockerFuse
