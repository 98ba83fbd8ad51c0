import DockerFuse.Client.Node
import DockerFuse.Satellite.FdTable

/-!
# The client and the satellite, connected

In a mount, each method of `DockerFuseClient` calls the satellite's method of the same
name over net/rpc. `DockerFuse.Mount.satelliteClient` is that connection: the client
methods, each given as its call the satellite method run on the satellite's state and
the container's answers, and what net/rpc makes of its ending. A `Node` method run on
it is a whole FUSE request, from the kernel's arguments to the container's calls and
back to the errno the kernel gets.

Three requests are followed here through every layer:

* `Read`: `DockerFuse.Mount.node_read_returns_content`, the bytes of the file at the
  offset and errno 0, whether or not `ReadAt` reached the end of the file;
* `Readdir`: `DockerFuse.Mount.readdir_lists_info_entries`, the listing as the
  container gave it, less the entries whose `Info()` failed and those whose inode
  number is at most 2, or `EIO`;
* `Write` on a handle opened with `O_APPEND`: `DockerFuse.Mount.write_appendMode_eio`,
  always `EIO`, since the satellite writes with `WriteAt`, which Go's `os` refuses on
  such a file.
-/

namespace DockerFuse.Mount

open Syscall Rpccommon Satellite Client

/-- The client of platform `p` with the satellite behind its `rpcClient`: each call is
served by the satellite's method of that name, on the satellite's state `fso`, with
the container answering `c`. -/
def satelliteClient (p : Platform) (fso : DockerFuseFSOps) (c : Container) :
    DockerFuseClientInterface where
  stat := DockerFuseClient.stat p fun r => (DockerFuseFSOps.stat c r).2.toClient
  create := DockerFuseClient.create p fun r => (fso.open c r).response.toClient
  readDir := DockerFuseClient.readDir p fun r => (DockerFuseFSOps.readDir c r).2.toClient
  «open» := DockerFuseClient.open p fun r => (fso.open c r).response.toClient
  close := DockerFuseClient.close p fun r => (fso.close c r).response.toClient
  read := DockerFuseClient.read p fun r => (fso.read c r).2.toClient
  seek := DockerFuseClient.seek p fun r => (fso.seek c r).2.toClient
  write := DockerFuseClient.write p fun r => (fso.write c r).2.toClient
  unlink := DockerFuseClient.unlink p fun r => (DockerFuseFSOps.unlink c r).2.toClient
  fsync := DockerFuseClient.fsync p fun r => (fso.fsync c r).2.toClient
  mkdir := DockerFuseClient.mkdir p fun r => (DockerFuseFSOps.mkdir c r).2.toClient
  rmdir := DockerFuseClient.rmdir p fun r => (DockerFuseFSOps.rmdir c r).2.toClient
  rename := DockerFuseClient.rename p fun r => (DockerFuseFSOps.rename c r).2.toClient
  readlink := DockerFuseClient.readlink p fun r => (DockerFuseFSOps.readlink c r).2.toClient
  link := DockerFuseClient.link p fun r => (DockerFuseFSOps.link c r).2.toClient
  symlink := DockerFuseClient.symlink p fun r => (DockerFuseFSOps.symlink c r).2.toClient
  setAttr := DockerFuseClient.setAttr p fun r => (DockerFuseFSOps.setAttr c r).2.toClient

/-- The Linux errno `EIO` that the satellite returns reaches a client of any platform as
that platform's `EIO`. -/
theorem rpcErrorStringTOErrno_errnoOf_EIO (p : Platform) :
    rpcErrorStringTOErrno p
        (((errnoToRPCErrorString (errnoOf ErrnoName.EIO)).map GoError.error).getD
          "unexpected EOF") =
      p.errno ErrnoName.EIO := by
  have hsym : errnoToSym linux (linux.errno ErrnoName.EIO) = "EIO" :=
    errnoToSym_of_mem errnoDistinct_linux (c := (ErrnoName.EIO, "EIO")) (by decide)
  have hback : symToErrno p "EIO" = p.errno ErrnoName.EIO :=
    symToErrno_of_mem p (c := ("EIO", ErrnoName.EIO)) (by decide)
  simp only [errnoOf, errnoToRPCErrorString, hsym, Option.map_some, Option.getD_some,
    GoError.error]
  rw [rpcErrorStringTOErrno_errno, hback]

/-! ### `Read` -/

/-- What `ReadAt` does on a file holding `content`, as `io.ReaderAt` states it: at an
offset `off ≥ 0`, a buffer of `n` bytes receives the bytes there, up to `n` of them;
when they are fewer than `n` the error is `io.EOF`, and `io.EOF` is the only error. -/
structure ReadsContent (c : Container) (f : File) (content : List UInt8) : Prop where
  data : ∀ n off, 0 ≤ off → (c.readAt f n off).1 = (content.drop off.toNatClampNeg).take n
  only_eof : ∀ n off, 0 ≤ off → (c.readAt f n off).2 = none ∨ (c.readAt f n off).2 = some eof
  short : ∀ n off, 0 ≤ off → (c.readAt f n off).1.length < n → (c.readAt f n off).2 = some eof

/-- `(*os.File).ReadAt` on a file holding `content`: it fills the buffer, or returns
what there is with `io.EOF`. -/
def fileReadAt (content : List UInt8) (n : ℕ) (off : Int64) : List UInt8 × Option GoError :=
  let data := (content.drop off.toNatClampNeg).take n
  (data, if data.length < n then some eof else none)

/-- `os.File` keeps the contract. -/
theorem readsContent_fileReadAt (c : Container) (f : File) (content : List UInt8)
    (h : c.readAt f = fileReadAt content) : ReadsContent c f content := by
  refine ⟨fun n off _ => by rw [h]; rfl, fun n off _ => ?_, fun n off _ hlt => ?_⟩
  · rw [h, fileReadAt]
    dsimp only
    split
    · exact .inr rfl
    · exact .inl rfl
  · rw [h, fileReadAt] at hlt ⊢
    exact if_pos hlt

/-- The satellite's `Read` on a file that reads as `content`: one `ReadAt` of that file,
and either the bytes at the offset, or, when there are none, the message `"EOF"`. -/
theorem read_toClient {fso : DockerFuseFSOps} {c : Container} {f : File} {content : List UInt8}
    {r : ReadRequest} (hf : fso.fds.lookup r.fd = some f) (hc : ReadsContent c f content)
    (hoff : 0 ≤ r.offset) (hnum : 0 ≤ r.num) (hmax : r.num.toInt ≤ maxAlloc) :
    (fso.read c r).1 = [.readAt f r.num.toNatClampNeg r.offset] ∧
      ((fso.read c r).2.toClient =
          .ok ((content.drop r.offset.toNatClampNeg).take r.num.toNatClampNeg) ∨
        ((content.drop r.offset.toNatClampNeg).take r.num.toNatClampNeg = [] ∧
          (fso.read c r).2.toClient = .error "EOF")) := by
  have hdata := hc.data r.num.toNatClampNeg r.offset hoff
  have hsize : ¬(r.num < 0 ∨ maxAlloc < r.num.toInt) := by
    rw [not_or]
    exact ⟨Int64.not_lt.mpr hnum, not_lt.mpr hmax⟩
  unfold DockerFuseFSOps.read DockerFuseFSOps.withFile DockerFuseFSOps.readOn
  rw [hf]
  dsimp only
  rw [if_neg hsize]
  refine ⟨rfl, ?_⟩
  rw [← hdata]
  rcases hc.only_eof r.num.toNatClampNeg r.offset hoff with herr | herr
  · -- `ReadAt` filled the buffer
    left
    simp only [herr]
    rfl
  · -- `io.EOF`: an error only when nothing was read, and then it crosses as `"EOF"`
    simp only [herr]
    by_cases hnil : (c.readAt f r.num.toNatClampNeg r.offset).1 = []
    · right
      refine ⟨hnil, ?_⟩
      rw [hnil]
      rfl
    · left
      have hlen : (c.readAt f r.num.toNatClampNeg r.offset).1.length ≠ 0 := by
        simpa [List.length_eq_zero_iff] using hnil
      simp [eof, GoError.error, hlen, Response.toClient]

/-- The client's `read` turns the satellite's `"EOF"` into an empty read. -/
theorem DockerFuseClient.read_of_toClient (p : Platform)
    (call : ReadRequest → Except String (List UInt8))
    {fh : UInt64} {offset n : Int64} {data : List UInt8}
    (h : call ⟨fh, offset, n⟩ = .ok data ∨ (data = [] ∧ call ⟨fh, offset, n⟩ = .error "EOF")) :
    DockerFuseClient.read p call fh offset n = (data, errnoOK) := by
  rcases h with h | ⟨rfl, h⟩
  · rw [DockerFuseClient.read, h]
  · simp [DockerFuseClient.read, h]

/-- A length below `2 ^ 63` is a nonnegative `int64`. -/
theorem toInt64_nonneg_of_lt {n : ℕ} (h : n < 2 ^ 63) : 0 ≤ n.toInt64 := by
  rw [Int64.le_iff_toInt_le, Nat.toInt64, Int64.toInt_ofNat_of_lt h]
  simp

/-- **A read returns the file's bytes.** On a handle the satellite holds for a file
that reads as `content`, a FUSE `READ` into a buffer `dest` (a Go slice, so no longer
than `maxAlloc`) at an offset `off ≥ 0` makes one `ReadAt` of that file and returns,
with errno 0, the bytes of `content` from `off`, as many as `dest` holds: none when
`off` is at or past the end. -/
theorem node_read_returns_content (p : Platform) (fso : DockerFuseFSOps) (c : Container)
    (fh : UInt64) (f : File) (content dest : List UInt8) (off : Int64)
    (hf : fso.fds.lookup fh = some f) (hc : ReadsContent c f content) (hoff : 0 ≤ off)
    (hdest : (dest.length : ℤ) ≤ maxAlloc) :
    (fso.read c ⟨fh, off, dest.length.toInt64⟩).1 = [.readAt f dest.length off] ∧
      Node.read (satelliteClient p fso c) fh dest off =
        (some ((content.drop off.toNatClampNeg).take dest.length), errnoOK) := by
  have hlt : dest.length < 2 ^ 63 := by
    rw [maxAlloc] at hdest
    omega
  have hn : dest.length.toInt64.toNatClampNeg = dest.length :=
    Int64.toNatClampNeg_ofNat_of_lt hlt
  have hnum : 0 ≤ dest.length.toInt64 := toInt64_nonneg_of_lt hlt
  have hmax : dest.length.toInt64.toInt ≤ maxAlloc := by
    rw [Nat.toInt64, Int64.toInt_ofNat_of_lt hlt]
    exact hdest
  obtain ⟨hcalls, hreply⟩ := read_toClient (r := ⟨fh, off, dest.length.toInt64⟩) hf hc hoff hnum
    hmax
  dsimp only at hcalls hreply
  rw [hn] at hcalls hreply
  refine ⟨hcalls, ?_⟩
  have hclient := DockerFuseClient.read_of_toClient p
    (fun r => (fso.read c r).2.toClient) hreply
  simp only [Node.read, satelliteClient, hclient, ne_eq, not_true_eq_false, if_false]

theorem node_read_past_end :
    Node.read (satelliteClient linux ⟨(∅ : AList fun _ : UInt64 => File).insert 3 ⟨0, 3, false⟩⟩
        { Container.failing eof with readAt := fun _ => fileReadAt [7, 8, 9] })
        3 [0, 0] 2 = (some [9], errnoOK) :=
  (node_read_returns_content linux _ _ 3 ⟨0, 3, false⟩ [7, 8, 9] [0, 0] 2 rfl
    (readsContent_fileReadAt _ _ _ rfl) (by decide) (by decide)).2

/-! ### `Readdir` -/

/-- Whether `Info()` fails on some entry of a listing other than because the entry is
gone. -/
def infoFails (files : List DirEnt) : Bool :=
  files.any fun file =>
    match file.info with
    | .error err => !err.isNotExist linux
    | .ok _ => false

/-- The reply entries of the entries whose `Info()` succeeds, in order: each one's
name, and the mode and inode number of its `lstat`. -/
def infoEntries (files : List DirEnt) : List DirEntry :=
  files.filterMap fun file =>
    match file.info with
    | .ok sys => some ⟨sys.mode, file.name, sys.ino⟩
    | .error _ => none

/-- The loop of `ReadDir` ends with `EIO` when some `Info()` fails other than by the
entry being gone, and otherwise with the entries whose `Info()` succeeded. -/
theorem readDirLoop_response (calls : List Call) (dirEntries : List DirEntry)
    (files : List DirEnt) :
    (DockerFuseFSOps.readDirLoop calls dirEntries files).2 =
      if infoFails files then .ofError (errnoOf ErrnoName.EIO)
      else .ok (dirEntries ++ infoEntries files) := by
  induction files generalizing calls dirEntries with
  | nil => simp [DockerFuseFSOps.readDirLoop, infoFails, infoEntries]
  | cons file files ih =>
    rw [DockerFuseFSOps.readDirLoop]
    cases hinfo : file.info with
    | error err =>
      cases hgone : err.isNotExist linux with
      | false => simp [hinfo, hgone, infoFails]
      | true => simp [hinfo, hgone, ih, infoFails, infoEntries]
    | ok sys => simp [hinfo, ih, infoFails, infoEntries]

/-- The client's loop keeps the entries above inode 2, with their fields in FUSE's
order. -/
theorem keepEntries_eq (entries : List DirEntry) :
    DockerFuseClient.keepEntries entries =
      (entries.filter fun e => e.ino > 2).map fun e => ⟨e.mode, e.ino, e.name⟩ := by
  induction entries with
  | nil => rfl
  | cons e entries ih =>
    by_cases h : e.ino > 2 <;> simp [DockerFuseClient.keepEntries, h, ← ih]

/-- **A listing reaches the kernel less its low inodes.** For a directory the container
lists as `files`, a FUSE `READDIR` returns `EIO` when some entry's `Info()` fails other
than by the entry being gone; otherwise it returns the entries whose `Info()`
succeeded, in order, each with its name and its `lstat` mode and inode number, except
those whose inode number is at most 2. -/
theorem readdir_lists_info_entries (p : Platform) (hp : p ∈ clientPlatforms)
    (fso : DockerFuseFSOps) (c : Container) (node : Node) (files : List DirEnt)
    (hfiles : c.readDir node.fullPath = .ok files) :
    Node.readdir (satelliteClient p fso c) node =
      if infoFails files then .error (p.errno ErrnoName.EIO)
      else .ok (((infoEntries files).filter fun e => e.ino > 2).map
        fun e => ⟨e.mode, e.ino, e.name⟩) := by
  have hserver := readDirLoop_response [.readDir node.fullPath] [] files
  simp only [Node.readdir, satelliteClient, DockerFuseClient.readDir, DockerFuseFSOps.readDir,
    hfiles, hserver]
  by_cases hfail : infoFails files
  · -- the satellite's `EIO` comes back as the client's
    have heio := rpcErrorStringTOErrno_errnoOf_EIO p
    rw [if_pos hfail, if_pos hfail, toClient_ofError]
    simp only [heio, ne_eq, errno_ne_errnoOK hp, not_false_eq_true, if_true]
  · rw [if_neg hfail, if_neg hfail]
    simp [Response.toClient, keepEntries_eq]

theorem readdir_lists_root :
    Node.readdir (satelliteClient linux DockerFuseFSOps.new
        { Container.failing eof with
          readDir := fun _ => .ok [⟨"etc", .ok ⟨0x41ED, 1, 42, 0, 0, 0, 0, 0, 0, 0, 0⟩⟩,
            ⟨"gone", .error errNotExist⟩] }) ⟨"/"⟩ =
      .ok [⟨0x41ED, 42, "etc"⟩] :=
  (readdir_lists_info_entries linux (by simp [clientPlatforms]) _ _ ⟨"/"⟩ _ rfl).trans (by decide)

/-- The `lstat` of a mount point: `/proc` of a container, whose root inode is 1. -/
def procStat : StatT :=
  ⟨0x416D, 1, 1, 0, 0, 0, 0, 0, 0, 0, 1024⟩

/-- The listing of a container's `/`, holding that mount point. -/
def procListing : List DirEnt :=
  [⟨"proc", .ok procStat⟩]

/-- A container whose `/` holds `/proc`, where `Lstat` of `/proc` succeeds. -/
def procContainer : Container :=
  { Container.failing eof with
    lstat := fun path => if path = "/proc" then .ok procStat else .error errNotExist
    readDir := fun _ => .ok procListing }

theorem readdir_drops_proc :
    infoEntries procListing = [⟨0x416D, "proc", 1⟩] ∧
      Node.readdir (satelliteClient linux DockerFuseFSOps.new procContainer) ⟨"/"⟩ = .ok [] ∧
      (Node.lookup (satelliteClient linux DockerFuseFSOps.new procContainer) ⟨"/"⟩ "proc").map
        (fun e => (e.node, e.stable.ino)) = .ok (⟨"/proc"⟩, 1) := by
  decide

/-! ### `Write` -/

/-- What the satellite's files do that is Go's `os` package rather than the container:
`os.OpenFile` records whether the flags hold `O_APPEND`, and `(*os.File).WriteAt`
refuses a file opened so before it looks at anything else. -/
structure OsFile (c : Container) : Prop where
  openFile_appendMode : ∀ name flag perm f, c.openFile name flag perm = .ok f →
    f.appendMode = (flag &&& linux.oflag .O_APPEND != 0)
  writeAt_appendMode : ∀ f data off, f.appendMode = true →
    c.writeAt f data off = .error errWriteAtInAppendMode

/-- A `Write` on a file opened with `O_APPEND` reaches the kernel as `EIO`: the refusal
of `WriteAt` is not an errno, so it crosses as `unknown error`. -/
theorem write_appendMode_eio (p : Platform) {fso : DockerFuseFSOps} {c : Container}
    (hc : OsFile c) {fh : UInt64} {f : File} (hf : fso.fds.lookup fh = some f)
    (happ : f.appendMode = true) (data : List UInt8) (off : Int64) :
    Node.write (satelliteClient p fso c) fh data off = (0, p.errno ErrnoName.EIO) := by
  have hw := hc.writeAt_appendMode f data off happ
  -- `WriteAt`'s refusal is no errno: it crosses as `unknown error`, which is `EIO`
  have henc : errnoToRPCErrorString errWriteAtInAppendMode =
      some (.other ("unknown error: " ++ errWriteAtInAppendMode.error)) := by
    decide
  have hmsg := rpcErrorStringTOErrno_unknown p errWriteAtInAppendMode.error
  simp only [Node.write, satelliteClient, DockerFuseClient.write, DockerFuseFSOps.write,
    DockerFuseFSOps.withFile, DockerFuseFSOps.writeOn, hf, hw, toClient_ofError, henc,
    Option.map_some, Option.getD_some]
  exact Prod.ext rfl hmsg

/-- `Open` with the client's `O_APPEND` that replies stores, under the number of the
reply, a file opened with `O_APPEND`. -/
theorem open_append_appendMode {p : Platform} (hp : p ∈ clientPlatforms) (fso : DockerFuseFSOps)
    {c : Container} (hc : OsFile c) {path : String} {flags : BitVec 64} {mode : UInt32}
    (happ : flags &&& p.oflag .O_APPEND = p.oflag .O_APPEND) {reply : OpenReply}
    (hok : (fso.open c (DockerFuseClient.openRequest p path flags mode)).response = .ok reply) :
    ∃ f, (fso.open c (DockerFuseClient.openRequest p path flags mode)).fso.fds.lookup reply.fd =
      some f ∧ f.appendMode = true := by
  obtain ⟨f, hf, hfd, hfds⟩ := open_of_ok fso hok
  refine ⟨f, by rw [hfds, hfd, AList.lookup_insert], ?_⟩
  -- the satellite's flag word holds Linux's `O_APPEND` whenever the client's held its own
  have hlinux : saFlagsToSystem linux (systemToSAFlags p flags) &&& linux.oflag .O_APPEND =
      linux.oflag .O_APPEND :=
    (saFlagsToSystem_and_oflag flagsWellFormed_linux _ _).mpr
      ((systemToSAFlags_and_saFlag (flagsWellFormed_of_mem hp) flags _).mpr happ)
  rw [hc.openFile_appendMode _ _ _ f hf]
  simp only [DockerFuseClient.openRequest, hlinux]
  decide

/-- **Every write on an `O_APPEND` handle fails.** Whatever the client's platform and
the satellite's state, if a FUSE `OPEN` whose flags hold `O_APPEND` succeeds, then
every later `WRITE` on the handle it returned, whatever the data and offset, gets
`EIO`, as long as the satellite still holds the file. -/
theorem write_after_append_open_eio {p : Platform} (hp : p ∈ clientPlatforms)
    (fso : DockerFuseFSOps) {c c' : Container} (hc : OsFile c) (hc' : OsFile c')
    (node : Node) (flags : UInt32)
    (happ : flagWord flags &&& p.oflag .O_APPEND = p.oflag .O_APPEND)
    (hopen : (Node.open (satelliteClient p fso c) node flags).2.2 = errnoOK)
    (fso' : DockerFuseFSOps)
    (hkeep : fso'.fds.lookup (Node.open (satelliteClient p fso c) node flags).1 =
      (fso.open c
        (DockerFuseClient.openRequest p node.fullPath (flagWord flags) flags)).fso.fds.lookup
        (Node.open (satelliteClient p fso c) node flags).1)
    (data : List UInt8) (off : Int64) :
    Node.write (satelliteClient p fso' c') (Node.open (satelliteClient p fso c) node flags).1
      data off = (0, p.errno ErrnoName.EIO) := by
  -- the client's `open` said 0, so the satellite's `Open` replied, with the handle's number
  obtain ⟨reply, hcall, hfh⟩ := DockerFuseClient.open_of_errnoOK hp (fun r =>
    (fso.open c r).response.toClient) hopen
  obtain ⟨f, hf, happf⟩ :=
    open_append_appendMode hp fso hc happ (Response.toClient_eq_ok.mp hcall)
  have hnode : (Node.open (satelliteClient p fso c) node flags).1 = reply.fd := hfh
  rw [hnode] at hkeep ⊢
  exact write_appendMode_eio p hc' (hkeep.trans hf) happf data off

/-- A container whose files behave as Go's `os` makes them: `OpenFile` gives descriptor 7
and records `O_APPEND`, and `WriteAt` refuses a file opened with it. -/
def appendContainer : Container :=
  { Container.failing (errnoOf ErrnoName.ENOENT) with
    openFile := fun _ flag _ => .ok ⟨0, 7, flag &&& linux.oflag .O_APPEND != 0⟩
    stat := fun _ => .ok ⟨0x81A4, 1, 12, 0, 0, 0, 0, 0, 0, 0, 4096⟩
    writeAt := fun f data _ =>
      if f.appendMode then .error errWriteAtInAppendMode else .ok data.length.toInt64 }

theorem osFile_appendContainer : OsFile appendContainer := by
  refine ⟨fun name flag perm f h => ?_, fun f data off h => ?_⟩
  · cases h
    rfl
  · simp [appendContainer, h]

theorem append_write_eio :
    Node.open (satelliteClient linux DockerFuseFSOps.new appendContainer) ⟨"/test/log"⟩ 0x401 =
        (7, FOPEN_DIRECT_IO, errnoOK) ∧
      Node.write (satelliteClient linux
          (DockerFuseFSOps.new.open appendContainer
            (DockerFuseClient.openRequest linux "/test/log" (flagWord 0x401) 0x401)).fso
          appendContainer) 7 [0x61] 0 = (0, ⟨5⟩) := by
  have hopen : Node.open (satelliteClient linux DockerFuseFSOps.new appendContainer)
      ⟨"/test/log"⟩ 0x401 = (7, FOPEN_DIRECT_IO, errnoOK) := by
    decide
  refine ⟨hopen, ?_⟩
  have hwrite := write_after_append_open_eio (p := linux) (by simp [clientPlatforms])
    DockerFuseFSOps.new osFile_appendContainer osFile_appendContainer ⟨"/test/log"⟩ 0x401
    (by decide) (by rw [hopen]) _ rfl [0x61] 0
  rw [hopen] at hwrite
  exact hwrite

end DockerFuse.Mount
