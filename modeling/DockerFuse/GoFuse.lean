import Mathlib.Data.List.AList
import DockerFuse.GoPath

/-!
# go-fuse's inode tree

go-fuse keeps, for a mounted file system, the inodes the kernel knows and the directory
entries between them. A file system's node methods hand it new nodes through
`NewPersistentInode`, and go-fuse then adds, moves or drops entries itself. This module
gives that tree as what go-fuse's API promises of it and no more: `GoFuse.InodeTree`
names the operations, over any type of states, and `GoFuse.InodeTree.Lawful` the laws
they keep, so that a result about a file system built on go-fuse holds of every tree that
keeps them.

The laws say that a new mount has its root and no entry; that `NewPersistentInode` finds
inodes by the inode number and the file type of their stable attributes, handing back
one that has both and changing nothing, or else a new inode that embeds the node; that
`AddChild`, `RmChild`, `MvChild` and `ExchangeChild` make, drop, move and swap entries
and never add or drop an inode (an inode goes when the kernel forgets it, which is not
modelled here); and that `Path(nil)` joins names of entries with `/`, with no leading
`/`. `GoFuse.InodeTable` is one tree that keeps them (`GoFuse.InodeTable.lawful`).
-/

namespace GoFuse

/-- An inode: the node it embeds, and the inode number and file type of its stable
attributes. -/
structure Inode (ν : Type) where
  node : ν
  ino : UInt64
  mode : UInt32
  deriving DecidableEq, Repr

/-- The file type go-fuse keeps of a stable mode: its bits of `S_IFMT` (`0xF000`), or
`S_IFREG` (`0x8000`) when it has none. -/
def stableMode (mode : UInt32) : UInt32 :=
  if mode &&& 0xF000 = 0 then 0x8000 else mode &&& 0xF000

variable {σ ι ν : Type}

/-- The inode has the inode number and the file type `NewPersistentInode` looks for;
an automatic number, `0`, is no inode's. -/
def Inode.HasKey (x : Inode ν) (ino : UInt64) (mode : UInt32) : Prop :=
  ino ≠ 0 ∧ x.ino = ino ∧ x.mode = stableMode mode

instance (x : Inode ν) (ino : UInt64) (mode : UInt32) : Decidable (x.HasKey ino mode) :=
  inferInstanceAs (Decidable (_ ∧ _ ∧ _))

/-- The operations of an inode tree with states `σ`, whose inodes the kernel names by
`ι` and embed nodes `ν`. -/
structure InodeTree (σ ι ν : Type) where
  /-- A new mount, whose root embeds the node. -/
  init : ν → σ
  /-- `FUSE_ROOT_ID`, the kernel's name of the root. -/
  root : ι
  /-- The inode the kernel names so, if there is one. -/
  inode : σ → ι → Option (Inode ν)
  /-- The inode an entry of a directory names, if there is one. -/
  child : σ → ι → String → Option ι
  /-- `Inode.Path(nil)`. -/
  path : σ → ι → String
  /-- `NewPersistentInode` of a node with a stable inode number and mode: the inode it
  hands back, and the tree. -/
  newPersistentInode : σ → ν → UInt64 → UInt32 → ι × σ
  /-- `AddChild` with `overwrite`, as go-fuse's bridge does after a node method. -/
  addChild : σ → ι → String → ι → σ
  rmChild : σ → ι → String → σ
  /-- `MvChild` with `overwrite`. -/
  mvChild : σ → ι → String → ι → String → σ
  exchangeChild : σ → ι → String → ι → String → σ

namespace InodeTree

variable (T : InodeTree σ ι ν)

/-- The laws go-fuse's tree keeps. -/
structure Lawful : Prop where
  inode_init_root : ∀ n, T.inode (T.init n) T.root = some ⟨n, 1, 0x4000⟩
  inode_init_ne : ∀ n {i}, i ≠ T.root → T.inode (T.init n) i = none
  child_init : ∀ n i name, T.child (T.init n) i name = none
  /-- When an inode has the key, `NewPersistentInode` hands back one that has it, and
  changes nothing. -/
  newPersistentInode_of_key : ∀ t node ino mode {i x}, T.inode t i = some x →
    x.HasKey ino mode → (T.newPersistentInode t node ino mode).2 = t ∧
      ∃ y, T.inode t (T.newPersistentInode t node ino mode).1 = some y ∧ y.HasKey ino mode
  /-- When none has, it hands back a new inode, which embeds the node. -/
  newPersistentInode_fresh : ∀ t node ino mode, (∀ i x, T.inode t i = some x → ¬x.HasKey ino mode) →
    T.inode t (T.newPersistentInode t node ino mode).1 = none ∧
      ∃ ino', (ino ≠ 0 → ino' = ino) ∧
        T.inode (T.newPersistentInode t node ino mode).2 (T.newPersistentInode t node ino mode).1 =
          some ⟨node, ino', stableMode mode⟩
  inode_newPersistentInode_ne : ∀ t node ino mode {i}, i ≠ (T.newPersistentInode t node ino mode).1 →
    T.inode (T.newPersistentInode t node ino mode).2 i = T.inode t i
  child_newPersistentInode : ∀ t node ino mode,
    T.child (T.newPersistentInode t node ino mode).2 = T.child t
  inode_addChild : ∀ t p name i, T.inode (T.addChild t p name i) = T.inode t
  child_addChild_self : ∀ t p name i, T.child (T.addChild t p name i) p name = some i
  child_addChild_ne : ∀ t {p name} i {q name'}, (q, name') ≠ (p, name) →
    T.child (T.addChild t p name i) q name' = T.child t q name'
  inode_rmChild : ∀ t p name, T.inode (T.rmChild t p name) = T.inode t
  child_rmChild_self : ∀ t p name, T.child (T.rmChild t p name) p name = none
  child_rmChild_ne : ∀ t {p name q name'}, (q, name') ≠ (p, name) →
    T.child (T.rmChild t p name) q name' = T.child t q name'
  inode_mvChild : ∀ t p name q name', T.inode (T.mvChild t p name q name') = T.inode t
  /-- The new name names what the old one did; with no old entry, the new one goes. -/
  child_mvChild_dest : ∀ t p name q name',
    T.child (T.mvChild t p name q name') q name' = T.child t p name
  child_mvChild_src : ∀ t {p name q name'}, (p, name) ≠ (q, name') →
    T.child (T.mvChild t p name q name') p name = none
  child_mvChild_ne : ∀ t {p name q name' r k}, (r, k) ≠ (p, name) → (r, k) ≠ (q, name') →
    T.child (T.mvChild t p name q name') r k = T.child t r k
  inode_exchangeChild : ∀ t p name q name', T.inode (T.exchangeChild t p name q name') = T.inode t
  child_exchangeChild_src : ∀ t {p name q name'}, (p, name) ≠ (q, name') →
    T.child (T.exchangeChild t p name q name') p name = T.child t q name'
  child_exchangeChild_dest : ∀ t {p name q name'}, (p, name) ≠ (q, name') →
    T.child (T.exchangeChild t p name q name') q name' = T.child t p name
  child_exchangeChild_ne : ∀ t {p name q name' r k}, (r, k) ≠ (p, name) → (r, k) ≠ (q, name') →
    T.child (T.exchangeChild t p name q name') r k = T.child t r k
  /-- `Path(nil)` is relative: names of entries, joined by `/`. -/
  path_names : ∀ t i, ∃ names, T.path t i = "/".intercalate names ∧
    ∀ name ∈ names, ∃ p j, T.child t p name = some j

/-! ### Paths of names -/

/-- The inode the names lead to from `i`. -/
def resolve (t : σ) : List String → ι → Option ι
  | [], i => some i
  | name :: names, i => (T.child t i name).bind (resolve t names)

/-- Every entry of `t` is in `t'`, naming the same inode. -/
def KeepsEntries (t t' : σ) : Prop :=
  ∀ ⦃i name j⦄, T.child t i name = some j → T.child t' i name = some j

variable {T}

theorem resolve_append (t : σ) (p q : List String) (i : ι) :
    T.resolve t (p ++ q) i = (T.resolve t p i).bind (T.resolve t q) := by
  induction p generalizing i with
  | nil => rfl
  | cons name p ih =>
    simp only [List.cons_append, resolve]
    cases T.child t i name with
    | none => rfl
    | some j => exact ih j

theorem resolve_concat {t : σ} {p : List String} {i j : ι} (hp : T.resolve t p i = some j)
    (name : String) : T.resolve t (p ++ [name]) i = T.child t j name := by
  rw [resolve_append, hp, Option.bind_some]
  simp [resolve]

theorem KeepsEntries.resolve {t t' : σ} (h : T.KeepsEntries t t') {p : List String} {i j : ι}
    (hp : T.resolve t p i = some j) : T.resolve t' p i = some j := by
  induction p generalizing i with
  | nil => exact hp
  | cons name p ih =>
    obtain ⟨k, hk, hrest⟩ := Option.bind_eq_some_iff.mp hp
    exact Option.bind_eq_some_iff.mpr ⟨k, h hk, ih hrest⟩

/-- In a tree whose one entry is `name` of `p`, naming an inode `i ≠ p`, the names that
lead from `p` to `i` are `[name]`. -/
theorem eq_of_resolve_single {t : σ} {p i : ι} {name : String} (hne : i ≠ p)
    (hent : ∀ q n j, T.child t q n = some j → q = p ∧ n = name ∧ j = i) {names : List String}
    (h : T.resolve t names p = some i) : names = [name] := by
  cases names with
  | nil =>
    rw [resolve, Option.some_inj] at h
    exact absurd h.symm hne
  | cons n rest =>
    rw [resolve] at h
    obtain ⟨j, hj, hrest⟩ := Option.bind_eq_some_iff.mp h
    obtain ⟨-, rfl, rfl⟩ := hent p n j hj
    cases rest with
    | nil => rfl
    | cons n' rest' =>
      rw [resolve] at hrest
      obtain ⟨k, hk, -⟩ := Option.bind_eq_some_iff.mp hrest
      exact absurd (hent _ _ _ hk).1 hne

/-! ### What the operations do to the entries -/

variable (T)

/-- `t'` is `t` without the entry `name` of `p`. -/
def Removed (t t' : σ) (p : ι) (name : String) : Prop :=
  T.child t' p name = none ∧ ∀ q name', (q, name') ≠ (p, name) → T.child t' q name' = T.child t q name'

/-- `t'` is `t` with the entry `name` of `p` moved to `name'` of `q`. -/
def Moved (t t' : σ) (p : ι) (name : String) (q : ι) (name' : String) : Prop :=
  T.child t' q name' = T.child t p name ∧ T.child t' p name = none ∧
    ∀ r k, (r, k) ≠ (p, name) → (r, k) ≠ (q, name') → T.child t' r k = T.child t r k

/-- `t'` is `t` with the entries `name` of `p` and `name'` of `q` swapped. -/
def Swapped (t t' : σ) (p : ι) (name : String) (q : ι) (name' : String) : Prop :=
  T.child t' p name = T.child t q name' ∧ T.child t' q name' = T.child t p name ∧
    ∀ r k, (r, k) ≠ (p, name) → (r, k) ≠ (q, name') → T.child t' r k = T.child t r k

variable {T}

namespace Lawful

variable (hT : T.Lawful)
include hT

theorem removed_rmChild (t : σ) (p : ι) (name : String) : T.Removed t (T.rmChild t p name) p name :=
  ⟨hT.child_rmChild_self t p name, fun _ _ hne => hT.child_rmChild_ne t hne⟩

theorem moved_mvChild {p q : ι} {name name' : String} (hne : (p, name) ≠ (q, name')) (t : σ) :
    T.Moved t (T.mvChild t p name q name') p name q name' :=
  ⟨hT.child_mvChild_dest t p name q name', hT.child_mvChild_src t hne,
    fun _ _ hp hq => hT.child_mvChild_ne t hp hq⟩

theorem swapped_exchangeChild {p q : ι} {name name' : String} (hne : (p, name) ≠ (q, name'))
    (t : σ) : T.Swapped t (T.exchangeChild t p name q name') p name q name' :=
  ⟨hT.child_exchangeChild_src t hne, hT.child_exchangeChild_dest t hne,
    fun _ _ hp hq => hT.child_exchangeChild_ne t hp hq⟩

/-- An entry after `AddChild` was there before, or has the name it added. -/
theorem child_addChild_cases {t : σ} {p : ι} {name : String} {i q j : ι} {n : String}
    (h : T.child (T.addChild t p name i) q n = some j) : T.child t q n = some j ∨ n = name := by
  by_cases hq : (q, n) = (p, name)
  · exact .inr (Prod.mk.inj hq).2
  · rw [hT.child_addChild_ne t i hq] at h
    exact .inl h

theorem child_rmChild_cases {t : σ} {p : ι} {name : String} {q j : ι} {n : String}
    (h : T.child (T.rmChild t p name) q n = some j) : T.child t q n = some j := by
  by_cases hq : (q, n) = (p, name)
  · rw [Prod.mk.inj hq |>.1, Prod.mk.inj hq |>.2, hT.child_rmChild_self] at h
    cases h
  · rwa [hT.child_rmChild_ne t hq] at h

theorem child_mvChild_cases {t : σ} {p q : ι} {name name' : String} {r j : ι} {k : String}
    (h : T.child (T.mvChild t p name q name') r k = some j) : T.child t r k = some j ∨ k = name' := by
  by_cases hq : (r, k) = (q, name')
  · exact .inr (Prod.mk.inj hq).2
  by_cases hp : (r, k) = (p, name)
  · -- the old name of a real move has no entry left
    rw [Prod.mk.inj hp |>.1, Prod.mk.inj hp |>.2, hT.child_mvChild_src t (hp ▸ hq)] at h
    cases h
  · rw [hT.child_mvChild_ne t hp hq] at h
    exact .inl h

theorem child_exchangeChild_cases {t : σ} {p q : ι} {name name' : String} {r j : ι} {k : String}
    (h : T.child (T.exchangeChild t p name q name') r k = some j) :
    T.child t r k = some j ∨ k = name ∨ k = name' := by
  by_cases hp : (r, k) = (p, name)
  · exact .inr (.inl (Prod.mk.inj hp).2)
  by_cases hq : (r, k) = (q, name')
  · exact .inr (.inr (Prod.mk.inj hq).2)
  rw [hT.child_exchangeChild_ne t hp hq] at h
  exact .inl h

/-- **What `NewPersistentInode` leaves.** Every inode after it was there before, but
the one it hands back, which may be new and then embeds the node. -/
theorem inode_newPersistentInode {t : σ} {node : ν} {ino : UInt64} {mode : UInt32} {i : ι}
    {x : Inode ν} (h : T.inode (T.newPersistentInode t node ino mode).2 i = some x) :
    T.inode t i = some x ∨ (i = (T.newPersistentInode t node ino mode).1 ∧ x.node = node) := by
  by_cases hi : i = (T.newPersistentInode t node ino mode).1
  · by_cases hkey : ∃ j y, T.inode t j = some y ∧ y.HasKey ino mode
    · -- an inode has the key: nothing changes
      obtain ⟨j, y, hj, hy⟩ := hkey
      rw [(hT.newPersistentInode_of_key t node ino mode hj hy).1] at h
      exact .inl h
    · simp only [not_exists, not_and] at hkey
      obtain ⟨-, ino', -, hnew⟩ := hT.newPersistentInode_fresh t node ino mode hkey
      rw [← hi, h, Option.some_inj] at hnew
      exact .inr ⟨hi, by rw [hnew]⟩
  · rw [hT.inode_newPersistentInode_ne t node ino mode hi] at h
    exact .inl h

/-- A new mount has only its root, whose inode number is `1`: no inode has another key. -/
theorem not_hasKey_init {n : ν} {j : ι} {y : Inode ν} (hy : T.inode (T.init n) j = some y)
    {ino : UInt64} (hino : ino ≠ 1) (mode : UInt32) : ¬y.HasKey ino mode := by
  intro hkey
  by_cases hj : j = T.root
  · rw [hj, hT.inode_init_root, Option.some_inj] at hy
    exact hino (hy ▸ hkey.2.1).symm
  · rw [hT.inode_init_ne n hj] at hy
    cases hy

/-- When one inode only has the key, `NewPersistentInode` hands it back. -/
theorem newPersistentInode_of_unique {t : σ} {i : ι} {x : Inode ν} {ino : UInt64} {mode : UInt32}
    (hi : T.inode t i = some x) (hx : x.HasKey ino mode)
    (huniq : ∀ j y, T.inode t j = some y → y.HasKey ino mode → j = i) (node : ν) :
    T.newPersistentInode t node ino mode = (i, t) := by
  obtain ⟨ht, y, hy, hkey⟩ := hT.newPersistentInode_of_key t node ino mode hi hx
  exact Prod.ext (huniq _ y hy hkey) ht

/-- **`Path(nil)` is relative** in a tree whose entries have names such as the kernel
sends: not empty, and not rooted. -/
theorem not_rooted_path {t : σ}
    (hnames : ∀ i name j, T.child t i name = some j → name ≠ "" ∧ ¬GoPath.Rooted name) (i : ι) :
    ¬GoPath.Rooted (T.path t i) := by
  obtain ⟨names, hpath, hmem⟩ := hT.path_names t i
  rw [hpath]
  apply GoPath.not_rooted_intercalate
  intro name hname
  obtain ⟨p, j, hj⟩ := hmem name hname
  exact hnames p name j hj

end Lawful

end InodeTree

/-! ### A table that keeps the laws -/

/-- Inodes by node id and entries by parent and name, with the next node id and the next
automatic inode number; every inode's id is below the next one. -/
structure InodeTable (ν : Type) where
  inodes : AList (fun _ : ℕ => Inode ν)
  entries : AList (fun _ : ℕ × String => ℕ)
  nextId : ℕ
  nextAuto : UInt64
  ids_lt : ∀ i ∈ inodes, i < nextId

namespace InodeTable

/-- The table of a new mount: the root, as node `1`. Automatic inode numbers start at
`1 << 63`. -/
def init (n : ν) : InodeTable ν where
  inodes := (∅ : AList fun _ : ℕ => Inode ν).insert 1 ⟨n, 1, 0x4000⟩
  entries := ∅
  nextId := 2
  nextAuto := (1 : UInt64) <<< 63
  ids_lt i hi := by
    rcases (AList.mem_insert _).mp hi with rfl | hi
    · decide
    · exact absurd hi (AList.notMem_empty i)

/-- A new inode under the next node id. -/
def addInode (t : InodeTable ν) (x : Inode ν) (nextAuto : UInt64) : InodeTable ν where
  inodes := t.inodes.insert t.nextId x
  entries := t.entries
  nextId := t.nextId + 1
  nextAuto := nextAuto
  ids_lt i hi := by
    rcases (AList.mem_insert _).mp hi with rfl | hi
    · exact Nat.lt_succ_self _
    · exact Nat.lt_succ_of_lt (t.ids_lt i hi)

/-- The inode with the key, if any; else a new one, on the next automatic number when
the stable one is `0`. -/
def newPersistentInode (t : InodeTable ν) (node : ν) (ino : UInt64) (mode : UInt32) :
    ℕ × InodeTable ν :=
  match t.inodes.entries.find? (fun e => decide (e.2.HasKey ino mode)) with
  | some e => (e.1, t)
  | none =>
    if ino = 0 then (t.nextId, t.addInode ⟨node, t.nextAuto, stableMode mode⟩ (t.nextAuto + 1))
    else (t.nextId, t.addInode ⟨node, ino, stableMode mode⟩ t.nextAuto)

def mvChild (t : InodeTable ν) (p : ℕ) (name : String) (q : ℕ) (name' : String) :
    InodeTable ν :=
  let detached := (t.entries.erase (p, name)).erase (q, name')
  match t.entries.lookup (p, name) with
  | some i => { t with entries := detached.insert (q, name') i }
  | none => { t with entries := detached }

def exchangeChild (t : InodeTable ν) (p : ℕ) (name : String) (q : ℕ) (name' : String) :
    InodeTable ν :=
  let detached := (t.entries.erase (p, name)).erase (q, name')
  let withDest := match t.entries.lookup (q, name') with
    | some j => detached.insert (p, name) j
    | none => detached
  let withOld := match t.entries.lookup (p, name) with
    | some i => withDest.insert (q, name') i
    | none => withDest
  { t with entries := withOld }

/-- The names from an inode up to one that no entry names, along the first entry naming
each, at most `fuel` levels. -/
def pathNames (t : InodeTable ν) : ℕ → ℕ → List String
  | 0, _ => []
  | fuel + 1, i =>
    match t.entries.entries.find? (fun e => e.2 = i) with
    | none => []
    | some e => t.pathNames fuel e.1.1 ++ [e.1.2]

/-- The table as an inode tree. -/
def tree : InodeTree (InodeTable ν) ℕ ν where
  init := init
  root := 1
  inode t i := t.inodes.lookup i
  child t i name := t.entries.lookup (i, name)
  path t i := "/".intercalate (t.pathNames t.entries.entries.length i)
  newPersistentInode := newPersistentInode
  addChild t p name i := { t with entries := t.entries.insert (p, name) i }
  rmChild t p name := { t with entries := t.entries.erase (p, name) }
  mvChild := mvChild
  exchangeChild := exchangeChild

theorem lookup_nextId (t : InodeTable ν) : t.inodes.lookup t.nextId = none :=
  AList.lookup_eq_none.mpr fun h => lt_irrefl _ (t.ids_lt _ h)

theorem mem_pathNames {t : InodeTable ν} {fuel i : ℕ} {name : String}
    (h : name ∈ t.pathNames fuel i) : ∃ e ∈ t.entries.entries, e.1.2 = name := by
  induction fuel generalizing i with
  | zero => simp [pathNames] at h
  | succ fuel ih =>
    rw [pathNames] at h
    split at h
    · simp at h
    · rename_i e he
      rcases List.mem_append.mp h with h | h
      · exact ih h
      · exact ⟨e, List.mem_of_find?_eq_some he, (List.mem_singleton.mp h).symm⟩

section Lawful

variable {t : InodeTable ν} {node : ν} {ino : UInt64} {mode : UInt32}

theorem newPersistentInode_of_find {e : (_ : ℕ) × Inode ν}
    (he : t.inodes.entries.find? (fun e => decide (e.2.HasKey ino mode)) = some e) :
    t.newPersistentInode node ino mode = (e.1, t) := by
  rw [newPersistentInode, he]

theorem newPersistentInode_of_find_none
    (he : t.inodes.entries.find? (fun e => decide (e.2.HasKey ino mode)) = none) :
    t.newPersistentInode node ino mode =
      (t.nextId, t.addInode ⟨node, if ino = 0 then t.nextAuto else ino, stableMode mode⟩
        (if ino = 0 then t.nextAuto + 1 else t.nextAuto)) := by
  rw [newPersistentInode, he]
  split_ifs <;> rfl

theorem entries_newPersistentInode : (t.newPersistentInode node ino mode).2.entries = t.entries := by
  cases he : t.inodes.entries.find? (fun e => decide (e.2.HasKey ino mode)) with
  | some e => rw [newPersistentInode_of_find he]
  | none => rw [newPersistentInode_of_find_none he]; rfl

theorem lookup_newPersistentInode_ne {i : ℕ} (hi : i ≠ (t.newPersistentInode node ino mode).1) :
    (t.newPersistentInode node ino mode).2.inodes.lookup i = t.inodes.lookup i := by
  cases he : t.inodes.entries.find? (fun e => decide (e.2.HasKey ino mode)) with
  | some e => rw [newPersistentInode_of_find he]
  | none =>
    rw [newPersistentInode_of_find_none he] at hi ⊢
    exact AList.lookup_insert_ne hi

theorem lookup_mvChild_dest (p : ℕ) (name : String) (q : ℕ) (name' : String) :
    (t.mvChild p name q name').entries.lookup (q, name') = t.entries.lookup (p, name) := by
  unfold mvChild
  split
  · rename_i i hi
    rw [AList.lookup_insert, hi]
  · rename_i hi
    rw [AList.lookup_erase, hi]

theorem lookup_mvChild_ne {p q r : ℕ} {name name' k : String} (hp : (r, k) ≠ (p, name))
    (hq : (r, k) ≠ (q, name')) :
    (t.mvChild p name q name').entries.lookup (r, k) = t.entries.lookup (r, k) := by
  unfold mvChild
  split <;> simp only [AList.lookup_insert_ne hq, AList.lookup_erase_ne hq, AList.lookup_erase_ne hp]

theorem lookup_mvChild_src {p q : ℕ} {name name' : String} (hne : (p, name) ≠ (q, name')) :
    (t.mvChild p name q name').entries.lookup (p, name) = none := by
  unfold mvChild
  split <;> simp only [AList.lookup_insert_ne hne, AList.lookup_erase_ne hne, AList.lookup_erase]

theorem lookup_exchangeChild_ne {p q r : ℕ} {name name' k : String} (hp : (r, k) ≠ (p, name))
    (hq : (r, k) ≠ (q, name')) :
    (t.exchangeChild p name q name').entries.lookup (r, k) = t.entries.lookup (r, k) := by
  unfold exchangeChild
  split <;> split <;>
    simp only [AList.lookup_insert_ne hp, AList.lookup_insert_ne hq, AList.lookup_erase_ne hp,
      AList.lookup_erase_ne hq]

theorem lookup_exchangeChild_src {p q : ℕ} {name name' : String} (hne : (p, name) ≠ (q, name')) :
    (t.exchangeChild p name q name').entries.lookup (p, name) = t.entries.lookup (q, name') := by
  unfold exchangeChild
  split <;> split <;> rename_i hj _ _ <;>
    simp_all only [AList.lookup_insert_ne hne, AList.lookup_insert, AList.lookup_erase_ne hne,
      AList.lookup_erase]

theorem lookup_exchangeChild_dest {p q : ℕ} {name name' : String} (hne : (p, name) ≠ (q, name')) :
    (t.exchangeChild p name q name').entries.lookup (q, name') = t.entries.lookup (p, name) := by
  unfold exchangeChild
  split <;> split <;> rename_i hi _ _ <;>
    simp_all only [AList.lookup_insert_ne (Ne.symm hne), AList.lookup_insert, AList.lookup_erase]

end Lawful

/-- **The table keeps go-fuse's laws.** -/
theorem lawful : (tree (ν := ν)).Lawful where
  inode_init_root n := by
    change ((∅ : AList fun _ : ℕ => Inode ν).insert 1 ⟨n, 1, 0x4000⟩).lookup 1 = _
    exact AList.lookup_insert _
  inode_init_ne n i hi := by
    change ((∅ : AList fun _ : ℕ => Inode ν).insert 1 ⟨n, 1, 0x4000⟩).lookup i = none
    rw [AList.lookup_insert_ne (show i ≠ 1 from hi), AList.lookup_empty]
  child_init n i name := AList.lookup_empty (β := fun _ : ℕ × String => ℕ) (i, name)
  newPersistentInode_of_key t node ino mode i x hi hx := by
    have hsome : (t.inodes.entries.find? (fun e => decide (e.2.HasKey ino mode))).isSome :=
      List.find?_isSome.mpr ⟨⟨i, x⟩, AList.mem_lookup_iff.mp hi, decide_eq_true hx⟩
    obtain ⟨e, he⟩ := Option.isSome_iff_exists.mp hsome
    change (t.newPersistentInode node ino mode).2 = t ∧
      ∃ y, t.inodes.lookup (t.newPersistentInode node ino mode).1 = some y ∧ y.HasKey ino mode
    rw [newPersistentInode_of_find he]
    have hkey := List.find?_some he
    exact ⟨rfl, e.2, AList.mem_lookup_iff.mpr (List.mem_of_find?_eq_some he), of_decide_eq_true hkey⟩
  newPersistentInode_fresh t node ino mode hnone := by
    have he : t.inodes.entries.find? (fun e => decide (e.2.HasKey ino mode)) = none :=
      List.find?_eq_none.mpr fun e he =>
        decide_eq_false (hnone e.1 e.2 (AList.mem_lookup_iff.mpr he)) ▸ Bool.false_ne_true
    change t.inodes.lookup (t.newPersistentInode node ino mode).1 = none ∧
      ∃ ino', (ino ≠ 0 → ino' = ino) ∧ (t.newPersistentInode node ino mode).2.inodes.lookup
        (t.newPersistentInode node ino mode).1 = some ⟨node, ino', stableMode mode⟩
    rw [newPersistentInode_of_find_none he]
    exact ⟨lookup_nextId t, _, fun h => if_neg h, AList.lookup_insert _⟩
  inode_newPersistentInode_ne _ _ _ _ _ hi := lookup_newPersistentInode_ne hi
  child_newPersistentInode t node ino mode := by
    funext i name
    change (t.newPersistentInode node ino mode).2.entries.lookup (i, name) = t.entries.lookup (i, name)
    rw [entries_newPersistentInode]
  inode_addChild _ _ _ _ := rfl
  child_addChild_self _ _ _ _ := AList.lookup_insert _
  child_addChild_ne _ _ _ _ _ _ hne := AList.lookup_insert_ne hne
  inode_rmChild _ _ _ := rfl
  child_rmChild_self _ _ _ := AList.lookup_erase _ _
  child_rmChild_ne _ _ _ _ _ hne := AList.lookup_erase_ne hne
  inode_mvChild t p name q name' := by
    change (t.mvChild p name q name').inodes.lookup = t.inodes.lookup
    unfold mvChild
    split <;> rfl
  child_mvChild_dest _ p name q name' := lookup_mvChild_dest p name q name'
  child_mvChild_src _ _ _ _ _ hne := lookup_mvChild_src hne
  child_mvChild_ne _ _ _ _ _ _ _ hp hq := lookup_mvChild_ne hp hq
  inode_exchangeChild _ _ _ _ _ := rfl
  child_exchangeChild_src _ _ _ _ _ hne := lookup_exchangeChild_src hne
  child_exchangeChild_dest _ _ _ _ _ hne := lookup_exchangeChild_dest hne
  child_exchangeChild_ne _ _ _ _ _ _ _ hp hq := lookup_exchangeChild_ne hp hq
  path_names t i := by
    refine ⟨t.pathNames t.entries.entries.length i, rfl, fun name hname => ?_⟩
    obtain ⟨e, he, rfl⟩ := mem_pathNames hname
    exact ⟨e.1.1, e.2, AList.mem_lookup_iff.mpr he⟩

end InodeTable

end GoFuse
