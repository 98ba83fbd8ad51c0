import Mathlib.Data.List.Nodup

/-!
# The life of a resource

A resource a program opens, uses and closes (a file, a descriptor, a lock) has a
protocol: it is opened once, used and closed only while it is open, and closed at most
once. `Lifecycle.History` is what has happened so far, the resources opened and those
closed, in order; `Lifecycle.History.Follows` says that a sequence of events keeps to
the protocol from a history.

A program is shown to keep to it by simulation: its state gives a history, and the
events of each step follow from the history before it and lead to the history after
it. `Lifecycle.History.follows_append` chains the steps of a run, and every history so
reached from the empty one is well formed (`Lifecycle.History.WF.recordAll`): nothing
opened twice, nothing closed twice, nothing closed that was not opened.

The history after a sequence of events has a closed form
(`Lifecycle.History.recordAll_eq`). Closing distinct live resources one after another
keeps to the protocol (`Lifecycle.History.follows_map_release`), and so does using live
resources, which changes nothing (`Lifecycle.History.follows_of_uses`).
-/

namespace Lifecycle

/-- What happens to a resource. -/
inductive Event (ρ : Type)
  /-- It is opened. -/
  | acquire (r : ρ)
  /-- It is used. -/
  | use (r : ρ)
  /-- It is closed. -/
  | release (r : ρ)
  deriving DecidableEq, Repr

variable {ρ : Type}

/-- The resource an event opens. -/
def Event.acquired? : Event ρ → Option ρ
  | .acquire r => some r
  | .use _ | .release _ => none

/-- The resource an event closes. -/
def Event.released? : Event ρ → Option ρ
  | .release r => some r
  | .acquire _ | .use _ => none

/-- The resources opened and those closed so far, in order. -/
structure History (ρ : Type) where
  acquired : List ρ
  released : List ρ
  deriving DecidableEq, Repr

namespace History

/-- A resource that was opened and is not closed. -/
def Live (h : History ρ) (r : ρ) : Prop :=
  r ∈ h.acquired ∧ r ∉ h.released

/-- The protocol, one event at a time: a resource is opened only if it never was, and
used or closed only while it is live. -/
def Allows (h : History ρ) : Event ρ → Prop
  | .acquire r => r ∉ h.acquired
  | .use r => h.Live r
  | .release r => h.Live r

/-- The history after one more event. -/
def record (h : History ρ) : Event ρ → History ρ
  | .acquire r => ⟨h.acquired ++ [r], h.released⟩
  | .use _ => h
  | .release r => ⟨h.acquired, h.released ++ [r]⟩

/-- The history after a sequence of events. -/
def recordAll (h : History ρ) (es : List (Event ρ)) : History ρ :=
  es.foldl record h

/-- Events that keep to the protocol from `h`: each allowed by the history before it. -/
def Follows : History ρ → List (Event ρ) → Prop
  | _, [] => True
  | h, e :: es => h.Allows e ∧ (h.record e).Follows es

@[simp] theorem follows_nil (h : History ρ) : h.Follows [] :=
  trivial

@[simp] theorem follows_cons (h : History ρ) (e : Event ρ) (es : List (Event ρ)) :
    h.Follows (e :: es) ↔ h.Allows e ∧ (h.record e).Follows es :=
  Iff.rfl

@[simp] theorem recordAll_nil (h : History ρ) : h.recordAll [] = h :=
  rfl

@[simp] theorem recordAll_cons (h : History ρ) (e : Event ρ) (es : List (Event ρ)) :
    h.recordAll (e :: es) = (h.record e).recordAll es :=
  rfl

/-- **Runs chain**: the events of two stretches keep to the protocol when the first
does, and the second does from the history the first leads to. -/
theorem follows_append {h : History ρ} {es es' : List (Event ρ)} :
    h.Follows (es ++ es') ↔ h.Follows es ∧ (h.recordAll es).Follows es' := by
  induction es generalizing h with
  | nil => simp
  | cons e es ih => simp only [List.cons_append, follows_cons, ih, recordAll_cons, and_assoc]

/-- The history after events: what they open and what they close, appended. -/
theorem recordAll_eq (h : History ρ) (es : List (Event ρ)) :
    h.recordAll es = ⟨h.acquired ++ es.filterMap Event.acquired?,
      h.released ++ es.filterMap Event.released?⟩ := by
  induction es generalizing h with
  | nil => simp
  | cons e es ih =>
    rw [recordAll_cons, ih]
    cases e <;> simp [record, Event.acquired?, Event.released?, List.filterMap_cons]

/-! ### Well-formed histories -/

/-- What every history reached from the empty one by keeping to the protocol
satisfies: no resource opened twice or closed twice, and only opened ones closed. -/
structure WF (h : History ρ) : Prop where
  acquired_nodup : h.acquired.Nodup
  released_nodup : h.released.Nodup
  released_acquired : ∀ r ∈ h.released, r ∈ h.acquired

theorem wf_empty : (⟨[], []⟩ : History ρ).WF :=
  ⟨List.nodup_nil, List.nodup_nil, fun _ h => absurd h List.not_mem_nil⟩

/-- Opening a resource keeps every live one live. -/
theorem Live.record_acquire {h : History ρ} {r s : ρ} (hs : h.Live s) :
    (h.record (.acquire r)).Live s :=
  ⟨List.mem_append_left _ hs.1, hs.2⟩

/-- A resource opened and never closed is live. -/
theorem live_record_acquire_self {h : History ρ} {r : ρ} (hr : r ∉ h.released) :
    (h.record (.acquire r)).Live r :=
  ⟨List.mem_append_right _ (List.mem_singleton_self r), hr⟩

/-- What is live after opening `r` is `r` or was live before. -/
theorem Live.of_record_acquire {h : History ρ} {r s : ρ} (hs : (h.record (.acquire r)).Live s) :
    h.Live s ∨ s = r := by
  rcases List.mem_append.mp hs.1 with hmem | hmem
  · exact .inl ⟨hmem, hs.2⟩
  · exact .inr (List.mem_singleton.mp hmem)

/-- Closing `r` keeps every other live resource live. -/
theorem Live.record_release {h : History ρ} {r s : ρ} (hs : h.Live s) (hne : s ≠ r) :
    (h.record (.release r)).Live s :=
  ⟨hs.1, fun hmem => (List.mem_append.mp hmem).elim hs.2 fun h' => hne (List.mem_singleton.mp h')⟩

/-- What is live after a close was live before. -/
theorem Live.of_record_release {h : History ρ} {r s : ρ} (hs : (h.record (.release r)).Live s) :
    h.Live s :=
  ⟨hs.1, fun hmem => hs.2 (List.mem_append_left _ hmem)⟩

/-- One allowed event keeps a history well formed. -/
theorem WF.record {h : History ρ} {e : Event ρ} (hw : h.WF) (ha : h.Allows e) :
    (h.record e).WF := by
  cases e with
  | acquire r =>
    refine ⟨List.nodup_append.mpr ⟨hw.acquired_nodup, List.nodup_singleton r, ?_⟩,
      hw.released_nodup, fun s hs => List.mem_append_left _ (hw.released_acquired s hs)⟩
    -- the new resource was never opened
    rintro a ha' b hb rfl
    rw [List.mem_singleton] at hb
    exact (ha : r ∉ h.acquired) (hb ▸ ha')
  | use r => exact hw
  | release r =>
    obtain ⟨hacq, hrel⟩ := (ha : h.Live r)
    refine ⟨hw.acquired_nodup, List.nodup_append.mpr ⟨hw.released_nodup,
      List.nodup_singleton r, ?_⟩, fun s hs => ?_⟩
    · rintro a ha' b hb rfl
      rw [List.mem_singleton] at hb
      exact hrel (hb ▸ ha')
    · rcases List.mem_append.mp hs with hs | hs
      · exact hw.released_acquired s hs
      · rw [List.mem_singleton] at hs
        exact hs ▸ hacq

/-- **Keeping to the protocol keeps a history well formed.** -/
theorem WF.recordAll {h : History ρ} {es : List (Event ρ)} (hw : h.WF) (hf : h.Follows es) :
    (h.recordAll es).WF := by
  induction es generalizing h with
  | nil => exact hw
  | cons e es ih => exact ih (hw.record hf.1) hf.2

/-! ### Stretches of one kind -/

/-- Closing distinct live resources one after another keeps to the protocol: each
stays live until its own turn. -/
theorem follows_map_release {h : History ρ} {rs : List ρ} (hnd : rs.Nodup)
    (hlive : ∀ r ∈ rs, h.Live r) : h.Follows (rs.map .release) := by
  induction rs generalizing h with
  | nil => trivial
  | cons r rs ih =>
    rw [List.nodup_cons] at hnd
    refine ⟨hlive r List.mem_cons_self, ih hnd.2 fun s hs => ?_⟩
    -- only `r` was closed, and `s` is another resource
    obtain ⟨hacq, hrel⟩ := hlive s (List.mem_cons_of_mem _ hs)
    have hsr : s ≠ r := fun hsr => hnd.1 (hsr ▸ hs)
    refine ⟨hacq, fun hmem => ?_⟩
    rcases List.mem_append.mp hmem with hmem | hmem
    · exact hrel hmem
    · exact hsr (List.mem_singleton.mp hmem)

/-- Using live resources keeps to the protocol. -/
theorem follows_of_uses {h : History ρ} {es : List (Event ρ)}
    (hes : ∀ e ∈ es, ∃ r, e = .use r ∧ h.Live r) : h.Follows es := by
  induction es with
  | nil => trivial
  | cons e es ih =>
    obtain ⟨r, rfl, hr⟩ := hes e List.mem_cons_self
    exact ⟨hr, ih fun e' he' => hes e' (List.mem_cons_of_mem _ he')⟩

/-- Uses leave the history as it is. -/
theorem recordAll_of_uses {h : History ρ} {es : List (Event ρ)}
    (hes : ∀ e ∈ es, ∃ r, e = .use r) : h.recordAll es = h := by
  induction es with
  | nil => rfl
  | cons e es ih =>
    obtain ⟨r, rfl⟩ := hes e List.mem_cons_self
    exact ih fun e' he' => hes e' (List.mem_cons_of_mem _ he')

end History

end Lifecycle
