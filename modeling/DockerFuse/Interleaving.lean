import Mathlib.Data.List.Basic

/-!
# Threads interleaved over a shared state

A program whose threads share memory runs as one of the interleavings of their
atomic steps. `Interleaving.Threads` gives every thread one step function, from its
own local state and the shared state; a world holds the shared state and each
thread's local state, by number. `Interleaving.Threads.tick` lets one thread take its
next step, and `Interleaving.Threads.run` follows a schedule, a list of thread
numbers: every interleaving of the threads' steps is the run of some schedule.

A step leaves every other thread as it was (`Interleaving.Threads.getElem?_tick_ne`),
and what no step changes of a thread stays (`Interleaving.Threads.map_run`). Schedules
compose (`Interleaving.Threads.run_append`), and what every step keeps holds after every
schedule (`Interleaving.Threads.run_inv`). When each step is matched by a run of another
system of threads, so is every run (`Interleaving.Threads.simulate`). A thread that runs
alone takes its own steps (`Interleaving.Threads.run_replicate`).
-/

namespace Interleaving

variable {σ τ : Type}

/-- Threads with local states in `τ` over a shared state `σ`: `step` is one atomic
step of a thread, with what it leaves of its local state and of the shared one. -/
structure Threads (σ τ : Type) where
  step : τ → σ → τ × σ

/-- The shared state and every thread's local state. -/
structure World (σ τ : Type) where
  shared : σ
  threads : List τ

namespace Threads

variable (T : Threads σ τ)

/-- Thread `i` takes its next step; a number with no thread changes nothing. -/
def tick (w : World σ τ) (i : ℕ) : World σ τ :=
  match w.threads[i]? with
  | none => w
  | some t => ⟨(T.step t w.shared).2, w.threads.set i (T.step t w.shared).1⟩

/-- The world after the threads step in the order of the schedule. -/
def run (w : World σ τ) (sched : List ℕ) : World σ τ :=
  sched.foldl T.tick w

/-- A thread's steps when it runs alone: its local state and the shared one after
`n` of them. -/
def stepN (t : τ) (s : σ) : ℕ → τ × σ
  | 0 => (t, s)
  | n + 1 => stepN (T.step t s).1 (T.step t s).2 n

variable {T}

@[simp] theorem run_nil (w : World σ τ) : T.run w [] = w :=
  rfl

@[simp] theorem run_cons (w : World σ τ) (i : ℕ) (sched : List ℕ) :
    T.run w (i :: sched) = T.run (T.tick w i) sched :=
  rfl

theorem run_append (w : World σ τ) (s₁ s₂ : List ℕ) :
    T.run w (s₁ ++ s₂) = T.run (T.run w s₁) s₂ :=
  List.foldl_append

theorem tick_of_getElem? {w : World σ τ} {i : ℕ} {t : τ} (h : w.threads[i]? = some t) :
    T.tick w i = ⟨(T.step t w.shared).2, w.threads.set i (T.step t w.shared).1⟩ := by
  rw [tick, h]

theorem tick_of_getElem?_none {w : World σ τ} {i : ℕ} (h : w.threads[i]? = none) :
    T.tick w i = w := by
  rw [tick, h]

/-- The first thread steps. -/
@[simp] theorem tick_cons_zero (s : σ) (t : τ) (ts : List τ) :
    T.tick ⟨s, t :: ts⟩ 0 = ⟨(T.step t s).2, (T.step t s).1 :: ts⟩ :=
  rfl

/-- A later thread steps: the first one is left as it is. -/
@[simp] theorem tick_cons_succ (s : σ) (t : τ) (ts : List τ) (i : ℕ) :
    T.tick ⟨s, t :: ts⟩ (i + 1) = ⟨(T.tick ⟨s, ts⟩ i).shared, t :: (T.tick ⟨s, ts⟩ i).threads⟩ := by
  unfold tick
  rw [List.getElem?_cons_succ]
  cases ts[i]? <;> rfl

/-- The thread that stepped holds its new local state. -/
theorem getElem?_tick_self {w : World σ τ} {i : ℕ} {t : τ} (h : w.threads[i]? = some t) :
    (T.tick w i).threads[i]? = some (T.step t w.shared).1 := by
  rw [tick_of_getElem? h]
  exact List.getElem?_set_self (List.getElem?_eq_some_iff.mp h).1

/-- **Frame rule**: a step leaves every other thread's local state as it was. -/
theorem getElem?_tick_ne (w : World σ τ) {i j : ℕ} (hij : i ≠ j) :
    (T.tick w i).threads[j]? = w.threads[j]? := by
  cases h : w.threads[i]? with
  | none => rw [tick_of_getElem?_none h]
  | some t => rw [tick_of_getElem? h, List.getElem?_set_ne hij]

/-- A thread after a step: the one that stepped holds its new local state, every other
one what it held. -/
theorem getElem?_tick_cases {w : World σ τ} {i j : ℕ} {t x : τ} (h : w.threads[i]? = some t)
    (hx : (T.tick w i).threads[j]? = some x) :
    (j = i ∧ x = (T.step t w.shared).1) ∨ (j ≠ i ∧ w.threads[j]? = some x) := by
  by_cases hji : j = i
  · subst hji
    rw [getElem?_tick_self h, Option.some_inj] at hx
    exact .inl ⟨rfl, hx.symm⟩
  · rw [getElem?_tick_ne w (Ne.symm hji)] at hx
    exact .inr ⟨hji, hx⟩

/-- **The invariant rule**: what every step of every thread keeps holds after every
schedule. -/
theorem run_inv (P : World σ τ → Prop) (hstep : ∀ w i, P w → P (T.tick w i)) {w : World σ τ}
    (hw : P w) (sched : List ℕ) : P (T.run w sched) := by
  induction sched generalizing w with
  | nil => exact hw
  | cons i sched ih => exact ih (hstep w i hw)

/-- **Simulation**: when each step of `T` from a world related to a world of `T'` is
matched by a schedule of `T'` that reaches a related world, so is every run of `T`. -/
theorem simulate {σ' τ' : Type} {T' : Threads σ' τ'} (R : World σ τ → World σ' τ' → Prop)
    (hstep : ∀ w w' i, R w w' → ∃ l, R (T.tick w i) (T'.run w' l)) {w : World σ τ}
    {w' : World σ' τ'} (hw : R w w') (sched : List ℕ) :
    ∃ sched', R (T.run w sched) (T'.run w' sched') := by
  induction sched generalizing w w' with
  | nil => exact ⟨[], hw⟩
  | cons i sched ih =>
    -- the step first, then the rest of the run from the matched world
    obtain ⟨l, hl⟩ := hstep w w' i hw
    obtain ⟨sched', hrest⟩ := ih hl
    exact ⟨l ++ sched', by rw [run_append]; exact hrest⟩

/-- What no step changes of a thread stays as it was, after every schedule. -/
theorem map_run {β : Type} (p : τ → β) (hp : ∀ t s, p (T.step t s).1 = p t) (w : World σ τ)
    (sched : List ℕ) : (T.run w sched).threads.map p = w.threads.map p := by
  refine run_inv (fun w' => w'.threads.map p = w.threads.map p) (fun w' i hw' => ?_) rfl sched
  cases h : w'.threads[i]? with
  | none => rwa [tick_of_getElem?_none h]
  | some t =>
    -- the slot that changed holds what it held, as far as `p` sees
    obtain ⟨hi, rfl⟩ := List.getElem?_eq_some_iff.mp h
    rw [tick_of_getElem? h, List.map_set, hp, ← hw', ← List.map_set, List.set_getElem_self hi]

/-- **A thread that runs alone** takes its own steps, and the others stay as they are. -/
theorem run_replicate {w : World σ τ} {i : ℕ} {t : τ} (h : w.threads[i]? = some t) (n : ℕ) :
    T.run w (List.replicate n i) =
      ⟨(T.stepN t w.shared n).2, w.threads.set i (T.stepN t w.shared n).1⟩ := by
  induction n generalizing w t with
  | zero =>
    -- nothing ran: the thread's slot is set to what it already holds
    obtain ⟨hi, rfl⟩ := List.getElem?_eq_some_iff.mp h
    rw [List.replicate_zero, run_nil, stepN, List.set_getElem_self hi]
  | succ n ih =>
    rw [List.replicate_succ, run_cons, ih (getElem?_tick_self h), tick_of_getElem? h]
    simp only [stepN, List.set_set]

end Threads

end Interleaving
