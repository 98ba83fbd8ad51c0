import Mathlib.Data.List.Basic

/-!
# Calls made in order until one fails

Much system code is a sequence of calls, each followed by
`if err != nil { return err }`. Two views of it are useful. `FailFast.run` is the
plain one: make the calls in order, stop at the first that fails, and report the
calls made and the failure. `FailFast.chain` is the one the code has: each call
guards the rest of the function, which ends in a tail `k` when every call passed.

`FailFast.chain_eq` says that the two agree: a chain makes the calls `run` makes,
then, if none failed, whatever `k` makes, and ends as the first failure says or as
`k` does.
-/

namespace FailFast

variable {κ ε β : Type}

/-- Make the calls in order until one fails: the calls made, and the failure. -/
def run (answer : κ → Option ε) : List κ → List κ × Option ε
  | [] => ([], none)
  | call :: rest =>
    match answer call with
    | some err => ([call], some err)
    | none => ((run answer rest).1.cons call, (run answer rest).2)

/-- One guarded call: on failure the chain ends with `fail`, otherwise it goes on with
the rest `k`, recording the call. -/
def guard (answer : κ → Option ε) (fail : ε → β) (call : κ) (k : List κ × β) : List κ × β :=
  match answer call with
  | some err => ([call], fail err)
  | none => (call :: k.1, k.2)

/-- Guarded calls in order, then the tail `k`. -/
def chain (answer : κ → Option ε) (fail : ε → β) (calls : List κ) (k : List κ × β) :
    List κ × β :=
  calls.foldr (guard answer fail) k

/-- Guarded calls in two stretches are the first stretch guarding the second. -/
theorem chain_append (answer : κ → Option ε) (fail : ε → β) (calls₁ calls₂ : List κ)
    (k : List κ × β) :
    chain answer fail (calls₁ ++ calls₂) k = chain answer fail calls₁
      (chain answer fail calls₂ k) :=
  List.foldr_append

/-- A call guarded only when `b` holds. -/
theorem chain_ite (answer : κ → Option ε) (fail : ε → β) (b : Bool) (call : κ) (k : List κ × β) :
    chain answer fail (if b then [call] else []) k =
      (if b then guard answer fail call else id) k := by
  cases b <;> rfl

/-- A chain makes only planned calls and the tail's. -/
theorem mem_chain {answer : κ → Option ε} {fail : ε → β} {calls : List κ} {k : List κ × β}
    {x : κ} (hx : x ∈ (chain answer fail calls k).1) : x ∈ calls ∨ x ∈ k.1 := by
  induction calls with
  | nil => exact .inr hx
  | cons call rest ih =>
    rw [chain, List.foldr_cons, ← chain, guard] at hx
    cases hcall : answer call with
    | some err =>
      rw [hcall, List.mem_singleton] at hx
      exact .inl (hx ▸ List.mem_cons_self)
    | none =>
      rw [hcall, List.mem_cons] at hx
      rcases hx with rfl | hx
      · exact .inl List.mem_cons_self
      · exact (ih hx).imp_left (List.mem_cons_of_mem _)

/-- **The chain is the run, then the tail**: a chain of guarded calls makes the calls
`run` makes, and then the tail's calls if none failed; it ends with the first
failure, or as the tail does. -/
theorem chain_eq (answer : κ → Option ε) (fail : ε → β) (calls : List κ) (k : List κ × β) :
    chain answer fail calls k =
      match (run answer calls).2 with
      | some err => ((run answer calls).1, fail err)
      | none => ((run answer calls).1 ++ k.1, k.2) := by
  induction calls with
  | nil => rfl
  | cons call rest ih =>
    -- one guard in front of the rest: the head's answer decides
    rw [chain, List.foldr_cons, ← chain, ih, guard]
    cases hcall : answer call with
    | some err => simp [run, hcall]
    | none =>
      simp only [run, hcall]
      cases (run answer rest).2 <;> rfl

end FailFast
