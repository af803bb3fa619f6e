import HollerServer.Lib.Transition

/-!
# Counting steps by a potential

A potential is a number read off a state.  If every counted step lowers it and no
other step raises it, a run has no more counted steps than the potential it
starts with.  Where something that happens on the way pays for further steps, the
bound grows by that credit.  The step may be asked for only in states that meet
an invariant.
-/

namespace Transition.Machine

universe u v

variable {σ : Type u} {α : Type v} (machine : Machine σ α)

/-- How many steps of a run are counted.  Whether a step is counted is read in the
state before it. -/
def countAlong (counted : σ → α → Bool) : σ → List α → Nat
  | _, [] => 0
  | state, action :: rest =>
      (if counted state action then 1 else 0) +
        match machine.step state action with
        | some next => countAlong counted next rest
        | none => 0

theorem countAlong_cons
    {counted : σ → α → Bool} {state next : σ} {action : α}
    {rest : List α} (stepped : machine.step state action = some next) :
    machine.countAlong counted state (action :: rest) =
      (if counted state action then 1 else 0) +
        machine.countAlong counted next rest := by
  rw [countAlong, stepped]

/-- Counted steps are paid for from the potential and from the credit that is
gained on the way. -/
theorem countAlong_le_of_credit
    (counted : σ → α → Bool) (invariant : σ → Prop)
    (potential credit : σ → Nat)
    (kept :
      ∀ state action next,
        invariant state →
        machine.step state action = some next →
        invariant next)
    (paid :
      ∀ state action next,
        invariant state →
        machine.step state action = some next →
        potential next + credit state +
            (if counted state action then 1 else 0) ≤
          potential state + credit next)
    {actions : List α} {state target : σ}
    (holds : invariant state)
    (reached : machine.run state actions = some target) :
    potential target + credit state +
        machine.countAlong counted state actions ≤
      potential state + credit target := by
  induction actions generalizing state with
  | nil =>
      cases reached
      exact Nat.le_refl _
  | cons action rest inductionHypothesis =>
      obtain ⟨next, stepped, remaining⟩ :=
        (machine.run_cons_eq_some).mp reached
      have now := paid state action next holds stepped
      have later :=
        inductionHypothesis (kept state action next holds stepped) remaining
      rw [machine.countAlong_cons stepped]
      omega

/-- Without credit a run has at most as many counted steps as the potential it
starts with. -/
theorem countAlong_le
    (counted : σ → α → Bool) (invariant : σ → Prop) (potential : σ → Nat)
    (kept :
      ∀ state action next,
        invariant state →
        machine.step state action = some next →
        invariant next)
    (paid :
      ∀ state action next,
        invariant state →
        machine.step state action = some next →
        potential next + (if counted state action then 1 else 0) ≤
          potential state)
    {actions : List α} {state target : σ}
    (holds : invariant state)
    (reached : machine.run state actions = some target) :
    machine.countAlong counted state actions ≤ potential state := by
  have bound :=
    machine.countAlong_le_of_credit counted invariant potential
      (fun _ => 0) kept paid holds reached
  omega

end Transition.Machine
