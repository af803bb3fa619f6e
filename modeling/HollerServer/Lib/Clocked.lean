import HollerServer.Lib.Transition

/-!
# Objects that read a clock

An object has operations that return a reply and may depend on the time at which
they run.  A list of calls is run by a machine that only lets time go forward;
its enabled runs are the lists of calls at non-decreasing times.

The module also compares two lists of calls of which one has extra calls woven
in.  If a relation between the two objects survives the passing of time and the
extra calls, and the ordinary calls keep it and show the same, then everything
shown is the same.
-/

namespace Clocked

open Transition

/-- An operation and the time at which it is called. -/
structure Call (ο : Type) where
  now : Nat
  op : ο
  deriving DecidableEq, Repr

/-- An object and the time of the last call on it. -/
structure State (σ : Type) where
  now : Nat
  object : σ

/-- The operations of an object: the object afterwards and the reply. -/
abbrev Exec (σ ο ρ : Type) : Type :=
  σ → Nat → ο → σ × ρ

variable {σ ο ρ ω : Type} (exec : Exec σ ο ρ)

/-- Calls at non-decreasing times on an object that is created at time zero. -/
def machine (created : σ) : Machine (State σ) (Call ο) where
  init := { now := 0, object := created }
  step state call :=
    if state.now ≤ call.now then
      some
        { now := call.now
          object := (exec state.object call.now call.op).1 }
    else none

/-- What the replies of a list of calls show, call by call. -/
def shown (shows : ρ → Option ω) : σ → List (Call ο) → List ω
  | _, [] => []
  | object, call :: rest =>
      let (next, reply) := exec object call.now call.op
      (shows reply).toList ++ shown shows next rest

section Runs

variable {exec} {created : σ} {state target : State σ}

theorem step_eq_some
    {call : Call ο} {next : State σ} :
    (machine exec created).step state call = some next ↔
      state.now ≤ call.now ∧
        next =
          { now := call.now
            object := (exec state.object call.now call.op).1 } := by
  simp only [machine, Option.ite_none_right_eq_some, Option.some.injEq]
  constructor
  · rintro ⟨forward, rfl⟩
    exact ⟨forward, rfl⟩
  · rintro ⟨forward, rfl⟩
    exact ⟨forward, rfl⟩

/-- The calls of a run are at times between its start and its end. -/
theorem times_of_run
    {calls : List (Call ο)}
    (ran : (machine exec created).run state calls = some target) :
    state.now ≤ target.now ∧
      ∀ call ∈ calls, state.now ≤ call.now ∧ call.now ≤ target.now := by
  induction calls generalizing state with
  | nil =>
      cases ran
      exact ⟨Nat.le_refl _, fun _ member => nomatch member⟩
  | cons call rest inductionHypothesis =>
      obtain ⟨next, stepped, remaining⟩ :=
        ((machine exec created).run_cons_eq_some).mp ran
      obtain ⟨forward, rfl⟩ := step_eq_some.mp stepped
      obtain ⟨onward, between⟩ := inductionHypothesis remaining
      refine ⟨Nat.le_trans forward onward, ?_⟩
      intro other member
      rcases List.mem_cons.mp member with rfl | inRest
      · exact ⟨forward, onward⟩
      · obtain ⟨after, before⟩ := between other inRest
        exact ⟨Nat.le_trans forward after, before⟩

end Runs

/-- The second list of calls is the first with extra calls put in. -/
inductive Woven (extra : ο → Prop) : List (Call ο) → List (Call ο) → Prop
  | nil : Woven extra [] []
  | keep {plain full : List (Call ο)} (call : Call ο)
      (rest : Woven extra plain full) :
      Woven extra (call :: plain) (call :: full)
  | insert {plain full : List (Call ο)} {call : Call ο}
      (isExtra : extra call.op) (rest : Woven extra plain full) :
      Woven extra plain (call :: full)

variable {exec}

/-- The rule for two runs: what calls show does not depend on the extra calls. -/
theorem shown_woven
    {extra : ο → Prop} {shows : ρ → Option ω} {created : σ}
    {related : Nat → σ → σ → Prop} {meets : State σ → Call ο → Prop}
    (later :
      ∀ {now now' plain full}, now ≤ now' →
        related now plain full → related now' plain full)
    (silent :
      ∀ {now object op}, extra op → shows (exec object now op).2 = none)
    (extraCall :
      ∀ {now plain full op}, extra op → related now plain full →
        related now plain (exec full now op).1)
    (sameCall :
      ∀ {before now plain full op},
        meets { now := before, object := plain } { now := now, op := op } →
        related now plain full →
        related now (exec plain now op).1 (exec full now op).1 ∧
          shows (exec plain now op).2 = shows (exec full now op).2)
    {plain full : State σ} {calls woven : List (Call ο)}
    (isWoven : Woven extra calls woven)
    (holds : related full.now plain.object full.object)
    (behind : plain.now ≤ full.now)
    (forward :
      ((machine exec created).run full woven).isSome = true)
    (along : (machine exec created).Along meets plain calls) :
    shown exec shows full.object woven =
      shown exec shows plain.object calls := by
  induction isWoven generalizing plain full with
  | nil => rfl
  | @keep calls woven call rest inductionHypothesis =>
      obtain ⟨target, ran⟩ := Option.isSome_iff_exists.mp forward
      obtain ⟨next, stepped, remaining⟩ :=
        ((machine exec created).run_cons_eq_some).mp ran
      obtain ⟨goesOn, rfl⟩ := step_eq_some.mp stepped
      obtain ⟨relatedNext, sameShown⟩ :=
        sameCall along.1 (later goesOn holds)
      have plainStep :
          (machine exec created).step plain call =
            some
              { now := call.now
                object := (exec plain.object call.now call.op).1 } :=
        step_eq_some.mpr ⟨Nat.le_trans behind goesOn, rfl⟩
      have tail :=
        inductionHypothesis relatedNext (Nat.le_refl call.now)
          (Option.isSome_iff_exists.mpr ⟨target, remaining⟩)
          (along.2 _ plainStep)
      simp only [shown, sameShown, tail]
  | @insert calls woven call isExtra rest inductionHypothesis =>
      obtain ⟨target, ran⟩ := Option.isSome_iff_exists.mp forward
      obtain ⟨next, stepped, remaining⟩ :=
        ((machine exec created).run_cons_eq_some).mp ran
      obtain ⟨goesOn, rfl⟩ := step_eq_some.mp stepped
      have tail :=
        inductionHypothesis (extraCall isExtra (later goesOn holds))
          (Nat.le_trans behind goesOn)
          (Option.isSome_iff_exists.mpr ⟨target, remaining⟩) along
      simp only [shown, silent isExtra, Option.toList_none,
        List.nil_append, tail]

end Clocked
