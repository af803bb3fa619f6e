import Mathlib.Data.List.Induction

/-!
# Machines with a partial step function

A machine is an initial state and a partial step function: `none` means that
the action is not enabled.  A run is a list of actions, each enabled in the
state its predecessors lead to.

The module supplies the rules by which properties of whole runs are proved
from properties of single steps: preservation of an invariant, preservation
along runs whose steps all meet a side condition, and induction on a run that
keeps the actions taken so far in view.
-/

namespace Transition

universe u v

/-- A state machine given by a partial step function. -/
structure Machine (σ : Type u) (α : Type v) where
  init : σ
  step : σ → α → Option σ

namespace Machine

variable {σ : Type u} {α : Type v} (machine : Machine σ α)

/-- Execute a list of actions; `none` as soon as one of them is not enabled. -/
def run : σ → List α → Option σ
  | state, [] => some state
  | state, action :: rest =>
      (machine.step state action).bind fun next => run next rest

theorem run_cons
    (state : σ) (action : α) (rest : List α) :
    machine.run state (action :: rest) =
      (machine.step state action).bind
        fun next => machine.run next rest :=
  rfl

theorem run_cons_eq_some
    {state target : σ} {action : α} {rest : List α} :
    machine.run state (action :: rest) = some target ↔
      ∃ next, machine.step state action = some next ∧
        machine.run next rest = some target := by
  rw [run_cons, Option.bind_eq_some_iff]

theorem run_append
    (state : σ) (first second : List α) :
    machine.run state (first ++ second) =
      (machine.run state first).bind
        fun middle => machine.run middle second := by
  induction first generalizing state with
  | nil => rfl
  | cons action rest inductionHypothesis =>
      rw [List.cons_append, run_cons, run_cons, Option.bind_assoc]
      congr 1
      funext next
      exact inductionHypothesis next

/-- A run goes on from the state its first part leads to. -/
theorem run_append_of_eq_some
    {state middle : σ} {first : List α}
    (reached : machine.run state first = some middle)
    (second : List α) :
    machine.run state (first ++ second) = machine.run middle second := by
  rw [run_append, reached, Option.bind_some]

theorem run_append_eq_some
    {state target : σ} {first second : List α} :
    machine.run state (first ++ second) = some target ↔
      ∃ middle, machine.run state first = some middle ∧
        machine.run middle second = some target := by
  rw [run_append, Option.bind_eq_some_iff]

theorem run_snoc_eq_some
    {state target : σ} {actions : List α} {action : α} :
    machine.run state (actions ++ [action]) = some target ↔
      ∃ middle, machine.run state actions = some middle ∧
        machine.step middle action = some target := by
  rw [run_append_eq_some]
  constructor
  · rintro ⟨middle, before, after⟩
    obtain ⟨next, stepped, finished⟩ :=
      (machine.run_cons_eq_some).mp after
    cases finished
    exact ⟨middle, before, stepped⟩
  · rintro ⟨middle, before, stepped⟩
    exact ⟨middle, before,
      (machine.run_cons_eq_some).mpr ⟨target, stepped, rfl⟩⟩

/-- Induction on a run from the initial state that keeps the list of actions
taken so far. -/
theorem run_induction
    {motive : List α → σ → Prop}
    (start : motive [] machine.init)
    (extend :
      ∀ actions state action next,
        machine.run machine.init actions = some state →
        motive actions state →
        machine.step state action = some next →
        motive (actions ++ [action]) next)
    {actions : List α} {state : σ}
    (reached : machine.run machine.init actions = some state) :
    motive actions state := by
  induction actions using List.reverseRecOn generalizing state with
  | nil =>
      cases reached
      exact start
  | append_singleton actions action inductionHypothesis =>
      obtain ⟨middle, before, stepped⟩ :=
        (machine.run_snoc_eq_some).mp reached
      exact
        extend actions middle action state before
          (inductionHypothesis before) stepped

/-- A property kept by every step is kept by every run. -/
theorem run_preserves
    {invariant : σ → Prop}
    (kept :
      ∀ state action next,
        invariant state →
        machine.step state action = some next →
        invariant next)
    {actions : List α} {state target : σ}
    (holds : invariant state)
    (reached : machine.run state actions = some target) :
    invariant target := by
  induction actions generalizing state with
  | nil =>
      cases reached
      exact holds
  | cons action rest inductionHypothesis =>
      obtain ⟨next, stepped, remaining⟩ :=
        (machine.run_cons_eq_some).mp reached
      exact
        inductionHypothesis (kept state action next holds stepped) remaining

/-- Some run from the initial state ends here. -/
def Reachable (state : σ) : Prop :=
  ∃ actions, machine.run machine.init actions = some state

theorem reachable_init : machine.Reachable machine.init :=
  ⟨[], rfl⟩

theorem Reachable.step
    {machine : Machine σ α} {state next : σ} {action : α}
    (reachable : machine.Reachable state)
    (stepped : machine.step state action = some next) :
    machine.Reachable next := by
  obtain ⟨actions, reached⟩ := reachable
  exact ⟨actions ++ [action],
    (machine.run_snoc_eq_some).mpr ⟨state, reached, stepped⟩⟩

theorem Reachable.run
    {machine : Machine σ α} {state target : σ} {actions : List α}
    (reachable : machine.Reachable state)
    (reached : machine.run state actions = some target) :
    machine.Reachable target :=
  machine.run_preserves
    (fun _ _ _ holds stepped => holds.step stepped) reachable reached

/-- A property of the initial state kept by every step holds of every reachable
state. -/
theorem Reachable.invariant
    {machine : Machine σ α} (invariant : σ → Prop)
    (initially : invariant machine.init)
    (kept :
      ∀ state action next,
        invariant state →
        machine.step state action = some next →
        invariant next)
    {state : σ} (reachable : machine.Reachable state) :
    invariant state := by
  obtain ⟨actions, reached⟩ := reachable
  exact machine.run_preserves kept initially reached

/-- The same where only steps from reachable states need to keep the property, so
that what is known of these can be used. -/
theorem Reachable.induction
    {machine : Machine σ α} (property : σ → Prop)
    (initially : property machine.init)
    (kept :
      ∀ state action next,
        machine.Reachable state →
        property state →
        machine.step state action = some next →
        property next)
    {state : σ} (reachable : machine.Reachable state) :
    property state := by
  have both :=
    reachable.invariant
      (fun state => machine.Reachable state ∧ property state) ?_ ?_
  · exact both.2
  · exact ⟨machine.reachable_init, initially⟩
  · intro state action next holds stepped
    exact
      ⟨holds.1.step stepped,
        kept state action next holds.1 holds.2 stepped⟩

/-- Every step of the run from `state` meets the side condition `meets`, read in
the state before the step. -/
def Along (meets : σ → α → Prop) : σ → List α → Prop
  | _, [] => True
  | state, action :: rest =>
      meets state action ∧
        ∀ next, machine.step state action = some next →
          Along meets next rest

theorem along_of_forall
    {meets : σ → α → Prop} (always : ∀ state action, meets state action)
    (state : σ) (actions : List α) :
    machine.Along meets state actions := by
  induction actions generalizing state with
  | nil => trivial
  | cons action rest inductionHypothesis =>
      exact ⟨always state action, fun next _ => inductionHypothesis next⟩

/-- A side condition that does not look at the state is one on the actions of the
run. -/
theorem along_iff_forall
    {meets : α → Prop} {state : σ} {actions : List α}
    (enabled : (machine.run state actions).isSome = true) :
    machine.Along (fun _ action => meets action) state actions ↔
      ∀ action ∈ actions, meets action := by
  induction actions generalizing state with
  | nil => exact ⟨fun _ => nofun, fun _ => trivial⟩
  | cons action rest inductionHypothesis =>
      obtain ⟨target, reached⟩ := Option.isSome_iff_exists.mp enabled
      obtain ⟨next, stepped, remaining⟩ :=
        (machine.run_cons_eq_some).mp reached
      have onRest :=
        inductionHypothesis (Option.isSome_iff_exists.mpr ⟨target, remaining⟩)
      rw [List.forall_mem_cons]
      constructor
      · intro along
        exact ⟨along.1, onRest.mp (along.2 next stepped)⟩
      · intro always
        refine ⟨always.1, ?_⟩
        intro next' stepped'
        cases stepped.symm.trans stepped'
        exact onRest.mpr always.2

/-- A property kept by the steps that meet a side condition is kept by the runs
all of whose steps meet it. -/
theorem run_preserves_along
    {meets : σ → α → Prop} {invariant : σ → Prop}
    (kept :
      ∀ state action next,
        invariant state →
        meets state action →
        machine.step state action = some next →
        invariant next)
    {actions : List α} {state target : σ}
    (holds : invariant state)
    (along : machine.Along meets state actions)
    (reached : machine.run state actions = some target) :
    invariant target := by
  induction actions generalizing state with
  | nil =>
      cases reached
      exact holds
  | cons action rest inductionHypothesis =>
      obtain ⟨next, stepped, remaining⟩ :=
        (machine.run_cons_eq_some).mp reached
      exact
        inductionHypothesis
          (kept state action next holds along.1 stepped)
          (along.2 next stepped) remaining

/-- The side condition along a run, one known step at a time. -/
theorem along_cons
    {meets : σ → α → Prop} {state next : σ} {action : α} {rest : List α}
    (stepped : machine.step state action = some next)
    (met : meets state action)
    (later : machine.Along meets next rest) :
    machine.Along meets state (action :: rest) := by
  refine ⟨met, ?_⟩
  intro next' stepped'
  cases stepped.symm.trans stepped'
  exact later

/-- A decidable side condition is decidable along a run. -/
instance decidableAlong
    {machine : Machine σ α} {meets : σ → α → Prop}
    [∀ state action, Decidable (meets state action)] :
    ∀ state actions, Decidable (machine.Along meets state actions)
  | _, [] => .isTrue trivial
  | state, action :: rest =>
      match stepped : machine.step state action with
      | none =>
          decidable_of_iff (meets state action)
            ⟨fun met => ⟨met, fun _ reached =>
                absurd (stepped.symm.trans reached) (by simp)⟩,
              And.left⟩
      | some next =>
          have : Decidable (machine.Along meets next rest) :=
            decidableAlong next rest
          decidable_of_iff
            (meets state action ∧ machine.Along meets next rest)
            ⟨fun both => machine.along_cons stepped both.1 both.2,
              fun along => ⟨along.1, along.2 next stepped⟩⟩

theorem Along.of_append
    {machine : Machine σ α} {meets : σ → α → Prop} {state : σ}
    {first second : List α}
    (along : machine.Along meets state (first ++ second)) :
    machine.Along meets state first ∧
      ∀ middle, machine.run state first = some middle →
        machine.Along meets middle second := by
  induction first generalizing state with
  | nil =>
      refine ⟨trivial, ?_⟩
      intro middle reached
      cases reached
      exact along
  | cons action rest inductionHypothesis =>
      constructor
      · refine ⟨along.1, ?_⟩
        intro next stepped
        exact (inductionHypothesis (along.2 next stepped)).1
      · intro middle reached
        obtain ⟨next, stepped, remaining⟩ :=
          (machine.run_cons_eq_some).mp reached
        exact
          (inductionHypothesis (along.2 next stepped)).2 middle remaining

/-- Two parts of a run that meet a side condition meet it together. -/
theorem along_append
    {meets : σ → α → Prop} {state middle : σ} {first second : List α}
    (reached : machine.run state first = some middle)
    (before : machine.Along meets state first)
    (after : machine.Along meets middle second) :
    machine.Along meets state (first ++ second) := by
  induction first generalizing state with
  | nil =>
      cases reached
      exact after
  | cons action rest inductionHypothesis =>
      obtain ⟨next, stepped, remaining⟩ :=
        (machine.run_cons_eq_some).mp reached
      exact
        machine.along_cons stepped before.1
          (inductionHypothesis remaining (before.2 next stepped))

/-- Induction on a run from the initial state all of whose steps meet a side
condition. -/
theorem run_induction_along
    {meets : σ → α → Prop} {motive : List α → σ → Prop}
    (start : motive [] machine.init)
    (extend :
      ∀ actions state action next,
        machine.run machine.init actions = some state →
        motive actions state →
        meets state action →
        machine.step state action = some next →
        motive (actions ++ [action]) next)
    {actions : List α} {state : σ}
    (along : machine.Along meets machine.init actions)
    (reached : machine.run machine.init actions = some state) :
    motive actions state := by
  revert along
  refine
    @run_induction _ _ machine
      (fun actions state =>
        machine.Along meets machine.init actions →
          motive actions state) ?_ ?_ actions state reached
  · intro _
    exact start
  · intro actions state action next reached holds stepped along
    obtain ⟨before, last⟩ := along.of_append
    exact
      extend actions state action next reached (holds before)
        (last state reached).1 stepped

/-- Among the allowed steps, those that meet a side condition keep an invariant, and
a step that leads to a state with what the invariant shows meets the condition.
Then an allowed run shows it in every state it passes exactly if all its steps meet
the condition. -/
theorem shown_iff_along
    {allowed meets : σ → α → Prop} {invariant shown : σ → Prop}
    (visible : ∀ state, invariant state → shown state)
    (kept :
      ∀ state action next,
        invariant state →
        allowed state action →
        meets state action →
        machine.step state action = some next →
        invariant next)
    (forced :
      ∀ state action next,
        invariant state →
        allowed state action →
        machine.step state action = some next →
        shown next →
        meets state action)
    {actions : List α} {state : σ}
    (holds : invariant state)
    (enabled : (machine.run state actions).isSome = true)
    (along : machine.Along allowed state actions) :
    (∀ done target, done <+: actions →
      machine.run state done = some target → shown target) ↔
      machine.Along meets state actions := by
  induction actions generalizing state with
  | nil =>
      refine ⟨fun _ => trivial, ?_⟩
      intro _ done target isPrefix reached
      rw [List.prefix_nil.mp isPrefix] at reached
      cases reached
      exact visible state holds
  | cons action rest inductionHypothesis =>
      obtain ⟨target, reached⟩ := Option.isSome_iff_exists.mp enabled
      obtain ⟨next, stepped, remaining⟩ :=
        (machine.run_cons_eq_some).mp reached
      have enabledRest : (machine.run next rest).isSome = true :=
        Option.isSome_iff_exists.mpr ⟨target, remaining⟩
      constructor
      · intro everywhere
        have shownNext : shown next :=
          everywhere [action] next ⟨rest, rfl⟩
            ((machine.run_cons_eq_some).mpr ⟨next, stepped, rfl⟩)
        have met := forced state action next holds along.1 stepped shownNext
        refine ⟨met, ?_⟩
        intro next' stepped'
        have same : next = next' :=
          Option.some.inj (stepped.symm.trans stepped')
        subst same
        refine
          (inductionHypothesis
            (kept state action next holds along.1 met stepped) enabledRest
            (along.2 next stepped)).mp ?_
        intro done target isPrefix reachedDone
        exact
          everywhere (action :: done) target
            (List.cons_prefix_cons.mpr ⟨rfl, isPrefix⟩)
            ((machine.run_cons_eq_some).mpr
              ⟨next, stepped, reachedDone⟩)
      · intro met done target isPrefix reachedDone
        cases done with
        | nil =>
            cases reachedDone
            exact visible state holds
        | cons first others =>
            obtain ⟨rfl, shorter⟩ := List.cons_prefix_cons.mp isPrefix
            obtain ⟨next', stepped', reachedOthers⟩ :=
              (machine.run_cons_eq_some).mp reachedDone
            have same : next = next' :=
              Option.some.inj (stepped.symm.trans stepped')
            subst same
            have holdsNext :=
              kept state first next holds along.1 met.1 stepped
            exact
              (inductionHypothesis holdsNext enabledRest
                (along.2 next stepped)).mpr (met.2 next stepped)
                others target shorter reachedOthers

/-- Among the allowed steps, those that meet a side condition are exactly those
that keep a property.  Then an allowed run has the property in every state it
passes exactly if all its steps meet the condition. -/
theorem prefixes_iff_along
    {allowed meets : σ → α → Prop} {invariant : σ → Prop}
    (kept :
      ∀ state action next,
        invariant state →
        allowed state action →
        meets state action →
        machine.step state action = some next →
        invariant next)
    (forced :
      ∀ state action next,
        invariant state →
        allowed state action →
        machine.step state action = some next →
        invariant next →
        meets state action)
    {actions : List α} {state : σ}
    (holds : invariant state)
    (enabled : (machine.run state actions).isSome = true)
    (along : machine.Along allowed state actions) :
    (∀ done target, done <+: actions →
      machine.run state done = some target → invariant target) ↔
      machine.Along meets state actions :=
  machine.shown_iff_along (fun _ => id) kept forced holds enabled along

/-- A property of every state a run passes, as a condition on its steps. -/
theorem prefixes_iff_along_next
    {invariant : σ → Prop} {actions : List α} {state : σ}
    (holds : invariant state)
    (enabled : (machine.run state actions).isSome = true) :
    (∀ done target, done <+: actions →
      machine.run state done = some target → invariant target) ↔
      machine.Along
        (fun state action =>
          ∀ next, machine.step state action = some next → invariant next)
        state actions := by
  apply @prefixes_iff_along _ _ machine fun _ _ => True
  · intro state action next _ _ led stepped
    exact led next stepped
  · intro state action next _ _ stepped after next' stepped'
    cases stepped.symm.trans stepped'
    exact after
  · exact holds
  · exact enabled
  · exact machine.along_of_forall (fun _ _ => trivial) state actions

theorem along_and
    {machine : Machine σ α} {first second : σ → α → Prop}
    {state : σ} {actions : List α} :
    machine.Along (fun state action =>
        first state action ∧ second state action) state actions ↔
      machine.Along first state actions ∧
        machine.Along second state actions := by
  induction actions generalizing state with
  | nil => exact ⟨fun _ => ⟨trivial, trivial⟩, fun _ => trivial⟩
  | cons action rest inductionHypothesis =>
      constructor
      · rintro ⟨met, later⟩
        refine ⟨⟨met.1, ?_⟩, ⟨met.2, ?_⟩⟩
        · intro next stepped
          exact (inductionHypothesis.mp (later next stepped)).1
        · intro next stepped
          exact (inductionHypothesis.mp (later next stepped)).2
      · rintro ⟨⟨metFirst, laterFirst⟩, ⟨metSecond, laterSecond⟩⟩
        refine ⟨⟨metFirst, metSecond⟩, ?_⟩
        intro next stepped
        exact
          inductionHypothesis.mpr
            ⟨laterFirst next stepped, laterSecond next stepped⟩

/-- Two side conditions that agree wherever an invariant holds, which the steps that
meet them keep, agree along runs. -/
theorem along_congr
    {first second : σ → α → Prop} {invariant : σ → Prop}
    (kept :
      ∀ state action next,
        invariant state →
        second state action →
        machine.step state action = some next →
        invariant next)
    (same :
      ∀ state action next,
        invariant state →
        machine.step state action = some next →
        (first state action ↔ second state action))
    {actions : List α} {state : σ}
    (holds : invariant state)
    (enabled : (machine.run state actions).isSome = true) :
    machine.Along first state actions ↔
      machine.Along second state actions := by
  induction actions generalizing state with
  | nil => exact Iff.rfl
  | cons action rest inductionHypothesis =>
      obtain ⟨target, reached⟩ := Option.isSome_iff_exists.mp enabled
      obtain ⟨next, stepped, remaining⟩ :=
        (machine.run_cons_eq_some).mp reached
      have enabledRest : (machine.run next rest).isSome = true :=
        Option.isSome_iff_exists.mpr ⟨target, remaining⟩
      have here := same state action next holds stepped
      constructor
      · rintro ⟨met, later⟩
        have metSecond := here.mp met
        exact
          machine.along_cons stepped metSecond
            ((inductionHypothesis
              (kept state action next holds metSecond stepped)
              enabledRest).mp (later next stepped))
      · rintro ⟨met, later⟩
        exact
          machine.along_cons stepped (here.mpr met)
            ((inductionHypothesis
              (kept state action next holds met stepped)
              enabledRest).mpr (later next stepped))

/-! ## The steps of a run -/

section Steps

variable {machine} {actions sofar : List α} {state next : σ}

/-- The run goes from `state` to `next` right after the actions `sofar`. -/
structure Passes
    (machine : Machine σ α) (actions sofar : List α)
    (state next : σ) : Prop where
  reached : machine.run machine.init sofar = some state
  stepped :
    ∃ action rest,
      actions = sofar ++ action :: rest ∧
      machine.step state action = some next

theorem Passes.extend
    (passes : machine.Passes actions sofar state next) (more : List α) :
    machine.Passes (actions ++ more) sofar state next where
  reached := passes.reached
  stepped := by
    obtain ⟨action, rest, split, stepped⟩ := passes.stepped
    refine ⟨action, rest ++ more, ?_, stepped⟩
    rw [split, List.append_assoc, List.cons_append]

/-- The last step of a run. -/
theorem passes_last {action : α}
    (reached : machine.run machine.init actions = some state)
    (stepped : machine.step state action = some next) :
    machine.Passes (actions ++ [action]) actions state next where
  reached := reached
  stepped := ⟨action, [], rfl, stepped⟩

/-- A step of a run whose steps all meet a side condition meets it. -/
theorem Passes.meets {meets : σ → α → Prop}
    (passes : machine.Passes actions sofar state next)
    (along : machine.Along meets machine.init actions) :
    ∃ action, meets state action := by
  obtain ⟨action, rest, split, _⟩ := passes.stepped
  rw [split] at along
  exact ⟨action, (along.of_append.2 state passes.reached).1⟩

/-- A step of a run comes before the run's end. -/
theorem Passes.length_lt
    (passes : machine.Passes actions sofar state next) :
    sofar.length < actions.length := by
  obtain ⟨action, rest, split, _⟩ := passes.stepped
  have counted := congrArg List.length split
  simp only [List.length_append, List.length_cons] at counted
  omega

end Steps

end Machine

end Transition
