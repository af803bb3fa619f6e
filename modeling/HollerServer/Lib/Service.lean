import Mathlib.Data.List.Forall2

/-!
# Services and their simulations

A service answers each call and goes on in another state.  A simulation relates
the states of two services so that related calls get related replies; it then
relates the replies along whole lists of calls.  A refinement is the case in
which calls and replies are the same.
-/

universe u v w u' v' w'

/-- A service: where it starts, and what it replies to a call. -/
structure Service (σ : Type u) (ω : Type v) (ρ : Type w) where
  init : σ
  call : ω → σ → ρ × σ

namespace Service

variable {σ : Type u} {ω : Type v} {ρ : Type w}

section Runs

variable (service : Service σ ω ρ)

/-- The replies to a list of calls, from some state on. -/
def replies : List ω → σ → List ρ
  | [], _ => []
  | call :: rest, state =>
      (service.call call state).1 ::
        replies rest (service.call call state).2

/-- The state after a list of calls. -/
def after : List ω → σ → σ
  | [], state => state
  | call :: rest, state => after rest (service.call call state).2

theorem replies_append (calls more : List ω) (state : σ) :
    service.replies (calls ++ more) state =
      service.replies calls state ++
        service.replies more (service.after calls state) := by
  induction calls generalizing state with
  | nil => rfl
  | cons call rest inductionHypothesis =>
      simp only [List.cons_append, replies, after,
        inductionHypothesis]

theorem after_append (calls more : List ω) (state : σ) :
    service.after (calls ++ more) state =
      service.after more (service.after calls state) := by
  induction calls generalizing state with
  | nil => rfl
  | cons call rest inductionHypothesis =>
      exact inductionHypothesis (service.call call state).2

theorem length_replies (calls : List ω) (state : σ) :
    (service.replies calls state).length = calls.length := by
  induction calls generalizing state with
  | nil => rfl
  | cons call rest inductionHypothesis =>
      simp only [replies, List.length_cons, inductionHypothesis]

/-- Every reply is the reply to its call in some state. -/
theorem exists_call_of_mem_zip
    {calls : List ω} {state : σ} {call : ω} {reply : ρ}
    (member : (call, reply) ∈ calls.zip (service.replies calls state)) :
    ∃ before, reply = (service.call call before).1 := by
  induction calls generalizing state with
  | nil => cases member
  | cons first rest inductionHypothesis =>
      rcases List.mem_cons.mp member with same | later
      · cases same
        exact ⟨state, rfl⟩
      · exact inductionHypothesis later

end Runs

variable {σ' : Type u'} {ω' : Type v'} {ρ' : Type w'}

/-- Related states stay related under related calls, which get related
replies. -/
structure Simulation
    (first : Service σ ω ρ) (second : Service σ' ω' ρ')
    (asks : ω → ω' → Prop) (answers : ρ → ρ' → Prop)
    (states : σ → σ' → Prop) : Prop where
  init : states first.init second.init
  call :
    ∀ {call call' state state'}, asks call call' → states state state' →
      answers (first.call call state).1 (second.call call' state').1 ∧
        states (first.call call state).2 (second.call call' state').2

namespace Simulation

variable {first : Service σ ω ρ} {second : Service σ' ω' ρ'}
  {asks : ω → ω' → Prop} {answers : ρ → ρ' → Prop}
  {states : σ → σ' → Prop}

/-- Related calls, one after another, get related replies. -/
theorem run
    (simulation : Simulation first second asks answers states)
    {calls : List ω} {calls' : List ω'}
    (asked : List.Forall₂ asks calls calls')
    {state : σ} {state' : σ'} (related : states state state') :
    List.Forall₂ answers (first.replies calls state)
        (second.replies calls' state') ∧
      states (first.after calls state) (second.after calls' state') := by
  induction asked generalizing state state' with
  | nil => exact ⟨.nil, related⟩
  | cons one rest inductionHypothesis =>
      have answered := simulation.call one related
      have others := inductionHypothesis answered.2
      exact ⟨.cons answered.1 others.1, others.2⟩

/-- The same from the initial states. -/
theorem run_init
    (simulation : Simulation first second asks answers states)
    {calls : List ω} {calls' : List ω'}
    (asked : List.Forall₂ asks calls calls') :
    List.Forall₂ answers (first.replies calls first.init)
        (second.replies calls' second.init) ∧
      states (first.after calls first.init)
        (second.after calls' second.init) :=
  simulation.run asked simulation.init

end Simulation

/-- A service refines another one: the same calls get the same replies. -/
abbrev Refines
    (concrete : Service σ ω ρ) (abstract : Service σ' ω ρ)
    (states : σ → σ' → Prop) : Prop :=
  Simulation concrete abstract Eq Eq states

theorem Refines.run
    {concrete : Service σ ω ρ} {abstract : Service σ' ω ρ}
    {states : σ → σ' → Prop}
    (refines : Refines concrete abstract states) (calls : List ω) :
    concrete.replies calls concrete.init =
        abstract.replies calls abstract.init ∧
      states (concrete.after calls concrete.init)
        (abstract.after calls abstract.init) := by
  have same : List.Forall₂ Eq calls calls := by
    rw [List.forall₂_eq_eq_eq]
  have related := Simulation.run_init refines same
  rw [List.forall₂_eq_eq_eq] at related
  exact related

end Service
