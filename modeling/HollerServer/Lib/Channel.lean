import Mathlib.Data.List.Basic

/-!
# Unbounded channels

A channel is kept as the list of everything ever sent on it, the number of
items its receiver has taken, and whether the last sender is gone.  What the
receiver still has to read is the rest of the list, so nothing that was sent
is forgotten by the model.
-/

/-- A channel seen from its receiver. -/
structure Channel (α : Type) where
  sent : List α := []
  taken : Nat := 0
  closed : Bool := false
  deriving Repr

/-- What a receiver finds when it polls. -/
inductive Poll (α : Type) where
  | ready (item : α)
  | ended
  | pending
  deriving Repr

/-- What a sender does to the channel it owns. -/
inductive Signal (α : Type) where
  | send (item : α)
  | drop
  deriving Repr

/-- The item a sender action carries, if any. -/
def Signal.item? {α : Type} : Signal α → Option α
  | .send item => some item
  | .drop => none

namespace Channel

variable {α : Type}

/-- The next unread item, the end of the channel, or nothing yet. -/
def poll (channel : Channel α) : Poll α :=
  match channel.sent[channel.taken]? with
  | some item => .ready item
  | none => if channel.closed then .ended else .pending

/-- The receiver takes the next item. -/
def take (channel : Channel α) : Channel α :=
  { channel with taken := channel.taken + 1 }

/-- Append one item. -/
def send (channel : Channel α) (item : α) : Channel α :=
  { channel with sent := channel.sent ++ [item] }

/-- The last sender goes away. -/
def close (channel : Channel α) : Channel α :=
  { channel with closed := true }

/-- The effect of one sender action. -/
def apply (channel : Channel α) : Signal α → Channel α
  | .send item => channel.send item
  | .drop => channel.close

/-- The effect of a list of sender actions, first to last. -/
def applyAll (channel : Channel α) (signals : List (Signal α)) : Channel α :=
  signals.foldl apply channel

@[simp]
theorem sent_take (channel : Channel α) :
    channel.take.sent = channel.sent :=
  rfl

@[simp]
theorem taken_take (channel : Channel α) :
    channel.take.taken = channel.taken + 1 :=
  rfl

@[simp]
theorem taken_applyAll
    (channel : Channel α) (signals : List (Signal α)) :
    (channel.applyAll signals).taken = channel.taken := by
  induction signals generalizing channel with
  | nil => rfl
  | cons signal rest inductionHypothesis =>
      rw [applyAll, List.foldl_cons]
      exact (inductionHypothesis (channel.apply signal)).trans (by
        cases signal <;> rfl)

theorem sent_applyAll
    (channel : Channel α) (signals : List (Signal α)) :
    (channel.applyAll signals).sent =
      channel.sent ++ signals.filterMap Signal.item? := by
  induction signals generalizing channel with
  | nil => simp [applyAll]
  | cons signal rest inductionHypothesis =>
      have tail := inductionHypothesis (channel.apply signal)
      rw [applyAll, List.foldl_cons]
      refine tail.trans ?_
      cases signal with
      | send item => simp [apply, send, Signal.item?]
      | drop => rfl

theorem closed_applyAll
    (channel : Channel α) (signals : List (Signal α)) :
    (channel.applyAll signals).closed = true ↔
      channel.closed = true ∨ Signal.drop ∈ signals := by
  induction signals generalizing channel with
  | nil => simp [applyAll]
  | cons signal rest inductionHypothesis =>
      have tail := inductionHypothesis (channel.apply signal)
      rw [applyAll, List.foldl_cons]
      refine tail.trans ?_
      cases signal with
      | send item => simp [apply, send]
      | drop => simp [apply, close]

theorem poll_eq_ready
    {channel : Channel α} {item : α} :
    channel.poll = .ready item ↔
      channel.sent[channel.taken]? = some item := by
  unfold poll
  cases channel.sent[channel.taken]? with
  | none => cases channel.closed <;> simp
  | some found => simp

theorem poll_eq_ended
    {channel : Channel α} :
    channel.poll = .ended ↔
      channel.sent.length ≤ channel.taken ∧ channel.closed = true := by
  unfold poll
  cases found : channel.sent[channel.taken]? with
  | none =>
      have exhausted := List.getElem?_eq_none_iff.mp found
      cases closed : channel.closed <;> simp [exhausted]
  | some item =>
      have inside := (List.getElem?_eq_some_iff.mp found).1
      simp only [reduceCtorEq, false_iff, not_and]
      intro exhausted
      omega

end Channel
