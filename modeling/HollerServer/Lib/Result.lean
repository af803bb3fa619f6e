import Mathlib.Logic.Basic

/-!
# Results of calls that can fail or panic

A call returns a value, returns an error, or panics.  The three are kept apart,
so that a statement that a call returns says that it does not panic.
-/

/-- What a call comes to. -/
inductive Result (ε α : Type) where
  | ok (value : α)
  | err (error : ε)
  | panicked
  deriving DecidableEq, Repr

namespace Result

variable {ε α β : Type}

/-- Go on with the value of a call that returned one. -/
def andThen (call : Result ε α) (next : α → Result ε β) : Result ε β :=
  match call with
  | .ok value => next value
  | .err error => .err error
  | .panicked => .panicked

instance : Monad (Result ε) where
  pure := .ok
  bind := andThen

/-- A value, or the given error in its absence. -/
def ofOption (error : ε) : Option α → Result ε α
  | some value => .ok value
  | none => .err error

/-- The call returned a value. -/
def isOk : Result ε α → Bool
  | .ok _ => true
  | _ => false

@[simp]
theorem ok_bind (value : α) (next : α → Result ε β) :
    (Result.ok value >>= next) = next value :=
  rfl

theorem err_bind (error : ε) (next : α → Result ε β) :
    (Result.err error >>= next) = .err error :=
  rfl

@[simp]
theorem pure_eq_ok (value : α) : (pure value : Result ε α) = .ok value :=
  rfl

/-- A sequence of calls returns exactly if each of them does. -/
theorem bind_eq_ok
    {call : Result ε α} {next : α → Result ε β} {result : β} :
    (call >>= next) = .ok result ↔
      ∃ value, call = .ok value ∧ next value = .ok result := by
  cases call with
  | ok value =>
      constructor
      · intro same
        exact ⟨value, rfl, same⟩
      · rintro ⟨_, same, final⟩
        cases same
        exact final
  | err error =>
      constructor
      · intro impossible
        cases impossible
      · rintro ⟨_, impossible, _⟩
        cases impossible
  | panicked =>
      constructor
      · intro impossible
        cases impossible
      · rintro ⟨_, impossible, _⟩
        cases impossible

/-- A sequence of calls panics where one of them does that is reached. -/
theorem bind_eq_panicked
    {call : Result ε α} {next : α → Result ε β} :
    (call >>= next) = .panicked ↔
      call = .panicked ∨
        ∃ value, call = .ok value ∧ next value = .panicked := by
  cases call with
  | ok value => simp
  | err error =>
      constructor
      · intro impossible
        cases impossible
      · rintro (impossible | ⟨_, impossible, _⟩)
        · cases impossible
        · cases impossible
  | panicked => exact iff_of_true rfl (.inl rfl)

theorem ofOption_ne_panicked {error : ε} {value? : Option α} :
    ofOption error value? ≠ .panicked := by
  cases value? with
  | none => simp [ofOption]
  | some found => simp [ofOption]

theorem ofOption_eq_ok
    {error : ε} {value? : Option α} {value : α} :
    ofOption error value? = .ok value ↔ value? = some value := by
  cases value? with
  | none => simp [ofOption]
  | some found => simp [ofOption]

/-- Every error the call may return is an allowed one. -/
def FailsWithin (allowed : ε → Prop) (call : Result ε α) : Prop :=
  ∀ error, call = .err error → allowed error

section FailsWithin

variable {allowed : ε → Prop}

theorem failsWithin_ok (value : α) :
    FailsWithin allowed (.ok value : Result ε α) := by
  intro error impossible
  cases impossible

theorem failsWithin_err {error : ε} (isAllowed : allowed error) :
    FailsWithin allowed (.err error : Result ε α) := by
  intro other same
  cases same
  exact isAllowed

theorem failsWithin_panicked :
    FailsWithin allowed (.panicked : Result ε α) := by
  intro error impossible
  cases impossible

theorem failsWithin_ofOption
    {error : ε} (isAllowed : allowed error) (value? : Option α) :
    FailsWithin allowed (ofOption error value?) := by
  cases value? with
  | none => exact failsWithin_err isAllowed
  | some value => exact failsWithin_ok value

theorem FailsWithin.bind
    {call : Result ε α} {next : α → Result ε β}
    (first : FailsWithin allowed call)
    (rest : ∀ value, FailsWithin allowed (next value)) :
    FailsWithin allowed (call >>= next) := by
  cases call with
  | ok value => exact rest value
  | err error => exact failsWithin_err (first error rfl)
  | panicked => exact failsWithin_panicked

end FailsWithin

theorem isOk_iff {call : Result ε α} :
    call.isOk = true ↔ ∃ value, call = .ok value := by
  cases call <;> simp [isOk]

end Result

namespace Except

variable {ε α β : Type}

/-- A sequence of calls returns exactly if each of them does. -/
theorem exists_bind_ok
    {call : Except ε α} {next : α → Except ε β} :
    (∃ result, (call >>= next) = .ok result) ↔
      ∃ value, call = .ok value ∧ ∃ result, next value = .ok result := by
  cases call with
  | error failure =>
      constructor
      · rintro ⟨_, impossible⟩
        cases impossible
      · rintro ⟨_, impossible, _⟩
        cases impossible
  | ok value =>
      constructor
      · intro returns
        exact ⟨value, rfl, returns⟩
      · rintro ⟨_, same, returns⟩
        cases same
        exact returns

/-- Calls for the items of a list return exactly if each of them does. -/
theorem exists_mapM_ok
    {call : α → Except ε β} {items : List α} :
    (∃ results, items.mapM call = .ok results) ↔
      ∀ item ∈ items, ∃ result, call item = .ok result := by
  induction items with
  | nil => exact iff_of_true ⟨[], rfl⟩ (List.forall_mem_nil _)
  | cons item rest inductionHypothesis =>
      rw [List.forall_mem_cons, ← inductionHypothesis, List.mapM_cons,
        exists_bind_ok, ← exists_and_right]
      refine exists_congr fun result => and_congr_right fun _ => ?_
      rw [exists_bind_ok]
      exact exists_congr fun _ => and_iff_left ⟨_, rfl⟩

end Except
