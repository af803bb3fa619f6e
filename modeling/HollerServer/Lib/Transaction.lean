import Mathlib.Data.List.Nodup
import Mathlib.Logic.Function.Basic
import HollerServer.Lib.Transition

/-!
# Rewriting a file under a lock

Processes share a file and a lock.  Each runs one job: take the lock, load the
file, decide from its content what to return and whether to rewrite the file,
rewrite it in two steps (truncate, then write) and release the lock.

`Held` says how far the holder of the lock has come; it is also kept when
processes are killed.  `Serial` says that the file and the results are those of
the jobs run one after the other in the order in which they took the lock.
-/

namespace Transaction

open Transition

/-- The jobs of the processes, and the content of a truncated file. -/
structure Jobs (ι κ ρ : Type) where
  blank : κ
  job : ι → κ → ρ × Option κ

/-- Where a process is. -/
inductive Pc (κ ρ : Type) where
  | idle
  | locked
  | loaded (content : κ)
  | decided (result : ρ) (rewrite : Option κ)
  | truncated (result : ρ) (rewrite : κ)
  | saved (result : ρ)
  | finished (result : ρ)

/-- The file, the lock and the processes.  `base` is the content the lock was
last taken on, and `order` lists the processes as they took it. -/
structure State (ι κ ρ : Type) where
  content : κ
  base : κ
  holder : Option ι
  pcs : ι → Pc κ ρ
  order : List ι

inductive Action (ι : Type) where
  | lock (process : ι)
  | load (process : ι)
  | modify (process : ι)
  | truncate (process : ι)
  | write (process : ι)
  | unlock (process : ι)
  deriving DecidableEq, Repr

variable {ι κ ρ : Type}

def State.init (content : κ) : State ι κ ρ where
  content := content
  base := content
  holder := none
  pcs := fun _ => .idle
  order := []

section Accounts

variable (jobs : Jobs ι κ ρ)

/-- How far a process that holds the lock has come with its job, and what the
file holds meanwhile. -/
def Progress
    (blank : κ) (job : κ → ρ × Option κ) (base content : κ) :
    Pc κ ρ → Prop
  | .idle => False
  | .locked => content = base
  | .loaded read => read = base ∧ content = base
  | .decided result rewrite =>
      job base = (result, rewrite) ∧ content = base
  | .truncated result rewrite =>
      job base = (result, some rewrite) ∧ content = blank
  | .saved result => job base = (result, some content)
  | .finished _ => False

/-- The process is not inside the critical section. -/
def Pc.outside : Pc κ ρ → Prop
  | .idle | .finished _ => True
  | _ => False

/-- Only the holder of the lock is inside its critical section, and it has come
as far as its program counter says. -/
structure Held (state : State ι κ ρ) : Prop where
  progress :
    ∀ process, state.holder = some process →
      Progress jobs.blank (jobs.job process) state.base state.content
        (state.pcs process)
  outside :
    ∀ process, state.holder ≠ some process →
      (state.pcs process).outside
  latest :
    ∀ process, state.holder = some process →
      state.order.getLast? = some process

theorem held_init (content : κ) : Held jobs (State.init content) where
  progress := nofun
  outside := fun _ _ => trivial
  latest := nofun

/-- The content after one job that runs alone. -/
def Jobs.after (content : κ) (process : ι) : κ :=
  ((jobs.job process content).2).getD content

/-- The content after jobs that run one after the other. -/
def serialContent (content : κ) (order : List ι) : κ :=
  order.foldl jobs.after content

/-- What jobs that run one after the other return. -/
def serialResults : κ → List ι → List (ι × ρ)
  | _, [] => []
  | content, process :: rest =>
      (process, (jobs.job process content).1) ::
        serialResults (jobs.after content process) rest

theorem serialContent_snoc (content : κ) (order : List ι) (process : ι) :
    serialContent jobs content (order ++ [process]) =
      jobs.after (serialContent jobs content order) process := by
  unfold serialContent
  rw [List.foldl_append]
  rfl

theorem serialResults_snoc (content : κ) (order : List ι) (process : ι) :
    serialResults jobs content (order ++ [process]) =
      serialResults jobs content order ++
        [(process,
          (jobs.job process (serialContent jobs content order)).1)] := by
  induction order generalizing content with
  | nil => rfl
  | cons first rest inductionHypothesis =>
      rw [List.cons_append, serialResults, inductionHypothesis]
      rfl

theorem map_fst_serialResults (content : κ) (order : List ι) :
    (serialResults jobs content order).map Prod.fst = order := by
  induction order generalizing content with
  | nil => rfl
  | cons first rest inductionHypothesis =>
      rw [serialResults, List.map_cons, inductionHypothesis]

/-- The file and the results so far are those of the jobs run one after the
other as they took the lock. -/
structure Serial (start : κ) (state : State ι κ ρ) : Prop where
  held : Held jobs state
  distinct : state.order.Nodup
  started :
    ∀ process, process ∈ state.order → state.pcs process ≠ .idle
  waiting :
    ∀ process, process ∉ state.order → state.pcs process = .idle
  free :
    state.holder = none →
      state.content = serialContent jobs start state.order
  taken :
    ∀ process, state.holder = some process →
      ∃ earlier, state.order = earlier ++ [process] ∧
        state.base = serialContent jobs start earlier
  results :
    ∀ process result, state.pcs process = .finished result →
      (process, result) ∈ serialResults jobs start state.order

variable {jobs}

/-- A process inside its critical section holds the lock. -/
theorem Held.holder
    {state : State ι κ ρ} (held : Held jobs state) {process : ι}
    (inside : ¬ (state.pcs process).outside) :
    state.holder = some process := by
  by_contra other
  exact inside (held.outside process other)

theorem Held.progress_at
    {state : State ι κ ρ} (held : Held jobs state)
    {process : ι} {pc : Pc κ ρ} (inside : ¬ pc.outside)
    (found : state.pcs process = pc) :
    state.holder = some process ∧
      Progress jobs.blank (jobs.job process) state.base state.content
        pc := by
  rw [← found] at inside ⊢
  have holds := held.holder inside
  exact ⟨holds, held.progress process holds⟩

theorem serial_init (start : κ) :
    Serial jobs start (State.init start) where
  held := held_init jobs start
  distinct := List.nodup_nil
  started := nofun
  waiting := fun _ _ => rfl
  free := fun _ => rfl
  taken := nofun
  results := nofun

/-- Whenever the lock is free, the file and the results are those of the jobs
run one after the other in the order in which they took the lock. -/
theorem Serial.serializable
    {start : κ} {state : State ι κ ρ} (serial : Serial jobs start state)
    (free : state.holder = none) :
    state.content = serialContent jobs start state.order ∧
    ∀ process result,
      state.pcs process = .finished result ↔
        (process, result) ∈ serialResults jobs start state.order := by
  refine ⟨serial.free free, ?_⟩
  intro process result
  constructor
  · exact serial.results process result
  · intro member
    have ordered : process ∈ state.order := by
      rw [← map_fst_serialResults jobs start state.order]
      exact List.mem_map_of_mem member
    have outside :=
      serial.held.outside process (by rw [free]; nofun)
    cases found : state.pcs process with
    | idle => exact absurd found (serial.started process ordered)
    | finished result' =>
        have member' := serial.results process result' found
        have distinct :
            ((serialResults jobs start state.order).map
              Prod.fst).Nodup := by
          rw [map_fst_serialResults]
          exact serial.distinct
        have same :=
          List.inj_on_of_nodup_map distinct member' member rfl
        rw [(Prod.mk.inj same).2]
    | locked | loaded _ | decided _ _ | truncated _ _ | saved _ =>
        rw [found] at outside
        exact outside.elim

end Accounts

section Steps

variable [DecidableEq ι] (jobs : Jobs ι κ ρ)

/-- Move one process on. -/
def State.move
    (state : State ι κ ρ) (process : ι) (pc : Pc κ ρ) : State ι κ ρ :=
  { state with pcs := Function.update state.pcs process pc }

def step (state : State ι κ ρ) : Action ι → Option (State ι κ ρ)
  | .lock process =>
      match state.holder, state.pcs process with
      | none, .idle =>
          some
            { state.move process .locked with
              base := state.content
              holder := some process
              order := state.order ++ [process] }
      | _, _ => none
  | .load process =>
      match state.pcs process with
      | .locked => some (state.move process (.loaded state.content))
      | _ => none
  | .modify process =>
      match state.pcs process with
      | .loaded content =>
          let (result, rewrite) := jobs.job process content
          some (state.move process (.decided result rewrite))
      | _ => none
  | .truncate process =>
      match state.pcs process with
      | .decided result (some rewrite) =>
          some
            { state.move process (.truncated result rewrite) with
              content := jobs.blank }
      | _ => none
  | .write process =>
      match state.pcs process with
      | .truncated result rewrite =>
          some
            { state.move process (.saved result) with
              content := rewrite }
      | _ => none
  | .unlock process =>
      match state.pcs process with
      | .decided result none | .saved result =>
          some
            { state.move process (.finished result) with
              holder := none }
      | _ => none

def machine (content : κ) : Machine (State ι κ ρ) (Action ι) where
  init := State.init content
  step := step jobs

/-- What a step can do, with its guards. -/
inductive Moves (state : State ι κ ρ) :
    Action ι → State ι κ ρ → Prop
  | lock {process : ι} (free : state.holder = none)
      (idle : state.pcs process = .idle) :
      Moves state (.lock process)
        { state.move process .locked with
          base := state.content
          holder := some process
          order := state.order ++ [process] }
  | load {process : ι} (locked : state.pcs process = .locked) :
      Moves state (.load process)
        (state.move process (.loaded state.content))
  | modify {process : ι} {content : κ}
      (loaded : state.pcs process = .loaded content) :
      Moves state (.modify process)
        (state.move process
          (.decided (jobs.job process content).1
            (jobs.job process content).2))
  | truncate {process : ι} {result : ρ} {rewrite : κ}
      (decided : state.pcs process = .decided result (some rewrite)) :
      Moves state (.truncate process)
        { state.move process (.truncated result rewrite) with
          content := jobs.blank }
  | write {process : ι} {result : ρ} {rewrite : κ}
      (truncated : state.pcs process = .truncated result rewrite) :
      Moves state (.write process)
        { state.move process (.saved result) with
          content := rewrite }
  | unlock {process : ι} {result : ρ}
      (ready :
        state.pcs process = .decided result none ∨
          state.pcs process = .saved result) :
      Moves state (.unlock process)
        { state.move process (.finished result) with
          holder := none }

variable {jobs}

theorem moves_of_step
    {state next : State ι κ ρ} {action : Action ι}
    (stepped : step jobs state action = some next) :
    Moves jobs state action next := by
  cases action with
  | lock process =>
      simp only [step] at stepped
      split at stepped
      next free idle =>
        cases stepped
        exact .lock free idle
      next => cases stepped
  | load process =>
      simp only [step] at stepped
      split at stepped
      next locked =>
        cases stepped
        exact .load locked
      next => cases stepped
  | modify process =>
      simp only [step] at stepped
      split at stepped
      next content loaded =>
        cases stepped
        exact .modify loaded
      next => cases stepped
  | truncate process =>
      simp only [step] at stepped
      split at stepped
      next result rewrite decided =>
        cases stepped
        exact .truncate decided
      next => cases stepped
  | write process =>
      simp only [step] at stepped
      split at stepped
      next result rewrite truncated =>
        cases stepped
        exact .write truncated
      next => cases stepped
  | unlock process =>
      simp only [step] at stepped
      split at stepped
      next result decided =>
        cases stepped
        exact .unlock (Or.inl decided)
      next result saved =>
        cases stepped
        exact .unlock (Or.inr saved)
      next => cases stepped

/-- The holder moves on inside its critical section. -/
theorem Held.move
    {state : State ι κ ρ} (held : Held jobs state)
    {process : ι} {pc : Pc κ ρ} {content : κ}
    (holds : state.holder = some process)
    (progress :
      Progress jobs.blank (jobs.job process) state.base content pc) :
    Held jobs { state.move process pc with content := content } where
  progress := by
    intro other holdsOther
    have same : process = other :=
      Option.some.inj (holds.symm.trans holdsOther)
    subst same
    simpa [State.move] using progress
  outside := by
    intro other notHolder
    have different : other ≠ process := by
      intro same
      exact notHolder (same ▸ holds)
    simpa [State.move, different] using held.outside other notHolder
  latest := held.latest

/-- A process that leaves, whether it is done or killed, frees the lock if it
holds it. -/
theorem Held.leave
    {state : State ι κ ρ} (held : Held jobs state)
    {process : ι} {pc : Pc κ ρ} (outside : pc.outside)
    (holds : state.holder = some process) :
    Held jobs { state.move process pc with holder := none } where
  progress := nofun
  outside := by
    intro other _
    by_cases same : other = process
    · subst same
      simpa [State.move] using outside
    · have notHolder : state.holder ≠ some other := by
        intro holdsOther
        exact same (Option.some.inj (holdsOther.symm.trans holds))
      simpa [State.move, same] using held.outside other notHolder
  latest := nofun

/-- Every step keeps the account of the lock. -/
theorem held_step
    {state next : State ι κ ρ} {action : Action ι}
    (held : Held jobs state)
    (stepped : step jobs state action = some next) :
    Held jobs next := by
  cases moves_of_step stepped with
  | @lock process free idle =>
      refine ⟨?_, ?_, ?_⟩
      · intro other holdsOther
        cases holdsOther
        simp [State.move, Progress]
      · intro other notHolder
        have different : other ≠ process := by
          intro same
          exact notHolder (same ▸ rfl)
        have outsideBefore : (state.pcs other).outside :=
          held.outside other (by rw [free]; nofun)
        simpa [State.move, different] using outsideBefore
      · intro other holdsOther
        simpa using holdsOther
  | load locked =>
      obtain ⟨holds, progress⟩ := held.progress_at id locked
      exact held.move holds ⟨progress, progress⟩
  | modify loaded =>
      obtain ⟨holds, sameRead, sameContent⟩ :=
        held.progress_at id loaded
      refine held.move holds ⟨?_, sameContent⟩
      rw [sameRead]
  | truncate decided =>
      obtain ⟨holds, isJob, _⟩ := held.progress_at id decided
      exact held.move holds ⟨isJob, rfl⟩
  | write truncated =>
      obtain ⟨holds, isJob, _⟩ := held.progress_at id truncated
      exact held.move holds isJob
  | @unlock process result ready =>
      have holds : state.holder = some process := by
        rcases ready with decided | saved
        · exact (held.progress_at id decided).1
        · exact (held.progress_at id saved).1
      exact held.leave trivial holds

/-- The holder moves on inside its critical section. -/
theorem Serial.move
    {start : κ} {state : State ι κ ρ} (serial : Serial jobs start state)
    {process : ι} {pc : Pc κ ρ} {content : κ}
    (holds : state.holder = some process) (inside : ¬ pc.outside)
    (held :
      Held jobs { state.move process pc with content := content }) :
    Serial jobs start
      { state.move process pc with content := content } where
  held := held
  distinct := serial.distinct
  started := by
    intro other member
    by_cases same : other = process
    · subst same
      intro idle
      simp only [State.move, Function.update_self] at idle
      rw [idle] at inside
      exact inside trivial
    · simpa [State.move, same] using serial.started other member
  waiting := by
    intro other absent
    have different : other ≠ process := by
      intro same
      obtain ⟨earlier, ordered, _⟩ := serial.taken process holds
      refine absent ?_
      rw [same]
      simp [State.move, ordered]
    simpa [State.move, different] using serial.waiting other absent
  free := by
    intro isFree
    cases holds.symm.trans isFree
  taken := serial.taken
  results := by
    intro other result finished
    by_cases same : other = process
    · subst same
      simp only [State.move, Function.update_self] at finished
      rw [finished] at inside
      exact absurd trivial inside
    · simp only [State.move, ne_eq, same, not_false_eq_true,
        Function.update_of_ne] at finished
      exact serial.results other result finished

/-- A process that takes the lock joins the order. -/
theorem Serial.lock
    {start : κ} {state : State ι κ ρ} (serial : Serial jobs start state)
    {process : ι} (free : state.holder = none)
    (idle : state.pcs process = .idle)
    {next : State ι κ ρ}
    (isNext :
      next =
        { state.move process .locked with
          base := state.content
          holder := some process
          order := state.order ++ [process] })
    (held : Held jobs next) :
    Serial jobs start next := by
  subst isNext
  have new : process ∉ state.order :=
    fun member => serial.started process member idle
  refine ⟨held, ?_, ?_, ?_, nofun, ?_, ?_⟩
  · rw [List.nodup_append]
    refine ⟨serial.distinct, List.nodup_singleton _, ?_⟩
    intro other member added isAdded same
    rw [List.mem_singleton] at isAdded
    rw [same, isAdded] at member
    exact new member
  · intro other member
    by_cases same : other = process
    · subst same
      simp [State.move]
    · have before : other ∈ state.order := by
        simpa [same] using member
      simpa [State.move, same] using serial.started other before
  · intro other absent
    simp only [List.mem_append, List.mem_singleton, not_or] at absent
    simpa [State.move, absent.2] using serial.waiting other absent.1
  · intro other holdsOther
    cases holdsOther
    exact ⟨state.order, rfl, serial.free free⟩
  · intro other result finished
    by_cases same : other = process
    · subst same
      simp [State.move] at finished
    · simp only [State.move, ne_eq, same, not_false_eq_true,
        Function.update_of_ne] at finished
      rw [serialResults_snoc]
      exact
        List.mem_append_left _ (serial.results other result finished)

/-- A process that releases the lock leaves the content and has the result of
its job after those before it. -/
theorem Serial.unlock
    {start : κ} {state : State ι κ ρ} (serial : Serial jobs start state)
    {process : ι} {result : ρ} (holds : state.holder = some process)
    (returned : (jobs.job process state.base).1 = result)
    (rewritten : state.content = jobs.after state.base process)
    (held :
      Held jobs
        { state.move process (.finished result) with holder := none }) :
    Serial jobs start
      { state.move process (.finished result) with holder := none } := by
  obtain ⟨earlier, ordered, isBase⟩ := serial.taken process holds
  refine ⟨held, serial.distinct, ?_, ?_, ?_, nofun, ?_⟩
  · intro other member
    by_cases same : other = process
    · subst same
      simp [State.move]
    · simpa [State.move, same] using serial.started other member
  · intro other absent
    have different : other ≠ process := by
      intro same
      refine absent ?_
      rw [same]
      simp [State.move, ordered]
    simpa [State.move, different] using serial.waiting other absent
  · intro _
    show state.content = serialContent jobs start state.order
    rw [rewritten, ordered, serialContent_snoc, isBase]
  · intro other otherResult finished
    show (other, otherResult) ∈ serialResults jobs start state.order
    by_cases same : other = process
    · subst same
      simp only [State.move, Function.update_self,
        Pc.finished.injEq] at finished
      rw [ordered, serialResults_snoc, ← isBase, returned, finished]
      exact List.mem_append_right _ (List.mem_singleton_self _)
    · simp only [State.move, ne_eq, same, not_false_eq_true,
        Function.update_of_ne] at finished
      exact serial.results other otherResult finished

/-- Every step keeps the account of the order. -/
theorem serial_step
    {start : κ} {state next : State ι κ ρ} {action : Action ι}
    (serial : Serial jobs start state)
    (stepped : step jobs state action = some next) :
    Serial jobs start next := by
  have held := held_step serial.held stepped
  cases moves_of_step stepped with
  | lock free idle => exact serial.lock free idle rfl held
  | load locked =>
      obtain ⟨holds, _⟩ := serial.held.progress_at id locked
      exact serial.move holds id held
  | modify loaded =>
      obtain ⟨holds, _⟩ := serial.held.progress_at id loaded
      exact serial.move holds id held
  | truncate decided =>
      obtain ⟨holds, _⟩ := serial.held.progress_at id decided
      exact serial.move holds id held
  | write truncated =>
      obtain ⟨holds, _⟩ := serial.held.progress_at id truncated
      exact serial.move holds id held
  | unlock ready =>
      rcases ready with decided | saved
      · obtain ⟨holds, isJob, unchanged⟩ :=
          serial.held.progress_at id decided
        refine serial.unlock holds (by rw [isJob]) ?_ held
        rw [unchanged, Jobs.after, isJob]
        rfl
      · obtain ⟨holds, isJob⟩ := serial.held.progress_at id saved
        refine serial.unlock holds (by rw [isJob]) ?_ held
        rw [Jobs.after, isJob]
        rfl

theorem serial_of_reachable
    {start : κ} {state : State ι κ ρ}
    (reachable : (machine jobs start).Reachable state) :
    Serial jobs start state :=
  reachable.invariant (Serial jobs start) (serial_init start)
    fun _ _ _ serial stepped => serial_step serial stepped

/-- A process that waits while the lock is free can run its job without
interruption. -/
theorem exists_solo_run
    {start : κ} {state : State ι κ ρ} (process : ι)
    (reachable : (machine jobs start).Reachable state)
    (free : state.holder = none)
    (idle : state.pcs process = .idle) :
    ∃ next, (machine jobs start).Reachable next ∧
      next.holder = none ∧
      next.order = state.order ++ [process] ∧
      ∀ other, other ≠ process → next.pcs other = state.pcs other := by
  have others :
      ∀ pc : Pc κ ρ, ∀ other, other ≠ process →
        (state.move process pc).pcs other = state.pcs other := by
    intro pc other different
    simp [State.move, different]
  cases decided : jobs.job process state.content with
  | mk result rewrite =>
      cases rewrite with
      | none =>
          have ran :
              (machine jobs start).run state
                  [.lock process, .load process, .modify process,
                    .unlock process] =
                some
                  { state.move process (.finished result) with
                    base := state.content
                    holder := none
                    order := state.order ++ [process] } := by
            simp [Machine.run, machine, step, free, idle, State.move,
              decided]
          exact ⟨_, reachable.run ran, rfl, rfl, others _⟩
      | some content =>
          have ran :
              (machine jobs start).run state
                  [.lock process, .load process, .modify process,
                    .truncate process, .write process,
                    .unlock process] =
                some
                  { state.move process (.finished result) with
                    content := content
                    base := state.content
                    holder := none
                    order := state.order ++ [process] } := by
            simp [Machine.run, machine, step, free, idle, State.move,
              decided]
          exact ⟨_, reachable.run ran, rfl, rfl, others _⟩

end Steps

section Crashes

variable [DecidableEq ι] (jobs : Jobs ι κ ρ)

/-- A step, or the end of a process inside its critical section. -/
inductive Event (ι : Type) where
  | step (action : Action ι)
  | crash (process : ι)
  deriving DecidableEq, Repr

/-- When the holder is killed the lock is freed and the file stays as it is; the
process may be started again. -/
def stepOrCrash (state : State ι κ ρ) : Event ι → Option (State ι κ ρ)
  | .step action => step jobs state action
  | .crash process =>
      if state.holder = some process then
        some { state.move process .idle with holder := none }
      else none

def crashing (content : κ) : Machine (State ι κ ρ) (Event ι) where
  init := State.init content
  step := stepOrCrash jobs

@[simp]
theorem stepOrCrash_step (state : State ι κ ρ) (action : Action ι) :
    stepOrCrash jobs state (.step action) = step jobs state action :=
  rfl

theorem stepOrCrash_crash
    {state : State ι κ ρ} {process : ι}
    (holds : state.holder = some process) :
    stepOrCrash jobs state (.crash process) =
      some { state.move process .idle with holder := none } :=
  if_pos holds

variable {jobs}

theorem crash_cases
    {state next : State ι κ ρ} {process : ι}
    (stepped : stepOrCrash jobs state (.crash process) = some next) :
    state.holder = some process ∧
      next = { state.move process .idle with holder := none } := by
  simp only [stepOrCrash] at stepped
  split at stepped
  next holds =>
    cases stepped
    exact ⟨holds, rfl⟩
  next => cases stepped

theorem held_stepOrCrash
    {state next : State ι κ ρ} {event : Event ι}
    (held : Held jobs state)
    (stepped : stepOrCrash jobs state event = some next) :
    Held jobs next := by
  cases event with
  | step action => exact held_step held stepped
  | crash process =>
      obtain ⟨holds, rfl⟩ := crash_cases stepped
      exact held.leave trivial holds

end Crashes

end Transaction
