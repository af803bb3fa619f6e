import HollerServer.Token.Locking

/-!
# What a reader sees while the store is saved

`save` rewrites the file with `fs::write`, which truncates it first.  Readers
(`list`, `ping`) take no lock, and a process killed between the two steps leaves
the truncated file to the next operation.  A truncated file loads as an empty
store, so what is loaded is what was committed before or after the operation
exactly as long as no file with records in it is truncated.
-/

namespace HollerServer.Token

open Transaction Transition

section Torn

variable {ι : Type}
variable (crates : Crates) (pepper : List UInt8)
variable (operations : ι → Mutation)

/-- The file loads as it did before the latest operation, or as that operation
leaves it. -/
def Intact (state : State ι File Reply) : Prop :=
  load crates state.content = load crates state.base ∨
  ∃ process, state.order.getLast? = some process ∧
    load crates state.content =
      load crates ((operations process).exec crates pepper state.base).2

/-- The step does not truncate a file that holds records. -/
def TruncatesEmpty
    (state : State ι File Reply) (event : Event ι) : Prop :=
  ∀ process, event = .step (.truncate process) →
    load crates state.content = .ok []

/-- The account of the lock, and files that can be loaded. -/
structure Loadable (state : State ι File Reply) : Prop where
  held : Held (storeJobs crates pepper operations) state
  content : ∃ records, load crates state.content = .ok records
  base : ∃ records, load crates state.base = .ok records

variable {crates pepper operations}

/-- A job that saves does so after its checks, and its file loads as the records
it saved. -/
theorem job_eq_some
    (lawful : crates.Lawful) {mutation : Mutation}
    {file rewrite : File} {reply : Reply} {records : List TokenRecord}
    (loaded : load crates file = .ok records)
    (decided :
      mutation.job crates pepper file = (reply, some rewrite)) :
    ∃ records' answer,
      mutation.modify crates pepper records = .ok (records', answer) ∧
      load crates rewrite = .ok records' ∧
      (mutation.exec crates pepper file).2 = rewrite := by
  have executed := mutation.exec_eq_job crates pepper file
  rw [decided] at executed
  unfold Mutation.job at decided
  rw [loaded, Result.ok_bind] at decided
  cases modified : mutation.modify crates pepper records with
  | ok pair =>
      rw [modified] at decided
      obtain ⟨_, saved⟩ := Prod.mk.inj decided
      rw [← Option.some.inj saved] at executed ⊢
      exact
        ⟨pair.1, pair.2, rfl, load_save lawful pair.1,
          congrArg Prod.snd executed⟩
  | err error =>
      rw [modified] at decided
      cases decided
  | panicked =>
      rw [modified] at decided
      cases decided

theorem loadable_init
    {file : File} {records : List TokenRecord}
    (loaded : load crates file = .ok records) :
    Loadable crates pepper operations (State.init file) where
  held := held_init _ file
  content := ⟨records, loaded⟩
  base := ⟨records, loaded⟩

variable [DecidableEq ι]

theorem loadable_step
    (lawful : crates.Lawful)
    {state next : State ι File Reply} {event : Event ι}
    (loadable : Loadable crates pepper operations state)
    (stepped :
      stepOrCrash (storeJobs crates pepper operations) state event =
        some next) :
    Loadable crates pepper operations next := by
  have held := held_stepOrCrash loadable.held stepped
  cases event with
  | crash process =>
      obtain ⟨_, rfl⟩ := crash_cases stepped
      exact ⟨held, loadable.content, loadable.base⟩
  | step action =>
      rw [stepOrCrash_step] at stepped
      cases moves_of_step stepped with
      | lock _ _ => exact ⟨held, loadable.content, loadable.content⟩
      | load _ => exact ⟨held, loadable.content, loadable.base⟩
      | modify _ => exact ⟨held, loadable.content, loadable.base⟩
      | truncate _ => exact ⟨held, ⟨[], rfl⟩, loadable.base⟩
      | write truncated =>
          obtain ⟨_, decided, _⟩ :=
            loadable.held.progress_at id truncated
          obtain ⟨records, loaded⟩ := loadable.base
          obtain ⟨records', _, _, loaded', _⟩ :=
            job_eq_some lawful loaded decided
          exact ⟨held, ⟨records', loaded'⟩, loadable.base⟩
      | unlock _ => exact ⟨held, loadable.content, loadable.base⟩

/-- A step that truncates no records leaves a file that loads as before or after
the operation. -/
theorem intact_step
    (lawful : crates.Lawful)
    {state next : State ι File Reply} {event : Event ι}
    (loadable : Loadable crates pepper operations state)
    (intact : Intact crates pepper operations state)
    (truncatesEmpty : TruncatesEmpty crates state event)
    (stepped :
      stepOrCrash (storeJobs crates pepper operations) state event =
        some next) :
    Intact crates pepper operations next := by
  cases event with
  | crash process =>
      obtain ⟨_, rfl⟩ := crash_cases stepped
      exact intact
  | step action =>
      rw [stepOrCrash_step] at stepped
      cases moves_of_step stepped with
      | lock _ _ => exact Or.inl rfl
      | load _ => exact intact
      | modify _ => exact intact
      | @truncate process _ _ decided =>
          obtain ⟨_, _, unchanged⟩ :=
            loadable.held.progress_at id decided
          refine Or.inl ?_
          show load crates (some "") = load crates state.base
          rw [← unchanged, truncatesEmpty process rfl]
          rfl
      | @write process _ _ truncated =>
          obtain ⟨holds, isJob, _⟩ :=
            loadable.held.progress_at id truncated
          obtain ⟨records, loaded⟩ := loadable.base
          obtain ⟨_, _, _, _, executed⟩ :=
            job_eq_some lawful loaded isJob
          refine
            Or.inr ⟨process, loadable.held.latest process holds, ?_⟩
          exact congrArg (load crates) executed.symm
      | unlock _ => exact intact

/-- Once a file that holds records is truncated, it loads neither as before nor
as after the operation. -/
theorem truncatesEmpty_of_intact
    (lawful : crates.Lawful)
    {state next : State ι File Reply} {event : Event ι}
    (loadable : Loadable crates pepper operations state)
    (stepped :
      stepOrCrash (storeJobs crates pepper operations) state event =
        some next)
    (intact : Intact crates pepper operations next) :
    TruncatesEmpty crates state event := by
  intro process isTruncate
  subst isTruncate
  rw [stepOrCrash_step] at stepped
  cases moves_of_step stepped with
  | truncate decided =>
      obtain ⟨holds, isJob, unchanged⟩ :=
        loadable.held.progress_at id decided
      rw [unchanged]
      rcases intact with asBefore | ⟨latest, isLatest, asAfter⟩
      · exact asBefore.symm
      · have isProcess : process = latest := by
          have last := loadable.held.latest process holds
          exact Option.some.inj (last.symm.trans isLatest)
        subst isProcess
        obtain ⟨records, loaded⟩ := loadable.base
        obtain ⟨records', answer, modified, loaded', executed⟩ :=
          job_eq_some lawful loaded isJob
        have empty : records' = [] := by
          have asAfter :
              load crates (some "") =
                load crates
                  ((operations process).exec crates pepper
                    state.base).2 :=
            asAfter
          rw [executed, loaded'] at asAfter
          exact (Result.ok.inj asAfter).symm
        obtain ⟨_, grown⟩ := Mutation.modify_others modified
        rw [empty, List.length_nil] at grown
        have nothing : records = [] :=
          List.eq_nil_of_length_eq_zero (by omega)
        rw [loaded, nothing]

/-- In a run of any number of processes, any of which may be killed at any step,
what an unlocked reader or the first operation after a crash loads is always
what was committed before or after the latest operation, exactly if no step of
the run truncates a file that holds records. -/
theorem intact_throughout_iff
    (lawful : crates.Lawful)
    {file : File} {records : List TokenRecord}
    (loaded : load crates file = .ok records)
    {events : List (Event ι)}
    (enabled :
      ((crashing (storeJobs crates pepper operations) file).run
        (State.init file) events).isSome = true) :
    (∀ done target, done <+: events →
      (crashing (storeJobs crates pepper operations) file).run
        (State.init file) done = some target →
      Intact crates pepper operations target) ↔
    (crashing (storeJobs crates pepper operations) file).Along
      (TruncatesEmpty crates) (State.init file) events := by
  let store := crashing (storeJobs crates pepper operations) file
  have loadable :
      ∀ {done target}, store.run (State.init file) done = some target →
        Loadable crates pepper operations target :=
    fun reached =>
      store.run_preserves
        (fun _ _ _ loadable stepped =>
          loadable_step lawful loadable stepped)
        (loadable_init loaded) reached
  have kept :
      ∀ state event next,
        Loadable crates pepper operations state ∧
          Intact crates pepper operations state →
        True → TruncatesEmpty crates state event →
        store.step state event = some next →
        Loadable crates pepper operations next ∧
          Intact crates pepper operations next := by
    intro state event next holds _ truncatesEmpty stepped
    exact
      ⟨loadable_step lawful holds.1 stepped,
        intact_step lawful holds.1 holds.2 truncatesEmpty stepped⟩
  have forced :
      ∀ state event next,
        Loadable crates pepper operations state ∧
          Intact crates pepper operations state →
        True → store.step state event = some next →
        Loadable crates pepper operations next ∧
          Intact crates pepper operations next →
        TruncatesEmpty crates state event := by
    intro state event next holds _ stepped holdsNext
    exact
      truncatesEmpty_of_intact lawful holds.1 stepped holdsNext.2
  rw [← store.prefixes_iff_along kept forced
    ⟨loadable_init loaded, Or.inl rfl⟩ enabled
    (store.along_of_forall (fun _ _ => trivial) _ _)]
  constructor
  · intro everywhere done target isPrefix reached
    exact ⟨loadable reached, everywhere done target isPrefix reached⟩
  · intro everywhere done target isPrefix reached
    exact (everywhere done target isPrefix reached).2

end Torn

/-- The steps of an operation up to the truncation of the file. -/
def untilTruncated : List (Event Unit) :=
  [.step (.lock ()), .step (.load ()), .step (.modify ()),
    .step (.truncate ())]

theorem run_untilTruncated
    {jobs : Jobs Unit File Reply} {file rewrite : File} {reply : Reply}
    (decided : jobs.job () file = (reply, some rewrite)) :
    (crashing jobs file).run (State.init file) untilTruncated =
      some
        { content := jobs.blank
          base := file
          holder := some ()
          pcs :=
            Function.update (fun _ => .idle) ()
              (.truncated reply rewrite)
          order := [()] } := by
  simp [untilTruncated, Machine.run, crashing, stepOrCrash, step,
    State.init, State.move, decided]

theorem sample_mint_job :
    (Mutation.mint Sample.minted Sample.mintResult).job .sample
        Sample.pepper none =
      (.ok (.minted Sample.mintResult),
        some (save .sample [Sample.minted])) :=
  Mutation.job_of_modify load_none rfl

theorem sample_redeem_job :
    Sample.redeem.job .sample Sample.pepper
        (save .sample [Sample.minted]) =
      (.ok (.redeemed
          ⟨Sample.tokenId, Sample.clientId, Sample.credential⟩),
        some (save .sample [Sample.bound])) :=
  Mutation.job_of_modify (load_save Crates.sample_lawful _)
    Sample.modify_redeem

/-- A mint on a store without a file is never seen half done. -/
theorem intact_throughout_iff_firstMint :
    let operations : Unit → Mutation :=
      fun _ => .mint Sample.minted Sample.mintResult
    let store :=
      crashing (storeJobs .sample Sample.pepper operations) none
    (store.run (State.init none) untilTruncated).isSome = true ∧
    ∀ done target, done <+: untilTruncated →
      store.run (State.init none) done = some target →
      Intact .sample Sample.pepper operations target := by
  intro operations store
  have ran :=
    @run_untilTruncated (storeJobs .sample Sample.pepper operations)
      none _ _ sample_mint_job
  have enabled :
      (store.run (State.init none) untilTruncated).isSome = true := by
    rw [ran]
    rfl
  refine
    ⟨enabled,
      (intact_throughout_iff Crates.sample_lawful load_none
        enabled).mpr ?_⟩
  simp [untilTruncated, Machine.Along, TruncatesEmpty, crashing,
    stepOrCrash, step, State.init, State.move]

/-- While a redeem saves, and after a crash at that point, the store of one
record loads as empty. -/
theorem redeem_tears_store :
    ∃ torn crashed,
      (crashing
        (storeJobs .sample Sample.pepper fun _ => Sample.redeem)
        (save .sample [Sample.minted])).run
          (State.init (save .sample [Sample.minted]))
          untilTruncated = some torn ∧
      stepOrCrash
        (storeJobs .sample Sample.pepper fun _ => Sample.redeem)
          torn (.crash ()) = some crashed ∧
      load .sample torn.content = .ok [] ∧
      load .sample crashed.content = .ok [] ∧
      ¬ Intact .sample Sample.pepper (fun _ => Sample.redeem) torn ∧
      ¬ Intact .sample Sample.pepper (fun _ => Sample.redeem)
        crashed := by
  have before := load_save Crates.sample_lawful [Sample.minted]
  have after :
      load .sample
          (Sample.redeem.exec .sample Sample.pepper
            (save .sample [Sample.minted])).2 =
        .ok [Sample.bound] := by
    rw [Mutation.exec_eq_job, sample_redeem_job]
    exact load_save Crates.sample_lawful [Sample.bound]
  have lost :
      ∀ state : State Unit File Reply,
        state.content = some "" →
        state.base = save .sample [Sample.minted] →
        ¬ Intact .sample Sample.pepper (fun _ => Sample.redeem)
          state := by
    rintro state isBlank isBase (asBefore | ⟨_, _, asAfter⟩)
    · rw [isBlank, isBase, before] at asBefore
      cases asBefore
    · rw [isBlank, isBase, after] at asAfter
      cases asAfter
  have isJob :=
    storeJobs_job .sample Sample.pepper
      (fun _ : Unit => Sample.redeem) ()
  have decided :=
    (congrFun isJob (save .sample [Sample.minted])).trans
      sample_redeem_job
  have ran := run_untilTruncated decided
  exact
    ⟨_, _, ran, stepOrCrash_crash _ rfl, rfl, rfl, lost _ rfl rfl,
      lost _ rfl rfl⟩

end HollerServer.Token
