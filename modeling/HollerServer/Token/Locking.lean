import HollerServer.Lib.Transaction
import HollerServer.Token.History

/-!
# Mutating operations of many processes

Any number of processes run mutating operations on one store, each as the steps
of `with_lock`: lock, load, modify, save (truncate and write) and unlock.  In
every interleaving the file and the replies are those of the operations run one
after the other in the order in which they took the lock.
-/

namespace HollerServer.Token

open Transaction

namespace Mutation

variable (crates : Crates) (pepper : List UInt8)

/-- What an operation returns, and what it saves if it saves. -/
def job (mutation : Mutation) (file : File) : Reply × Option File :=
  match load crates file >>= mutation.modify crates pepper with
  | .ok (records, answer) => (.ok answer, some (save crates records))
  | .err error => (.err error, none)
  | .panicked => (.panicked, none)

/-- An operation that runs alone does its job. -/
theorem exec_eq_job (mutation : Mutation) (file : File) :
    mutation.exec crates pepper file =
      ((mutation.job crates pepper file).1,
        (mutation.job crates pepper file).2.getD file) := by
  unfold exec withLock job
  cases load crates file >>= mutation.modify crates pepper with
  | ok pair => rfl
  | err error => rfl
  | panicked => rfl

variable {crates pepper} in
theorem job_of_modify
    {mutation : Mutation} {file : File}
    {records records' : List TokenRecord} {answer : Answer}
    (loaded : load crates file = .ok records)
    (modified :
      mutation.modify crates pepper records = .ok (records', answer)) :
    mutation.job crates pepper file =
      (.ok answer, some (save crates records')) := by
  unfold job
  rw [loaded, Result.ok_bind, modified]

/-- The token an operation is about. -/
def tokenId : Mutation → String
  | .mint record _ => record.tokenId
  | .redeem _ _ _ tokenId _ _ => tokenId
  | .verifyCredential _ tokenId _ => tokenId
  | .delete _ tokenId => tokenId

end Mutation

/-- The reply to a mint that succeeded. -/
def Reply.isMinted : Reply → Bool
  | .ok (.minted _) => true
  | _ => false

section Order

variable {ι : Type}
variable (crates : Crates) (pepper : List UInt8)
variable (operations : ι → Mutation)

/-- The operations one after the other. -/
def inOrder : File → List ι → File × List (ι × Reply)
  | file, [] => (file, [])
  | file, process :: rest =>
      let (reply, file') := (operations process).exec crates pepper file
      let (final, replies) := inOrder file' rest
      (final, (process, reply) :: replies)

/-- The operations as jobs; `fs::write` truncates the file, or creates an empty
one, before it writes. -/
def storeJobs : Jobs ι File Reply where
  blank := some ""
  job := fun process => (operations process).job crates pepper

theorem storeJobs_job (process : ι) :
    (storeJobs crates pepper operations).job process =
      (operations process).job crates pepper :=
  rfl

theorem inOrder_eq_serial (file : File) (order : List ι) :
    inOrder crates pepper operations file order =
      (serialContent (storeJobs crates pepper operations) file order,
        serialResults (storeJobs crates pepper operations) file
          order) := by
  induction order generalizing file with
  | nil => rfl
  | cons process rest inductionHypothesis =>
      rw [inOrder, Mutation.exec_eq_job]
      simp only [inductionHypothesis]
      rfl

end Order

section Records

variable {crates : Crates} {pepper : List UInt8}

/-- How a successful operation other than a mint rewrites the record of its
token. -/
inductive Rewrites (crates : Crates) (pepper : List UInt8) :
    Mutation → TokenRecord → TokenRecord → Prop
  | redeem
      {now clientDraw credentialDraw tokenId secret machine clientId
        credential record}
      (unused : record.displayState crates now.nanos = .unused) :
      Rewrites crates pepper
        (.redeem now clientDraw credentialDraw tokenId secret machine)
        record
        (record.redeemed crates pepper machine clientId credential)
  | see {now tokenId credential lastSeen record}
      (bound : record.state = .bound) :
      Rewrites crates pepper (.verifyCredential now tokenId credential)
        record { record with lastSeen := lastSeen }
  | delete {now tokenId record} :
      Rewrites crates pepper (.delete now tokenId) record record.deleted

theorem Rewrites.tokenId_eq
    {mutation : Mutation} {record record' : TokenRecord}
    (rewrites : Rewrites crates pepper mutation record record') :
    record'.tokenId = record.tokenId := by
  cases rewrites with
  | redeem _ => rfl
  | see _ => rfl
  | delete => exact record.deleted_tokenId

/-- A successful operation appends a minted record, or rewrites the record of
its token in place. -/
theorem Mutation.modify_cases
    {mutation : Mutation} {records records' : List TokenRecord}
    {answer : Answer}
    (modified :
      mutation.modify crates pepper records = .ok (records', answer)) :
    (∃ record result, mutation = .mint record result ∧
      records' = records ++ [record] ∧ answer = .minted result) ∨
    (∃ record record',
      records.findKey TokenRecord.tokenId mutation.tokenId =
        some record ∧
      Rewrites crates pepper mutation record record' ∧
      records' = putRecord record' records ∧
      Reply.isMinted (.ok answer) = false) := by
  cases mutation with
  | mint record result =>
      cases modified
      exact Or.inl ⟨record, result, rfl, rfl, rfl⟩
  | redeem now clientDraw credentialDraw tokenId secret machine =>
      obtain ⟨⟨_, _⟩, redeemed, built⟩ := Result.bind_eq_ok.mp modified
      cases built
      obtain ⟨record, _, _, found, unused, _, _, _, _, rfl⟩ :=
        redeemSection_eq_ok.mp redeemed
      exact Or.inr ⟨record, _, found, .redeem unused, rfl, rfl⟩
  | verifyCredential now tokenId credential =>
      obtain ⟨⟨_, _⟩, verified, built⟩ := Result.bind_eq_ok.mp modified
      cases built
      obtain ⟨record, _, found, bound, _, _, _, rfl⟩ :=
        verifySection_eq_ok.mp verified
      exact Or.inr ⟨record, _, found, .see bound, rfl, rfl⟩
  | delete now tokenId =>
      obtain ⟨⟨_, _⟩, deleted, built⟩ := Result.bind_eq_ok.mp modified
      cases built
      obtain ⟨record, found, _, rfl⟩ := deleteSection_eq_ok.mp deleted
      exact Or.inr ⟨record, _, found, .delete, rfl, rfl⟩

/-- A successful operation leaves the records of other tokens in their order,
and adds a record exactly if it is a mint. -/
theorem Mutation.modify_others
    {mutation : Mutation} {records records' : List TokenRecord}
    {answer : Answer}
    (modified :
      mutation.modify crates pepper records = .ok (records', answer)) :
    records'.filter
        (fun record => record.tokenId ≠ mutation.tokenId) =
      records.filter
        (fun record => record.tokenId ≠ mutation.tokenId) ∧
    records'.length =
      records.length +
        if Reply.isMinted (.ok answer) then 1 else 0 := by
  rcases Mutation.modify_cases modified with
    ⟨record, result, rfl, rfl, rfl⟩ |
    ⟨record, record', found, rewrites, rfl, notMinted⟩
  · simp [Mutation.tokenId, Reply.isMinted]
  · obtain ⟨_, keyed⟩ := List.findKey_eq_some found
    rw [← keyed, ← rewrites.tokenId_eq, notMinted]
    exact
      ⟨List.filter_rewriteFirst rfl records,
        List.length_rewriteFirst record' records⟩

/-- What an operation does to a file that can be loaded. -/
theorem Mutation.exec_others
    (lawful : crates.Lawful) (mutation : Mutation)
    {file : File} {records : List TokenRecord}
    (loaded : load crates file = .ok records) :
    ∃ records',
      load crates (mutation.exec crates pepper file).2 = .ok records' ∧
      records'.filter
          (fun record => record.tokenId ≠ mutation.tokenId) =
        records.filter
          (fun record => record.tokenId ≠ mutation.tokenId) ∧
      records'.length =
        records.length +
          if Reply.isMinted (mutation.exec crates pepper file).1 then 1
          else 0 := by
  unfold Mutation.exec
  rcases withLock_cases (mutation.modify crates pepper) loaded with
    ⟨records', answer, modified, executed⟩ | ⟨_, failed, unchanged⟩
  · rw [executed]
    exact
      ⟨records', load_save lawful records',
        Mutation.modify_others modified⟩
  · rw [unchanged]
    refine ⟨records, loaded, rfl, ?_⟩
    have notMinted :
        ∀ reply : Reply, reply.isOk = false →
          Reply.isMinted reply = false := by
      intro reply notOk
      cases reply with
      | ok answer => cases notOk
      | err error => rfl
      | panicked => rfl
    rw [notMinted _ failed]
    rfl

/-- Operations one after the other add a record for each successful mint. -/
theorem length_inOrder
    {ι : Type} (lawful : crates.Lawful)
    (operations : ι → Mutation) (order : List ι)
    {file : File} {records : List TokenRecord}
    (loaded : load crates file = .ok records) :
    ∃ records',
      load crates (inOrder crates pepper operations file order).1 =
        .ok records' ∧
      records'.length =
        records.length +
          ((inOrder crates pepper operations file order).2.filter
            fun entry => Reply.isMinted entry.2).length := by
  induction order generalizing file records with
  | nil => exact ⟨records, loaded, rfl⟩
  | cons process rest inductionHypothesis =>
      obtain ⟨middle, loadedMiddle, _, grown⟩ :=
        (operations process).exec_others lawful loaded
      obtain ⟨final, loadedFinal, counted⟩ :=
        inductionHypothesis loadedMiddle
      refine ⟨final, loadedFinal, ?_⟩
      rw [counted, grown, inOrder, List.filter_cons]
      split
      · rw [List.length_cons]
        omega
      · rfl

end Records

section Race

variable {crates : Crates} {pepper : List UInt8}

/-- A redeem of the token that presents the right secret in time. -/
def Contends
    (crates : Crates) (pepper : List UInt8) (record : TokenRecord)
    (mutation : Mutation) : Prop :=
  ∃ now clientBytes credentialBytes secret machine,
    mutation =
      .redeem now (some clientBytes) (some credentialBytes)
        record.tokenId secret machine ∧
    record.displayState crates now.nanos = .unused ∧
    verifySecret crates pepper secret record.secretHash = .ok true

/-- The operation is no delete of the token. -/
def Spares (tokenId : String) (mutation : Mutation) : Prop :=
  ∀ now, mutation ≠ .delete now tokenId

/-- What an operation does to the record of a token: nothing, or what it does to
its own token. -/
theorem Mutation.exec_find
    (lawful : crates.Lawful) (mutation : Mutation)
    {file : File} {records : List TokenRecord} {record : TokenRecord}
    (loaded : load crates file = .ok records)
    (found :
      records.findKey TokenRecord.tokenId record.tokenId =
        some record) :
    ∃ records' record',
      load crates (mutation.exec crates pepper file).2 = .ok records' ∧
      records'.findKey TokenRecord.tokenId record.tokenId =
        some record' ∧
      (record' = record ∨
        (mutation.tokenId = record.tokenId ∧
          (mutation.exec crates pepper file).1.isOk = true ∧
          Rewrites crates pepper mutation record record')) := by
  unfold Mutation.exec
  rcases withLock_cases (mutation.modify crates pepper) loaded with
    ⟨records', answer, modified, executed⟩ | ⟨_, _, unchanged⟩
  · rw [executed]
    rcases Mutation.modify_cases modified with
      ⟨minted, result, rfl, rfl, rfl⟩ |
      ⟨old, new, foundOld, rewrites, rfl, _⟩
    · exact
        ⟨_, record, load_save lawful _,
          List.findKey_append [minted] found, Or.inl rfl⟩
    · obtain ⟨_, keyed⟩ := List.findKey_eq_some foundOld
      have keyedNew : new.tokenId = mutation.tokenId :=
        rewrites.tokenId_eq.trans keyed
      by_cases same : mutation.tokenId = record.tokenId
      · have isRecord : old = record := by
          rw [same, found] at foundOld
          exact (Option.some.inj foundOld).symm
        subst isRecord
        refine
          ⟨_, new, load_save lawful _, ?_,
            Or.inr ⟨same, rfl, rewrites⟩⟩
        unfold putRecord
        rw [rewrites.tokenId_eq]
        exact
          List.findKey_rewriteFirst_self rewrites.tokenId_eq found
      · refine
          ⟨_, record, load_save lawful _, ?_, Or.inl rfl⟩
        unfold putRecord
        rw [List.findKey_rewriteFirst_of_ne rfl
          (by rw [keyedNew]; exact same)]
        exact found
  · rw [unchanged]
    exact ⟨records, record, loaded, found, Or.inl rfl⟩

/-- A redeem of a bound token is refused as already bound. -/
theorem redeem_bound
    {file : File} {records : List TokenRecord} {record : TokenRecord}
    (loaded : load crates file = .ok records)
    (found :
      records.findKey TokenRecord.tokenId record.tokenId = some record)
    (bound : record.state = .bound)
    (now : Instant) (clientDraw : Draw 16) (credentialDraw : Draw 32)
    (secret machine : String) :
    ((Mutation.redeem now clientDraw credentialDraw record.tokenId
        secret machine).exec crates pepper file).1 =
      .err (.alreadyBound record.tokenId) := by
  have displayed :
      record.displayState crates now.nanos = .bound := by
    unfold TokenRecord.displayState
    rw [bound]
  have refused :
      redeemSection crates pepper now clientDraw credentialDraw
          record.tokenId secret machine records =
        .err (.alreadyBound record.tokenId) := by
    unfold redeemSection
    rw [findRecord_eq_ok.mpr found, Result.ok_bind, displayed]
    rfl
  unfold Mutation.exec withLock Mutation.modify
  rw [loaded, Result.ok_bind]
  simp only [refused]
  rfl

/-- A bound token stays bound while nobody deletes it, and every redeem of it is
refused as already bound. -/
theorem bound_inOrder
    {ι : Type} (lawful : crates.Lawful)
    (operations : ι → Mutation) (order : List ι)
    {file : File} {records : List TokenRecord} {record : TokenRecord}
    (loaded : load crates file = .ok records)
    (found :
      records.findKey TokenRecord.tokenId record.tokenId = some record)
    (bound : record.state = .bound)
    (spared :
      ∀ process ∈ order, Spares record.tokenId (operations process))
    {process : ι} (member : process ∈ order)
    {now : Instant} {clientDraw : Draw 16} {credentialDraw : Draw 32}
    {secret machine : String}
    (redeems :
      operations process =
        .redeem now clientDraw credentialDraw record.tokenId secret
          machine) :
    (process, .err (.alreadyBound record.tokenId)) ∈
      (inOrder crates pepper operations file order).2 := by
  induction order generalizing file records record with
  | nil => cases member
  | cons first rest inductionHypothesis =>
      rcases List.mem_cons.mp member with rfl | later
      · have refused :=
          @redeem_bound crates pepper _ _ _ loaded found bound now
            clientDraw credentialDraw secret machine
        rw [← redeems] at refused
        rw [inOrder, ← refused]
        exact List.mem_cons_self
      · obtain ⟨records', record', loaded', found', change⟩ :=
          (operations first).exec_find lawful loaded found
        have stays :
            record'.state = .bound ∧
              record'.tokenId = record.tokenId := by
          rcases change with rfl | ⟨sameToken, _, rewrites⟩
          · exact ⟨bound, rfl⟩
          · refine ⟨?_, rewrites.tokenId_eq⟩
            generalize isOperation : operations first = operation at *
            cases rewrites with
            | redeem unused => rfl
            | see _ => exact bound
            | @delete now tokenId _ =>
                refine
                  absurd ?_ (spared first List.mem_cons_self now)
                rw [isOperation, ← sameToken]
                rfl
        rw [← stays.2] at found' redeems spared ⊢
        refine List.mem_cons_of_mem _ ?_
        exact
          inductionHypothesis loaded' found' stays.1
            (fun process inside =>
              spared process (List.mem_cons_of_mem _ inside))
            later redeems

theorem Contends.unused
    {record : TokenRecord} {mutation : Mutation}
    (contends : Contends crates pepper record mutation) :
    record.state = .unused := by
  obtain ⟨now, _, _, _, _, _, displayed, _⟩ := contends
  exact (displayState_unused.mp displayed).1

/-- The first contender wins: its redeem succeeds and binds the token. -/
theorem Contends.wins
    (lawful : crates.Lawful)
    {mutation : Mutation} {file : File}
    {records : List TokenRecord} {record : TokenRecord}
    (loaded : load crates file = .ok records)
    (found :
      records.findKey TokenRecord.tokenId record.tokenId = some record)
    (contends : Contends crates pepper record mutation) :
    ∃ result records' record',
      mutation.exec crates pepper file =
        (.ok (.redeemed result), save crates records') ∧
      load crates (save crates records') = .ok records' ∧
      records'.findKey TokenRecord.tokenId record.tokenId =
        some record' ∧
      record'.tokenId = record.tokenId ∧ record'.state = .bound := by
  obtain ⟨now, clientBytes, credentialBytes, secret, machine, rfl,
    displayed, verified⟩ := contends
  have redeemed :=
    (@redeemSection_eq_ok _ _ _ _ _ _ _ machine _ _ _).mpr
      ⟨record, clientBytes, credentialBytes, found, displayed, verified,
        rfl, rfl, rfl, rfl⟩
  exact
    ⟨_, _, _,
      Mutation.exec_of_modify loaded
        (Result.bind_eq_ok.mpr ⟨_, redeemed, rfl⟩),
      load_save lawful _, List.findKey_rewriteFirst_self rfl found,
      rfl, rfl⟩

/-- An operation that neither contends for an unused token nor deletes it leaves
its record as it is. -/
theorem find_of_not_contends
    (lawful : crates.Lawful)
    {mutation : Mutation} {file : File}
    {records : List TokenRecord} {record : TokenRecord}
    (loaded : load crates file = .ok records)
    (found :
      records.findKey TokenRecord.tokenId record.tokenId = some record)
    (unused : record.state = .unused)
    (spares : Spares record.tokenId mutation)
    (notContends : ¬ Contends crates pepper record mutation) :
    ∃ records',
      load crates (mutation.exec crates pepper file).2 = .ok records' ∧
      records'.findKey TokenRecord.tokenId record.tokenId =
        some record := by
  obtain ⟨records', record', loaded', found', change⟩ :=
    mutation.exec_find lawful loaded found
  refine ⟨records', loaded', ?_⟩
  rcases change with rfl | ⟨sameToken, succeeded, rewrites⟩
  · exact found'
  · have accepted := (Mutation.isOk_exec loaded).mp succeeded
    cases rewrites with
    | @redeem now clientDraw credentialDraw tokenId secret machine _ _ _
        displayed =>
        have isToken : tokenId = record.tokenId := sameToken
        subst isToken
        obtain ⟨⟨other, foundOther, _, verified⟩, client,
          credential⟩ := accepted
        have isRecord : other = record :=
          Option.some.inj (foundOther.symm.trans found)
        subst isRecord
        obtain ⟨clientBytes, rfl⟩ := Option.isSome_iff_exists.mp client
        obtain ⟨credentialBytes, rfl⟩ :=
          Option.isSome_iff_exists.mp credential
        exact
          absurd
            ⟨now, clientBytes, credentialBytes, secret, machine, rfl,
              displayed, verified⟩
            notContends
    | see bound =>
        rw [unused] at bound
        cases bound
    | @delete now tokenId _ =>
        have isToken : tokenId = record.tokenId := sameToken
        subst isToken
        exact absurd rfl (spares now)

/-- Of the redeems of a token that present the right secret in time, the first
succeeds and the others are refused as already bound. -/
theorem race_inOrder
    {ι : Type} (lawful : crates.Lawful)
    (operations : ι → Mutation) (order : List ι)
    {file : File} {records : List TokenRecord} {record : TokenRecord}
    (loaded : load crates file = .ok records)
    (found :
      records.findKey TokenRecord.tokenId record.tokenId = some record)
    (spared :
      ∀ process ∈ order, Spares record.tokenId (operations process))
    (contended :
      ∃ process ∈ order,
        Contends crates pepper record (operations process)) :
    ∃ winner ∈ order,
      Contends crates pepper record (operations winner) ∧
      (∃ result, (winner, .ok (.redeemed result)) ∈
        (inOrder crates pepper operations file order).2) ∧
      ∀ process ∈ order, process ≠ winner →
        Contends crates pepper record (operations process) →
        (process, .err (.alreadyBound record.tokenId)) ∈
          (inOrder crates pepper operations file order).2 := by
  obtain ⟨contender, isMember, contends⟩ := contended
  have unused := contends.unused
  induction order generalizing file records with
  | nil => cases isMember
  | cons first rest inductionHypothesis =>
      have sparedRest :
          ∀ process ∈ rest,
            Spares record.tokenId (operations process) :=
        fun process inside =>
          spared process (List.mem_cons_of_mem _ inside)
      by_cases firstContends :
          Contends crates pepper record (operations first)
      · obtain ⟨result, records', record', executed, loaded', found',
          sameToken, bound⟩ := firstContends.wins lawful loaded found
        refine
          ⟨first, List.mem_cons_self, firstContends, ⟨result, ?_⟩, ?_⟩
        · rw [inOrder, executed]
          exact List.mem_cons_self
        · intro process member different processContends
          obtain ⟨now, clientBytes, credentialBytes, secret, machine,
            redeems, _⟩ := processContends
          have later : process ∈ rest :=
            (List.mem_cons.mp member).resolve_left different
          rw [inOrder, executed]
          refine List.mem_cons_of_mem _ ?_
          rw [← sameToken] at found' redeems sparedRest ⊢
          exact
            bound_inOrder lawful operations rest loaded' found' bound
              sparedRest later redeems
      · obtain ⟨records', loaded', found'⟩ :=
          find_of_not_contends lawful loaded found unused
            (spared first List.mem_cons_self) firstContends
        have later : contender ∈ rest := by
          rcases List.mem_cons.mp isMember with rfl | later
          · exact absurd contends firstContends
          · exact later
        obtain ⟨winner, winnerMember, winnerContends, ⟨result, won⟩,
          others⟩ :=
          inductionHypothesis loaded' found' sparedRest later
        refine
          ⟨winner, List.mem_cons_of_mem _ winnerMember, winnerContends,
            ⟨result, List.mem_cons_of_mem _ won⟩, ?_⟩
        intro process member different processContends
        refine List.mem_cons_of_mem _ ?_
        rcases List.mem_cons.mp member with rfl | inside
        · exact absurd processContends firstContends
        · exact others process inside different processContends

end Race

/-- In every interleaving of any number of processes, whenever the lock is free
the file and the replies are those of the operations run one after the other in
the order in which they took the lock.  So each successful mint adds one record,
an operation leaves the records of other tokens and their order alone, and of
the redeems of one unused token with the right secret exactly one succeeds while
the others find it already bound. -/
theorem mutations_serializable
    {ι : Type} [DecidableEq ι] {crates : Crates} {pepper : List UInt8}
    (lawful : crates.Lawful)
    (operations : ι → Mutation) (file : File)
    {state : State ι File Reply}
    (reachable :
      (machine (storeJobs crates pepper operations) file).Reachable
        state)
    (free : state.holder = none) :
    let serial := inOrder crates pepper operations file state.order
    state.content = serial.1 ∧
    (∀ process reply,
      state.pcs process = .finished reply ↔
        (process, reply) ∈ serial.2) ∧
    (∀ process before records, load crates before = .ok records →
      ∃ records',
        load crates
            ((operations process).exec crates pepper before).2 =
          .ok records' ∧
        records'.filter
            (fun record =>
              record.tokenId ≠ (operations process).tokenId) =
          records.filter
            (fun record =>
              record.tokenId ≠ (operations process).tokenId)) ∧
    ∀ records, load crates file = .ok records →
      (∃ records',
        load crates state.content = .ok records' ∧
        records'.length =
          records.length +
            (serial.2.filter
              fun entry => Reply.isMinted entry.2).length) ∧
      ∀ record,
        records.findKey TokenRecord.tokenId record.tokenId =
          some record →
        (∀ process ∈ state.order,
          Spares record.tokenId (operations process)) →
        (∃ process ∈ state.order,
          Contends crates pepper record (operations process)) →
        ∃ winner,
          Contends crates pepper record (operations winner) ∧
          (∃ result,
            state.pcs winner = .finished (.ok (.redeemed result))) ∧
          ∀ process ∈ state.order, process ≠ winner →
            Contends crates pepper record (operations process) →
            state.pcs process =
              .finished (.err (.alreadyBound record.tokenId)) := by
  intro serial
  obtain ⟨sameContent, sameReplies⟩ :=
    (serial_of_reachable reachable).serializable free
  have isSerial :=
    inOrder_eq_serial crates pepper operations file state.order
  have content : state.content = serial.1 := by
    rw [sameContent]
    exact (congrArg Prod.fst isSerial).symm
  have replies :
      ∀ process reply,
        state.pcs process = .finished reply ↔
          (process, reply) ∈ serial.2 := by
    intro process reply
    rw [sameReplies]
    exact (congrArg (fun serial => (process, reply) ∈ serial.2)
      isSerial).symm.to_iff
  refine ⟨content, replies, ?_, ?_⟩
  · intro process before records loaded
    obtain ⟨records', loaded', others, _⟩ :=
      (operations process).exec_others lawful loaded
    exact ⟨records', loaded', others⟩
  · intro records loaded
    refine ⟨?_, ?_⟩
    · rw [content]
      exact length_inOrder lawful operations state.order loaded
    · intro record found spared contended
      obtain ⟨winner, _, contends, ⟨result, won⟩, others⟩ :=
        race_inOrder lawful operations state.order loaded found spared
          contended
      refine
        ⟨winner, contends, ⟨result, (replies _ _).mpr won⟩, ?_⟩
      intro process member different processContends
      exact
        (replies _ _).mpr
          (others process member different processContends)

/-- Two processes that redeem the sample token with its secret. -/
def rivals (laptop : Bool) : Mutation :=
  .redeem Sample.mintedAt (some Sample.clientBytes)
    (some Sample.credentialBytes) Sample.tokenId Sample.secret
    (if laptop then "laptop" else "desktop")

theorem mutations_serializable_rivals :
    ∃ state : State Bool File Reply,
      (machine (storeJobs .sample Sample.pepper rivals)
        (save .sample [Sample.minted])).Reachable state ∧
      state.order = [true, false] ∧
      ∃ winner,
        (∃ result,
          state.pcs winner = .finished (.ok (.redeemed result))) ∧
        state.pcs (!winner) =
          .finished (.err (.alreadyBound Sample.tokenId)) := by
  obtain ⟨middle, reachedMiddle, freeMiddle, orderMiddle, others⟩ :=
    exists_solo_run true
      ((machine (storeJobs .sample Sample.pepper rivals)
        (save .sample [Sample.minted])).reachable_init) rfl rfl
  obtain ⟨state, reached, free, ordered, _⟩ :=
    exists_solo_run false reachedMiddle freeMiddle
      (others false nofun)
  rw [orderMiddle] at ordered
  have contends :
      ∀ laptop,
        Contends .sample Sample.pepper Sample.minted
          (rivals laptop) :=
    fun laptop =>
      ⟨Sample.mintedAt, Sample.clientBytes, Sample.credentialBytes,
        Sample.secret, _, rfl, Sample.displayState_minted,
        Sample.verifySecret_minted⟩
  obtain ⟨_, _, _, onRecords⟩ :=
    mutations_serializable Crates.sample_lawful rivals _ reached free
  obtain ⟨_, race⟩ :=
    onRecords _ (load_save Crates.sample_lawful [Sample.minted])
  obtain ⟨winner, _, won, lost⟩ :=
    race Sample.minted (by simp [List.findKey])
      (fun _ _ _ => nofun)
      ⟨true, by rw [ordered]; decide, contends true⟩
  refine ⟨state, reached, ordered, winner, won, ?_⟩
  refine lost (!winner) ?_ (by cases winner <;> decide) (contends _)
  rw [ordered]
  cases winner <;> decide

end HollerServer.Token
