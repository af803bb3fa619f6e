import HollerServer.Wire.LiveSteps

/-!
# Ownership of sender halves

Every critical section of the registry follows one discipline: a slot either
stays where it is or its sender half is dropped, a dropped sender half has no
slot left, and messages go to sender halves that have a slot of the message's
kind.  `Disciplined` states this for a section that adds no slot; each section
of the registry satisfies it.
-/

namespace HollerServer.Wire

open HollerServer.Proto

/-- The sender actions addressed to one request, in order. -/
def signalsTo (id : ReqId) (signals : Signals) : List (Signal Event) :=
  signals.filterMap fun signal =>
    if signal.1 = id then some signal.2 else none

theorem mem_signalsTo
    {id : ReqId} {signals : Signals} {signal : Signal Event} :
    signal ∈ signalsTo id signals ↔ (id, signal) ∈ signals := by
  simp only [signalsTo, List.mem_filterMap, Option.ite_none_right_eq_some,
    Option.some.injEq]
  constructor
  · rintro ⟨⟨target, found⟩, member, rfl, rfl⟩
    exact member
  · intro member
    exact ⟨(id, signal), member, rfl, rfl⟩

/-- Delivery changes nothing of a request but its channel, and that by the
signals addressed to it. -/
theorem get?_deliver
    (reqs : FiniteMap ReqId Request) (signals : Signals) (id : ReqId) :
    (deliver reqs signals).get? id =
      (reqs.get? id).map fun req =>
        { req with chan := req.chan.applyAll (signalsTo id signals) } := by
  induction signals generalizing reqs with
  | nil =>
      cases found : reqs.get? id with
      | none => exact found
      | some req => exact found
  | cons signal rest inductionHypothesis =>
      have tail :=
        inductionHypothesis
          (reqs.modify signal.1 fun req =>
            { req with chan := req.chan.apply signal.2 })
      refine tail.trans ?_
      rw [FiniteMap.get?_modify]
      by_cases same : id = signal.1
      · have headSignals :
            signalsTo id (signal :: rest) =
              signal.2 :: signalsTo id rest := by
          simp [signalsTo, same]
        rw [if_pos same, headSignals, ← same]
        cases reqs.get? id with
        | none => rfl
        | some req => rfl
      · have restSignals :
            signalsTo id (signal :: rest) = signalsTo id rest := by
          simp [signalsTo, Ne.symm same]
        rw [if_neg same, restSignals]

theorem get?_deliver_eq_some
    {reqs : FiniteMap ReqId Request} {signals : Signals} {id : ReqId}
    {delivered : Request} :
    (deliver reqs signals).get? id = some delivered ↔
      ∃ req, reqs.get? id = some req ∧
        delivered =
          { req with
            chan := req.chan.applyAll (signalsTo id signals) } := by
  rw [get?_deliver, Option.map_eq_some_iff]
  constructor
  · rintro ⟨req, found, rfl⟩
    exact ⟨req, found, rfl⟩
  · rintro ⟨req, found, rfl⟩
    exact ⟨req, found, rfl⟩

theorem get?_deliver_of_found
    {reqs : FiniteMap ReqId Request} {id : ReqId} {req : Request}
    (found : reqs.get? id = some req) (signals : Signals) :
    (deliver reqs signals).get? id =
      some { req with
        chan := req.chan.applyAll (signalsTo id signals) } :=
  get?_deliver_eq_some.mpr ⟨req, found, rfl⟩

theorem isSome_get?_deliver
    (reqs : FiniteMap ReqId Request) (signals : Signals) (id : ReqId) :
    ((deliver reqs signals).get? id).isSome =
      (reqs.get? id).isSome := by
  rw [get?_deliver, Option.isSome_map]

theorem extends_deliver
    (reqs : FiniteMap ReqId Request) (signals : Signals) :
    (deliver reqs signals).Extends reqs :=
  fun id present => (isSome_get?_deliver reqs signals id).trans present

/-- A critical section that adds no slot. -/
structure Disciplined
    (before after : Registry) (signals : Signals) : Prop where
  kept :
    ∀ {tokenId entry' kind id tx},
      after.get? tokenId = some entry' →
      entry'.tx? kind id = some tx →
      ∃ entry, before.get? tokenId = some entry ∧
        entry.outTx = entry'.outTx ∧ entry.tx? kind id = some tx
  lost :
    ∀ {tokenId entry kind id tx},
      before.get? tokenId = some entry →
      entry.tx? kind id = some tx →
      (tx, .drop) ∈ signals ∨
        ∃ entry', after.get? tokenId = some entry' ∧
          entry'.outTx = entry.outTx ∧ entry'.tx? kind id = some tx
  drops :
    ∀ {tx}, (tx, .drop) ∈ signals →
      ∃ tokenId entry kind id,
        before.get? tokenId = some entry ∧
        entry.tx? kind id = some tx ∧
        ∀ entry', after.get? tokenId = some entry' →
          entry'.tx? kind id ≠ some tx
  sends :
    ∀ {tx event}, (tx, .send event) ∈ signals →
      ∃ tokenId entry id,
        before.get? tokenId = some entry ∧
        entry.tx? event.kind id = some tx
  once :
    ∀ {tx event}, (tx, .send event) ∈ signals →
      event.kind ≠ .prompt → (tx, .drop) ∈ signals

namespace Disciplined

variable {registry : Registry} {tokenId : String}

/-- A section that rewrites one entry without touching its slots. -/
theorem rewrite
    {after : Registry} {entry entry' : Entry}
    (present : registry.get? tokenId = some entry)
    (written :
      ∀ other, after.get? other =
        if other = tokenId then some entry' else registry.get? other)
    (sameOwner : entry'.outTx = entry.outTx)
    (sameSlots : ∀ kind id, entry'.tx? kind id = entry.tx? kind id) :
    Disciplined registry after [] where
  kept := by
    intro other found kind id tx stored slot
    rw [written] at stored
    by_cases same : other = tokenId
    · rw [if_pos same] at stored
      cases stored
      subst same
      exact ⟨entry, present, sameOwner.symm, sameSlots kind id ▸ slot⟩
    · rw [if_neg same] at stored
      exact ⟨found, stored, rfl, slot⟩
  lost := by
    intro other found kind id tx stored slot
    refine Or.inr ?_
    by_cases same : other = tokenId
    · subst same
      rw [present] at stored
      cases stored
      exact
        ⟨entry', (written other).trans (if_pos rfl), sameOwner,
          (sameSlots kind id).trans slot⟩
    · exact
        ⟨found, ((written other).trans (if_neg same)).trans stored,
          rfl, slot⟩
  drops := by
    intro tx member
    cases member
  sends := by
    intro tx event member
    cases member
  once := by
    intro tx event member
    cases member

/-- A section that changes no slot and sends only to prompt slots. -/
theorem notify
    {signals : Signals}
    (addressed :
      ∀ tx signal, (tx, signal) ∈ signals →
        ∃ event tokenId entry id, signal = .send event ∧
          event.kind = .prompt ∧
          registry.get? tokenId = some entry ∧
          entry.tx? .prompt id = some tx) :
    Disciplined registry registry signals where
  kept := by
    intro tokenId entry kind id tx stored slot
    exact ⟨entry, stored, rfl, slot⟩
  lost := by
    intro tokenId entry kind id tx stored slot
    exact Or.inr ⟨entry, stored, rfl, slot⟩
  drops := by
    intro tx member
    obtain ⟨event, _, _, _, isSend, _⟩ := addressed tx _ member
    cases isSend
  sends := by
    intro tx event member
    obtain ⟨event', tokenId, entry, id, isSend, prompt, stored, slot⟩ :=
      addressed tx _ member
    cases isSend
    exact ⟨tokenId, entry, id, stored, prompt ▸ slot⟩
  once := by
    intro tx event member notPrompt
    obtain ⟨event', _, _, _, isSend, prompt, _⟩ := addressed tx _ member
    cases isSend
    exact absurd prompt notPrompt

/-- A section that drops the entry of a token, whether or not a fresh entry takes
its place. -/
theorem dropEntry
    {after : Registry} {replacement : Option Entry}
    (written :
      ∀ other, after.get? other =
        if other = tokenId then replacement else registry.get? other)
    (empty :
      ∀ entry, replacement = some entry →
        ∀ kind id, entry.tx? kind id = none) :
    Disciplined registry after
      (Registry.dropSignals (registry.get? tokenId)) where
  kept := by
    intro other found kind id tx stored slot
    rw [written] at stored
    by_cases same : other = tokenId
    · rw [if_pos same] at stored
      rw [empty found stored kind id] at slot
      cases slot
    · rw [if_neg same] at stored
      exact ⟨found, stored, rfl, slot⟩
  lost := by
    intro other found kind id tx stored slot
    by_cases same : other = tokenId
    · subst same
      exact Or.inl <| Registry.mem_dropSignals.mpr
        ⟨rfl, found, kind, id, stored, slot⟩
    · exact Or.inr
        ⟨found, ((written other).trans (if_neg same)).trans stored,
          rfl, slot⟩
  drops := by
    intro tx member
    obtain ⟨_, entry, kind, id, stored, slot⟩ :=
      Registry.mem_dropSignals.mp member
    refine ⟨tokenId, entry, kind, id, stored, slot, ?_⟩
    intro found after'
    rw [written, if_pos rfl] at after'
    rw [empty found after' kind id]
    exact nofun
  sends := by
    intro tx event member
    obtain ⟨isDrop, _⟩ := Registry.mem_dropSignals.mp member
    cases isDrop
  once := by
    intro tx event member
    obtain ⟨isDrop, _⟩ := Registry.mem_dropSignals.mp member
    cases isDrop

/-- A section that takes one slot out of an entry, after at most one message to
its sender half. -/
theorem takeSlot
    {entry : Entry} {kind : Kind} {id : String} {signals : Signals}
    (present : registry.get? tokenId = some entry)
    (addressed :
      ∀ tx signal, (tx, signal) ∈ signals →
        entry.tx? kind id = some tx ∧
          ∀ event, signal = .send event → event.kind = kind)
    (dropped :
      ∀ tx, entry.tx? kind id = some tx → (tx, .drop) ∈ signals) :
    Disciplined registry
      (registry.setEntry tokenId (entry.forget kind id)) signals where
  kept := by
    intro other found kind' id' tx stored slot
    rw [Registry.get?_setEntry] at stored
    by_cases same : other = tokenId
    · rw [if_pos same] at stored
      cases stored
      subst same
      rw [Entry.tx?_forget] at slot
      by_cases taken : kind' = kind ∧ id' = id
      · rw [if_pos taken] at slot
        cases slot
      · rw [if_neg taken] at slot
        exact ⟨entry, present, by simp, slot⟩
    · rw [if_neg same] at stored
      exact ⟨found, stored, rfl, slot⟩
  lost := by
    intro other found kind' id' tx stored slot
    by_cases same : other = tokenId
    · subst same
      rw [present] at stored
      cases stored
      by_cases taken : kind' = kind ∧ id' = id
      · obtain ⟨rfl, rfl⟩ := taken
        exact Or.inl (dropped tx slot)
      · refine Or.inr ⟨entry.forget kind id, ?_, by simp, ?_⟩
        · rw [Registry.get?_setEntry, if_pos rfl]
        · rw [Entry.tx?_forget, if_neg taken]
          exact slot
    · refine Or.inr ⟨found, ?_, rfl, slot⟩
      rw [Registry.get?_setEntry, if_neg same]
      exact stored
  drops := by
    intro tx member
    refine
      ⟨tokenId, entry, kind, id, present, (addressed tx _ member).1, ?_⟩
    intro found stored
    rw [Registry.get?_setEntry, if_pos rfl] at stored
    cases stored
    rw [Entry.tx?_forget, if_pos ⟨rfl, rfl⟩]
    exact nofun
  sends := by
    intro tx event member
    obtain ⟨slot, sameKind⟩ := addressed tx _ member
    exact ⟨tokenId, entry, id, present, (sameKind event rfl) ▸ slot⟩
  once := by
    intro tx event member _
    exact dropped tx (addressed tx _ member).1

theorem refl : Disciplined registry registry [] :=
  Disciplined.notify (by
    intro tx signal member
    cases member)

theorem remove :
    Disciplined registry (registry.remove tokenId).1
      (Registry.dropSignals (registry.remove tokenId).2) :=
  Disciplined.dropEntry (registry.get?_remove tokenId) (by
    intro entry impossible
    cases impossible)

theorem insert {clientId hostname : String} {outTx : ConnId} :
    Disciplined registry
      (registry.insert tokenId clientId hostname outTx).1
      (Registry.dropSignals
        (registry.insert tokenId clientId hostname outTx).2) := by
  refine
    Disciplined.dropEntry
      (registry.get?_setEntry tokenId · (.new hostname clientId outTx)) ?_
  intro entry fresh kind id
  cases fresh
  exact Entry.tx?_new hostname clientId outTx kind id

theorem setHostname {hostname : String} :
    Disciplined registry (registry.setHostname tokenId hostname) [] := by
  cases present : registry.get? tokenId with
  | none =>
      have unchanged :
          registry.setHostname tokenId hostname = registry := by
        unfold Registry.setHostname FiniteMap.modify
        unfold Registry.get? at present
        rw [present]
      rw [unchanged]
      exact Disciplined.refl
  | some entry =>
      refine
        @Disciplined.rewrite registry tokenId _ entry
          { entry with hostname := hostname } present ?_ rfl ?_
      · intro other
        rw [Registry.get?_setHostname, present]
        rfl
      · intro kind id
        cases kind <;> rfl

theorem resolveOnce {kind : Kind} {id : String} {event : Event}
    (fits : event.kind = kind) :
    Disciplined registry
      (registry.resolveOnce kind tokenId id event).1
      (registry.resolveOnce kind tokenId id event).2 := by
  unfold Registry.resolveOnce
  split
  next => exact Disciplined.refl
  next entry present =>
    split
    next => exact Disciplined.refl
    next tx slot =>
      refine Disciplined.takeSlot present ?_ ?_
      · intro target signal member
        simp only [List.mem_cons, Prod.mk.injEq, List.not_mem_nil,
          or_false] at member
        rcases member with ⟨rfl, rfl⟩ | ⟨rfl, rfl⟩
        · refine ⟨slot, ?_⟩
          intro sent isSend
          cases isSend
          exact fits
        · refine ⟨slot, ?_⟩
          intro sent isSend
          cases isSend
      · intro target same
        rw [slot] at same
        cases same
        simp

theorem forgetSlot {kind : Kind} {id : String} :
    Disciplined registry
      (registry.forgetSlot kind tokenId id).1
      (registry.forgetSlot kind tokenId id).2 := by
  unfold Registry.forgetSlot
  split
  next => exact Disciplined.refl
  next entry present =>
    refine Disciplined.takeSlot present ?_ ?_
    · intro target signal member
      simp only [List.mem_map, Option.mem_toList, Prod.mk.injEq] at member
      obtain ⟨tx, slot, rfl, rfl⟩ := member
      refine ⟨slot, ?_⟩
      intro sent isSend
      cases isSend
    · intro target slot
      simp [slot]

theorem notifyPrompt {id : String} {event : Event}
    (fits : event.kind = .prompt) :
    Disciplined registry registry
      (registry.notifyPrompt tokenId id event) := by
  refine Disciplined.notify ?_
  intro tx signal member
  unfold Registry.notifyPrompt at member
  split at member
  next => cases member
  next entry present =>
    split at member
    next => cases member
    next session target slot =>
      simp only [List.mem_singleton, Prod.mk.injEq] at member
      obtain ⟨rfl, rfl⟩ := member
      exact
        ⟨event, tokenId, entry, id, rfl, fits, present,
          by simp [Entry.tx?, slot]⟩

theorem cancelPendingPromptsForSession {session : String} :
    Disciplined registry registry
      (registry.cancelPendingPromptsForSession tokenId session) := by
  refine Disciplined.notify ?_
  intro tx signal member
  unfold Registry.cancelPendingPromptsForSession at member
  split at member
  next => cases member
  next entry present =>
    simp only [List.mem_map, List.mem_filter, FiniteMap.mem_values,
      Prod.mk.injEq] at member
    obtain ⟨slot, ⟨⟨id, stored⟩, _⟩, rfl, rfl⟩ := member
    exact
      ⟨.cancelled, tokenId, entry, id, rfl, rfl, present,
        by simp [Entry.tx?, stored]⟩

/-- Every registry call of `handle_frame` follows the discipline. -/
theorem perform {now : Nat} (resolution : Resolution) :
    Disciplined registry
      (registry.perform tokenId now resolution).1
      (registry.perform tokenId now resolution).2 := by
  cases resolution with
  | setHostname hostname => exact Disciplined.setHostname
  | pong replyTo =>
      simp only [Registry.perform, Registry.resolvePong]
      split
      next => exact Disciplined.refl
      next => exact Disciplined.resolveOnce rfl
  | queryOk replyTo body => exact Disciplined.resolveOnce rfl
  | queryErr replyTo body => exact Disciplined.resolveOnce rfl
  | reply replyTo body => exact Disciplined.notifyPrompt rfl
  | promptErr replyTo body => exact Disciplined.notifyPrompt rfl
  | answerErr replyTo body => exact Disciplined.resolveOnce rfl
  | interruptAck ofId => exact Disciplined.resolveOnce rfl
  | answerAck ofId => exact Disciplined.resolveOnce rfl

end Disciplined

end HollerServer.Wire
