import HollerServer.Wire.Outcomes

/-!
# Prompt slots and their sessions

A prompt slot keeps the session its prompt is for, and an acknowledged interrupt
wakes the slots of its session.  `prompt?_step` says where the prompt slots of
the next state come from: they were there, or a prompt has just registered.  So
the session of a slot is the session its prompt was called with.
-/

namespace HollerServer.Wire

open HollerServer.Proto

/-- The session a prompt is for. -/
def Call.promptSession? : Call → Option String
  | .prompt session _ _ => some session
  | _ => none

namespace Registry

variable (registry : Registry)

/-- The prompt slot stored under an id in the entry of a token. -/
def prompt? (tokenId id : String) : Option (String × ReqId) :=
  (registry.get? tokenId).bind fun entry => entry.pendingPrompts.get? id

/-- The prompts of the session that are pending in the entry of the token. -/
def Pending (tokenId session : String) (tx : ReqId) : Prop :=
  ∃ id, registry.prompt? tokenId id = some (session, tx)

variable {registry}

theorem prompt?_of_get?
    {tokenId id : String} {entry : Entry}
    (present : registry.get? tokenId = some entry) :
    registry.prompt? tokenId id = entry.pendingPrompts.get? id := by
  unfold prompt?
  rw [present]
  rfl

theorem prompt?_setEntry
    (tokenId tokenId' id : String) (entry : Entry) :
    (registry.setEntry tokenId entry).prompt? tokenId' id =
      if tokenId' = tokenId then entry.pendingPrompts.get? id
      else registry.prompt? tokenId' id := by
  unfold prompt?
  rw [get?_setEntry]
  split <;> rfl

/-- Writing an entry back that has the same prompt slots changes none. -/
theorem prompt?_setEntry_same
    {tokenId : String} {entry entry' : Entry}
    (present : registry.get? tokenId = some entry)
    (sameSlots : entry'.pendingPrompts = entry.pendingPrompts)
    (tokenId' id : String) :
    (registry.setEntry tokenId entry').prompt? tokenId' id =
      registry.prompt? tokenId' id := by
  rw [prompt?_setEntry, sameSlots]
  split
  next same =>
    rw [same]
    exact (prompt?_of_get? present).symm
  next => rfl

theorem prompt?_remove
    {tokenId tokenId' id : String} {slot : String × ReqId}
    (stored :
      (registry.remove tokenId).1.prompt? tokenId' id = some slot) :
    registry.prompt? tokenId' id = some slot := by
  unfold prompt? at stored ⊢
  rw [get?_remove] at stored
  split at stored
  next => cases stored
  next => exact stored

theorem prompt?_insert
    {tokenId clientId hostname tokenId' id : String} {outTx : ConnId}
    {slot : String × ReqId}
    (stored :
      (registry.insert tokenId clientId hostname outTx).1.prompt?
        tokenId' id = some slot) :
    registry.prompt? tokenId' id = some slot := by
  have written := stored.symm.trans (prompt?_setEntry tokenId tokenId' id _)
  split at written
  next =>
    cases written.trans (FiniteMap.get?_empty id)
  next => exact written.symm

theorem prompt?_resolveOnce
    {kind : Kind} (notPrompt : kind ≠ .prompt)
    (tokenId id : String) (event : Event) (tokenId' id' : String) :
    (registry.resolveOnce kind tokenId id event).1.prompt? tokenId' id' =
      registry.prompt? tokenId' id' := by
  unfold resolveOnce
  split
  next => rfl
  next entry present =>
    split
    next => rfl
    next =>
      refine prompt?_setEntry_same present ?_ tokenId' id'
      cases kind with
      | prompt => exact absurd rfl notPrompt
      | _ => rfl

/-- No registry call of `handle_frame` changes a prompt slot. -/
theorem prompt?_perform
    (tokenId : String) (now : Nat) (resolution : Resolution)
    (tokenId' id : String) :
    (registry.perform tokenId now resolution).1.prompt? tokenId' id =
      registry.prompt? tokenId' id := by
  cases resolution with
  | setHostname hostname =>
      unfold prompt?
      simp only [perform, get?_setHostname]
      split
      next same =>
        rw [same]
        cases registry.get? tokenId <;> rfl
      next => rfl
  | pong replyTo =>
      simp only [perform, resolvePong]
      split
      next => rfl
      next => exact prompt?_resolveOnce (by decide) _ _ _ _ _
  | reply replyTo body => rfl
  | promptErr replyTo body => rfl
  | queryOk replyTo body | queryErr replyTo body | answerErr replyTo body
  | interruptAck ofId | answerAck ofId =>
      exact prompt?_resolveOnce (by decide) _ _ _ _ _

theorem prompt?_forgetSlot
    {kind : Kind} {tokenId id tokenId' id' : String}
    {slot : String × ReqId}
    (stored :
      (registry.forgetSlot kind tokenId id).1.prompt? tokenId' id' =
        some slot) :
    registry.prompt? tokenId' id' = some slot := by
  unfold forgetSlot at stored
  split at stored
  next => exact stored
  next entry present =>
    cases kind with
    | prompt =>
        rw [prompt?_setEntry] at stored
        split at stored
        next same =>
          subst same
          rw [prompt?_of_get? present]
          simp only [Entry.forget, FiniteMap.get?_delete] at stored
          split at stored
          next => cases stored
          next => exact stored
        next => exact stored
    | ping | query | interrupt | answer =>
        rw [prompt?_setEntry_same present (by rfl)] at stored
        exact stored

/-- Only a prompt that registers adds a prompt slot. -/
theorem prompt?_enroll
    {tokenId id tokenId' id' : String} {entry : Entry} {call : Call}
    {tx : ReqId} {now : Nat} {slot : String × ReqId}
    (present : registry.get? tokenId = some entry)
    (stored :
      (registry.setEntry tokenId
        (entry.enroll call id tx now)).prompt? tokenId' id' = some slot) :
    registry.prompt? tokenId' id' = some slot ∨
      tokenId' = tokenId ∧ id' = id ∧ slot.2 = tx ∧
        call.promptSession? = some slot.1 := by
  cases call with
  | prompt session text metadata =>
      rw [prompt?_setEntry] at stored
      split at stored
      next same =>
        subst same
        rw [prompt?_of_get? present]
        simp only [Entry.enroll, FiniteMap.get?_put] at stored
        split at stored
        next sameId =>
          cases stored
          exact Or.inr ⟨rfl, sameId, rfl, rfl⟩
        next => exact Or.inl stored
      next => exact Or.inl stored
  | ping _ | query _ _ | interrupt _ | answer _ _ =>
      rw [prompt?_setEntry_same present (by rfl)] at stored
      exact Or.inl stored

/-- The prompt slot of a call is one of its slots. -/
theorem tx?_of_prompt?
    {tokenId id session : String} {tx : ReqId}
    (stored : registry.prompt? tokenId id = some (session, tx)) :
    ∃ entry, registry.get? tokenId = some entry ∧
      entry.tx? .prompt id = some tx := by
  obtain ⟨entry, present, slot⟩ := Option.bind_eq_some_iff.mp stored
  exact ⟨entry, present, by simp [Entry.tx?, slot]⟩

/-- An acknowledged interrupt wakes the pending prompts of its session. -/
theorem mem_cancel
    {tokenId session : String} {tx : ReqId} {signal : Signal Event} :
    (tx, signal) ∈
        registry.cancelPendingPromptsForSession tokenId session ↔
      signal = .send .cancelled ∧ registry.Pending tokenId session tx := by
  unfold cancelPendingPromptsForSession Pending prompt?
  cases registry.get? tokenId with
  | none => simp
  | some entry =>
      simp only [List.mem_map, List.mem_filter, FiniteMap.mem_values,
        decide_eq_true_eq, Prod.mk.injEq, Option.bind_some]
      constructor
      · rintro ⟨⟨session', tx'⟩, ⟨⟨id, stored⟩, rfl⟩, rfl, rfl⟩
        exact ⟨rfl, id, stored⟩
      · rintro ⟨rfl, id, stored⟩
        exact ⟨(session, tx), ⟨⟨id, stored⟩, rfl⟩, rfl, rfl⟩

end Registry

namespace Live

variable {live next : Live}

/-- Where a prompt slot of the next state comes from. -/
theorem prompt?_step
    {action : Action} (stepped : live.step action = some next)
    {tokenId id session : String} {tx : ReqId}
    (stored : next.registry.prompt? tokenId id = some (session, tx)) :
    live.registry.prompt? tokenId id = some (session, tx) ∨
      ∃ req, action = .enroll tx ∧ live.reqs.get? tx = some req ∧
        req.tokenId = tokenId ∧ req.id = id ∧
        req.call.promptSession? = some session := by
  cases registryChange_step stepped with
  | same same =>
      rw [same] at stored
      exact Or.inl stored
  | registered _ _ now =>
      rw [now] at stored
      exact Or.inl (Registry.prompt?_insert stored)
  | performed _ _ now =>
      rw [now, Registry.prompt?_perform] at stored
      exact Or.inl stored
  | tornDown _ now =>
      rw [now] at stored
      exact Or.inl (Registry.prompt?_remove stored)
  | revoked now =>
      rw [now] at stored
      exact Or.inl (Registry.prompt?_remove stored)
  | @enrolled caller req entry found present now =>
      rw [now] at stored
      rcases Registry.prompt?_enroll present stored with
        old | ⟨rfl, rfl, rfl, sameSession⟩
      · exact Or.inl old
      · exact Or.inr ⟨req, rfl, found, rfl, rfl, sameSession⟩
  | forgotten _ now =>
      rw [now] at stored
      exact Or.inl (Registry.prompt?_forgetSlot stored)

/-- A prompt slot belongs to a prompt on the token for the session. -/
theorem pending_of_reachable
    (reachable : machine.Reachable live) :
    ∀ tokenId session tx, live.registry.Pending tokenId session tx →
      ∃ req, live.reqs.get? tx = some req ∧ req.tokenId = tokenId ∧
        req.call.promptSession? = some session := by
  refine
    reachable.induction
      (fun live => ∀ tokenId session tx,
        live.registry.Pending tokenId session tx →
        ∃ req, live.reqs.get? tx = some req ∧ req.tokenId = tokenId ∧
          req.call.promptSession? = some session) ?_ ?_
  · rintro tokenId session tx ⟨id, stored⟩
    cases stored
  · rintro live action next reachable known stepped tokenId session tx
      ⟨id, stored⟩
    have coherent := coherent_of_reachable reachable
    have earlier :
        ∃ req, live.reqs.get? tx = some req ∧ req.tokenId = tokenId ∧
          req.call.promptSession? = some session := by
      rcases prompt?_step stepped stored with
        old | ⟨req, _, found, token, _, sameSession⟩
      · exact known tokenId session tx ⟨id, old⟩
      · exact ⟨req, found, token, sameSession⟩
    obtain ⟨req, found, token, sameSession⟩ := earlier
    obtain ⟨req', found', follows⟩ := follows_step coherent stepped found
    refine ⟨req', found', follows.token.trans token, ?_⟩
    rw [follows.call]
    exact sameSession

/-- A pending prompt has registered in the run. -/
theorem enroll_mem_of_pending
    {actions : List Action}
    (reached : machine.run machine.init actions = some live) :
    ∀ tokenId session tx, live.registry.Pending tokenId session tx →
      .enroll tx ∈ actions := by
  refine
    @Transition.Machine.run_induction _ _ machine
      (fun actions live => ∀ tokenId session tx,
        live.registry.Pending tokenId session tx →
        .enroll tx ∈ actions) ?_ ?_ actions live reached
  · rintro tokenId session tx ⟨id, stored⟩
    cases stored
  · rintro actions live action next _ known stepped tokenId session tx
      ⟨id, stored⟩
    rcases prompt?_step stepped stored with old | ⟨_, rfl, _⟩
    · exact List.mem_append_left _ (known tokenId session tx ⟨id, old⟩)
    · exact List.mem_append_right _ List.mem_cons_self

end Live

end HollerServer.Wire
