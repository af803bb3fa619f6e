import HollerServer.Wire.Ownership

/-!
# The registry and the requests agree

`Consistent` ties every slot of every registered entry to the one request whose
sender half it holds, and every request whose sender half is alive to its slot
in the entry it registered in.  It holds in every reachable state of the
machine, whatever ids the calls use.
-/

namespace HollerServer.Wire

open HollerServer.Proto

namespace Pc

/-- The call has not reached its second lock section. -/
def before : Pc → Bool
  | .start | .cloned _ _ => true
  | _ => false

/-- The call may still have a slot. -/
def holding : Pc → Bool
  | .enrolled _ _ | .waiting _ _ _ | .forgetting _ _ => true
  | _ => false

/-- The call is past its send. -/
def sent : Pc → Bool
  | .start | .cloned _ _ | .enrolled _ _ => false
  | _ => true

/-- The call has registered and not yet begun to clean up. -/
def listening : Pc → Bool
  | .enrolled _ _ | .waiting _ _ _ => true
  | _ => false

/-- The call has returned. -/
def isReturned : Pc → Bool
  | .returned _ => true
  | _ => false

end Pc

/-- The request owns the slot stored under this token, kind and id in the entry
of connection `owner`. -/
structure Request.Owns
    (req : Request) (tokenId : String) (kind : Kind) (id : String)
    (owner : ConnId) : Prop where
  token : req.tokenId = tokenId
  kind : req.call.kind = kind
  id : req.id = id
  owner : req.enrolledIn = some owner
  alive : req.chan.closed = false
  holding : req.pc.holding = true

/-- What the registry owes to a request, and the request to its own position. -/
structure Request.Sound
    (registry : Registry) (tx : ReqId) (req : Request) : Prop where
  alive :
    ∀ owner, req.enrolledIn = some owner →
      req.chan.closed = false →
      ∃ entry, registry.get? req.tokenId = some entry ∧
        entry.outTx = owner ∧
        entry.tx? req.call.kind req.id = some tx
  fits : ∀ event ∈ req.chan.sent, event.kind = req.call.kind
  consumed :
    req.call.kind ≠ .prompt → req.chan.sent ≠ [] →
      req.chan.closed = true
  untouched :
    req.enrolledIn = none →
      req.chan.sent = [] ∧ req.chan.closed = false
  early : req.pc.before = true → req.enrolledIn = none
  late :
    req.pc.before = false → req.pc.isReturned = false →
      req.enrolledIn ≠ none

/-- The registry and the request table agree. -/
structure Consistent
    (registry : Registry) (reqs : FiniteMap ReqId Request) : Prop where
  slot :
    ∀ {tokenId entry kind id tx},
      registry.get? tokenId = some entry →
      entry.tx? kind id = some tx →
      ∃ req, reqs.get? tx = some req ∧
        req.Owns tokenId kind id entry.outTx
  sound :
    ∀ {tx req}, reqs.get? tx = some req → req.Sound registry tx

namespace Consistent

variable {registry : Registry} {reqs : FiniteMap ReqId Request}

theorem empty : Consistent .new ∅ where
  slot := by
    intro tokenId entry kind id tx stored
    simp at stored
  sound := by
    intro tx req found
    simp at found

/-- The place of a slot is determined by its sender half. -/
theorem place_unique
    (consistent : Consistent registry reqs)
    {tokenId tokenId' : String} {entry entry' : Entry}
    {kind kind' : Kind} {id id' : String} {tx : ReqId}
    (stored : registry.get? tokenId = some entry)
    (slot : entry.tx? kind id = some tx)
    (stored' : registry.get? tokenId' = some entry')
    (slot' : entry'.tx? kind' id' = some tx) :
    tokenId = tokenId' ∧ kind = kind' ∧ id = id' := by
  obtain ⟨req, found, owns⟩ := consistent.slot stored slot
  obtain ⟨req', found', owns'⟩ := consistent.slot stored' slot'
  have same : req = req' := Option.some.inj (found.symm.trans found')
  subst same
  exact
    ⟨owns.token.symm.trans owns'.token, owns.kind.symm.trans owns'.kind,
      owns.id.symm.trans owns'.id⟩

/-- A sender half that gets a signal belongs to a request with a slot. -/
theorem addressee
    (consistent : Consistent registry reqs)
    {after : Registry} {signals : Signals}
    (disciplined : Disciplined registry after signals)
    {tx : ReqId} {signal : Signal Event}
    (member : (tx, signal) ∈ signals) :
    ∃ tokenId entry kind id req,
      registry.get? tokenId = some entry ∧
      entry.tx? kind id = some tx ∧
      reqs.get? tx = some req ∧
      req.Owns tokenId kind id entry.outTx := by
  cases signal with
  | send event =>
      obtain ⟨tokenId, entry, id, stored, slot⟩ :=
        disciplined.sends member
      obtain ⟨req, found, owns⟩ := consistent.slot stored slot
      exact
        ⟨tokenId, entry, event.kind, id, req, stored, slot, found, owns⟩
  | drop =>
      obtain ⟨tokenId, entry, kind, id, stored, slot, _⟩ :=
        disciplined.drops member
      obtain ⟨req, found, owns⟩ := consistent.slot stored slot
      exact ⟨tokenId, entry, kind, id, req, stored, slot, found, owns⟩

/-- A sender half that is dropped has no slot afterwards. -/
theorem not_slot_of_drop
    (consistent : Consistent registry reqs)
    {after : Registry} {signals : Signals}
    (disciplined : Disciplined registry after signals)
    {tokenId : String} {entry : Entry} {kind : Kind} {id : String}
    {tx : ReqId}
    (stored : after.get? tokenId = some entry)
    (slot : entry.tx? kind id = some tx) :
    (tx, .drop) ∉ signals := by
  intro member
  obtain ⟨tokenId', old, kind', id', stored', slot', gone⟩ :=
    disciplined.drops member
  obtain ⟨entry₀, stored₀, _, slot₀⟩ := disciplined.kept stored slot
  obtain ⟨rfl, rfl, rfl⟩ :=
    consistent.place_unique stored₀ slot₀ stored' slot'
  exact gone entry stored slot

/-- The request a message is addressed to waits for messages of its kind. -/
theorem kind_of_send
    (consistent : Consistent registry reqs)
    {after : Registry} {signals : Signals}
    (disciplined : Disciplined registry after signals)
    {tx : ReqId} {req : Request} {event : Event}
    (found : reqs.get? tx = some req)
    (member : (tx, .send event) ∈ signals) :
    event.kind = req.call.kind := by
  obtain ⟨tokenId, entry, id, stored, slot⟩ := disciplined.sends member
  obtain ⟨owner, foundOwner, owns⟩ := consistent.slot stored slot
  have same : owner = req :=
    Option.some.inj (foundOwner.symm.trans found)
  subst same
  exact owns.kind.symm

/-- The messages a section adds to a channel are those it addresses to it. -/
theorem mem_sent_applyAll
    {chan : Channel Event} {tx : ReqId} {signals : Signals} {event : Event}
    (member : event ∈ (chan.applyAll (signalsTo tx signals)).sent) :
    event ∈ chan.sent ∨ (tx, .send event) ∈ signals := by
  rw [Channel.sent_applyAll] at member
  rcases List.mem_append.mp member with old | new
  · exact Or.inl old
  · obtain ⟨signal, inSignals, carries⟩ := List.mem_filterMap.mp new
    cases signal with
    | drop => cases carries
    | send item =>
        cases carries
        exact Or.inr (mem_signalsTo.mp inSignals)

/-- A channel is open after a section exactly if it was open and its sender half
was not dropped. -/
theorem closed_applyAll_eq_false
    {chan : Channel Event} {tx : ReqId} {signals : Signals} :
    (chan.applyAll (signalsTo tx signals)).closed = false ↔
      chan.closed = false ∧ (tx, .drop) ∉ signals := by
  rw [Bool.eq_false_iff, Bool.eq_false_iff, ne_eq, ne_eq,
    Channel.closed_applyAll, mem_signalsTo, not_or]

/-- A call that has not registered gets no signal. -/
theorem signalsTo_eq_nil
    (consistent : Consistent registry reqs)
    {after : Registry} {signals : Signals}
    (disciplined : Disciplined registry after signals)
    {tx : ReqId} {req : Request}
    (found : reqs.get? tx = some req)
    (never : req.enrolledIn = none) :
    signalsTo tx signals = [] := by
  refine List.eq_nil_iff_forall_not_mem.mpr ?_
  intro signal member
  obtain ⟨_, _, _, _, owner, _, _, foundOwner, owns⟩ :=
    consistent.addressee disciplined (mem_signalsTo.mp member)
  have same : owner = req :=
    Option.some.inj (foundOwner.symm.trans found)
  subst same
  rw [owns.owner] at never
  cases never

/-- A critical section that adds no slot keeps the agreement. -/
theorem commit
    (consistent : Consistent registry reqs)
    {after : Registry} {signals : Signals}
    (disciplined : Disciplined registry after signals) :
    Consistent after (deliver reqs signals) where
  slot := by
    intro tokenId entry' kind id tx stored slot
    obtain ⟨entry, stored₀, sameOwner, slot₀⟩ :=
      disciplined.kept stored slot
    obtain ⟨req, found, owns⟩ := consistent.slot stored₀ slot₀
    have stillOpen :
        (req.chan.applyAll (signalsTo tx signals)).closed = false :=
      closed_applyAll_eq_false.mpr
        ⟨owns.alive,
          consistent.not_slot_of_drop disciplined stored slot⟩
    exact
      ⟨_, get?_deliver_of_found found signals,
        { token := owns.token
          kind := owns.kind
          id := owns.id
          owner := sameOwner ▸ owns.owner
          alive := stillOpen
          holding := owns.holding }⟩
  sound := by
    intro tx delivered found
    obtain ⟨req, found₀, rfl⟩ := get?_deliver_eq_some.mp found
    have sound := consistent.sound found₀
    exact
      { alive := by
          intro owner enrolled stillOpen
          obtain ⟨wasOpen, notDropped⟩ :=
            closed_applyAll_eq_false.mp stillOpen
          obtain ⟨entry, stored, sameOwner, slot⟩ :=
            sound.alive owner enrolled wasOpen
          rcases disciplined.lost stored slot with
            dropped | ⟨entry', stored', sameOwner', slot'⟩
          · exact absurd dropped notDropped
          · exact ⟨entry', stored', sameOwner'.trans sameOwner, slot'⟩
        fits := by
          intro event member
          rcases mem_sent_applyAll member with old | new
          · exact sound.fits event old
          · have sameKind :=
              consistent.kind_of_send disciplined found₀ new
            exact sameKind
        consumed := by
          intro notPrompt nonempty
          obtain ⟨event, member⟩ :=
            List.exists_mem_of_ne_nil _ nonempty
          rw [Channel.closed_applyAll]
          rcases mem_sent_applyAll member with old | new
          · exact Or.inl
              (sound.consumed notPrompt (List.ne_nil_of_mem old))
          · have otherKind : event.kind ≠ .prompt := by
              rw [consistent.kind_of_send disciplined found₀ new]
              exact notPrompt
            exact Or.inr
              (mem_signalsTo.mpr (disciplined.once new otherKind))
        untouched := by
          intro never
          have noSignals :=
            consistent.signalsTo_eq_nil disciplined found₀ never
          rw [noSignals]
          exact sound.untouched never
        early := sound.early
        late := sound.late }

/-- A call moves on by itself: its slot stays with it, or it has none left. -/
theorem move
    (consistent : Consistent registry reqs)
    {id : ReqId} {req : Request} {pc : Pc} {chan : Channel Event}
    (found : reqs.get? id = some req)
    (sameSent : chan.sent = req.chan.sent)
    (sameClosed : chan.closed = req.chan.closed)
    (released :
      pc.holding = true ∨ req.chan.closed = true ∨ req.enrolledIn = none)
    (early : pc.before = true → req.enrolledIn = none)
    (late :
      pc.before = false → pc.isReturned = false →
        req.enrolledIn ≠ none) :
    Consistent registry (reqs.put id { req with pc, chan }) where
  slot := by
    intro tokenId entry kind slotId tx stored slot
    obtain ⟨owner, foundOwner, owns⟩ := consistent.slot stored slot
    rw [FiniteMap.get?_put]
    by_cases same : tx = id
    · subst same
      have sameReq : owner = req :=
        Option.some.inj (foundOwner.symm.trans found)
      subst sameReq
      have holding : pc.holding = true := by
        rcases released with holding | closed | never
        · exact holding
        · rw [owns.alive] at closed
          cases closed
        · rw [owns.owner] at never
          cases never
      rw [if_pos rfl]
      exact
        ⟨_, rfl,
          { token := owns.token
            kind := owns.kind
            id := owns.id
            owner := owns.owner
            alive := sameClosed.trans owns.alive
            holding := holding }⟩
    · rw [if_neg same]
      exact ⟨owner, foundOwner, owns⟩
  sound := by
    intro tx moved foundMoved
    rw [FiniteMap.get?_put] at foundMoved
    by_cases same : tx = id
    · subst same
      rw [if_pos rfl] at foundMoved
      cases foundMoved
      have sound := consistent.sound found
      exact
        { alive := fun owner enrolled stillOpen =>
            sound.alive owner enrolled (sameClosed.symm.trans stillOpen)
          fits := fun event member =>
            sound.fits event (sameSent ▸ member)
          consumed := fun notPrompt nonempty =>
            sameClosed.trans
              (sound.consumed notPrompt (sameSent ▸ nonempty))
          untouched := fun never =>
            ⟨sameSent.trans (sound.untouched never).1,
              sameClosed.trans (sound.untouched never).2⟩
          early := early
          late := late }
    · rw [if_neg same] at foundMoved
      exact consistent.sound foundMoved

/-- A new call starts without a slot. -/
theorem call
    (consistent : Consistent registry reqs)
    {id : ReqId} {tokenId envelopeId : String} {call : Call}
    (absent : reqs.get? id = none) :
    Consistent registry
      (reqs.put id { tokenId, id := envelopeId, call }) where
  slot := by
    intro tokenId' entry kind slotId tx stored slot
    obtain ⟨owner, foundOwner, owns⟩ := consistent.slot stored slot
    have different : tx ≠ id := by
      intro same
      rw [same, absent] at foundOwner
      cases foundOwner
    rw [FiniteMap.get?_put, if_neg different]
    exact ⟨owner, foundOwner, owns⟩
  sound := by
    intro tx created found
    rw [FiniteMap.get?_put] at found
    by_cases same : tx = id
    · rw [if_pos same] at found
      cases found
      exact
        { alive := fun _ enrolled => nomatch enrolled
          fits := fun _ member => nomatch member
          consumed := fun _ nonempty => absurd rfl nonempty
          untouched := fun _ => ⟨rfl, rfl⟩
          early := fun _ => rfl
          late := fun notBefore => nomatch notBefore }
    · rw [if_neg same] at found
      exact consistent.sound found

/-- A call that has no slot yet gets one in a place that is free. -/
theorem addSlot
    (consistent : Consistent registry reqs)
    {after : Registry} {id : ReqId} {req : Request} {pc : Pc}
    {entry entry' : Entry}
    (found : reqs.get? id = some req)
    (never : req.enrolledIn = none)
    (present : registry.get? req.tokenId = some entry)
    (written :
      ∀ other, after.get? other =
        if other = req.tokenId then some entry'
        else registry.get? other)
    (sameOwner : entry'.outTx = entry.outTx)
    (slots :
      ∀ kind slotId, entry'.tx? kind slotId =
        if kind = req.call.kind ∧ slotId = req.id then some id
        else entry.tx? kind slotId)
    (free : entry.tx? req.call.kind req.id = none)
    (holding : pc.holding = true) :
    Consistent after
      (reqs.put id
        { req with pc, enrolledIn := some entry.outTx }) where
  slot := by
    intro tokenId found' kind slotId tx stored slot
    rw [written] at stored
    have old :
        ∀ {old : Entry}, registry.get? tokenId = some old →
          old.outTx = found'.outTx →
          old.tx? kind slotId = some tx →
          ∃ owner,
            (reqs.put id
              { req with pc, enrolledIn := some entry.outTx }).get? tx =
                some owner ∧
            owner.Owns tokenId kind slotId found'.outTx := by
      intro old storedOld sameOwner' slotOld
      obtain ⟨owner, foundOwner, owns⟩ :=
        consistent.slot storedOld slotOld
      have different : tx ≠ id := by
        intro same
        subst same
        have sameReq : owner = req :=
          Option.some.inj (foundOwner.symm.trans found)
        subst sameReq
        rw [owns.owner] at never
        cases never
      rw [FiniteMap.get?_put, if_neg different]
      exact ⟨owner, foundOwner, sameOwner' ▸ owns⟩
    by_cases sameToken : tokenId = req.tokenId
    · rw [if_pos sameToken] at stored
      cases stored
      rw [slots] at slot
      by_cases place : kind = req.call.kind ∧ slotId = req.id
      · rw [if_pos place] at slot
        cases slot
        rw [FiniteMap.get?_put, if_pos rfl]
        exact
          ⟨_, rfl,
            { token := sameToken.symm
              kind := place.1.symm
              id := place.2.symm
              owner := congrArg some sameOwner.symm
              alive := ((consistent.sound found).untouched never).2
              holding := holding }⟩
      · rw [if_neg place] at slot
        exact old (sameToken ▸ present) sameOwner.symm slot
    · rw [if_neg sameToken] at stored
      exact old stored rfl slot
  sound := by
    intro tx moved foundMoved
    rw [FiniteMap.get?_put] at foundMoved
    by_cases same : tx = id
    · subst same
      rw [if_pos rfl] at foundMoved
      cases foundMoved
      have sound := consistent.sound found
      exact
        { alive := by
            intro owner enrolled _
            cases enrolled
            refine
              ⟨entry', (written req.tokenId).trans (if_pos rfl),
                sameOwner, ?_⟩
            exact (slots _ _).trans (if_pos ⟨rfl, rfl⟩)
          fits := sound.fits
          consumed := sound.consumed
          untouched := fun impossible => nomatch impossible
          early := by
            intro isBefore
            cases pc <;> cases isBefore <;> cases holding
          late := fun _ _ impossible => nomatch impossible }
    · rw [if_neg same] at foundMoved
      have sound := consistent.sound foundMoved
      refine { sound with alive := ?_ }
      intro owner enrolled stillOpen
      obtain ⟨old, stored, sameOwner', slot⟩ :=
        sound.alive owner enrolled stillOpen
      by_cases sameToken : moved.tokenId = req.tokenId
      · have sameEntry : old = entry := by
          rw [sameToken, present] at stored
          exact (Option.some.inj stored).symm
        subst sameEntry
        refine
          ⟨entry', (written _).trans (if_pos sameToken),
            sameOwner.trans sameOwner', ?_⟩
        rw [slots]
        by_cases place :
            moved.call.kind = req.call.kind ∧ moved.id = req.id
        · rw [place.1, place.2, free] at slot
          cases slot
        · rw [if_neg place]
          exact slot
      · exact
          ⟨old, ((written _).trans (if_neg sameToken)).trans stored,
            sameOwner', slot⟩

/-- The second lock section of a request function keeps the agreement: the slot
it displaces is cleared first, and then the place is free. -/
theorem enroll
    (consistent : Consistent registry reqs)
    {id : ReqId} {req : Request} {pc : Pc} {entry : Entry} {now : Nat}
    (found : reqs.get? id = some req)
    (never : req.enrolledIn = none)
    (present : registry.get? req.tokenId = some entry)
    (holding : pc.holding = true) :
    Consistent
      (registry.setEntry req.tokenId
        (entry.enroll req.call req.id id now))
      ((deliver reqs
        ((entry.tx? req.call.kind req.id).toList.map
          fun old => (old, .drop))).put id
        { req with pc, enrolledIn := some entry.outTx }) := by
  have cleared :
      Disciplined registry
        (registry.setEntry req.tokenId
          (entry.forget req.call.kind req.id))
        ((entry.tx? req.call.kind req.id).toList.map
          fun old => (old, .drop)) := by
    have forgotten :=
      @Disciplined.forgetSlot registry req.tokenId req.call.kind req.id
    unfold Registry.forgetSlot at forgotten
    rw [present] at forgotten
    exact forgotten
  have noSignals := consistent.signalsTo_eq_nil cleared found never
  have unchanged :
      (deliver reqs
        ((entry.tx? req.call.kind req.id).toList.map
          fun old => (old, .drop))).get? id = some req := by
    rw [get?_deliver, found, noSignals]
    rfl
  rw [← Entry.outTx_forget entry req.call.kind req.id]
  refine
    @addSlot _ _ (consistent.commit cleared) _ id req pc
      (entry.forget req.call.kind req.id)
      (entry.enroll req.call req.id id now) unchanged never ?_ ?_ ?_ ?_
      ?_ holding
  · rw [Registry.get?_setEntry, if_pos rfl]
  · intro other
    rw [Registry.get?_setEntry, Registry.get?_setEntry]
    by_cases same : other = req.tokenId
    · rw [if_pos same, if_pos same]
    · rw [if_neg same, if_neg same, if_neg same]
  · rw [Entry.outTx_enroll, Entry.outTx_forget]
  · intro kind slotId
    rw [Entry.tx?_enroll, Entry.tx?_forget]
    by_cases place : kind = req.call.kind ∧ slotId = req.id
    · rw [if_pos place, if_pos place]
    · rw [if_neg place, if_neg place, if_neg place]
  · rw [Entry.tx?_forget, if_pos ⟨rfl, rfl⟩]

/-- A registered call that no longer holds a slot has lost its sender half. -/
theorem closed_of_not_holding
    (consistent : Consistent registry reqs)
    {id : ReqId} {req : Request}
    (found : reqs.get? id = some req)
    (enrolled : req.enrolledIn ≠ none)
    (notHolding : req.pc.holding = false) :
    req.chan.closed = true := by
  cases closed : req.chan.closed with
  | true => rfl
  | false =>
      obtain ⟨owner, enrolledIn⟩ := Option.ne_none_iff_exists'.mp enrolled
      obtain ⟨entry, stored, _, slot⟩ :=
        (consistent.sound found).alive owner enrolledIn closed
      obtain ⟨req', found', owns⟩ := consistent.slot stored slot
      have same : req' = req :=
        Option.some.inj (found'.symm.trans found)
      subst same
      rw [owns.holding] at notHolding
      cases notHolding

/-- A critical section followed by a move of one call. -/
theorem commit_move
    (consistent : Consistent registry reqs)
    {after : Registry} {signals : Signals}
    (disciplined : Disciplined registry after signals)
    {id : ReqId} {req : Request} {pc : Pc}
    (found : reqs.get? id = some req)
    (released :
      (req.chan.applyAll (signalsTo id signals)).closed = true)
    (notBefore : pc.before = false)
    (enrolled : req.enrolledIn ≠ none) :
    Consistent after
      ((deliver reqs signals).modify id fun current =>
        { current with pc }) := by
  have delivered := get?_deliver_of_found found signals
  rw [FiniteMap.modify_eq_put delivered]
  refine
    (consistent.commit disciplined).move delivered rfl rfl
      (.inr (.inl released)) ?_ (fun _ _ => enrolled)
  intro isBefore
  rw [notBefore] at isBefore
  cases isBefore

end Consistent

/-- A message that ends a call without a visit to its slot came on a `oneshot`
channel. -/
theorem holding_of_onEvent
    {outTx : ConnId} {hostname : String} {pieces : List String}
    {kind : Kind} {event : Event} {pc : Pc}
    (handled : onEvent outTx hostname pieces kind event = some pc) :
    pc.before = false ∧ (pc.holding = true ∨ kind ≠ .prompt) := by
  cases kind <;> cases event <;> simp only [onEvent] at handled <;>
    (try split at handled) <;> cases handled <;> simp [Pc.before, Pc.holding]

namespace Live

/-- The registry and the requests of a state agree. -/
def Coherent (live : Live) : Prop :=
  Consistent live.registry live.reqs

variable {live next : Live}

theorem Coherent.removeEntry
    (coherent : live.Coherent) (tokenId : String) :
    (live.removeEntry tokenId).Coherent :=
  Consistent.commit coherent Disciplined.remove

theorem reqs_notify (live : Live) (previous : Option Entry) :
    (live.notify previous).reqs = live.reqs := by
  cases previous <;> rfl

theorem reqs_register (live : Live) (id : ConnId) (conn : Conn) :
    (live.register id conn).reqs =
      deliver live.reqs
        (Registry.dropSignals (live.registry.get? conn.tokenId)) := by
  unfold register
  simp only [commit, reqs_notify]
  rfl

theorem Coherent.register
    (coherent : live.Coherent) (id : ConnId) (conn : Conn) :
    (live.register id conn).Coherent := by
  unfold Coherent
  rw [reqs_register, registry_register]
  exact Consistent.commit coherent Disciplined.insert

/-- A call that stands after its registration has registered. -/
theorem Coherent.enrolled
    (coherent : live.Coherent) {id : ReqId} {req : Request}
    (found : live.reqs.get? id = some req)
    (notBefore : req.pc.before = false)
    (notReturned : req.pc.isReturned = false) :
    req.enrolledIn ≠ none :=
  (Consistent.sound coherent found).late notBefore notReturned

theorem Coherent.lookup
    (coherent : live.Coherent) {id : ReqId}
    (stepped : live.step (.lookup id) = some next) :
    next.Coherent := by
  obtain ⟨req, found, pc, outcomes⟩ := step_lookup stepped
  have never : req.enrolledIn = none :=
    (Consistent.sound coherent found).early (by rw [pc]; rfl)
  rcases outcomes with ⟨_, rfl⟩ | ⟨entry, _, rfl⟩
  · exact
      Consistent.move coherent found rfl rfl (.inr (.inr never))
        (fun _ => never) (fun _ notReturned => nomatch notReturned)
  · exact
      Consistent.move coherent found rfl rfl (.inr (.inr never))
        (fun _ => never) (fun notBefore => nomatch notBefore)

theorem Coherent.enroll
    (coherent : live.Coherent) {id : ReqId}
    (stepped : live.step (.enroll id) = some next) :
    next.Coherent := by
  obtain ⟨req, outTx, hostname, found, pc, outcomes⟩ :=
    step_enroll stepped
  have never : req.enrolledIn = none :=
    (Consistent.sound coherent found).early (by rw [pc]; rfl)
  rcases outcomes with ⟨_, rfl⟩ | ⟨entry, present, rfl⟩
  · exact
      Consistent.move coherent found rfl rfl (.inr (.inr never))
        (fun _ => never) (fun _ notReturned => nomatch notReturned)
  · exact Consistent.enroll coherent found never present rfl

theorem Coherent.send
    (coherent : live.Coherent) {id : ReqId} {ts : String}
    (stepped : live.step (.send id ts) = some next) :
    next.Coherent := by
  obtain ⟨req, outTx, hostname, conn, found, pc, _, outcomes⟩ :=
    step_send stepped
  have enrolled : req.enrolledIn ≠ none :=
    coherent.enrolled found (by rw [pc]; rfl) (by rw [pc]; rfl)
  rcases outcomes with ⟨_, rfl⟩ | ⟨_, rfl⟩
  · exact
      Consistent.move coherent found rfl rfl (.inl rfl)
        (fun isBefore => nomatch isBefore) (fun _ _ => enrolled)
  · exact
      Consistent.move coherent found rfl rfl (.inl rfl)
        (fun isBefore => nomatch isBefore) (fun _ _ => enrolled)

theorem Coherent.recv
    (coherent : live.Coherent) {id : ReqId}
    (stepped : live.step (.recv id) = some next) :
    next.Coherent := by
  obtain ⟨req, outTx, hostname, pieces, found, pc, outcomes⟩ :=
    step_recv stepped
  have enrolled : req.enrolledIn ≠ none :=
    coherent.enrolled found (by rw [pc]; rfl) (by rw [pc]; rfl)
  rcases outcomes with ⟨event, target, ready, handled, rfl⟩ | ⟨ended, rfl⟩
  · obtain ⟨notBefore, holds⟩ := holding_of_onEvent handled
    have received : req.chan.sent ≠ [] := by
      intro empty
      have atTaken := Channel.poll_eq_ready.mp ready
      rw [empty] at atTaken
      cases atTaken
    have released :
        target.holding = true ∨ req.chan.closed = true := by
      rcases holds with holding | notPrompt
      · exact .inl holding
      · exact .inr
          ((Consistent.sound coherent found).consumed notPrompt received)
    refine
      Consistent.move coherent found rfl rfl
        (released.imp_right .inl) ?_ (fun _ _ => enrolled)
    intro isBefore
    rw [notBefore] at isBefore
    cases isBefore
  · have closed := (Channel.poll_eq_ended.mp ended).2
    refine
      Consistent.move coherent found rfl rfl (.inr (.inl closed)) ?_
        (fun _ _ => enrolled)
    intro isBefore
    cases kind : req.call.kind <;> rw [kind] at isBefore <;>
      cases isBefore

theorem Coherent.timeout
    (coherent : live.Coherent) {id : ReqId}
    (stepped : live.step (.timeout id) = some next) :
    next.Coherent := by
  obtain ⟨req, outTx, hostname, pieces, found, pc, _, rfl⟩ :=
    step_timeout stepped
  have enrolled : req.enrolledIn ≠ none :=
    coherent.enrolled found (by rw [pc]; rfl) (by rw [pc]; rfl)
  have stands :
      (onTimeout outTx req.call.kind).holding = true ∧
        (onTimeout outTx req.call.kind).before = false := by
    cases req.call.kind <;> exact ⟨rfl, rfl⟩
  refine
    Consistent.move coherent found rfl rfl (.inl stands.1) ?_
      (fun _ _ => enrolled)
  intro isBefore
  rw [stands.2] at isBefore
  cases isBefore

theorem Coherent.forget
    (coherent : live.Coherent) {id : ReqId}
    (stepped : live.step (.forget id) = some next) :
    next.Coherent := by
  obtain ⟨req, outTx, outcome, found, pc, _, _, sameRegistry, sameReqs⟩ :=
    step_forget stepped
  have enrolled : req.enrolledIn ≠ none :=
    coherent.enrolled found (by rw [pc]; rfl) (by rw [pc]; rfl)
  have forgotten :=
    @Disciplined.forgetSlot live.registry req.tokenId req.call.kind req.id
  have delivered :=
    get?_deliver_of_found found
      (live.registry.forgetSlot req.call.kind req.tokenId req.id).2
  have released :
      (req.chan.applyAll (signalsTo id
        (live.registry.forgetSlot
          req.call.kind req.tokenId req.id).2)).closed = true := by
    refine Bool.of_not_eq_false ?_
    intro stillOpen
    obtain ⟨owner, enrolledIn⟩ := Option.ne_none_iff_exists'.mp enrolled
    obtain ⟨entry, stored, _, slot⟩ :=
      ((Consistent.commit coherent forgotten).sound delivered).alive
        owner enrolledIn stillOpen
    rw [Registry.tx?_forgetSlot stored] at slot
    cases slot
  unfold Coherent
  rw [sameRegistry, sameReqs]
  refine
    Consistent.commit_move coherent forgotten found released ?_ enrolled
  cases outcome <;> rfl

theorem Coherent.check
    (coherent : live.Coherent) {id : ReqId}
    (stepped : live.step (.check id) = some next) :
    next.Coherent := by
  obtain ⟨req, outTx, outcome, found, pc, _, rfl⟩ := step_check stepped
  have enrolled : req.enrolledIn ≠ none :=
    coherent.enrolled found (by rw [pc]; rfl) (by rw [pc]; rfl)
  have closed :=
    Consistent.closed_of_not_holding coherent found enrolled
      (by rw [pc]; rfl)
  exact
    Consistent.move coherent found rfl rfl (.inr (.inl closed))
      (fun isBefore => nomatch isBefore) (fun _ _ => enrolled)

theorem Coherent.cancel
    (coherent : live.Coherent) {id : ReqId}
    (stepped : live.step (.cancel id) = some next) :
    next.Coherent := by
  obtain ⟨req, outTx, session, found, pc, _, _, _, sameRegistry, sameReqs⟩ :=
    step_cancel stepped
  have enrolled : req.enrolledIn ≠ none :=
    coherent.enrolled found (by rw [pc]; rfl) (by rw [pc]; rfl)
  have closed :=
    Consistent.closed_of_not_holding coherent found enrolled
      (by rw [pc]; rfl)
  unfold Coherent
  rw [sameRegistry, sameReqs]
  exact
    Consistent.commit_move coherent
      Disciplined.cancelPendingPromptsForSession found
      ((Channel.closed_applyAll _ _).mpr (.inl closed)) rfl enrolled

/-- Every action keeps the registry and the requests in agreement. -/
theorem Coherent.step
    (coherent : live.Coherent) {action : Action}
    (stepped : live.step action = some next) :
    next.Coherent := by
  cases action with
  | tick elapsed =>
      rw [step_tick stepped]
      exact coherent
  | auth id tokenId clientId machine =>
      obtain ⟨_, rfl⟩ := step_auth stepped
      exact coherent
  | register id =>
      obtain ⟨conn, _, _, rfl⟩ := step_register stepped
      exact coherent.register id conn
  | hello id written =>
      obtain ⟨conn, _, _, rfl⟩ := step_hello stepped
      exact coherent
  | frame id envelope =>
      obtain ⟨conn, _, _, rfl⟩ := step_frame stepped
      exact coherent
  | resolve id =>
      obtain ⟨conn, resolution, todo, _, _, rfl⟩ := step_resolve stepped
      exact Consistent.commit coherent (Disciplined.perform resolution)
  | outgoing id written =>
      obtain ⟨conn, _, _, _, rfl⟩ := step_outgoing stepped
      exact coherent
  | outClosed id =>
      obtain ⟨conn, _, _, _, rfl⟩ := step_outClosed stepped
      exact coherent
  | stop id certainClose =>
      obtain ⟨conn, _, _, rfl⟩ := step_stop stepped
      exact coherent
  | teardown id =>
      obtain ⟨conn, certainClose, _, _, rfl⟩ := step_teardown stepped
      exact coherent.removeEntry conn.tokenId
  | finish id =>
      obtain ⟨conn, certainClose, _, _, rfl⟩ := step_finish stepped
      exact coherent
  | revoke tokenId =>
      rw [step_revoke stepped]
      exact coherent.removeEntry tokenId
  | call id tokenId envelopeId call =>
      obtain ⟨absent, rfl⟩ := step_call stepped
      exact Consistent.call coherent absent
  | lookup id => exact coherent.lookup stepped
  | enroll id => exact coherent.enroll stepped
  | send id ts => exact coherent.send stepped
  | recv id => exact coherent.recv stepped
  | timeout id => exact coherent.timeout stepped
  | forget id => exact coherent.forget stepped
  | check id => exact coherent.check stepped
  | cancel id => exact coherent.cancel stepped

/-- The registry and the requests agree in every reachable state. -/
theorem coherent_of_reachable
    (reachable : machine.Reachable live) :
    live.Coherent := by
  refine reachable.invariant Coherent ?_ ?_
  · exact Consistent.empty
  · intro state action next coherent stepped
    exact coherent.step stepped

end Live

end HollerServer.Wire
