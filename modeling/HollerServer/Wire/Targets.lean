import HollerServer.Wire.Registry

/-!
# Targets of a query

`Registry::resolve_target` of `src/wire/registry.rs`.  A token id is looked up; any
other id is searched among the entries, in the order in which the hash map is
iterated, as a hostname or a client id.  Hostnames are chosen by the clients, so an
entry found first by its hostname can stand before the one whose client id is meant.
-/

namespace HollerServer.Wire

namespace Registry

/-- An order in which the entries are iterated. -/
def Iterates (registry : Registry) (order : List (String × Entry)) : Prop :=
  order.Perm registry.entries.pairs

/-- `Registry::resolve_target`, for an order of iteration. -/
def resolveTarget
    (registry : Registry) (order : List (String × Entry)) (id : String) :
    Option String :=
  if (registry.get? id).isSome then some id
  else
    (order.find? fun (_, entry) =>
      entry.hostname = id || entry.clientId = id).map Prod.fst

/-- No two live entries have the same client id. -/
def DistinctClients (registry : Registry) : Prop :=
  ∀ first firstEntry second secondEntry,
    registry.get? first = some firstEntry →
      registry.get? second = some secondEntry →
      firstEntry.clientId = secondEntry.clientId → first = second

/-- What a target is to resolve to: the token it is, else the token of the client it
names where no two have one client id, else a token with this hostname, and nothing
only if there is none. -/
structure Resolves
    (registry : Registry) (order : List (String × Entry)) (id : String) :
    Prop where
  token :
    (registry.get? id).isSome = true →
      registry.resolveTarget order id = some id
  client :
    registry.DistinctClients → registry.get? id = none →
      ∀ tokenId entry, registry.get? tokenId = some entry →
        entry.clientId = id →
        registry.resolveTarget order id = some tokenId
  host :
    registry.get? id = none →
      (∀ tokenId entry, registry.get? tokenId = some entry →
        entry.clientId ≠ id) →
      ∀ tokenId entry, registry.get? tokenId = some entry →
        entry.hostname = id →
        ∃ found foundEntry,
          registry.resolveTarget order id = some found ∧
            registry.get? found = some foundEntry ∧
            foundEntry.hostname = id
  absent :
    registry.resolveTarget order id = none ↔
      registry.get? id = none ∧
        ∀ tokenId entry, registry.get? tokenId = some entry →
          entry.clientId ≠ id ∧ entry.hostname ≠ id

/-- No entry has the client id of another one for its hostname. -/
def Unshadowed (registry : Registry) (id : String) : Prop :=
  ∀ owner ownerEntry other otherEntry,
    registry.get? owner = some ownerEntry → ownerEntry.clientId = id →
      registry.get? other = some otherEntry → otherEntry.hostname = id →
      other = owner

variable {registry : Registry} {order : List (String × Entry)} {id : String}

theorem mem_order_iff
    (iterates : registry.Iterates order) {tokenId : String} {entry : Entry} :
    (tokenId, entry) ∈ order ↔ registry.get? tokenId = some entry := by
  rw [List.Perm.mem_iff iterates]
  exact FiniteMap.mem_pairs

theorem resolveTarget_of_token
    (live : (registry.get? id).isSome = true) :
    registry.resolveTarget order id = some id := by
  unfold resolveTarget
  rw [if_pos live]

/-- An id that is no token resolves to the first entry with this hostname or client
id. -/
theorem resolveTarget_of_not_token
    (absent : registry.get? id = none) :
    registry.resolveTarget order id =
      (order.find? fun (_, entry) =>
        entry.hostname = id || entry.clientId = id).map Prod.fst := by
  have notLive : ¬(registry.get? id).isSome = true := by
    simp [absent]
  unfold resolveTarget
  rw [if_neg notLive]

/-- What an id that is no token resolves to is live and has this hostname or client
id. -/
theorem matches_of_resolveTarget
    (iterates : registry.Iterates order) (absent : registry.get? id = none)
    {tokenId : String}
    (resolved : registry.resolveTarget order id = some tokenId) :
    ∃ entry, registry.get? tokenId = some entry ∧
      (entry.hostname = id ∨ entry.clientId = id) := by
  rw [resolveTarget_of_not_token absent] at resolved
  obtain ⟨⟨found, entry⟩, isFound, rfl⟩ := Option.map_eq_some_iff.mp resolved
  have isMember := List.mem_of_find?_eq_some isFound
  have passes := List.find?_some isFound
  refine ⟨entry, (mem_order_iff iterates).mp isMember, ?_⟩
  simpa using passes

/-- Nothing is resolved exactly if no live entry has the id in any place. -/
theorem resolveTarget_eq_none_iff
    (iterates : registry.Iterates order) :
    registry.resolveTarget order id = none ↔
      registry.get? id = none ∧
        ∀ tokenId entry, registry.get? tokenId = some entry →
          entry.clientId ≠ id ∧ entry.hostname ≠ id := by
  cases live : registry.get? id with
  | some entry =>
      have resolved : registry.resolveTarget order id = some id :=
        resolveTarget_of_token (by rw [live]; rfl)
      rw [resolved]
      simp
  | none =>
      rw [resolveTarget_of_not_token live, Option.map_eq_none_iff,
        List.find?_eq_none]
      constructor
      · intro none
        refine ⟨rfl, ?_⟩
        intro tokenId entry found
        have fails := none (tokenId, entry) ((mem_order_iff iterates).mpr found)
        simp only [Bool.or_eq_true, decide_eq_true_eq, not_or] at fails
        exact ⟨fails.2, fails.1⟩
      · rintro ⟨_, none⟩ ⟨tokenId, entry⟩ isMember
        obtain ⟨notClient, notHost⟩ :=
          none tokenId entry ((mem_order_iff iterates).mp isMember)
        simp [notClient, notHost]

/-- Without a shadow the target is what it is to be, in any order. -/
theorem resolves_of_unshadowed
    (unshadowed :
      registry.DistinctClients → registry.get? id = none →
        registry.Unshadowed id)
    (iterates : registry.Iterates order) :
    registry.Resolves order id where
  token := resolveTarget_of_token
  client := by
    intro distinct absent tokenId entry found isClient
    cases resolved : registry.resolveTarget order id with
    | none =>
        obtain ⟨_, none⟩ := (resolveTarget_eq_none_iff iterates).mp resolved
        exact absurd isClient (none tokenId entry found).1
    | some other =>
        obtain ⟨otherEntry, otherFound, hostOrClient⟩ :=
          matches_of_resolveTarget iterates absent resolved
        have same : other = tokenId := by
          rcases hostOrClient with isHost | isClientToo
          · exact unshadowed distinct absent tokenId entry other otherEntry found
              isClient otherFound isHost
          · exact distinct other otherEntry tokenId entry otherFound found
              (isClientToo.trans isClient.symm)
        rw [same]
  host := by
    intro absent noClient tokenId entry found isHost
    cases resolved : registry.resolveTarget order id with
    | none =>
        obtain ⟨_, none⟩ := (resolveTarget_eq_none_iff iterates).mp resolved
        exact absurd isHost (none tokenId entry found).2
    | some other =>
        obtain ⟨otherEntry, otherFound, hostOrClient⟩ :=
          matches_of_resolveTarget iterates absent resolved
        rcases hostOrClient with otherHost | isClient
        · exact ⟨other, otherEntry, rfl, otherFound, otherHost⟩
        · exact absurd isClient (noClient other otherEntry otherFound)
  absent := resolveTarget_eq_none_iff iterates

/-- Some order of iteration starts with a given entry. -/
theorem exists_iterates_cons
    {tokenId : String} {entry : Entry}
    (found : registry.get? tokenId = some entry) :
    ∃ rest, registry.Iterates ((tokenId, entry) :: rest) := by
  obtain ⟨before, after, split⟩ :=
    List.append_of_mem (FiniteMap.mem_pairs.mpr found)
  refine ⟨before ++ after, ?_⟩
  unfold Iterates
  rw [split]
  exact List.perm_middle.symm

/-- An entry that takes the client id of another one for its hostname gets in its way
in some order. -/
theorem unshadowed_of_resolves
    (distinct : registry.DistinctClients) (absent : registry.get? id = none)
    (resolves :
      ∀ order, registry.Iterates order → registry.Resolves order id) :
    registry.Unshadowed id := by
  intro owner ownerEntry other otherEntry ownerFound isClient otherFound isHost
  obtain ⟨rest, iterates⟩ := exists_iterates_cons otherFound
  have toOwner :=
    (resolves _ iterates).client distinct absent owner ownerEntry ownerFound isClient
  rw [resolveTarget_of_not_token absent, List.find?_cons_of_pos (by simp [isHost])]
    at toOwner
  simpa using toOwner

/-- A target resolves as it is to in every order of iteration exactly if it is a live
token or no other entry has for its hostname the client id that is meant. -/
theorem targets_resolve_iff (registry : Registry) (id : String) :
    (∀ order, registry.Iterates order → registry.Resolves order id) ↔
      (registry.DistinctClients → registry.get? id = none →
        registry.Unshadowed id) := by
  constructor
  · intro resolves distinct absent
    exact unshadowed_of_resolves distinct absent resolves
  · intro unshadowed order iterates
    exact resolves_of_unshadowed unshadowed iterates

theorem distinctClients_of_nodup
    (nodup : (registry.entries.pairs.map fun row => row.2.clientId).Nodup) :
    registry.DistinctClients := by
  intro first firstEntry second secondEntry firstFound secondFound same
  have firstRow := FiniteMap.mem_pairs.mpr firstFound
  have secondRow := FiniteMap.mem_pairs.mpr secondFound
  have sameRow := List.inj_on_of_nodup_map nodup firstRow secondRow same
  exact congrArg Prod.fst sameRow

/-- Two connections. -/
def plain : Registry :=
  ((Registry.new.insert "tok_1" "cli_1" "kiwi" 1).1.insert "tok_2" "cli_2"
    "mango" 2).1

/-- The second one says in its `hello` that its hostname is the client id of the
first one. -/
def shadowed : Registry :=
  plain.setHostname "tok_2" "cli_1"

theorem targets_resolve_iff_plain :
    plain.DistinctClients ∧
      ∀ order, plain.Iterates order → plain.Resolves order "cli_1" := by
  have distinct : plain.DistinctClients :=
    distinctClients_of_nodup (by decide)
  refine ⟨distinct, (targets_resolve_iff plain "cli_1").mpr ?_⟩
  intro _ _ owner ownerEntry other otherEntry _ _ otherFound isHost
  have row := FiniteMap.mem_pairs.mpr otherFound
  have noHost : ∀ row ∈ plain.entries.pairs, row.2.hostname ≠ "cli_1" := by
    decide
  exact absurd isHost (noHost _ row)

/-- In some order of iteration a query for the first client goes to the second. -/
theorem hostname_shadows_client :
    shadowed.DistinctClients ∧
      ∃ order,
        shadowed.Iterates order ∧
          shadowed.resolveTarget order "cli_1" = some "tok_2" ∧
          ¬shadowed.Resolves order "cli_1" := by
  have distinct : shadowed.DistinctClients :=
    distinctClients_of_nodup (by decide)
  have resolved :
      shadowed.resolveTarget shadowed.entries.pairs "cli_1" = some "tok_2" := by
    decide
  refine ⟨distinct, shadowed.entries.pairs, List.Perm.refl _, resolved, ?_⟩
  intro resolves
  have toOwner :=
    resolves.client distinct rfl "tok_1" (Entry.new "kiwi" "cli_1" 1) rfl rfl
  rw [resolved] at toOwner
  exact absurd toOwner (by decide)

end Registry

end HollerServer.Wire
