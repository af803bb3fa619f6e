import HollerServer.Wire.Query

/-!
# Capabilities and support

`caps` answers for every known id in one map, `support` for one id at a time, and
`src/wire/query.rs` computes the two apart: one fills a map with the features and
then the harnesses, the other tries three lists in turn.  Both tell the
standing of the id, which depends on the confirmations alone.
-/

namespace HollerServer.Wire

open HollerServer.Proto

variable (confirmed : List HarnessConfirmation)

/-- What is to be said of an id: whether it is served, which kind of id it is, and
for a harness that is served the hosts that serve it. -/
structure Standing where
  ok : Bool
  kind : String
  clients : Option (List String)
  deriving DecidableEq, Repr

def featureStanding (feature : String) : Standing where
  ok := feature ∈ serverFeatures
  kind := "feature"
  clients := none

def harnessStanding (harness : String) : Standing :=
  match (confirmedHosts confirmed harness).getD [] with
  | [] => { ok := false, kind := "harness", clients := none }
  | host :: hosts =>
      { ok := true, kind := "harness", clients := some (host :: hosts) }

/-- The standing of an id, none on an unknown one. -/
def standing (id : String) : Option Standing :=
  if id ∈ protocolFeatures then some (featureStanding id)
  else if id ∈ harnessesKnown then some (harnessStanding confirmed id)
  else none

/-- The document tells the standing. -/
structure Tells (doc : Value) (told : Standing) : Prop where
  ok : member? doc "ok" = some (.bool told.ok)
  kind : member? doc "kind" = some (.string told.kind)
  clients : member? doc "clients" = told.clients.map jsonStrings

/-- Documents that tell the same agree on what they tell. -/
theorem Tells.agree {first second : Value} {told : Standing}
    (firstTells : Tells first told) (secondTells : Tells second told) :
    ∀ key ∈ ["ok", "kind", "clients"],
      member? first key = member? second key := by
  intro key listed
  simp only [List.mem_cons, List.not_mem_nil, or_false] at listed
  obtain rfl | rfl | rfl := listed
  · rw [firstTells.ok, secondTells.ok]
  · rw [firstTells.kind, secondTells.kind]
  · rw [firstTells.clients, secondTells.clients]

/-- No known harness is also the name of a feature. -/
theorem harnessesKnown_apart :
    ∀ harness ∈ harnessesKnown,
      harness ∉ serverFeatures ∧ harness ∉ protocolFeatures := by
  decide

theorem serverFeatures_subset : serverFeatures ⊆ protocolFeatures := by
  decide

theorem featureCapability_tells (feature : String) :
    Tells (featureCapability feature) (featureStanding feature) := by
  unfold featureCapability featureStanding
  by_cases served : feature ∈ serverFeatures
  · rw [if_pos served]
    constructor
    · rw [member?_jsonObject (by simp)]
      simp [served]
    · exact member?_jsonObject (by simp) "kind"
    · exact member?_jsonObject (by simp) "clients"
  · rw [if_neg served]
    constructor
    · rw [member?_jsonObject (by simp)]
      simp [served]
    · exact member?_jsonObject (by simp) "kind"
    · exact member?_jsonObject (by simp) "clients"

theorem harnessCapability_tells (harness : String) :
    Tells (harnessCapability confirmed harness)
      (harnessStanding confirmed harness) := by
  unfold harnessCapability harnessStanding
  cases (confirmedHosts confirmed harness).getD [] with
  | nil =>
      constructor
      · exact member?_jsonObject (by simp) "ok"
      · exact member?_jsonObject (by simp) "kind"
      · exact member?_jsonObject (by simp) "clients"
  | cons host hosts =>
      constructor
      · exact member?_jsonObject (by simp) "ok"
      · exact member?_jsonObject (by simp) "kind"
      · exact member?_jsonObject (by simp) "clients"

/-- The entry of an id in the map: the harnesses come after the features, and none
of them takes the place of a feature. -/
theorem member?_capabilities (id : String) :
    member? (capabilities confirmed) id =
      if id ∈ protocolFeatures then some (featureCapability id)
      else if id ∈ harnessesKnown then
        some (harnessCapability confirmed id)
      else none := by
  have distinct :
      ((protocolFeatures.map (fun feature =>
          (feature, featureCapability feature)) ++
        harnessesKnown.map fun harness =>
          (harness, harnessCapability confirmed harness)).map
            Prod.fst).Nodup := by
    rw [List.map_append, List.map_map, List.map_map]
    exact (by decide : (protocolFeatures ++ harnessesKnown).Nodup)
  unfold capabilities
  rw [member?_jsonObject distinct, List.lookup_append]
  by_cases isFeature : id ∈ protocolFeatures
  · rw [lookup_map_self _ isFeature, if_pos isFeature, Option.some_or]
  · rw [lookup_map_of_notMem _ isFeature, if_neg isFeature,
      Option.none_or]
    by_cases isHarness : id ∈ harnessesKnown
    · rw [lookup_map_self _ isHarness, if_pos isHarness]
    · rw [lookup_map_of_notMem _ isHarness, if_neg isHarness]

/-- The map has an entry exactly for the ids that have a standing, and the entry
tells it. -/
theorem capabilities_tell (id : String) :
    match standing confirmed id with
    | some told =>
        ∃ entry, member? (capabilities confirmed) id = some entry ∧
          Tells entry told
    | none => member? (capabilities confirmed) id = none := by
  rw [member?_capabilities]
  unfold standing
  by_cases isFeature : id ∈ protocolFeatures
  · simp only [if_pos isFeature]
    exact ⟨_, rfl, featureCapability_tells id⟩
  · by_cases isHarness : id ∈ harnessesKnown
    · simp only [if_neg isFeature, if_pos isHarness]
      exact ⟨_, rfl, harnessCapability_tells confirmed id⟩
    · simp only [if_neg isFeature, if_neg isHarness]

theorem featureAnswer_tells
    {feature : String} (known : feature ∈ protocolFeatures)
    (others : List String) :
    ∃ doc,
      supportBody (feature :: others) confirmed =
          .ok { cmd := "support", rest := doc } ∧
        Tells doc (featureStanding feature) := by
  unfold supportBody featureStanding
  by_cases served : feature ∈ serverFeatures
  · simp only [List.head?_cons, if_pos served]
    refine ⟨_, rfl, ?_⟩
    constructor
    · simp only [served, decide_true]
      exact member?_jsonObject (by simp) "ok"
    · exact member?_jsonObject (by simp) "kind"
    · exact member?_jsonObject (by simp) "clients"
  · simp only [List.head?_cons, if_neg served, if_pos known]
    refine ⟨_, rfl, ?_⟩
    constructor
    · simp only [served, decide_false]
      exact member?_jsonObject (by simp) "ok"
    · exact member?_jsonObject (by simp) "kind"
    · exact member?_jsonObject (by simp) "clients"

theorem harnessAnswer_tells
    {harness : String} (known : harness ∈ harnessesKnown)
    (others : List String) :
    ∃ doc,
      supportBody (harness :: others) confirmed =
          .ok { cmd := "support", rest := doc } ∧
        Tells doc (harnessStanding confirmed harness) := by
  obtain ⟨notServed, notFeature⟩ := harnessesKnown_apart harness known
  unfold supportBody harnessStanding
  simp only [List.head?_cons, if_neg notServed, if_neg notFeature,
    if_pos known]
  refine ⟨_, rfl, ?_⟩
  cases (confirmedHosts confirmed harness).getD [] with
  | nil =>
      unfold jsonObject
      constructor
      · simp [lookup_insertField]
      · simp [lookup_insertField]
      · simp [lookup_insertField]
  | cons host hosts =>
      unfold jsonObject
      constructor
      · simp [lookup_insertField]
      · simp [lookup_insertField]
      · simp [lookup_insertField]

/-- `support` answers exactly on the ids that have a standing, and the answer tells
it. -/
theorem supportBody_tells (id : String) (others : List String) :
    match standing confirmed id with
    | some told =>
        ∃ doc,
          supportBody (id :: others) confirmed =
              .ok { cmd := "support", rest := doc } ∧
            Tells doc told
    | none =>
        ∃ error, supportBody (id :: others) confirmed = .error error ∧
          error.code = codeUnknownFeature := by
  unfold standing
  by_cases isFeature : id ∈ protocolFeatures
  · simp only [if_pos isFeature]
    exact featureAnswer_tells confirmed isFeature others
  · by_cases isHarness : id ∈ harnessesKnown
    · simp only [if_neg isFeature, if_pos isHarness]
      exact harnessAnswer_tells confirmed isHarness others
    · have notServed : id ∉ serverFeatures := by
        intro served
        exact isFeature (serverFeatures_subset served)
      simp only [if_neg isFeature, if_neg isHarness]
      refine
        ⟨errorBody codeUnknownFeature (some "support")
          ("unknown feature or harness id: " ++ id), ?_, rfl⟩
      unfold supportBody
      simp only [List.head?_cons, if_neg notServed, if_neg isFeature,
        if_neg isHarness]

/-- A harness is served exactly if the first row that names it lists a host. -/
theorem harnessStanding_ok (harness : String) :
    (harnessStanding confirmed harness).ok = true ↔
      ∃ row, confirmed.find? (fun row => row.id = harness) = some row ∧
        row.clients ≠ [] := by
  unfold harnessStanding confirmedHosts
  cases confirmed.find? (fun row => row.id = harness) with
  | none => simp
  | some row =>
      cases emptyOrNot : row.clients with
      | nil => simp [emptyOrNot]
      | cons host hosts => simp [emptyOrNot]

/-- The map in the answer to `caps`. -/
theorem capsBody_capabilities
    (hostname : String) (listening : List String)
    (clients sessions : Nat) :
    member? (capsBody hostname listening clients sessions confirmed).rest
        "capabilities" =
      some (capabilities confirmed) := by
  unfold capsBody statusRest jsonObject
  rw [setKey_object, member?_object, lookup_insertField, if_pos rfl]

/-- Whatever the server says of itself, `support` answers exactly the ids that the
map of `caps` holds, with the same `ok`, `kind` and `clients`, and refuses the
others as unknown; `ok` is true of a harness exactly if the first row that names
it lists a host. -/
theorem support_agrees_with_caps
    (hostname : String) (listening : List String)
    (clients sessions : Nat) (id : String) (others : List String) :
    ∃ map,
      member?
          (capsBody hostname listening clients sessions confirmed).rest
          "capabilities" = some map ∧
        match member? map id with
        | some entry =>
            ∃ doc ok,
              supportBody (id :: others) confirmed =
                .ok { cmd := "support", rest := doc } ∧
              member? doc "ok" = some (.bool ok) ∧
              (∀ key ∈ ["ok", "kind", "clients"],
                member? doc key = member? entry key) ∧
              (id ∈ harnessesKnown →
                (ok = true ↔
                  ∃ row,
                    confirmed.find? (fun row => row.id = id) = some row ∧
                      row.clients ≠ []))
        | none =>
            ∃ error, supportBody (id :: others) confirmed = .error error ∧
              error.code = codeUnknownFeature := by
  refine ⟨_, capsBody_capabilities confirmed hostname listening clients
    sessions, ?_⟩
  have inMap := capabilities_tell confirmed id
  have answered := supportBody_tells confirmed id others
  generalize member? (capabilities confirmed) id = entry? at inMap ⊢
  cases asked : standing confirmed id with
  | none =>
      simp only [asked] at inMap answered
      rw [inMap]
      exact answered
  | some told =>
      simp only [asked] at inMap answered
      obtain ⟨entry, found, entryTells⟩ := inMap
      obtain ⟨doc, answers, docTells⟩ := answered
      rw [found]
      refine ⟨doc, told.ok, answers, docTells.ok, docTells.agree entryTells, ?_⟩
      intro isHarness
      have isTold : told = harnessStanding confirmed id := by
        unfold standing at asked
        rw [if_neg (harnessesKnown_apart id isHarness).2,
          if_pos isHarness] at asked
        exact (Option.some.inj asked).symm
      rw [isTold]
      exact harnessStanding_ok confirmed id

end HollerServer.Wire
