import HollerServer.Cli.Commands
import HollerServer.Proto.Grammar
import HollerServer.Wire.Capabilities
import HollerServer.Wire.ControlChannel

/-!
# What untargeted queries print

The answers of the server go over the control channel as they are, so that a command
prints what it would print had it been the server.
-/

namespace HollerServer.Cli

open HollerServer.Proto
open HollerServer.Wire
open HollerServer.Wire.Control (QueryReply)

/-! ## Values that go over the line -/

/-- The value is read back as it was written, and nests no deeper than a bound. -/
structure Portable (bound : Nat) (value : Value) : Prop where
  held : IsHeld value
  integral : value.isIntegral isMachineInt = true
  shallow : value.depth ≤ bound

section Portable

variable {bound : Nat}

@[simp]
theorem portable_string (text : String) : Portable bound (.string text) :=
  ⟨trivial, rfl, Nat.zero_le bound⟩

@[simp]
theorem portable_bool (flag : Bool) : Portable bound (.bool flag) :=
  ⟨trivial, rfl, Nat.zero_le bound⟩

theorem portable_nat {value : Nat} (small : value < 2 ^ 64) :
    Portable bound (jsonNat value) where
  held := trivial
  integral := by
    simp only [jsonNat, Value.isIntegral, isMachineInt, decide_eq_true_eq]
    omega
  shallow := Nat.zero_le bound

theorem portable_array {items : List Value}
    (all : ∀ item ∈ items, Portable bound item) :
    Portable (bound + 1) (.array items) where
  held := (areHeld_iff items).mpr fun item member => (all item member).held
  integral :=
    (areIntegral_iff items).mpr fun item member => (all item member).integral
  shallow :=
    Nat.succ_le_succ
      (Value.itemsDepth_le_iff.mpr fun item member =>
        (all item member).shallow)

@[simp]
theorem portable_strings (texts : List String) :
    Portable (bound + 1) (jsonStrings texts) := by
  refine portable_array ?_
  intro item member
  obtain ⟨text, _, rfl⟩ := List.mem_map.mp member
  exact portable_string text

theorem portable_object {fields : List (String × Value)}
    (ascending : Keyed.Ascending fields)
    (all : ∀ field ∈ fields, Portable bound field.2) :
    Portable (bound + 1) (.object fields) := by
  have shallow : Value.fieldsDepth fields ≤ bound :=
    Value.fieldsDepth_le_iff.mpr fun field member =>
      (all field member).shallow
  have both :
      FieldsAreHeld fields ∧
        Value.fieldsAreIntegral isMachineInt fields = true := by
    clear ascending shallow
    induction fields with
    | nil => exact ⟨trivial, rfl⟩
    | cons field rest inductionHypothesis =>
        obtain ⟨key, value⟩ := field
        have first : Portable bound value := all (key, value) (by simp)
        have others :=
          inductionHypothesis fun field member =>
            all field (List.mem_cons_of_mem _ member)
        refine ⟨⟨first.held, others.1⟩, ?_⟩
        show (value.isIntegral isMachineInt &&
          Value.fieldsAreIntegral isMachineInt rest) = true
        rw [first.integral, others.2]
        rfl
  exact ⟨⟨ascending, both.1⟩, both.2, Nat.succ_le_succ shallow⟩

theorem portable_jsonObject {fields : List (String × Value)}
    (all : ∀ field ∈ fields, Portable bound field.2) :
    Portable (bound + 1) (jsonObject fields) :=
  portable_object (ascending_collectFields fields)
    fun field member => all field (mem_collectFields member)

theorem forall_of_portable_object {fields : List (String × Value)}
    (portable : Portable (bound + 1) (.object fields)) :
    ∀ field ∈ fields, Portable bound field.2 := by
  obtain ⟨⟨ascending, held⟩, integral, shallow⟩ := portable
  have depths :=
    Value.fieldsDepth_le_iff.mp (Nat.le_of_succ_le_succ shallow)
  clear ascending shallow
  change Value.fieldsAreIntegral isMachineInt fields = true at integral
  induction fields with
  | nil =>
      intro field member
      cases member
  | cons first rest inductionHypothesis =>
      obtain ⟨key, value⟩ := first
      have split := Bool.and_eq_true_iff.mp integral
      intro field member
      rcases List.mem_cons.mp member with rfl | later
      · exact ⟨held.1, split.1, depths _ member⟩
      · exact
          inductionHypothesis held.2
            (fun other isIn => depths other (List.mem_cons_of_mem _ isIn))
            split.2 field later

theorem portable_setKey {object value : Value} {key : String}
    (portable : Portable (bound + 1) object) (added : Portable bound value) :
    Portable (bound + 1) (setKey object key value) := by
  cases object with
  | object fields =>
      refine portable_object (ascending_insertField portable.held.1) ?_
      intro field member
      rcases mem_insertField member with rfl | old
      · exact added
      · exact forall_of_portable_object portable field old
  | null | bool | int | float | string | array => exact portable

end Portable

/-! ## The answers are portable -/

section Answers

variable {hostname : String} {listening : List String}
  {clients sessions : Nat} {rows : List HarnessConfirmation}

theorem portable_statusRest
    (fewClients : clients < 2 ^ 64)
    (fewSessions : sessions < 2 ^ 64) :
    Portable 4 (statusRest hostname listening clients sessions rows) := by
  have version : Portable 3 (jsonNat protocolVersion.toNat) :=
    portable_nat (by decide)
  have confirmed : Portable 3 (.array (rows.map confirmationValue)) := by
    refine portable_array ?_
    intro item member
    obtain ⟨row, _, rfl⟩ := List.mem_map.mp member
    exact portable_jsonObject (by simp)
  refine portable_jsonObject ?_
  simp [version, confirmed, portable_nat fewClients,
    portable_nat fewSessions]

theorem portable_capabilities : Portable 3 (capabilities rows) := by
  refine portable_jsonObject ?_
  intro field member
  rcases List.mem_append.mp member with member | member
  · obtain ⟨feature, _, rfl⟩ := List.mem_map.mp member
    simp only [featureCapability]
    split
    · exact portable_jsonObject (by simp)
    · exact portable_jsonObject (by simp)
  · obtain ⟨harness, _, rfl⟩ := List.mem_map.mp member
    simp only [harnessCapability]
    split
    · exact portable_jsonObject (by simp)
    · exact portable_jsonObject (by simp)

theorem portable_supportBody {args : List String} {body : QueryOkBody}
    (answered : supportBody args rows = .ok body) :
    Portable 4 body.rest := by
  unfold supportBody at answered
  split at answered
  · cases answered
  · split at answered
    · cases answered
      exact portable_jsonObject (by simp)
    · split at answered
      · cases answered
        exact portable_jsonObject (by simp)
      · split at answered
        · cases answered
          simp only
          split
          · exact
              portable_setKey (portable_jsonObject (by simp))
                (portable_string _)
          · exact
              portable_setKey
                (portable_setKey (portable_jsonObject (by simp))
                  (portable_string _)) (portable_strings _)
        · cases answered

theorem portable_protocolBody {quoted : String → String}
    {args : List String} {body : QueryOkBody}
    (answered : protocolBody quoted args = .ok body) :
    Portable 4 body.rest := by
  have version : Portable 3 (jsonNat protocolVersion.toNat) :=
    portable_nat (by decide)
  unfold protocolBody at answered
  simp only at answered
  split at answered
  · cases answered
    exact portable_jsonObject (by simp [version])
  · split at answered
    · cases answered
    · next asked parsed =>
      split at answered
      · cases answered
      · cases answered
        have small := Text.lt_of_parseUnsigned parsed
        have portable : Portable 3 (jsonNat asked) :=
          portable_nat (Nat.lt_trans small (by decide))
        exact portable_jsonObject (by simp [version, portable])

theorem portable_dispatch {quoted : String → String} {cmd : String}
    {args : List String} {body : QueryOkBody}
    (fewClients : clients < 2 ^ 64)
    (fewSessions : sessions < 2 ^ 64)
    (answered :
      dispatch quoted cmd args hostname listening clients sessions rows =
        .ok body) :
    Portable 4 body.rest := by
  have status :=
    @portable_statusRest hostname listening clients sessions rows
      fewClients fewSessions
  unfold dispatch at answered
  split at answered
  · cases answered
    exact status
  · cases answered
    exact portable_setKey status portable_capabilities
  · exact portable_supportBody answered
  · exact portable_protocolBody answered
  · cases answered

/-- Each answer goes over the line as it is. -/
theorem sendable_dispatch {quoted : String → String} {cmd : String}
    {args : List String} {body : QueryOkBody} {limit : Nat}
    (deep : 128 ≤ limit)
    (fewClients : clients < 2 ^ 64) (fewSessions : sessions < 2 ^ 64)
    (answered :
      dispatch quoted cmd args hostname listening clients sessions rows =
        .ok body) :
    Control.Sendable limit (.query (.ok body)) := by
  have portable := portable_dispatch fewClients fewSessions answered
  have nested := portable.shallow
  have shallow : body.rest.depth + 1 < limit := by omega
  exact
    ⟨hasNoCmd_dispatch hostname listening clients sessions rows answered,
      portable.held, portable.integral, shallow⟩

end Answers

/-! ## What is printed -/

section Print

variable (hostname : String) (listening : List String)
  (clients sessions : Nat) (rows : List HarnessConfirmation)

/-- The lines of a status. -/
def overviewLines : List String :=
  let version := toString protocolVersion.toNat
  [ "role:      " ++ "server",
    "hostname:  " ++ hostname,
    "protocol:  " ++ version ++ " (min " ++ version ++ " max " ++ version ++
      ")",
    "listening: " ++
      (if listening.isEmpty then "not running"
      else ", ".intercalate listening),
    "clients:   " ++ toString clients,
    "status:    " ++
      if listening.isEmpty then "not running" else "healthy" ]

/-- The lines that tell of each known id whether it is served. -/
def capabilityLines : List String :=
  "capabilities:" ::
    ((protocolFeatures ++ harnessesKnown).insertionSort (· ≤ ·)).map
      fun id =>
        "  " ++ id ++ ": " ++
          if (standing rows id).any Standing.ok then "ok" else "no"

/-- The document tells the status. -/
structure TellsStatus (rest : Value) : Prop where
  role : member? rest "role" = some (.string "server")
  hostname : member? rest "hostname" = some (.string hostname)
  version :
    ∀ key ∈ ["protocol", "protocol_min", "protocol_max"],
      member? rest key = some (jsonNat protocolVersion.toNat)
  listening : member? rest "listening" = some (jsonStrings listening)
  clients : member? rest "clients" = some (jsonNat clients)

theorem tellsStatus_statusRest :
    TellsStatus hostname listening clients
      (statusRest hostname listening clients sessions rows) := by
  unfold statusRest
  constructor
  case version =>
    intro key listed
    rw [member?_jsonObject (by simp)]
    simp only [List.mem_cons, List.not_mem_nil, or_false] at listed
    obtain rfl | rfl | rfl := listed <;> rfl
  all_goals
    rw [member?_jsonObject (by simp)]
    rfl

theorem tellsStatus_capsBody :
    TellsStatus hostname listening clients
      (capsBody hostname listening clients sessions rows).rest := by
  have tells :=
    tellsStatus_statusRest hostname listening clients sessions rows
  have kept (key : String) (other : key ≠ "capabilities") :
      member? (capsBody hostname listening clients sessions rows).rest
          key =
        member? (statusRest hostname listening clients sessions rows)
          key := by
    unfold capsBody statusRest jsonObject
    rw [setKey_object, member?_object, lookup_insertField, if_neg other,
      member?_object]
  constructor
  · rw [kept _ (by decide)]
    exact tells.role
  · rw [kept _ (by decide)]
    exact tells.hostname
  · intro key listed
    have other : key ≠ "capabilities" := by
      rintro rfl
      revert listed
      decide
    rw [kept _ other]
    exact tells.version key listed
  · rw [kept _ (by decide)]
    exact tells.listening
  · rw [kept _ (by decide)]
    exact tells.clients

variable {hostname listening clients}

/-- The lines that `printStatusLike` prints of the capabilities, if there are any. -/
def printedCapabilities (rest : Value) : List String :=
  match member? rest "capabilities" with
  | some (.object capabilities) =>
      "capabilities:" ::
        ((capabilities.map Prod.fst).insertionSort (· ≤ ·)).map fun id =>
          let ok :=
            (((capabilities.lookup id).bind (member? · "ok")).bind
              readBool).getD false
          "  " ++ id ++ ": " ++ if ok then "ok" else "no"
  | _ => []

/-- A number of the document, as it is printed. -/
theorem number_of_member {rest : Value} {key : String} {value : Nat}
    (found : member? rest key = some (jsonNat value))
    (small : value < 2 ^ 64) :
    ((member? rest key).bind Value.asU64).getD 0 = value := by
  have read := @asU64_int_of_nonneg value (by omega) (by omega)
  rw [Int.toNat_natCast] at read
  rw [found, Option.bind_some, jsonNat, read, Option.getD_some]

/-- What is printed of a document that tells the status. -/
theorem printStatusLike_eq {cmd : String} {rest : Value}
    (tells : TellsStatus hostname listening clients rest)
    (few : clients < 2 ^ 64) :
    printStatusLike { cmd, rest } =
      overviewLines hostname listening clients ++
        printedCapabilities rest := by
  have strings :
      (listening.map Value.string).filterMap Value.asStr = listening := by
    rw [List.filterMap_map]
    exact List.filterMap_some
  have version (key : String)
      (listed : key ∈ ["protocol", "protocol_min", "protocol_max"]) :=
    number_of_member (tells.version key listed) (by decide)
  have counted := number_of_member tells.clients few
  unfold printStatusLike overviewLines
  simp only [tells.role, tells.hostname, tells.listening, counted,
    version "protocol" (by simp), version "protocol_min" (by simp),
    version "protocol_max" (by simp), Option.bind_some, Value.asStr,
    Option.getD_some, jsonStrings, strings, List.isEmpty_map]
  rfl

theorem printedCapabilities_statusRest :
    printedCapabilities
      (statusRest hostname listening clients sessions rows) = [] := by
  have absent :
      member? (statusRest hostname listening clients sessions rows)
          "capabilities" = none := by
    unfold statusRest
    rw [member?_jsonObject (by simp)]
    rfl
  unfold printedCapabilities
  rw [absent]

/-- The entries of the map of capabilities, by their keys. -/
def capabilityFields : List (String × Value) :=
  collectFields
    (protocolFeatures.map (fun feature =>
      (feature, featureCapability feature)) ++
      harnessesKnown.map fun harness =>
        (harness, harnessCapability rows harness))

theorem lookup_capabilityFields (id : String) :
    (capabilityFields rows).lookup id = member? (capabilities rows) id :=
  rfl

/-- The keys of the map are the known ids. -/
theorem keys_capabilityFields :
    ((capabilityFields rows).map Prod.fst).Perm
      (protocolFeatures ++ harnessesKnown) := by
  have distinct : ((capabilityFields rows).map Prod.fst).Nodup :=
    nodup_keys_of_ascending (ascending_collectFields _)
  have known : (protocolFeatures ++ harnessesKnown).Nodup := by decide
  refine (List.perm_ext_iff_of_nodup distinct known).mpr ?_
  intro id
  constructor
  · intro listed
    obtain ⟨field, member, rfl⟩ := List.mem_map.mp listed
    rcases List.mem_append.mp (mem_collectFields member) with first | later
    · obtain ⟨feature, isFeature, rfl⟩ := List.mem_map.mp first
      exact List.mem_append_left _ isFeature
    · obtain ⟨harness, isHarness, rfl⟩ := List.mem_map.mp later
      exact List.mem_append_right _ isHarness
  · intro listed
    have found :
        ∃ entry, (capabilityFields rows).lookup id = some entry := by
      rw [lookup_capabilityFields, member?_capabilities]
      split
      next => exact ⟨_, rfl⟩
      next notFeature =>
        have isHarness :=
          (List.mem_append.mp listed).resolve_left notFeature
        rw [if_pos isHarness]
        exact ⟨_, rfl⟩
    obtain ⟨entry, found⟩ := found
    exact List.mem_map.mpr ⟨(id, entry), Keyed.mem_of_lookup found, rfl⟩

/-- The map says of each id what its standing is. -/
theorem ok_capabilityFields (id : String) :
    ((((capabilityFields rows).lookup id).bind (member? · "ok")).bind
        readBool).getD false =
      (standing rows id).any Standing.ok := by
  have tells := capabilities_tell rows id
  rw [lookup_capabilityFields]
  cases known : standing rows id with
  | none =>
      rw [known] at tells
      rw [tells]
      rfl
  | some told =>
      rw [known] at tells
      obtain ⟨entry, found, tells⟩ := tells
      rw [found, Option.bind_some, tells.ok]
      rfl

theorem printedCapabilities_capsBody :
    printedCapabilities
        (capsBody hostname listening clients sessions rows).rest =
      capabilityLines rows := by
  have listed :
      member? (capsBody hostname listening clients sessions rows).rest
          "capabilities" = some (.object (capabilityFields rows)) :=
    capsBody_capabilities rows hostname listening clients sessions
  have perm :
      (((capabilityFields rows).map Prod.fst).insertionSort (· ≤ ·)).Perm
        ((protocolFeatures ++ harnessesKnown).insertionSort (· ≤ ·)) :=
    (List.perm_insertionSort _ _).trans
      ((keys_capabilityFields rows).trans
        (List.perm_insertionSort _ _).symm)
  have sorted :=
    perm.eq_of_pairwise' (List.pairwise_insertionSort _ _)
      (List.pairwise_insertionSort _ _)
  unfold printedCapabilities capabilityLines
  simp only [listed, sorted, ok_capabilityFields]

end Print

/-! ## The commands `status` and `caps` -/

/-- What `status` or `caps` prints. -/
def printedOverview
    (cmd hostname : String) (listening : List String) (clients : Nat)
    (rows : List HarnessConfirmation) : List String :=
  overviewLines hostname listening clients ++
    if cmd = "caps" then capabilityLines rows else []

section Overview

variable {shell : Shell} {cmd : String} {args : List String}
  {hostname : String} {listening : List String} {clients sessions : Nat}
  {rows : List HarnessConfirmation} {quoted : String → String}

/-- The commands that print an overview: `status`, `caps`, and a `query` whose first
word is one of these. -/
inductive PrintsOverview : Command → String → List String → Prop
  | status : PrintsOverview (.status none false) "status" []
  | caps : PrintsOverview (.caps none false) "caps" []
  | query {command : Command} {cmd : String} {args : List String}
      (isOverview : cmd = "status" ∨ cmd = "caps")
      (words : Command.ofWords (cmd :: args) false = some command) :
      PrintsOverview command cmd args

theorem PrintsOverview.isOverview {command : Command}
    (overview : PrintsOverview command cmd args) :
    cmd = "status" ∨ cmd = "caps" := by
  cases overview with
  | status => exact Or.inl rfl
  | caps => exact Or.inr rfl
  | query isOverview words => exact isOverview

/-- They all ask the server itself. -/
theorem PrintsOverview.untargeted {command : Command}
    (overview : PrintsOverview command cmd args) :
    command = .query none cmd args false := by
  cases overview with
  | status | caps => rfl
  | query isOverview words =>
      have known : Command.knownQueryCmds.contains cmd = true := by
        rcases isOverview with rfl | rfl <;> rfl
      cases args with
      | nil => exact (Option.some.inj words).symm
      | cons second rest =>
          simp only [Command.ofWords, known, if_true] at words
          exact (Option.some.inj words).symm

/-- Both commands are answered, and the answer prints as their overview. -/
theorem exists_overview (isOverview : cmd = "status" ∨ cmd = "caps")
    (few : clients < 2 ^ 64) :
    ∃ body,
      dispatch quoted cmd args hostname listening clients sessions rows =
          .ok body ∧
        shell.printBody false body =
          (printedOverview cmd hostname listening clients rows,
            .returned (.ok ())) := by
  rcases isOverview with rfl | rfl
  · refine ⟨_, rfl, ?_⟩
    have lines :
        printStatusLike
            (statusBody hostname listening clients sessions rows) =
          printedOverview "status" hostname listening clients rows := by
      unfold statusBody printedOverview
      rw [printStatusLike_eq
          (tellsStatus_statusRest hostname listening clients sessions rows)
          few, printedCapabilities_statusRest]
      rfl
    unfold Shell.printBody
    rw [lines]
    rfl
  · refine ⟨_, rfl, ?_⟩
    have lines :
        printStatusLike
            (capsBody hostname listening clients sessions rows) =
          printedOverview "caps" hostname listening clients rows := by
      have printed :=
        @printStatusLike_eq hostname listening clients "caps" _
          (tellsStatus_capsBody hostname listening clients sessions rows)
          few
      rw [printedCapabilities_capsBody] at printed
      exact printed
    unfold Shell.printBody
    rw [lines]
    rfl

example :
    printedOverview "caps" "hub" ["127.0.0.1:41807"] 1
        [⟨"opencode", ["laptop"]⟩] =
      ["role:      server", "hostname:  hub", "protocol:  1 (min 1 max 1)",
        "listening: 127.0.0.1:41807", "clients:   1", "status:    healthy",
        "capabilities:", "  answer: ok", "  claude: no", "  codex: no",
        "  copilot: no", "  cursor: no", "  droid: no", "  goose: no",
        "  grok: no", "  hermes: no", "  interrupt: ok", "  kilo: no",
        "  kimi: no", "  opencode: ok", "  pi: no", "  ping: ok",
        "  presence: ok", "  query: ok", "  qwen: no", "  roster: ok",
        "  token: ok", "  wait: no"] := by
  decide +kernel

/-- With no server to ask, the two commands print the overview of a server nobody is
connected with. -/
theorem run_overview_of_unreachable {roundTrip : RoundTrip}
    (isOverview : cmd = "status" ∨ cmd = "caps")
    (opened : shell.opened = .ok ())
    (hosted : shell.localHostname = .ok hostname)
    (unreachable : runClientQuery roundTrip = none) :
    shell.run (.query none cmd args false) roundTrip =
      (printedOverview cmd hostname [] 0 [], .returned (.ok ())) := by
  obtain ⟨body, answered, printed⟩ :=
    @exists_overview shell cmd args hostname [] 0 0 [] shell.quoted
      isOverview (by omega)
  have asked : controlRunQuery shell.json roundTrip = none := by
    unfold controlRunQuery
    rw [unreachable]
    rfl
  have viewed : shell.localBody cmd args = .ok body := by
    simp only [Shell.localBody, hosted, Except.bind, answered]
  simp only [Shell.run, opened, asked, Shell.finishQuery, Shell.queryBody,
    viewed, printed]

/-- The line of an answer prints as the answer. -/
theorem run_query_line {json : Bool} {body : QueryOkBody} {line : String}
    {target : Option String}
    (opened : shell.opened = .ok ())
    (readsBack : shell.json.ReadsBack)
    (sendable : Control.Sendable shell.json.limit (.query (.ok body)))
    (written : Control.replyLine (.query (.ok body)) = some line) :
    shell.run (.query target cmd args json) (.read (line ++ "\n")) =
      shell.printBody json body := by
  have asked := runClientQuery_line readsBack sendable written
  obtain ⟨inner, read, same⟩ :=
    read_of_map (reached_line readsBack sendable written).2
  cases same
  simp only [Shell.run, opened, controlRunQuery, asked, Option.bind_some,
    read, Shell.finishQuery, Shell.queryBody]

end Overview

end HollerServer.Cli
