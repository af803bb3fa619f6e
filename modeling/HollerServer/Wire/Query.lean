import HollerServer.Lib.FiniteMap
import HollerServer.Lib.Keyed
import HollerServer.Lib.Text
import HollerServer.Wire.Hello
import Mathlib.Data.List.Sort
import Mathlib.Data.String.Basic

/-!
# Answers to queries

`src/wire/query.rs`: the answers to `status`, `caps`, `support` and `protocol`
out of the state of the server, and the table of confirmed harnesses they report
on.  A JSON object keeps its keys in order, as the map behind it does.  The
quoted form of a string in an error message is an argument.
-/

namespace HollerServer.Wire

open HollerServer.Proto

/-- Insert a key into the ordered keys of an object. -/
def insertField
    (key : String) (value : Value) :
    List (String × Value) → List (String × Value)
  | [] => [(key, value)]
  | (first, stored) :: rest =>
      if key = first then (key, value) :: rest
      else if key < first then (key, value) :: (first, stored) :: rest
      else (first, stored) :: insertField key value rest

/-- The object that `json!` builds. -/
def jsonObject (fields : List (String × Value)) : Value :=
  .object
    (fields.foldl (fun built field => insertField field.1 field.2 built) [])

def jsonStrings (items : List String) : Value :=
  .array (items.map .string)

def jsonNat (value : Nat) : Value :=
  .int value

/-- Assignment to a key of an object. -/
def setKey (object : Value) (key : String) (value : Value) : Value :=
  match object with
  | .object fields => .object (insertField key value fields)
  | other => other

/-- `Value::get`: the value under a key of an object. -/
def member? (doc : Value) (key : String) : Option Value :=
  match doc with
  | .object fields => fields.lookup key
  | _ => none

/-- A harness id and the hosts that confirmed it. -/
structure HarnessConfirmation where
  id : String
  clients : List String
  deriving DecidableEq, Repr

/-- The hosts that confirmed each harness. -/
abbrev ConfirmedHarnesses := FiniteMap String (List String)

/-- The confirmations sorted by harness id, their hosts sorted too. -/
def confirmedHarnessesSnapshot
    (confirmed : ConfirmedHarnesses) : List HarnessConfirmation :=
  (confirmed.pairs.map fun row =>
    { id := row.1
      clients := row.2.insertionSort (· ≤ ·) :
      HarnessConfirmation }).insertionSort fun first second =>
    first.id ≤ second.id

def errorBody
    (code : String) (cmd : Option String) (message : String) :
    ErrorBody where
  code := code
  cmd := cmd
  message := some message

def confirmedHosts
    (confirmed : List HarnessConfirmation) (id : String) :
    Option (List String) :=
  (confirmed.find? fun row => row.id = id).map
    HarnessConfirmation.clients

def confirmationValue (row : HarnessConfirmation) : Value :=
  jsonObject [("id", .string row.id), ("clients", jsonStrings row.clients)]

def statusRest
    (hostname : String) (listening : List String) (clients sessions : Nat)
    (confirmed : List HarnessConfirmation) : Value :=
  jsonObject
    [("role", .string "server"),
      ("protocol", jsonNat protocolVersion.toNat),
      ("protocol_min", jsonNat protocolVersion.toNat),
      ("protocol_max", jsonNat protocolVersion.toNat),
      ("hostname", .string hostname),
      ("listening", jsonStrings listening),
      ("features", jsonStrings serverFeatures),
      ("harnesses_known", jsonStrings harnessesKnown),
      ("harnesses_confirmed", .array (confirmed.map confirmationValue)),
      ("clients", jsonNat clients),
      ("sessions", jsonNat sessions)]

def statusBody
    (hostname : String) (listening : List String) (clients sessions : Nat)
    (confirmed : List HarnessConfirmation) : QueryOkBody where
  cmd := "status"
  rest := statusRest hostname listening clients sessions confirmed

/-- The capability entry of a protocol feature. -/
def featureCapability (feature : String) : Value :=
  if feature ∈ serverFeatures then
    jsonObject [("ok", .bool true), ("kind", .string "feature")]
  else
    jsonObject
      [("ok", .bool false), ("kind", .string "feature"),
        ("reason", .string "not implemented by this server process")]

/-- The capability entry of a harness. -/
def harnessCapability
    (confirmed : List HarnessConfirmation) (harness : String) : Value :=
  let hosts := (confirmedHosts confirmed harness).getD []
  if hosts.isEmpty then
    jsonObject
      [("ok", .bool false), ("kind", .string "harness"),
        ("reason", .string "not confirmed by any live client")]
  else
    jsonObject
      [("ok", .bool true), ("kind", .string "harness"),
        ("clients", jsonStrings hosts)]

def capabilities (confirmed : List HarnessConfirmation) : Value :=
  jsonObject
    (protocolFeatures.map (fun feature =>
      (feature, featureCapability feature)) ++
      harnessesKnown.map fun harness =>
        (harness, harnessCapability confirmed harness))

def capsBody
    (hostname : String) (listening : List String) (clients sessions : Nat)
    (confirmed : List HarnessConfirmation) : QueryOkBody where
  cmd := "caps"
  rest :=
    setKey (statusRest hostname listening clients sessions confirmed)
      "capabilities" (capabilities confirmed)

def supportBody
    (args : List String) (confirmed : List HarnessConfirmation) :
    Except ErrorBody QueryOkBody :=
  match args.head? with
  | none =>
      .error
        (errorBody codeUnknownFeature (some "support")
          "support requires a feature or harness id")
  | some feature =>
      if feature ∈ serverFeatures then
        .ok
          { cmd := "support"
            rest :=
              jsonObject
                [("args", jsonStrings [feature]), ("ok", .bool true),
                  ("feature", .string feature),
                  ("kind", .string "feature"),
                  ("how",
                    .string "implemented by this server process")] }
      else if feature ∈ protocolFeatures then
        .ok
          { cmd := "support"
            rest :=
              jsonObject
                [("args", jsonStrings [feature]), ("ok", .bool false),
                  ("feature", .string feature),
                  ("kind", .string "feature"),
                  ("reason",
                    .string "not implemented by this server process")] }
      else if feature ∈ harnessesKnown then
        let hosts := (confirmedHosts confirmed feature).getD []
        let answer :=
          jsonObject
            [("args", jsonStrings [feature]),
              ("ok", .bool !hosts.isEmpty), ("feature", .string feature),
              ("kind", .string "harness")]
        .ok
          { cmd := "support"
            rest :=
              if hosts.isEmpty then
                setKey answer "reason"
                  (.string "not confirmed by any live client")
              else
                setKey
                  (setKey answer "how"
                    (.string "confirmed by a live client"))
                  "clients" (jsonStrings hosts) }
      else
        .error
          (errorBody codeUnknownFeature (some "support")
            ("unknown feature or harness id: " ++ feature))

def protocolBody
    (quoted : String → String) (args : List String) :
    Except ErrorBody QueryOkBody :=
  let version := protocolVersion.toNat
  let range :=
    [("session", jsonNat version), ("min", jsonNat version),
      ("max", jsonNat version)]
  let refusal (raw : String) :=
    errorBody codeUnknownFeature (some "protocol")
      ("protocol version must be a positive integer, got " ++ quoted raw)
  match args.head? with
  | none => .ok { cmd := "protocol", rest := jsonObject range }
  | some raw =>
      match Text.parseUnsigned UInt32.size raw with
      | none => .error (refusal raw)
      | some asked =>
          if asked < 1 then .error (refusal raw)
          else
            .ok
              { cmd := "protocol"
                rest :=
                  jsonObject
                    ([("args", jsonStrings [raw]),
                      ("ok",
                        .bool (version ≤ asked && asked ≤ version)),
                      ("asked", jsonNat asked)] ++ range) }

def dispatch
    (quoted : String → String) (cmd : String) (args : List String)
    (hostname : String) (listening : List String) (clients sessions : Nat)
    (confirmed : List HarnessConfirmation) : Except ErrorBody QueryOkBody :=
  match cmd with
  | "status" =>
      .ok (statusBody hostname listening clients sessions confirmed)
  | "caps" => .ok (capsBody hostname listening clients sessions confirmed)
  | "support" => supportBody args confirmed
  | "protocol" => protocolBody quoted args
  | other =>
      .error
        (errorBody codeUnknownCmd (some other)
          ("unknown query cmd: " ++ other))

/-- What is found after an insertion. -/
theorem lookup_insertField (key other : String) (value : Value)
    (fields : List (String × Value)) :
    (insertField other value fields).lookup key =
      if key = other then some value else fields.lookup key := by
  induction fields with
  | nil =>
      by_cases same : key = other
      · subst same
        simp [insertField]
      · simp [insertField, Keyed.lookup_of_ne same, same]
  | cons field rest ih =>
      obtain ⟨first, stored⟩ := field
      unfold insertField
      split
      next replaced =>
        subst replaced
        by_cases same : key = other
        · subst same
          simp
        · simp [Keyed.lookup_of_ne same, same]
      next apart =>
        split
        next =>
          by_cases same : key = other
          · subst same
            simp
          · rw [Keyed.lookup_of_ne same, if_neg same]
        next =>
          by_cases same : key = first
          · subst same
            rw [Keyed.lookup_self, Keyed.lookup_self,
              if_neg (Ne.symm apart)]
          · rw [Keyed.lookup_of_ne same, Keyed.lookup_of_ne same, ih]

theorem lookup_foldl_insertField
    {fields : List (String × Value)}
    (distinct : (fields.map Prod.fst).Nodup)
    (built : List (String × Value)) (key : String) :
    (fields.foldl (fun built field => insertField field.1 field.2 built)
        built).lookup key =
      (fields.lookup key).or (built.lookup key) := by
  induction fields generalizing built with
  | nil => rfl
  | cons field rest ih =>
      obtain ⟨first, stored⟩ := field
      rw [List.map_cons, List.nodup_cons] at distinct
      rw [List.foldl_cons, ih distinct.2, lookup_insertField]
      by_cases same : key = first
      · subst same
        have absent : rest.lookup key = none := by
          apply Keyed.lookup_eq_none
          intro entry member equal
          exact distinct.1 (List.mem_map.mpr ⟨entry, member, equal⟩)
        rw [Keyed.lookup_self, absent, if_pos rfl]
        rfl
      · rw [Keyed.lookup_of_ne same, if_neg same]

/-- Distinct fields are found in the object that is built of them. -/
theorem member?_jsonObject
    {fields : List (String × Value)}
    (distinct : (fields.map Prod.fst).Nodup) (key : String) :
    member? (jsonObject fields) key = fields.lookup key := by
  have found := lookup_foldl_insertField distinct [] key
  rw [List.lookup_nil, Option.or_none] at found
  exact found

@[simp]
theorem setKey_object
    (fields : List (String × Value)) (key : String) (value : Value) :
    setKey (.object fields) key value =
      .object (insertField key value fields) :=
  rfl

@[simp]
theorem member?_object (fields : List (String × Value)) (key : String) :
    member? (.object fields) key = fields.lookup key :=
  rfl

/-- An entry for each name of a list is found under its name. -/
theorem lookup_map_self
    {names : List String} {key : String} (entry : String → Value)
    (member : key ∈ names) :
    (names.map fun name => (name, entry name)).lookup key =
      some (entry key) := by
  induction names with
  | nil => cases member
  | cons name rest inductionHypothesis =>
      rw [List.map_cons]
      by_cases same : key = name
      · subst same
        exact Keyed.lookup_self
      · rw [Keyed.lookup_of_ne same]
        exact
          inductionHypothesis ((List.mem_cons.mp member).resolve_left same)

theorem lookup_map_of_notMem
    {names : List String} {key : String} (entry : String → Value)
    (absent : key ∉ names) :
    (names.map fun name => (name, entry name)).lookup key = none := by
  apply Keyed.lookup_eq_none
  intro field member same
  obtain ⟨name, isName, rfl⟩ := List.mem_map.mp member
  exact absent (same ▸ isName)

end HollerServer.Wire
