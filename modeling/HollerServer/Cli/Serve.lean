import HollerServer.Lib.Result
import HollerServer.Lib.SocketAddr
import HollerServer.Wire.TalkText

/-!
# Starting the server

`run_serve` of `src/main.rs` with what it calls before it listens: the resolution of
the listen addresses, the advertise record of `src/advertise.rs`, and the refusals of
`wire::serve`.  The record is written before `wire::serve` is called.  What the system
answers on the way is an argument.
-/

namespace HollerServer.Cli

open HollerServer.Proto
open HollerServer.Wire
open Net

section Listen

/-- `parse_listen_spec`: an address with a port, or a port on the IPv4 loopback
address. -/
def parseListenSpec (quoted : String → String) (spec : String) :
    Except String SocketAddr :=
  match SocketAddr.fromStr spec with
  | some addr => .ok addr
  | none =>
      match Text.parseUnsigned UInt16.size spec with
      | some port =>
          .ok
            (.v4 { first := 127, second := 0, third := 0, fourth := 1 }
              (UInt16.ofNat port))
      | none =>
          .error
            ("invalid --listen value " ++ quoted spec ++
              " (expected `host:port`, `[ipv6]:port`, or a bare port)")

/-- The entries `--listen` names, or else `HOLLER_LISTEN`, or else the default. -/
def listenSpecs (flags : List String) (env : Option String) :
    List String :=
  if flags ≠ [] then flags
  else
    match env with
    | some value =>
        ((value.splitOn ",").map Text.trim).filter (· ≠ "")
    | none => ["127.0.0.1:41807"]

def resolveListenAddrs
    (quoted : String → String) (flags : List String)
    (env : Option String) : Except String (List SocketAddr) :=
  (listenSpecs flags env).mapM (parseListenSpec quoted)

end Listen

section Advertise

structure AdvertiseRecord where
  address : Option String
  deriving DecidableEq, Repr

inductive AdvertiseState where
  | reachable (address : String)
  | loopbackOnly
  | unknown
  deriving DecidableEq, Repr

/-- The use of serde_json for the record. -/
structure AdvertiseJson where
  toStringPretty : AdvertiseRecord → String
  fromStr : String → Option AdvertiseRecord

/-- A record comes back from its text. -/
def AdvertiseJson.RoundTrips (json : AdvertiseJson) : Prop :=
  ∀ record, json.fromStr (json.toStringPretty record) = some record

def isAdvertisableIp (addr : SocketAddr) : Bool :=
  !addr.isLoopback && !addr.isUnspecified

def resolveAdvertise
    (flag : Option String) (listenAddrs : List SocketAddr) :
    Option String :=
  match flag with
  | some explicit => some explicit
  | none =>
      (listenAddrs.find? isAdvertisableIp).map SocketAddr.toString

/-- `fs::write` on the record's file: it is written, or the call fails and leaves
the file in some state. -/
inductive WriteResult where
  | written
  | failed (message : String) (left : Option String)

variable (json : AdvertiseJson)

/-- What `persist` writes; without it, there is no file that can be read as text. -/
def recordText (advertise : Option String) : String :=
  json.toStringPretty { address := advertise }

/-- `read` of the contents of the file, if it can be read. -/
def readAdvertise (file : Option String) : AdvertiseState :=
  match file with
  | none => .unknown
  | some contents =>
      match json.fromStr contents with
      | some { address := some addr } => .reachable addr
      | some { address := none } => .loopbackOnly
      | none => .unknown

/-- What `mint` is to find after a `serve` that resolved to this. -/
def AdvertiseState.ofResolved : Option String → AdvertiseState
  | some addr => .reachable addr
  | none => .loopbackOnly

theorem readAdvertise_recordText (roundTrips : json.RoundTrips)
    (advertise : Option String) :
    readAdvertise json (some (recordText json advertise)) =
      .ofResolved advertise := by
  unfold readAdvertise recordText
  simp only
  rw [roundTrips]
  cases advertise with
  | none => rfl
  | some addr => rfl

end Advertise

section PrettyRecord

def advertiseRecordValue (record : AdvertiseRecord) : Value :=
  structValue [("address", some (nullable .string record.address))]

def readAdvertiseRecord : Value → Option AdvertiseRecord :=
  readStruct 1 fun fields => do
    some { address := ← fields.optional 0 "address" readString }

/-- The record's use of serde_json. -/
def prettyAdvertiseJson : AdvertiseJson where
  toStringPretty := fun record => (advertiseRecordValue record).pretty
  fromStr := fun text => (fromPretty text).bind readAdvertiseRecord

theorem roundTrips_prettyAdvertiseJson :
    prettyAdvertiseJson.RoundTrips := by
  intro record
  have text :
      (nullable .string record.address).isIntegral isMachineInt = true := by
    cases record.address <;> rfl
  have integral :
      (advertiseRecordValue record).isIntegral isMachineInt = true := by
    simp [advertiseRecordValue, text]
  simp only [prettyAdvertiseJson]
  rw [fromPretty_pretty integral, Option.bind_some]
  unfold readAdvertiseRecord advertiseRecordValue
  simp only [readStruct_structValue]
  simp (disch := simp) [optional_structFields]

end PrettyRecord

section Start

structure ServeArgs where
  listen : List String
  advertise : Option String

/-- What the system answers while the server starts. -/
structure Host where
  /-- `TokenStore::open` in `run_serve` -/
  opened : Except String Unit
  write : WriteResult
  runtime : Except String Unit
  hostname : Except String String
  /-- `TokenStore::open` in `wire::serve` -/
  reopened : Except String Unit
  /-- `bind_control_socket`: it fails when a live server owns the socket -/
  controlBound : Except String Unit
  bind : Nat → SocketAddr → Except String Unit
  localAddr : Nat → Except String SocketAddr

/-- `wire::serve` up to the point where all listeners are bound. -/
def wireServe (host : Host) (listenAddrs : List SocketAddr) :
    Except String (List SocketAddr) :=
  match listenAddrs.find? fun addr => !addr.isLoopback with
  | some addr =>
      .error
        ("refusing to bind non-loopback address " ++ addr.toString ++
          " as plain `ws`: TLS (`wss`) is not yet implemented (ADR " ++
          "0004/0010 require `wss` off loopback); use a loopback address " ++
          "(127.0.0.1 / ::1) for now")
  | none => do
      let _ ← host.hostname
      host.reopened
      host.controlBound
      let _ ← listenAddrs.zipIdx.mapM fun (addr, index) =>
        host.bind index addr
      (List.range listenAddrs.length).mapM host.localAddr

/-- How a start ends. -/
inductive Start where
  /-- before `wire::serve` is called -/
  | failed (message : String)
  /-- `wire::serve` returned an error -/
  | refused (message : String)
  | listening (addrs : List SocketAddr)
  deriving DecidableEq

variable (json : AdvertiseJson) (quoted : String → String)

/-- `run_serve` until the server listens: the file of the advertise record
afterwards, and how the start ended. -/
def runServe
    (args : ServeArgs) (env : Option String) (host : Host)
    (file : Option String) : Option String × Start :=
  match resolveListenAddrs quoted args.listen env with
  | .error message => (file, .failed message)
  | .ok listenAddrs =>
      let advertise := resolveAdvertise args.advertise listenAddrs
      match host.opened with
      | .error message => (file, .failed message)
      | .ok () =>
          match host.write with
          | .failed message left => (left, .failed message)
          | .written =>
              let file := some (recordText json advertise)
              match host.runtime with
              | .error message => (file, .failed message)
              | .ok () =>
                  match wireServe host listenAddrs with
                  | .error message => (file, .refused message)
                  | .ok addrs => (file, .listening addrs)

end Start

section Refusal

variable {json : AdvertiseJson} {quoted : String → String}
  {args : ServeArgs} {env : Option String} {host : Host}
  {file : Option String}

/-- The server may listen on these addresses, and can. -/
structure Admits (host : Host) (listenAddrs : List SocketAddr) : Prop where
  loopback : ∀ addr ∈ listenAddrs, addr.isLoopback = true
  hostname : ∃ name, host.hostname = .ok name
  reopened : host.reopened = .ok ()
  controlBound : host.controlBound = .ok ()
  bound :
    ∀ entry ∈ listenAddrs.zipIdx, host.bind entry.2 entry.1 = .ok ()
  named :
    ∀ index < listenAddrs.length, ∃ addr, host.localAddr index = .ok addr

/-- `wire::serve` comes up exactly if the server may and can listen. -/
theorem wireServe_ok_iff {listenAddrs : List SocketAddr} :
    (∃ addrs, wireServe host listenAddrs = .ok addrs) ↔
      Admits host listenAddrs := by
  unfold wireServe
  cases found : listenAddrs.find? fun addr => !addr.isLoopback with
  | some addr =>
      constructor
      · rintro ⟨_, impossible⟩
        cases impossible
      · intro admits
        have exposed := List.find?_some found
        rw [admits.loopback addr (List.mem_of_find?_eq_some found)] at exposed
        cases exposed
  | none =>
      have loopback : ∀ addr ∈ listenAddrs, addr.isLoopback = true := by
        intro addr member
        simpa using List.find?_eq_none.mp found addr member
      simp only [Except.exists_bind_ok, Except.exists_mapM_ok,
        exists_and_right]
      constructor
      · rintro ⟨hostname, ⟨_, reopened⟩, ⟨_, controlBound⟩, bound, named⟩
        constructor
        · exact loopback
        · exact hostname
        · exact reopened
        · exact controlBound
        · intro entry member
          obtain ⟨_, done⟩ := bound entry member
          exact done
        · intro index below
          exact named index (List.mem_range.mpr below)
      · intro admits
        refine
          ⟨admits.hostname, ⟨(), admits.reopened⟩,
            ⟨(), admits.controlBound⟩, ?_, ?_⟩
        · intro entry member
          exact ⟨(), admits.bound entry member⟩
        · intro index member
          exact admits.named index (List.mem_range.mp member)

/-- The start gets as far as `wire::serve`. -/
structure Reaches
    (quoted : String → String) (args : ServeArgs) (env : Option String)
    (host : Host) (listenAddrs : List SocketAddr) : Prop where
  resolved : resolveListenAddrs quoted args.listen env = .ok listenAddrs
  opened : host.opened = .ok ()
  written : host.write = .written
  runtime : host.runtime = .ok ()

/-- By then the record is written, and `wire::serve` decides. -/
theorem runServe_of_reaches {listenAddrs : List SocketAddr}
    (reaches : Reaches quoted args env host listenAddrs) :
    runServe json quoted args env host file =
      (some
          (recordText json (resolveAdvertise args.advertise listenAddrs)),
        match wireServe host listenAddrs with
        | .error message => .refused message
        | .ok addrs => .listening addrs) := by
  unfold runServe
  simp only [reaches.resolved, reaches.opened, reaches.written,
    reaches.runtime]
  cases wireServe host listenAddrs with
  | error message => rfl
  | ok addrs => rfl

theorem reaches_of_refused {message : String}
    (refused :
      (runServe json quoted args env host file).2 = .refused message) :
    ∃ listenAddrs, Reaches quoted args env host listenAddrs := by
  unfold runServe at refused
  cases resolved : resolveListenAddrs quoted args.listen env with
  | error failure =>
      rw [resolved] at refused
      cases refused
  | ok listenAddrs =>
      cases opened : host.opened with
      | error failure =>
          simp only [resolved, opened] at refused
          cases refused
      | ok done =>
          cases written : host.write with
          | failed failure left =>
              simp only [resolved, opened, written] at refused
              cases refused
          | written =>
              cases runtime : host.runtime with
              | error failure =>
                  simp only [resolved, opened, written, runtime] at refused
                  cases refused
              | ok started =>
                  exact
                    ⟨listenAddrs, ⟨resolved, opened, written, runtime⟩⟩

/-- `wire::serve` refuses a start that got to it exactly if the server may not or
cannot listen. -/
theorem refused_iff {listenAddrs : List SocketAddr}
    (reaches : Reaches quoted args env host listenAddrs) :
    (∃ message,
      (runServe json quoted args env host file).2 = .refused message) ↔
      ¬Admits host listenAddrs := by
  rw [← wireServe_ok_iff, runServe_of_reaches reaches]
  cases wireServe host listenAddrs with
  | error message =>
      refine iff_of_true ⟨message, rfl⟩ ?_
      rintro ⟨_, impossible⟩
      cases impossible
  | ok addrs =>
      refine iff_of_false ?_ (not_not_intro ⟨addrs, rfl⟩)
      rintro ⟨_, impossible⟩
      cases impossible

/-- The record already says what a start with these arguments on these addresses
advertises: its `--advertise` value, or else its first address that another machine
could dial, or else that there is none. -/
def AlreadySays
    (args : ServeArgs) (listenAddrs : List SocketAddr) :
    AdvertiseState → Prop
  | .reachable address =>
      args.advertise = some address ∨
        args.advertise = none ∧
          ∃ addr, listenAddrs.find? isAdvertisableIp = some addr ∧
            addr.toString = address
  | .loopbackOnly =>
      args.advertise = none ∧
        ∀ addr ∈ listenAddrs, isAdvertisableIp addr = false
  | .unknown => False

theorem find?_isAdvertisableIp_eq_none {listenAddrs : List SocketAddr} :
    listenAddrs.find? isAdvertisableIp = none ↔
      ∀ addr ∈ listenAddrs, isAdvertisableIp addr = false := by
  simp only [List.find?_eq_none, Bool.not_eq_true]

theorem ofResolved_resolveAdvertise_iff
    {listenAddrs : List SocketAddr} {state : AdvertiseState} :
    .ofResolved (resolveAdvertise args.advertise listenAddrs) = state ↔
      AlreadySays args listenAddrs state := by
  cases state with
  | reachable address =>
      cases flag : args.advertise with
      | some explicit =>
          simp [AlreadySays, resolveAdvertise, AdvertiseState.ofResolved, flag]
      | none =>
          cases found : listenAddrs.find? isAdvertisableIp <;>
            simp [AlreadySays, resolveAdvertise, AdvertiseState.ofResolved,
              flag, found]
  | loopbackOnly =>
      cases flag : args.advertise with
      | some explicit =>
          simp [AlreadySays, resolveAdvertise, AdvertiseState.ofResolved, flag]
      | none =>
          simp only [AlreadySays, flag, true_and,
            ← find?_isAdvertisableIp_eq_none]
          cases found : listenAddrs.find? isAdvertisableIp <;>
            simp [resolveAdvertise, AdvertiseState.ofResolved, found]
  | unknown =>
      cases resolveAdvertise args.advertise listenAddrs <;>
        simp [AlreadySays, AdvertiseState.ofResolved]

/-- A refused start leaves the advertise record as it was exactly if the record
already said what this start advertises. -/
theorem refused_keeps_record_iff (roundTrips : json.RoundTrips)
    {message : String}
    (refused :
      (runServe json quoted args env host file).2 = .refused message) :
    readAdvertise json (runServe json quoted args env host file).1 =
        readAdvertise json file ↔
      ∃ listenAddrs,
        resolveListenAddrs quoted args.listen env = .ok listenAddrs ∧
          AlreadySays args listenAddrs (readAdvertise json file) := by
  obtain ⟨listenAddrs, reaches⟩ := reaches_of_refused refused
  rw [runServe_of_reaches reaches, reaches.resolved]
  simp only
  rw [readAdvertise_recordText json roundTrips,
    ofResolved_resolveAdvertise_iff]
  constructor
  · intro already
    exact ⟨listenAddrs, rfl, already⟩
  · rintro ⟨_, same, already⟩
    cases same
    exact already

end Refusal

section Occupied

def alreadyRunning : String :=
  "another holler-server serve process is already running against this " ++
    "state dir (a live process answered at \"/s/control.sock\"); stop it " ++
    "first, or point HOLLER_STATE_DIR at a different directory"

def loopback : SocketAddr :=
  .v4 { first := 127, second := 0, third := 0, fourth := 1 } 41807

/-- A host where a live server owns the control socket. -/
def occupied : Host where
  opened := .ok ()
  write := .written
  runtime := .ok ()
  hostname := .ok "hub"
  reopened := .ok ()
  controlBound := .error alreadyRunning
  bind := fun _ _ => .ok ()
  localAddr := fun _ => .ok loopback

def plainArgs : ServeArgs where
  listen := []
  advertise := none

/-- A second `serve` without arguments is refused, and has recorded that there is
nothing to advertise. -/
theorem runServe_occupied (json : AdvertiseJson) (file : Option String) :
    runServe json id plainArgs none occupied file =
      (some (recordText json none), .refused alreadyRunning) := by
  have reaches : Reaches id plainArgs none occupied [loopback] := by
    constructor
    · rfl
    · rfl
    · rfl
    · rfl
  rw [runServe_of_reaches reaches]
  rfl

/-- The record stays as it was where a loopback-only server is running. -/
theorem refused_keeps_record_iff_loopback :
    readAdvertise prettyAdvertiseJson
        (runServe prettyAdvertiseJson id plainArgs none occupied
          (some (recordText prettyAdvertiseJson none))).1 =
      readAdvertise prettyAdvertiseJson
        (some (recordText prettyAdvertiseJson none)) := by
  have refused :
      (runServe prettyAdvertiseJson id plainArgs none occupied
          (some (recordText prettyAdvertiseJson none))).2 =
        .refused alreadyRunning := by
    rw [runServe_occupied]
  refine
    (refused_keeps_record_iff roundTrips_prettyAdvertiseJson refused).mpr
      ⟨[loopback], rfl, ?_⟩
  rw [readAdvertise_recordText _ roundTrips_prettyAdvertiseJson]
  exact ⟨rfl, by decide⟩

/-- The join address of a running server is gone after a refused start, for `serve`
without arguments and for one on an address it may not listen on. -/
theorem refused_start_overwrites_record :
    let file := some (recordText prettyAdvertiseJson (some "hub.test:41807"))
    let exposed : ServeArgs :=
      { listen := ["10.0.0.5:41807"], advertise := none }
    readAdvertise prettyAdvertiseJson file = .reachable "hub.test:41807" ∧
      ((runServe prettyAdvertiseJson id plainArgs none occupied file).2 =
          .refused alreadyRunning ∧
        readAdvertise prettyAdvertiseJson
            (runServe prettyAdvertiseJson id plainArgs none occupied
              file).1 =
          .loopbackOnly) ∧
      (∃ message,
        (runServe prettyAdvertiseJson id exposed none occupied file).2 =
          .refused message) ∧
        readAdvertise prettyAdvertiseJson
            (runServe prettyAdvertiseJson id exposed none occupied
              file).1 =
          .reachable "10.0.0.5:41807" := by
  intro file exposed
  have outside :
      Reaches id exposed none occupied
        [.v4 { first := 10, second := 0, third := 0, fourth := 5 }
          41807] := by
    constructor
    · rfl
    · rfl
    · rfl
    · rfl
  refine ⟨?_, ⟨?_, ?_⟩, ?_, ?_⟩
  · exact readAdvertise_recordText _ roundTrips_prettyAdvertiseJson _
  · rw [runServe_occupied]
  · rw [runServe_occupied]
    exact readAdvertise_recordText _ roundTrips_prettyAdvertiseJson none
  · refine (refused_iff outside).mpr ?_
    intro admits
    exact absurd (admits.loopback _ List.mem_cons_self) (by decide)
  · rw [runServe_of_reaches outside]
    simp only
    rw [readAdvertise_recordText _ roundTrips_prettyAdvertiseJson]
    rfl

end Occupied

end HollerServer.Cli
