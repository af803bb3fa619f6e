import HollerServer.Debug.FrameText
import HollerServer.Wire.Encode

/-!
# Lines of the log

The events of `src/debug.rs` and how they are rendered.  The names that the call
sites give as literals, of components, types and fields, are enumerations; every
other part of an event can come from a peer.  The clock is read once a line and is
an argument here.
-/

namespace HollerServer.Debug

open HollerServer.Proto HollerServer.Wire

inductive DebugLevel where
  | none
  | quiet
  | noisy
  deriving DecidableEq, Repr

def DebugLevel.asStr : DebugLevel → String
  | .none => "none"
  | .quiet => "quiet"
  | .noisy => "noisy"

inductive LogFormat where
  | text
  | json
  deriving DecidableEq, Repr

structure DebugConfig where
  level : DebugLevel
  format : LogFormat
  deriving DecidableEq, Repr

def DebugConfig.isOn (cfg : DebugConfig) : Bool :=
  cfg.level ≠ .none

inductive Severity where
  | debug
  | info
  | warn
  deriving DecidableEq, Repr

def Severity.asStr : Severity → String
  | .debug => "debug"
  | .info => "info"
  | .warn => "warn"

def Severity.asText : Severity → String
  | .debug => "DEBUG"
  | .info => "INFO "
  | .warn => "WARN "

/-- Which way a frame moved; a `local` event is no frame. -/
inductive Direction where
  | out
  | into
  | local
  deriving DecidableEq, Repr

def Direction.asText : Direction → String
  | .out => "->"
  | .into => "<-"
  | .local => "  "

def Direction.asJson : Direction → Option String
  | .out => some "out"
  | .into => some "in"
  | .local => none

/-- The components that log. -/
inductive Component where
  | cli
  | registry
  | talklog
  | wire
  deriving DecidableEq, Repr

def Component.asStr : Component → String
  | .cli => "cli"
  | .registry => "registry"
  | .talklog => "talklog"
  | .wire => "wire"

/-- The types of lines. -/
inductive Kind where
  | ack
  | answer
  | conn
  | error
  | interrupt
  | loggingStarted
  | ping
  | pong
  | prompt
  | query
  | queryOk
  | reply
  | talklog
  deriving DecidableEq, Repr

def Kind.asStr : Kind → String
  | .ack => "ack"
  | .answer => "answer"
  | .conn => "conn"
  | .error => "error"
  | .interrupt => "interrupt"
  | .loggingStarted => "logging_started"
  | .ping => "ping"
  | .pong => "pong"
  | .prompt => "prompt"
  | .query => "query"
  | .queryOk => "query_ok"
  | .reply => "reply"
  | .talklog => "talklog"

/-- The keys of the extra details. -/
inductive FieldKey where
  | addr
  | choice
  | close
  | cmd
  | done
  | event
  | format
  | hostname
  | note
  | outcome
  | reason
  | rttMs
  | session
  | text
  deriving DecidableEq, Repr

def FieldKey.asStr : FieldKey → String
  | .addr => "addr"
  | .choice => "choice"
  | .close => "close"
  | .cmd => "cmd"
  | .done => "done"
  | .event => "event"
  | .format => "format"
  | .hostname => "hostname"
  | .note => "note"
  | .outcome => "outcome"
  | .reason => "reason"
  | .rttMs => "rtt_ms"
  | .session => "session"
  | .text => "text"

structure Event where
  cfg : DebugConfig
  severity : Severity
  dir : Direction
  component : Component
  kind : Kind
  id : Option String
  peer : Option String
  fields : List (FieldKey × String)
  frame : Option String
  deriving DecidableEq, Repr

/-- `Event::new`.  Its callers `outgoing`, `incoming`, `local`, `info` and `warn` fix
the severity and the direction. -/
def newEvent
    (cfg : DebugConfig) (component : Component) (kind : Kind)
    (severity : Severity) (dir : Direction) : Event where
  cfg := cfg
  severity := severity
  dir := dir
  component := component
  kind := kind
  id := none
  peer := none
  fields := []
  frame := none

namespace Event

def willEmit (event : Event) : Bool :=
  match event.severity with
  | .debug => event.cfg.isOn
  | .info | .warn => true

/-- `id`. -/
def withId (event : Event) (id : String) : Event :=
  { event with id := some id }

/-- `peer`. -/
def withPeer (event : Event) (peer : String) : Event :=
  { event with peer := some peer }

def field (event : Event) (key : FieldKey) (value : String) : Event :=
  if event.willEmit then
    { event with fields := event.fields ++ [(key, value)] }
  else event

/-- `frame_of`: the value that the frame serializes to, if it does. -/
def frameOf (event : Event) (rendered : Option Value) : Event :=
  if event.cfg.level = .noisy then
    match rendered with
    | some value => { event with frame := some (redacted value.compact) }
    | none => event
  else event

end Event

/-- The parts of a point in time that a line shows. -/
structure Moment where
  year : Int
  month : Nat
  day : Nat
  hour : Nat
  minute : Nat
  second : Nat
  microsecond : Nat
  deriving DecidableEq, Repr

/-- The number with zeros up to a width, behind its sign. -/
def zeroPadded (width : Nat) (value : Int) : List Char :=
  let digits := Nat.toDigits 10 value.natAbs
  if value < 0 then
    '-' :: (List.replicate (width - 1 - digits.length) '0' ++ digits)
  else List.replicate (width - digits.length) '0' ++ digits

def emissionTs (now : Moment) : String :=
  String.ofList
    (zeroPadded 4 now.year ++ '-' :: zeroPadded 2 now.month ++
      '-' :: zeroPadded 2 now.day ++ 'T' :: zeroPadded 2 now.hour ++
      ':' :: zeroPadded 2 now.minute ++ ':' :: zeroPadded 2 now.second ++
      '.' :: zeroPadded 6 now.microsecond ++ ['Z'])

/-- The text with spaces up to a width. -/
def padded (width : Nat) (text : String) : List Char :=
  text.toList ++ List.replicate (width - text.length) ' '

/-- At most the first twelve characters. -/
def short (value : String) : List Char :=
  value.toList.take 12

namespace Event

/-- The columns that every text line has. -/
def columnsText (now : Moment) (event : Event) : List Char :=
  (emissionTs now).toList ++
    ' ' :: event.severity.asText.toList ++ ' ' :: event.dir.asText.toList ++
    ' ' :: padded 16 event.component.asStr ++ ' ' :: padded 10 event.kind.asStr

/-- A part behind its label, if there is one. -/
def labelled (label : String) (shown : String → List Char) :
    Option String → List Char
  | some value => label.toList ++ shown value
  | none => []

/-- One `key=value`. -/
def detailText (detail : FieldKey × String) : List Char :=
  ' ' :: detail.1.asStr.toList ++ '=' :: detail.2.toList

/-- The parts behind the columns of a text line. -/
def detailsText (event : Event) : List Char :=
  labelled " id=" short event.id ++ labelled " peer=" short event.peer ++
    event.fields.flatMap detailText ++
    labelled " " String.toList event.frame

def renderText (now : Moment) (event : Event) : String :=
  String.ofList (event.columnsText now ++ event.detailsText)

/-- The frame of a JSON line: what its text reads as, or else the text. -/
def frameValue (serde : SerdeJson) (raw : String) : Value :=
  match serde.fromStr raw with
  | .ok value => value
  | .error _ => .string raw

/-- The details as an ordered map takes them. -/
def detailEntries (details : List (FieldKey × String)) :
    List (String × Value) :=
  details.map fun (key, value) => (key.asStr, .string value)

/-- The fields of `JsonLine` before the details. -/
def leadingFields (now : Moment) (event : Event) :
    List (String × Option Value) :=
  [("ts", textField (emissionTs now)),
    ("level", textField event.severity.asStr),
    ("verbosity", textField event.cfg.level.asStr),
    ("component", textField event.component.asStr),
    ("dir", textFieldIfSome event.dir.asJson),
    ("type", textField event.kind.asStr),
    ("id", textFieldIfSome event.id),
    ("peer", textFieldIfSome event.peer)]

/-- The fields of `JsonLine`; the details are flattened from an ordered map. -/
def jsonFields (serde : SerdeJson) (now : Moment) (event : Event) :
    List (String × Option Value) :=
  event.leadingFields now ++
    (collectFields (detailEntries event.fields)).map (fun (key, value) =>
      (key, some value)) ++
    [("frame", event.frame.map (frameValue serde))]

/-- A line of strings and a value always serializes, so the line that
`render_json` has for a failure is not here. -/
def renderJson (serde : SerdeJson) (now : Moment) (event : Event) : String :=
  (structValue (event.jsonFields serde now)).compact

/-- The line that is written to standard error, if one is. -/
def emit (serde : SerdeJson) (now : Moment) (event : Event) : Option String :=
  if event.willEmit then
    match event.cfg.format with
    | .text => some (event.renderText now)
    | .json => some (event.renderJson serde now)
  else none

end Event

end HollerServer.Debug
