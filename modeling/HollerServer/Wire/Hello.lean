import HollerServer.Proto

/-!
# Envelope builders

The builders of `src/wire/hello.rs` and the vocabulary they advertise.  The
wall-clock timestamp `now_ts()` and the random id of a `hello` are arguments.
-/

namespace HollerServer.Wire

open HollerServer.Proto

def protocolVersion : UInt32 := 1

/-- The protocol features this process implements. -/
def serverFeatures : List String :=
  ["query", "ping", "token", "presence", "roster", "interrupt", "answer"]

/-- The v1 vocabulary of protocol features. -/
def protocolFeatures : List String :=
  ["interrupt", "answer", "presence", "ping", "query", "roster", "token",
    "wait"]

/-- The v1 vocabulary of harness ids. -/
def harnessesKnown : List String :=
  ["opencode", "claude", "codex", "grok", "hermes", "pi", "cursor",
    "copilot", "droid", "kimi", "qwen", "kilo", "goose"]

/-- The shape every outbound request shares. -/
def serverEnvelope
    (msgType : MessageType) (id ts : String) (body : Body) : Envelope where
  v := 1
  msgType := msgType
  id := id
  ts := ts
  sender := "server"
  body := body

def newPingEnvelope (id serverHostname ts : String) : Envelope :=
  serverEnvelope .ping id ts (.ping { hostname := some serverHostname })

def newQueryEnvelope
    (id cmd : String) (args : List String) (ts : String) : Envelope :=
  serverEnvelope .query id ts (.query { cmd, args })

def newPromptEnvelope
    (id session text : String) (metadata : Option Value) (ts : String) :
    Envelope :=
  serverEnvelope .prompt id ts (.prompt { session, text, metadata })

def newInterruptEnvelope (id session ts : String) : Envelope :=
  serverEnvelope .interrupt id ts (.interrupt { session })

def newAnswerEnvelope (id session choice ts : String) : Envelope :=
  serverEnvelope .answer id ts (.answer { session, choice })

def newPongEnvelope (replyId serverHostname ts : String) : Envelope :=
  serverEnvelope .pong replyId ts (.pong { hostname := some serverHostname })

/-- The `hello` of this process. -/
def serverHello (id hostname ts : String) : Envelope :=
  serverEnvelope .hello id ts
    (.hello
      { protocol := protocolVersion
        protocolMin := protocolVersion
        protocolMax := protocolVersion
        role := .server
        hostname
        tokenId := none
        clientId := none
        harnesses := []
        harnessesKnown
        harnessesConfirmed := []
        features := serverFeatures
        sessions := [] })

end HollerServer.Wire
