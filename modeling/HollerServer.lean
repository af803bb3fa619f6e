import HollerServer.Cli.Say
import HollerServer.Cli.Serve
import HollerServer.Debug.OneLine
import HollerServer.Debug.Secrets
import HollerServer.Server.Admission
import HollerServer.Server.ConfirmationRuns
import HollerServer.Server.ControlSocket
import HollerServer.Server.ControlProgress
import HollerServer.Server.EndToEnd
import HollerServer.Server.Succession
import HollerServer.Token.HexCodec
import HollerServer.Token.Lifetimes
import HollerServer.Token.Secrecy
import HollerServer.Token.States
import HollerServer.Token.Torn
import HollerServer.Token.Ttl
import HollerServer.Wire.Arrival
import HollerServer.Wire.ControlChannel
import HollerServer.Wire.Isolation
import HollerServer.Wire.Lifespan
import HollerServer.Wire.LockoutGate
import HollerServer.Wire.Pairing
import HollerServer.Wire.PendingSlots
import HollerServer.Wire.Progress
import HollerServer.Wire.PromptStream
import HollerServer.Wire.Pruning
import HollerServer.Wire.Replies
import HollerServer.Wire.Routing
import HollerServer.Wire.Slots
import HollerServer.Wire.TalkCrash
import HollerServer.Wire.TalkRuns
import HollerServer.Wire.Targets
import HollerServer.Wire.Turns
