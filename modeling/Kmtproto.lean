import Kmtproto.Json.Text
import Kmtproto.Json.Syntax
import Kmtproto.Json.Reading
import Kmtproto.Json.Composite
import Kmtproto.Json.Compact
import Kmtproto.Json.Stream
import Kmtproto.Json.Decode
import Kmtproto.Json.Spelling
import Kmtproto.Json.Utf8
import Kmtproto.Types
import Kmtproto.Codec
import Kmtproto.Capability
import Kmtproto.Negotiation
import Kmtproto.State
import Kmtproto.Payload
import Kmtproto.Validate
import Kmtproto.Client
import Kmtproto.ClientTransition
import Kmtproto.ClientInvariant
import Kmtproto.ClientErrors
import Kmtproto.ClientCache
import Kmtproto.ClientRecovery
import Kmtproto.ClientOutbox
import Kmtproto.ClientReplay
import Kmtproto.ClientGap
import Kmtproto.Interaction.Program
import Kmtproto.Interaction.Pool
import Kmtproto.Interaction.System
import Kmtproto.Sha256
import Kmtproto.Store
import Kmtproto.ReplayContract
import Kmtproto.DedupContract
import Kmtproto.Server
import Kmtproto.ServerHandlers
import Kmtproto.ServerWorld
import Kmtproto.Wire
import Kmtproto.ServerRules
import Kmtproto.ServerCompliance
import Kmtproto.ServerEffects
import Kmtproto.Handshake
import Kmtproto.ResumeGate
import Kmtproto.Connection
import Kmtproto.Fencing
import Kmtproto.Admission
import Kmtproto.GateInvariant
import Kmtproto.SendOnce
import Kmtproto.EventLog
import Kmtproto.Link
import Kmtproto.Delivery
import Kmtproto.ResumeBatch
import Kmtproto.StreamRules
import Kmtproto.StreamOrder
import Kmtproto.Publish
import Kmtproto.FlightRegistry
import Kmtproto.SendVerdict
import Kmtproto.Decimal
import Kmtproto.StateData
import Kmtproto.StateMerge
import Kmtproto.CacheOrder
import Kmtproto.SnapshotSize
import Kmtproto.EventWindow
import Kmtproto.ReplayBoundary
import Kmtproto.Heartbeat
import Kmtproto.JsonCodec
import Kmtproto.Correlation
import Kmtproto.Refusals
import Kmtproto.ErrorFrames
import Kmtproto.ErrorReports
import Kmtproto.Positional
import Kmtproto.Ulid
import Kmtproto.Names
import Kmtproto.DuplicateNames
import Kmtproto.Json.Agreement
import Kmtproto.Respelling
import Kmtproto.RoundTrip
import Kmtproto.FieldNames
import Kmtproto.StateQuery
import Kmtproto.Outbound
import Kmtproto.Writer
