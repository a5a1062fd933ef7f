import Kmtproto.Json.Decode

/-! Frames, protocol errors and limits. Strings are byte strings, as they are in
Go; frame types and error codes are enumerations whose names are the texts on
the wire. -/
namespace Kmtproto
open Json

def wireVersionV2 : UInt16 := 2

def frameNames : List Bytes :=
  [lit "HELLO",lit "WELCOME",lit "PING",lit "PONG",lit "SEND",lit "ACK",lit "EVENT",lit "RESUME",
    lit "ERROR",lit "STATE_QUERY",lit "STATE_SNAPSHOT",lit "STATE_UPDATE"]

/-- A frame type; any text that names no known type is kept as it is. -/
inductive FrameType where
  | hello
  | welcome
  | ping
  | pong
  | send
  | ack
  | event
  | resume
  | error
  | stateQuery
  | stateSnapshot
  | stateUpdate
  | other (text : Bytes) (unknown : text ∉ frameNames)
  deriving DecidableEq, Repr

def FrameType.name : FrameType → Bytes
  | .hello => lit "HELLO"
  | .welcome => lit "WELCOME"
  | .ping => lit "PING"
  | .pong => lit "PONG"
  | .send => lit "SEND"
  | .ack => lit "ACK"
  | .event => lit "EVENT"
  | .resume => lit "RESUME"
  | .error => lit "ERROR"
  | .stateQuery => lit "STATE_QUERY"
  | .stateSnapshot => lit "STATE_SNAPSHOT"
  | .stateUpdate => lit "STATE_UPDATE"
  | .other text _ => text

structure Envelope where
  v : UInt16 := wireVersionV2
  type : FrameType
  id : Bytes := []
  sessionID : Bytes := []
  seq : UInt64 := 0
  timestamp : Int64 := 0
  payload : Bytes := []
  deriving DecidableEq, Repr

def unixMilli (now : Int) : Int64 := Int64.ofInt (now / 1000000)

/-- The zero `time.Time`, in nanoseconds since the epoch. -/
def zeroTime : Int := -62135596800000000000

inductive ConnectionState where
  | disconnected
  | connecting
  | connected
  | handshaking
  | resuming
  | ready
  | suspect
  deriving DecidableEq, Repr

abbrev ConnectionGeneration := UInt64

inductive ErrorCode where
  | badRequest
  | unsupportedVersion
  | unsupportedFeature
  | invalidCapability
  | invalidStateVersion
  | unauthorized
  | invalidSession
  | notFound
  | rateLimited
  | syncRequired
  | stateSyncRequired
  | stateUnavailable
  | internal
  | protocolViolation
  deriving DecidableEq, Repr

def ErrorCode.name : ErrorCode → Bytes
  | .badRequest => lit "BAD_REQUEST"
  | .unsupportedVersion => lit "UNSUPPORTED_VERSION"
  | .unsupportedFeature => lit "UNSUPPORTED_FEATURE"
  | .invalidCapability => lit "INVALID_CAPABILITY"
  | .invalidStateVersion => lit "INVALID_STATE_VERSION"
  | .unauthorized => lit "UNAUTHORIZED"
  | .invalidSession => lit "INVALID_SESSION"
  | .notFound => lit "NOT_FOUND"
  | .rateLimited => lit "RATE_LIMITED"
  | .syncRequired => lit "SYNC_REQUIRED"
  | .stateSyncRequired => lit "STATE_SYNC_REQUIRED"
  | .stateUnavailable => lit "STATE_UNAVAILABLE"
  | .internal => lit "INTERNAL"
  | .protocolViolation => lit "PROTOCOL_VIOLATION"

def ErrorCode.all : List ErrorCode :=
  [.badRequest,.unsupportedVersion,.unsupportedFeature,.invalidCapability,.invalidStateVersion,.unauthorized,
    .invalidSession,.notFound,.rateLimited,.syncRequired,.stateSyncRequired,.stateUnavailable,.internal,
    .protocolViolation]

def ErrorCode.ofName (name : Bytes) : Option ErrorCode := all.find? (fun code => code.name == name)

structure ErrorBehavior where
  retryable : Bool := false
  retryabilityFixed : Bool := false
  closeConnection : Bool := false
  abandonSession : Bool := false
  fullSyncRequired : Bool := false
  deriving DecidableEq, Repr

def ErrorCode.behavior : ErrorCode → ErrorBehavior
  | .badRequest => {retryabilityFixed := true}
  | .unsupportedVersion => {retryabilityFixed := true, closeConnection := true}
  | .unsupportedFeature => {retryabilityFixed := true, closeConnection := true}
  | .invalidCapability => {retryabilityFixed := true}
  | .invalidStateVersion => {retryabilityFixed := true}
  | .unauthorized => {retryabilityFixed := true, closeConnection := true}
  | .invalidSession => {retryabilityFixed := true, abandonSession := true}
  | .notFound => {retryabilityFixed := true}
  | .rateLimited => {retryable := true, retryabilityFixed := true}
  | .syncRequired => {retryabilityFixed := true, fullSyncRequired := true}
  | .stateSyncRequired => {retryabilityFixed := true, closeConnection := true}
  | .stateUnavailable => {retryable := true, retryabilityFixed := true, closeConnection := true}
  | .internal => {}
  | .protocolViolation => {retryabilityFixed := true, closeConnection := true}

/-- `BehaviorForErrorCode`: none for a code the protocol does not define. -/
def behaviorForErrorCode (code : Bytes) : Option ErrorBehavior := (ErrorCode.ofName code).map ErrorCode.behavior

theorem ErrorCode.ofName_name (code : ErrorCode) : ofName code.name = some code := by
  cases code <;> decide +kernel

inductive Sentinel where
  | replayUnavailable
  | replayLimitExceeded
  | sequenceExhausted
  | stateSnapshotLimitExceeded
  | sessionExists
  | stateStale
  | stateConflict
  | stateIdentityMismatch
  | outboundClosed
  | streamCallbackActive
  deriving DecidableEq, Repr

def Sentinel.text : Sentinel → Bytes
  | .replayUnavailable => lit "kmtproto: replay range unavailable"
  | .replayLimitExceeded => lit "kmtproto: replay range exceeds configured limits"
  | .sequenceExhausted => lit "kmtproto: event sequence exhausted"
  | .stateSnapshotLimitExceeded => lit "kmtproto: State snapshot exceeds configured limits"
  | .sessionExists => lit "kmtproto: session already exists"
  | .stateStale => lit "kmtproto: stale state version"
  | .stateConflict => lit "kmtproto: state version conflict"
  | .stateIdentityMismatch => lit "kmtproto: state identity mismatch"
  | .outboundClosed => lit "kmtproto: outbound queue closed"
  | .streamCallbackActive => lit "kmtproto: session stream callback is active"

structure ProtocolError where
  code : ErrorCode
  message : Bytes
  refID : Bytes := []
  retryable : Bool := false
  close : Bool := false
  cause : Option Sentinel := none
  deriving DecidableEq, Repr

def newProtocolError (code : ErrorCode) (message : Bytes) : ProtocolError :=
  {code := code, message := message, retryable := code.behavior.retryable, close := code.behavior.closeConnection}

def ProtocolError.text (e : ProtocolError) : Bytes :=
  if e.refID = [] then lit "kmtproto: " ++ e.code.name ++ lit ": " ++ e.message
  else lit "kmtproto: " ++ e.code.name ++ lit " (" ++ e.refID ++ lit "): " ++ e.message

/-- A Go error: a protocol error, a sentinel, any other text, one wrapped behind a
text, or a panic that reached the caller. -/
inductive Err where
  | protocol (error : ProtocolError)
  | sentinel (error : Sentinel)
  | plain (text : Bytes)
  | wrap (text : Bytes) (inner : Err)
  | panic
  deriving DecidableEq, Repr

def Err.text : Err → Bytes
  | .protocol error => error.text
  | .sentinel error => error.text
  | .plain text => text
  | .wrap text inner => text ++ lit ": " ++ inner.text
  | .panic => lit "panic"

/-- `errors.As` for a protocol error. -/
def Err.asProtocol : Err → Option ProtocolError
  | .protocol error => some error
  | .wrap _ inner => inner.asProtocol
  | _ => none

/-- `errors.Is` for a sentinel. -/
def Err.is (target : Sentinel) : Err → Bool
  | .protocol error => error.cause == some target
  | .sentinel error => error == target
  | .wrap _ inner => inner.is target
  | _ => false

def fail {α : Type} (code : ErrorCode) (message : Bytes) : Except Err α :=
  .error (.protocol (newProtocolError code message))

def wrapError {α : Type} (text : Bytes) : Except Err α → Except Err α
  | .ok value => .ok value
  | .error error => .error (.wrap text error)

def reject (condition : Prop) [Decidable condition] (code : ErrorCode) (message : Bytes) : Except Err Unit :=
  if condition then fail code message else .ok ()

@[simp] theorem reject_ok (condition : Prop) [Decidable condition] (code : ErrorCode) (message : Bytes)
    (done : Unit) : reject condition code message = .ok done ↔ ¬ condition := by
  unfold reject
  split <;> simp_all [fail]

theorem bind_ok {α β : Type} {first : Except Err α} {next : α → Except Err β} {value : β}
    (ok : (first >>= next) = .ok value) : ∃ middle, first = .ok middle ∧ next middle = .ok value := by
  cases first with
  | error error => cases ok
  | ok middle => exact ⟨middle,rfl,ok⟩

theorem reject_bind_ok {α : Type} {condition : Prop} [Decidable condition] {code : ErrorCode} {message : Bytes}
    {next : Unit → Except Err α} {value : α} (ok : (reject condition code message >>= next) = .ok value) :
    ¬ condition ∧ next () = .ok value := by
  obtain ⟨_,passed,later⟩ := bind_ok ok
  exact ⟨(reject_ok _ _ _ _).mp passed,later⟩

def errStaleConnection : Err :=
  .protocol {code := .protocolViolation, message := lit "stale connection generation"}

def errInvalidState : Err :=
  .protocol {code := .protocolViolation, message := lit "invalid state transition"}

def errProtocolConflict : Err :=
  .protocol {code := .protocolViolation, message := lit "sequence identity conflict"}

def errIdentityExpired : Err :=
  .protocol {code := .protocolViolation, message := lit "event identity is outside the retained verification window"}

structure Limits where
  maxFrameSize : Int
  maxPayloadSize : Int
  maxIDLength : Int
  maxSessionIDLength : Int
  maxErrorMessageLength : Int
  maxCapabilities : Int
  maxCapabilityNameLength : Int
  maxCapabilityVersions : Int
  maxClientNameLength : Int
  maxEventTypeLength : Int
  maxStateNamespaceLength : Int
  maxStateObjectIDLength : Int
  maxStateDataSize : Int
  maxStateObjectSize : Int
  maxStateQueryObjects : Int
  maxStateSnapshotObjects : Int
  maxStateSnapshotBytes : Int
  maxStateSyncNamespaces : Int
  deriving DecidableEq, Repr

def defaultLimits : Limits where
  maxFrameSize := 1048576
  maxPayloadSize := 786432
  maxIDLength := 128
  maxSessionIDLength := 128
  maxErrorMessageLength := 1024
  maxCapabilities := 32
  maxCapabilityNameLength := 64
  maxCapabilityVersions := 16
  maxClientNameLength := 128
  maxEventTypeLength := 128
  maxStateNamespaceLength := 64
  maxStateObjectIDLength := 256
  maxStateDataSize := 524288
  maxStateObjectSize := 655360
  maxStateQueryObjects := 128
  maxStateSnapshotObjects := 128
  maxStateSnapshotBytes := 786432
  maxStateSyncNamespaces := 32

def orDefault (limit default : Int) : Int := if limit = 0 then default else limit

def normalizeLimits (limits : Limits) : Limits where
  maxFrameSize := orDefault limits.maxFrameSize defaultLimits.maxFrameSize
  maxPayloadSize := orDefault limits.maxPayloadSize defaultLimits.maxPayloadSize
  maxIDLength := orDefault limits.maxIDLength defaultLimits.maxIDLength
  maxSessionIDLength := orDefault limits.maxSessionIDLength defaultLimits.maxSessionIDLength
  maxErrorMessageLength := orDefault limits.maxErrorMessageLength defaultLimits.maxErrorMessageLength
  maxCapabilities := orDefault limits.maxCapabilities defaultLimits.maxCapabilities
  maxCapabilityNameLength := orDefault limits.maxCapabilityNameLength defaultLimits.maxCapabilityNameLength
  maxCapabilityVersions := orDefault limits.maxCapabilityVersions defaultLimits.maxCapabilityVersions
  maxClientNameLength := orDefault limits.maxClientNameLength defaultLimits.maxClientNameLength
  maxEventTypeLength := orDefault limits.maxEventTypeLength defaultLimits.maxEventTypeLength
  maxStateNamespaceLength := orDefault limits.maxStateNamespaceLength defaultLimits.maxStateNamespaceLength
  maxStateObjectIDLength := orDefault limits.maxStateObjectIDLength defaultLimits.maxStateObjectIDLength
  maxStateDataSize := orDefault limits.maxStateDataSize defaultLimits.maxStateDataSize
  maxStateObjectSize := orDefault limits.maxStateObjectSize defaultLimits.maxStateObjectSize
  maxStateQueryObjects := orDefault limits.maxStateQueryObjects defaultLimits.maxStateQueryObjects
  maxStateSnapshotObjects := orDefault limits.maxStateSnapshotObjects defaultLimits.maxStateSnapshotObjects
  maxStateSnapshotBytes := orDefault limits.maxStateSnapshotBytes defaultLimits.maxStateSnapshotBytes
  maxStateSyncNamespaces := orDefault limits.maxStateSyncNamespaces defaultLimits.maxStateSyncNamespaces

def limitsPositive (limits : Limits) : Bool :=
  limits.maxFrameSize > 0 && limits.maxPayloadSize > 0 && limits.maxIDLength > 0 &&
  limits.maxSessionIDLength > 0 && limits.maxErrorMessageLength > 0 && limits.maxCapabilities > 0 &&
  limits.maxCapabilityNameLength > 0 && limits.maxCapabilityVersions > 0 && limits.maxClientNameLength > 0 &&
  limits.maxEventTypeLength > 0 && limits.maxStateNamespaceLength > 0 && limits.maxStateObjectIDLength > 0 &&
  limits.maxStateDataSize > 0 && limits.maxStateObjectSize > 0 && limits.maxStateQueryObjects > 0 &&
  limits.maxStateSnapshotObjects > 0 && limits.maxStateSnapshotBytes > 0 && limits.maxStateSyncNamespaces > 0

def validateLimits (limits : Limits) : Except Err Unit :=
  if limitsPositive limits then .ok () else .error (.plain (lit "kmtproto: protocol limits must be positive"))

@[simp] theorem orDefault_idem (limit default : Int) :
    orDefault (orDefault limit default) default = orDefault limit default := by
  simp only [orDefault]
  split <;> simp_all

@[simp] theorem normalizeLimits_idem (limits : Limits) :
    normalizeLimits (normalizeLimits limits) = normalizeLimits limits := by
  simp [normalizeLimits]

end Kmtproto
