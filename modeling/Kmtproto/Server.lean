import Kmtproto.Store
import Kmtproto.Sha256
import Kmtproto.Interaction.Program

/-! The server's frame processor. A handler is a program over the steps it takes
on what it shares with other calls: each request is one section under a lock, one
clock reading, or one call of an injected dependency. A dependency that panics
answers with `Err.panic`. -/
namespace Kmtproto
open Json Interaction

structure ServerConfig where
  limits : Limits := defaultLimits
  capabilities : CapabilityRegistry := ∅
  stateStore : Bool := false
  stateSnapshots : Bool := false
  sessionResumeTTL : Int := 86400000000000
  replayTTL : Int := 86400000000000
  dedupTTL : Int := 86400000000000
  clientRetryTTL : Int := 3600000000000
  strictValidation : Bool := true
  maxReplayEvents : UInt64 := 4096
  maxReplayBytes : Int := 16777216

structure ServerDependencies where
  sessions : Bool := true
  dedup : Bool := true
  replay : Bool := true
  appender : Bool := true
  application : Bool := true
  dedupRetention : Option Int := none

def refuseUnless (condition : Bool) (text : Bytes) : Except Err Unit :=
  if condition then .ok () else .error (.plain text)

/-- `NewServerProtocol`: the configuration the server works with. -/
def newServerProtocol (config : ServerConfig) (deps : ServerDependencies) : Except Err ServerConfig := do
  let limits := normalizeLimits config.limits
  validateLimits limits
  wrapError (lit "kmtproto: invalid server capabilities") (config.capabilities.validate limits)
  wrapError (lit "kmtproto: invalid server capabilities") (validateImplementedCapabilityRegistry config.capabilities)
  let config : ServerConfig := {config with
    limits := limits
    maxReplayEvents := if config.maxReplayEvents = 0 then 4096 else config.maxReplayEvents
    maxReplayBytes := orDefault config.maxReplayBytes 16777216}
  refuseUnless (0 ≤ config.maxReplayBytes) (lit "kmtproto: MaxReplayBytes must be positive")
  refuseUnless (0 < config.sessionResumeTTL && 0 < config.replayTTL && 0 < config.dedupTTL && 0 < config.clientRetryTTL)
    (lit "kmtproto: TTL values must be positive")
  refuseUnless (config.clientRetryTTL ≤ config.dedupTTL && config.sessionResumeTTL ≤ config.dedupTTL)
    (lit "kmtproto: DedupTTL must cover ClientRetryTTL and SessionResumeTTL")
  refuseUnless (config.sessionResumeTTL ≤ config.replayTTL) (lit "kmtproto: ReplayTTL must cover SessionResumeTTL")
  refuseUnless deps.sessions (lit "kmtproto: ServerDependencies.Sessions is required")
  refuseUnless deps.dedup (lit "kmtproto: ServerDependencies.Dedup is required")
  refuseUnless deps.replay (lit "kmtproto: ServerDependencies.Replay is required")
  refuseUnless deps.appender (lit "kmtproto: ServerDependencies.Appender is required")
  refuseUnless deps.application (lit "kmtproto: ServerDependencies.Application is required")
  -- a store that does not report its retention is trusted
  let retention := deps.dedupRetention
  refuseUnless (retention.all (fun ttl => config.clientRetryTTL ≤ ttl && config.sessionResumeTTL ≤ ttl))
    (lit "kmtproto: dedup store retention must cover ClientRetryTTL and SessionResumeTTL")
  return config

theorem newServerProtocol_normal {settings config : ServerConfig} {deps : ServerDependencies}
    (created : newServerProtocol settings deps = .ok config) : normalizeLimits config.limits = config.limits := by
  unfold newServerProtocol at created
  obtain ⟨_,_,created⟩ := bind_ok created
  obtain ⟨_,_,created⟩ := bind_ok created
  obtain ⟨_,_,created⟩ := bind_ok created
  iterate 10 obtain ⟨_,_,created⟩ := bind_ok created
  cases created
  exact normalizeLimits_idem settings.limits

/-- `serverHandleResult`. -/
structure HandleResult where
  readySessionID : Bytes := []
  capabilities : SessionCapabilities := .empty
  close : Bool := false
  abandonSession : Bool := false
  deriving DecidableEq

inductive ServerAdmissionState where
  | closed
  | awaitingHandshake
  | ready
  | resuming
  deriving DecidableEq, Repr

/-- What the locked section of `ServerAdmission.Handle` decides. -/
inductive Admission where
  | stale
  | invalidState
  | unvalidated (outbound : Nat)
  | rejected (outbound : Nat)
  | admitted (outbound : Nat) (state : ServerAdmissionState)
  deriving DecidableEq, Repr

/-- What `acquireFlight` returns; a flight is named by its number. -/
structure FlightTicket where
  flight : Nat
  leader : Bool
  conflict : Bool
  callbackActive : Bool
  deriving DecidableEq, Repr

inductive FailurePoint where
  | afterClaim
  | afterApplication
  | afterComplete
  deriving DecidableEq, Repr

/-- The steps of a call. `handled` marks that a validated frame reaches its handler. -/
inductive Op where
  | now
  | newSessionID
  | newFrameID
  | lookup (sessionID : Bytes) (now : Int)
  | create (state : SessionState)
  | acquireFlight (key : Bytes) (fingerprint : SendFingerprint)
  | finishFlight (key : Bytes) (flight : Nat)
  | beginSendCallback (key : Bytes) (flight : Nat)
  | endSendCallback (flight : Nat)
  | setFlightACK (flight : Nat) (ack : Envelope)
  | flightACK (flight : Nat)
  | awaitFlight (flight : Nat)
  | claim (sessionID msgID : Bytes) (fingerprint : SendFingerprint) (now : Int)
  | complete (sessionID msgID : Bytes) (ack : Envelope) (now : Int)
  | handleSend (sessionID msgID content : Bytes)
  | handleSendReturn (sessionID msgID content : Bytes)
  | inject (point : FailurePoint)
  | joinLane (sessionID : Bytes)
  | awaitLane (sessionID : Bytes) (ticket : Nat)
  | leaveLane (sessionID : Bytes) (ticket : Nat)
  | beginLaneCallback (sessionID : Bytes)
  | endLaneCallback (sessionID : Bytes)
  | currentSeq (sessionID : Bytes)
  | replay (sessionID : Bytes) (afterSeq throughSeq : UInt64) (limits : ReplayLimits)
  | append (sessionID eventID eventType content : Bytes) (timestamp : Int64)
  | pruneBefore (sessionID : Bytes) (firstAvailableSeq : UInt64)
  | getState (namespace_ objectID : Bytes)
  | snapshot (namespaces : List Bytes) (limits : StateSnapshotLimits)
  | enqueueBatch (outbound : Nat) (frames : List Envelope)
  | closeQueue (outbound : Nat)
  | handled (outbound : Nat) (frame : Envelope)
  | replaceConnection
  | admitFrame (generation : ConnectionGeneration) (frame : Envelope) (valid : Bool)
  | applyResult (generation : ConnectionGeneration) (outbound : Nat) (result : HandleResult)
  deriving DecidableEq

@[reducible] def Answer : Op → Type
  | .now => Int
  | .newSessionID | .newFrameID => Except Err Bytes
  | .lookup _ _ => Except Err (Option SessionState)
  | .create _ => Except Err Unit
  | .acquireFlight _ _ => FlightTicket
  | .finishFlight _ _ => Unit
  | .beginSendCallback _ _ => Bool
  | .endSendCallback _ => Unit
  | .setFlightACK _ _ => Unit
  | .flightACK _ => Option Envelope
  | .awaitFlight _ => Bool
  | .claim _ _ _ _ => Except Err (Bool × Option DedupRecord)
  | .complete _ _ _ _ => Except Err Unit
  | .handleSend _ _ _ => Unit
  | .handleSendReturn _ _ _ => Except Err Unit
  | .inject _ => Except Err Unit
  | .joinLane _ => Option Nat
  | .awaitLane _ _ | .leaveLane _ _ => Unit
  | .beginLaneCallback _ => Bool
  | .endLaneCallback _ => Unit
  | .currentSeq _ => Except Err UInt64
  | .replay _ _ _ _ => Except Err (List Envelope)
  | .append _ _ _ _ _ => Except Err Envelope
  | .pruneBefore _ _ => Unit
  | .getState _ _ => Except Err (Option StateObject)
  | .snapshot _ _ => Except Err (List StateObject)
  | .enqueueBatch _ _ => Except Err Unit
  | .closeQueue _ => Unit
  | .handled _ _ => Unit
  | .replaceConnection => ConnectionGeneration × Nat
  | .admitFrame _ _ _ => Admission
  | .applyResult _ _ _ => Unit

instance (op : Op) : DecidableEq (Answer op) := by cases op <;> infer_instance

abbrev Server := Program Op Answer

abbrev ask (op : Op) : Server (Answer op) := Program.ask op

abbrev Reply := HandleResult × Except Err Unit

section Frames
variable (config : ServerConfig)

def isRuneStart (c : UInt8) : Bool := c &&& 0xC0 != 0x80

/-- The longest cut at a rune start that is not above `cut`. -/
def runeCut (value : Bytes) : Nat → Nat
  | 0 => 0
  | cut+1 => if isRuneStart (value.getD (cut+1) 0) then cut+1 else runeCut value cut

def truncateUTF8 (value : Bytes) (limit : Int) : Bytes :=
  if limit ≤ 0 then []
  else if (value.length : Int) ≤ limit then value
  else value.take (runeCut value limit.toNat)

def errorFrameAt (sessionID refID : Bytes) (code : ErrorCode) (message : Bytes) (retryable : Bool)
    (timestamp : Int64) : Envelope :=
  let sessionID := if (sessionID.length : Int) > config.limits.maxSessionIDLength ∨ !validString sessionID then []
    else sessionID
  let refID := if (refID.length : Int) > config.limits.maxIDLength ∨ !validString refID then [] else refID
  {type := .error, sessionID := sessionID, timestamp := timestamp,
   payload := ErrorPayload.marshal
     {code := code.name, message := truncateUTF8 message config.limits.maxErrorMessageLength, refID := refID,
      retryable := retryable}}

def ServerConfig.validates (frame : Envelope) : Except Err Unit :=
  validateOutboundFrame frame config.limits config.strictValidation

def enqueueFrame (outbound : Nat) (frame : Envelope) : Server (Except Err Unit) :=
  match config.validates frame with
  | .error error => return .error error
  | .ok () => ask (.enqueueBatch outbound [frame])

def enqueueErrorAt (outbound : Nat) (sessionID refID : Bytes) (code : ErrorCode) (message : Bytes)
    (retryable : Bool) (timestamp : Int64) : Server (Except Err Unit) := do
  match ← enqueueFrame config outbound (errorFrameAt config sessionID refID code message retryable timestamp) with
  | .error error => return .error error
  | .ok () =>
    if code.behavior.closeConnection then
      ask (.closeQueue outbound)
      return .ok ()
    else return .ok ()

def enqueueError (outbound : Nat) (sessionID refID : Bytes) (code : ErrorCode) (message : Bytes)
    (retryable : Bool) : Server (Except Err Unit) := do
  let now ← ask .now
  enqueueErrorAt config outbound sessionID refID code message retryable (unixMilli now)

def validateStoredACK (ack : Envelope) (sessionID messageID : Bytes) : Except Err Unit := do
  wrapError (lit "kmtproto: dedup store returned invalid ACK") (config.validates ack)
  refuseUnless (ack.type = .ack ∧ ack.sessionID = sessionID)
    (lit "kmtproto: dedup store returned ACK for another SEND")
  let payload ← wrapError (lit "kmtproto: dedup store returned invalid ACK payload")
    (decodePayload readAck {} ack.payload config.strictValidation)
  refuseUnless (payload.refID = messageID) (lit "kmtproto: dedup store returned ACK for another SEND")

end Frames

section Callbacks
variable {α : Type}

/-- `invokeSendCallback`: one callback of a flight at a time, a panic becoming an error. -/
def invokeSendCallback (key : Bytes) (flight : Nat) (callback : Server (Except Err α)) : Server (Except Err α) := do
  if ← ask (.beginSendCallback key flight) then
    let result ← callback
    ask (.endSendCallback flight)
    match result with
    | .error .panic => return .error (.plain (lit "kmtproto: SEND dependency callback panicked"))
    | result => return result
  else return .error (.plain (lit "kmtproto: SEND flight callback is already active"))

/-- `streamLane.invokeCallback`. -/
def invokeCallback (sessionID : Bytes) (callback : Server (Except Err α)) : Server (Except Err α) := do
  if ← ask (.beginLaneCallback sessionID) then
    let result ← callback
    ask (.endLaneCallback sessionID)
    return result
  else return .error (.sentinel .streamCallbackActive)

/-- `runStream`: the request waits for its turn in the lane of its session. `idle` is
the result of a request that never runs. -/
def runStream (sessionID : Bytes) (idle : HandleResult) (request : Server Reply) : Server Reply := do
  match ← ask (.joinLane sessionID) with
  | none => return (idle,.error (.sentinel .streamCallbackActive))
  | some ticket =>
    ask (.awaitLane sessionID ticket)
    let reply ← request
    ask (.leaveLane sessionID ticket)
    match reply with
    | (result,.error .panic) => return (result,.error (.plain (lit "kmtproto: stream operation panicked")))
    | reply => return reply

end Callbacks

end Kmtproto
