import Kmtproto.Payload

/-! Frame validation. Each frame type states which envelope fields it carries and
what its payload must decode to; both sides apply the same checks to the frames
they receive and to the frames they produce. -/
namespace Kmtproto
open Json

def validBoundedProtocolString (value : Bytes) (maxLength : Int) (allowEmpty : Bool) : Bool :=
  !((!allowEmpty && value.isEmpty) || (value.length : Int) > maxLength || !validString value) && !hasControl value

def validateEnvelope (e : Envelope) (limits : Limits) : Except Err Unit := do
  let limits := normalizeLimits limits
  match validateLimits limits with
  | .error error => fail .badRequest (lit "invalid protocol limits: " ++ error.text)
  | .ok () =>
    if e.v ≠ wireVersionV2 then
      .error (.protocol {code := .unsupportedVersion, message := lit "unsupported wire version " ++ decimal e.v.toNat,
                         close := true})
    else do
      reject (e.type.name.isEmpty) .badRequest (lit "missing frame type")
      reject (!validBoundedProtocolString e.id limits.maxIDLength true) .badRequest
        (lit "invalid or oversized frame id")
      reject (!validBoundedProtocolString e.sessionID limits.maxSessionIDLength true) .badRequest
        (lit "invalid or oversized session id")
      reject ((e.payload.length : Int) > limits.maxPayloadSize) .badRequest (lit "payload exceeds maximum size")
      match e.marshal with
      | none => fail .badRequest (lit "frame cannot be encoded: invalid character")
      | some encoded =>
        reject ((encoded.length : Int) > limits.maxFrameSize) .badRequest (lit "frame exceeds maximum size")

section Fields
variable (e : Envelope)

def requireZeroSeq : Except Err Unit :=
  reject (e.seq ≠ 0) .badRequest (e.type.name ++ lit " must not carry sequence")

def requireSession : Except Err Unit :=
  reject e.sessionID.isEmpty .badRequest (e.type.name ++ lit " requires session_id")

def requireNoEnvelopeID : Except Err Unit :=
  reject (!e.id.isEmpty) .badRequest (e.type.name ++ lit " must not carry envelope id")

def requireEnvelopeID : Except Err Unit :=
  reject e.id.isEmpty .badRequest (e.type.name ++ lit " requires id")

end Fields

def validateContent (raw : Bytes) : Except Err Unit :=
  reject (raw.isEmpty || isNullText raw || !valid raw) .badRequest
    (lit "content must contain one valid JSON value")

def checkNamespaces (maxLength : Int) : Option Bytes → List Bytes → Except Err Unit
  | _, [] => .ok ()
  | previous, namespace_::namespaces => do
    validateStateNamespace namespace_ maxLength
    reject (previous.any (fun last => namespace_ ≤ last)) .badRequest
      (lit "state_sync namespaces must be unique and canonically ordered")
    checkNamespaces maxLength (some namespace_) namespaces

def validateResumeStateSync (sync : ResumeStateSync) (limits : Limits) : Except Err Unit := do
  let limits := normalizeLimits limits
  reject (sync.namespaces.isEmpty || (sync.namespaces.length : Int) > limits.maxStateSyncNamespaces) .badRequest
    (lit "state_sync requires a bounded non-empty namespace list")
  checkNamespaces limits.maxStateNamespaceLength none sync.namespaces

section Frames
variable (e : Envelope) (limits : Limits) (strict : Bool)

def validateHello : Except Err Unit := do
  reject (!e.sessionID.isEmpty ∨ e.seq ≠ 0) .badRequest (lit "HELLO must not carry session_id or sequence")
  let p ← decodePayload readHello {} e.payload strict
  reject (!validBoundedProtocolString p.clientName limits.maxClientNameLength true) .badRequest
    (lit "HELLO carries an invalid or oversized client_name")
  let _ ← validateAndCopyCapabilityOffers p.capabilities limits

/-- Which of a WELCOME's members are present decides which mode it may have. -/
def validateWelcomeMembers (p : WelcomePayload) : Except Err Unit := do
  let hasResumeFrom ← jsonFieldPresent e.payload (lit "resume_from")
  let hasReplayTo ← jsonFieldPresent e.payload (lit "replay_to")
  let hasAcceptedCapabilities ← jsonFieldPresent e.payload (lit "accepted_capabilities")
  let hasStateSync ← jsonFieldPresent e.payload (lit "state_sync")
  let hasNonNullStateSync ← jsonFieldPresentAndNonNull e.payload (lit "state_sync")
  reject (hasStateSync && !hasNonNullStateSync) .badRequest (lit "WELCOME state_sync must not be null")
  reject (p.mode = welcomeModeNew ∧ (hasResumeFrom || hasReplayTo)) .badRequest
    (lit "NEW WELCOME must not carry replay bounds")
  reject (p.mode = welcomeModeNew ∧ hasStateSync) .badRequest (lit "NEW WELCOME must not carry state_sync")
  reject (p.mode = welcomeModeResumed ∧ hasAcceptedCapabilities) .badRequest
    (lit "RESUMED WELCOME must not renegotiate capabilities")
  reject (p.mode = welcomeModeResumed ∧ (!hasResumeFrom || !hasReplayTo || p.resumeFrom == 0)) .badRequest
    (lit "RESUMED WELCOME requires explicit replay bounds")
  reject (p.mode = welcomeModeResumed ∧ p.replayTo < p.resumeFrom - 1) .badRequest (lit "invalid replay bounds")

def validateWelcome : Except Err Unit := do
  requireSession e
  requireZeroSeq e
  requireNoEnvelopeID e
  let p ← decodePayload readWelcome {} e.payload strict
  reject (p.mode ≠ welcomeModeNew ∧ p.mode ≠ welcomeModeResumed) .badRequest (lit "invalid WELCOME mode")
  validateWelcomeMembers e p
  match p.stateSync with
  | some sync => if p.mode = welcomeModeResumed then validateResumeStateSync sync limits else .ok ()
  | none => .ok ()
  validateNegotiatedCapabilities p.acceptedCapabilities limits

def validatePing : Except Err Unit := do
  requireSession e
  requireZeroSeq e
  requireNoEnvelopeID e
  let p ← decodePayload readPing {} e.payload strict
  reject (!validBoundedProtocolString p.pingID limits.maxIDLength false) .badRequest
    (lit "PING requires a valid ping_id")

def validatePong : Except Err Unit := do
  requireSession e
  requireZeroSeq e
  requireNoEnvelopeID e
  let p ← decodePayload readPong {} e.payload strict
  reject (!validBoundedProtocolString p.pingID limits.maxIDLength false) .badRequest
    (lit "PONG requires a valid ping_id")

def validateSend : Except Err Unit := do
  requireSession e
  requireZeroSeq e
  reject e.id.isEmpty .badRequest (lit "SEND requires id")
  let p ← decodePayload readSend {} e.payload strict
  validateContent p.content

def validateAck : Except Err Unit := do
  requireSession e
  requireZeroSeq e
  requireNoEnvelopeID e
  let p ← decodePayload readAck {} e.payload strict
  reject (!validBoundedProtocolString p.refID limits.maxIDLength false) .badRequest
    (lit "ACK requires a valid ref_id")

def validateEvent : Except Err Unit := do
  requireSession e
  reject (e.id.isEmpty ∨ e.seq = 0) .badRequest (lit "EVENT requires id and positive sequence")
  let p ← decodePayload readEvent {} e.payload strict
  reject (!validBoundedProtocolString p.eventType limits.maxEventTypeLength true) .badRequest
    (lit "EVENT carries an invalid or oversized event_type")
  validateContent p.content

def validateResume : Except Err Unit := do
  requireSession e
  requireZeroSeq e
  requireNoEnvelopeID e
  let p ← decodePayload readResume {} e.payload strict
  let hasLastSeq ← jsonFieldPresent e.payload (lit "last_seq")
  reject (!hasLastSeq) .badRequest (lit "RESUME requires explicit last_seq")
  let hasStateSync ← jsonFieldPresent e.payload (lit "state_sync")
  reject (hasStateSync && p.stateSync.isNone) .badRequest (lit "RESUME state_sync must not be null")
  match p.stateSync with
  | some sync => validateResumeStateSync sync limits
  | none => .ok ()

def checkObjectIDs (namespace_ : Bytes) : List Bytes → List Bytes → Except Err Unit
  | _, [] => .ok ()
  | seen, objectID::objectIDs => do
    validateStateIdentity namespace_ objectID limits
    reject (objectID ∈ seen) .badRequest (lit "STATE_QUERY contains duplicate object_id")
    checkObjectIDs namespace_ (objectID::seen) objectIDs

def validateStateQuery : Except Err Unit := do
  requireSession e
  requireZeroSeq e
  requireEnvelopeID e
  let p ← decodePayload readQuery {} e.payload strict
  reject (p.objectIDs.isEmpty || (p.objectIDs.length : Int) > limits.maxStateQueryObjects) .badRequest
    (lit "STATE_QUERY requires a bounded non-empty object_ids list")
  checkObjectIDs limits p.namespace_ [] p.objectIDs

def checkStates : List StateIdentity → List StateObject → Except Err Unit
  | _, [] => .ok ()
  | seen, object::objects => do
    validateStateObject object limits
    reject (object.identity ∈ seen) .badRequest (lit "STATE_SNAPSHOT contains duplicate object identity")
    checkStates (object.identity::seen) objects

def validateStateSnapshot : Except Err Unit := do
  requireSession e
  requireZeroSeq e
  requireEnvelopeID e
  reject ((e.payload.length : Int) > limits.maxStateSnapshotBytes) .badRequest
    (lit "STATE_SNAPSHOT exceeds byte limit")
  let hasStates ← jsonFieldPresentAndNonNull e.payload (lit "states")
  reject (!hasStates) .badRequest (lit "STATE_SNAPSHOT requires states")
  let p ← decodePayload readSnapshot {} e.payload strict
  reject ((p.states.length : Int) > limits.maxStateSnapshotObjects) .badRequest
    (lit "STATE_SNAPSHOT exceeds object limit")
  checkStates limits [] p.states

def validateStateUpdate : Except Err Unit := do
  requireSession e
  requireZeroSeq e
  requireEnvelopeID e
  let p ← decodePayload readUpdate {} e.payload strict
  validateStateObject p.state limits

def validateError : Except Err Unit := do
  requireZeroSeq e
  requireNoEnvelopeID e
  let p ← decodePayload readError {} e.payload strict
  reject (p.code.isEmpty || (p.message.length : Int) > limits.maxErrorMessageLength) .badRequest
    (lit "ERROR requires code and bounded message")
  let hasRetryable ← jsonFieldPresent e.payload (lit "retryable")
  reject (!hasRetryable) .badRequest (lit "ERROR requires explicit retryable")
  match behaviorForErrorCode p.code with
  | none => fail .badRequest (lit "unknown ERROR code")
  | some behavior => do
    reject (behavior.retryabilityFixed && p.retryable != behavior.retryable) .badRequest
      (lit "ERROR retryable flag conflicts with code")
    reject (!validBoundedProtocolString p.refID limits.maxIDLength true) .badRequest
      (lit "ERROR carries an invalid ref_id")

def validateTyped : Except Err Unit :=
  match e.type with
  | .hello => validateHello e limits strict
  | .welcome => validateWelcome e limits strict
  | .ping => validatePing e limits strict
  | .pong => validatePong e limits strict
  | .send => validateSend e strict
  | .ack => validateAck e limits strict
  | .event => validateEvent e limits strict
  | .resume => validateResume e limits strict
  | .stateQuery => validateStateQuery e limits strict
  | .stateSnapshot => validateStateSnapshot e limits strict
  | .stateUpdate => validateStateUpdate e limits strict
  | .error => validateError e limits strict
  | .other _ _ => fail .badRequest (lit "unknown frame type")

end Frames

def validateFrame (e : Envelope) (limits : Limits) (strict : Bool) : Except Err Unit := do
  let limits := normalizeLimits limits
  validateEnvelope e limits
  validateTyped e limits strict

def validateOutboundFrame (e : Envelope) (limits : Limits) (strict : Bool) : Except Err Unit :=
  validateFrame e (normalizeLimits limits) strict

@[simp] theorem validateOutboundFrame_eq (e : Envelope) (limits : Limits) (strict : Bool) :
    validateOutboundFrame e limits strict = validateFrame e limits strict := by
  simp [validateOutboundFrame,validateFrame]

end Kmtproto
