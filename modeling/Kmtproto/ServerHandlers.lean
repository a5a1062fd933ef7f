import Kmtproto.Server

/-! The handlers of `ServerProtocol`, one program for each client frame and each
publication, and `ServerAdmission.Handle` around them. -/
namespace Kmtproto
open Json Interaction

section Handlers
variable (config : ServerConfig)

def handleHello (frame : Envelope) (outbound : Nat) : Server Reply := do
  match decodePayload readHello {} frame.payload config.strictValidation with
  | .error error => return ({},.error error)
  | .ok hello =>
    match config.capabilities.negotiate hello.capabilities config.limits with
    | .error error =>
      match error.asProtocol with
      | some refusal =>
        return ({close := refusal.close},
          ← enqueueError config outbound [] frame.id refusal.code refusal.message refusal.retryable)
      | none => return ({},.error error)
    | .ok accepted =>
      match ← ask .newSessionID with
      | .error .panic => return ({},.error .panic)
      | .error _ =>
        return ({},← enqueueError config outbound [] frame.id .internal (lit "cannot create session") true)
      | .ok sessionID =>
        if sessionID = [] then
          return ({},← enqueueError config outbound [] frame.id .internal (lit "cannot create session") true)
        else if (sessionID.length : Int) > config.limits.maxSessionIDLength ∨ !validString sessionID then
          return ({},.error (.plain (lit "kmtproto: generated session id exceeds limit")))
        else
          let sentAt ← ask .now
          let serverTime ← ask .now
          let welcome : Envelope :=
            {type := .welcome, sessionID := sessionID, timestamp := unixMilli sentAt,
             payload := WelcomePayload.marshal
               {mode := welcomeModeNew, serverTime := unixMilli serverTime, acceptedCapabilities := accepted.selections}}
          match config.validates welcome with
          | .error error => return ({},.error error)
          | .ok () =>
            let createdAt ← ask .now
            match ← ask (.create ⟨sessionID,createdAt + config.sessionResumeTTL,accepted⟩) with
            | .error error =>
              if error.is .sessionExists then
                return ({},← enqueueError config outbound [] frame.id .internal
                  (lit "cannot allocate a unique session") true)
              else return ({},.error error)
            | .ok () =>
              match ← enqueueFrame config outbound welcome with
              | .error error => return ({},.error error)
              | .ok () => return ({readySessionID := sessionID, capabilities := accepted},.ok ())

def handlePing (frame : Envelope) (outbound : Nat) : Server Reply := do
  let now ← ask .now
  match ← ask (.lookup frame.sessionID now) with
  | .error error => return ({},.error error)
  | .ok none =>
    return ({abandonSession := true},
      ← enqueueError config outbound frame.sessionID [] .invalidSession (lit "session expired or unknown") false)
  | .ok (some _) =>
    match decodePayload readPing {} frame.payload config.strictValidation with
    | .error error => return ({},.error error)
    | .ok ping =>
      let sentAt ← ask .now
      let serverTime ← ask .now
      return ({},← enqueueFrame config outbound
        {type := .pong, sessionID := frame.sessionID, timestamp := unixMilli sentAt,
         payload := PongPayload.marshal
           {pingID := ping.pingID, clientTime := ping.clientTime, serverTime := unixMilli serverTime}})

def resendACK (frame : Envelope) (outbound : Nat) (ack : Envelope) : Server (Except Err Unit) :=
  match validateStoredACK config ack frame.sessionID frame.id with
  | .error error => return .error error
  | .ok () => enqueueFrame config outbound ack

def waitForOriginal (flight : Nat) (frame : Envelope) (outbound : Nat) (timestamp : Int64) :
    Server (Except Err Unit) := do
  if ← ask (.awaitFlight flight) then
    match ← ask (.flightACK flight) with
    | some ack => resendACK config frame outbound ack
    | none =>
      enqueueErrorAt config outbound frame.sessionID frame.id .internal
        (lit "original SEND did not complete; retry") true timestamp
  else return .error (.plain (lit "context canceled"))

def followSend (ticket : FlightTicket) (frame : Envelope) (outbound : Nat) (timestamp : Int64) :
    Server (Except Err Unit) := do
  if ticket.callbackActive then
    match ← ask (.flightACK ticket.flight) with
    | some ack => resendACK config frame outbound ack
    | none =>
      enqueueErrorAt config outbound frame.sessionID frame.id .internal
        (lit "SEND callback is active; retry with the same id") true timestamp
  else waitForOriginal config ticket.flight frame outbound timestamp

def refusedSend (existing : Option DedupRecord) (flight : Nat) (fingerprint : SendFingerprint) (frame : Envelope)
    (outbound : Nat) (timestamp : Int64) : Server (Except Err Unit) := do
  match existing with
  | none =>
    enqueueErrorAt config outbound frame.sessionID frame.id .internal
      (lit "SEND is still processing; retry with the same id") true timestamp
  | some record =>
    if record.fingerprint ≠ fingerprint then
      enqueueErrorAt config outbound frame.sessionID frame.id .badRequest
        (lit "SEND id was reused with different content") false timestamp
    else
      match record.state,record.ack with
      | .completed,some ack =>
        match validateStoredACK config ack frame.sessionID frame.id with
        | .error error => return .error error
        | .ok () =>
          ask (.setFlightACK flight ack)
          enqueueFrame config outbound ack
      | _,_ =>
        enqueueErrorAt config outbound frame.sessionID frame.id .internal
          (lit "SEND is still processing; retry with the same id") true timestamp

/-- `Claim` of the dedup store, which samples the clock before it locks. -/
def claimSend (frame : Envelope) (fingerprint : SendFingerprint) :
    Server (Except Err (Bool × Option DedupRecord)) := do
  let now ← ask .now
  ask (.claim frame.sessionID frame.id fingerprint now)

def completeSend (frame ack : Envelope) : Server (Except Err Unit) := do
  let now ← ask .now
  ask (.complete frame.sessionID frame.id ack now)

/-- The Application runs between the two steps. -/
def callApplication (frame : Envelope) (content : Bytes) : Server (Except Err Unit) := do
  ask (.handleSend frame.sessionID frame.id content)
  ask (.handleSendReturn frame.sessionID frame.id content)

def ackFrame (frame : Envelope) (timestamp : Int64) : Envelope :=
  {type := .ack, sessionID := frame.sessionID, timestamp := timestamp, payload := AckPayload.marshal {refID := frame.id}}

def acknowledgeSend (key : Bytes) (flight : Nat) (frame : Envelope) (outbound : Nat) (timestamp : Int64) :
    Server (Except Err Unit) := do
  let ack := ackFrame frame timestamp
  match config.validates ack with
  | .error error => return .error error
  | .ok () =>
    match ← invokeSendCallback key flight (completeSend frame ack) with
    | .error error => return .error error
    | .ok () =>
      ask (.setFlightACK flight ack)
      match ← invokeSendCallback key flight (ask (.inject .afterComplete)) with
      | .error error => return .error error
      | .ok () => enqueueFrame config outbound ack

def claimedSend (key : Bytes) (flight : Nat) (content : Bytes) (frame : Envelope) (outbound : Nat)
    (timestamp : Int64) : Server (Except Err Unit) := do
  match ← invokeSendCallback key flight (ask (.inject .afterClaim)) with
  | .error error => return .error error
  | .ok () =>
    match ← invokeSendCallback key flight (callApplication frame content) with
    | .error _ =>
      -- the failure may hide a commit, so the claim stays and no retry runs the Application again
      enqueueErrorAt config outbound frame.sessionID frame.id .internal (lit "application rejected SEND") true timestamp
    | .ok () =>
      match ← invokeSendCallback key flight (ask (.inject .afterApplication)) with
      | .error error => return .error error
      | .ok () => acknowledgeSend config key flight frame outbound timestamp

def leadSend (key : Bytes) (flight : Nat) (content : Bytes) (fingerprint : SendFingerprint) (now : Int)
    (frame : Envelope) (outbound : Nat) : Server Reply := do
  let timestamp := unixMilli now
  match ← invokeSendCallback key flight (ask (.lookup frame.sessionID now)) with
  | .error error => return ({},.error error)
  | .ok none =>
    return ({abandonSession := true},← enqueueErrorAt config outbound frame.sessionID frame.id .invalidSession
      (lit "session expired or unknown") false timestamp)
  | .ok (some _) =>
    match ← invokeSendCallback key flight (claimSend frame fingerprint) with
    | .error error => return ({},.error error)
    | .ok (false,existing) =>
      return ({},← refusedSend config existing flight fingerprint frame outbound timestamp)
    | .ok (true,_) => return ({},← claimedSend config key flight content frame outbound timestamp)

def handleSend (frame : Envelope) (outbound : Nat) : Server Reply := do
  let now ← ask .now
  match decodePayload readSend {} frame.payload config.strictValidation with
  | .error error => return ({},.error error)
  | .ok payload =>
    let fingerprint := Sha256.sum256 payload.content
    let key := dedupKey frame.sessionID frame.id
    let ticket ← ask (.acquireFlight key fingerprint)
    if ticket.conflict then
      return ({},← enqueueErrorAt config outbound frame.sessionID frame.id .badRequest
        (lit "SEND id was reused with different content") false (unixMilli now))
    else if !ticket.leader then
      return ({},← followSend config ticket frame outbound (unixMilli now))
    else
      let reply ← leadSend config key ticket.flight payload.content fingerprint now frame outbound
      ask (.finishFlight key ticket.flight)
      return reply

/-- `stateSnapshotLimits`: what the rest of the frame leaves for the payload. -/
def stateSnapshotLimits (frame : Envelope) : Except Err StateSnapshotLimits :=
  match Envelope.marshal {frame with payload := lit "\x7b\x7d"} with
  | none => .error (.plain (lit "json: error calling MarshalJSON"))
  | some encoded =>
    let overhead : Int := encoded.length - 2
    let maxBytes := min (min config.limits.maxStateSnapshotBytes config.limits.maxPayloadSize)
      (config.limits.maxFrameSize - overhead)
    if maxBytes ≤ 0 then .error (.sentinel .stateSnapshotLimitExceeded)
    else .ok ⟨config.limits.maxStateSnapshotObjects,maxBytes⟩

/-- The objects of a query, read one after the other into the accumulator; none when
one of them does not fit. -/
def collectStates (sessionID namespace_ : Bytes) :
    List Bytes → StateSnapshotAccumulator → Server (Except Err (Option StateSnapshotAccumulator))
  | [], accumulator => return .ok (some accumulator)
  | objectID::objectIDs, accumulator => do
    match ← invokeCallback sessionID (ask (.getState namespace_ objectID)) with
    | .error error => return .error error
    | .ok none => collectStates sessionID namespace_ objectIDs accumulator
    | .ok (some object) =>
      if object.namespace_ ≠ namespace_ ∨ object.objectID ≠ objectID then
        return .error (.plain (lit "kmtproto: StateStore returned the wrong object identity"))
      else
        match validateStateObject object config.limits with
        | .error error => return .error (.wrap (lit "kmtproto: StateStore returned invalid State") error)
        | .ok () =>
          match accumulator.add object with
          | .error error =>
            if error.is .stateSnapshotLimitExceeded then return .ok none else return .error error
          | .ok accumulator => collectStates sessionID namespace_ objectIDs accumulator

def snapshotFrame (sessionID id : Bytes) (timestamp : Int64) : Envelope :=
  {type := .stateSnapshot, id := id, sessionID := sessionID, timestamp := timestamp}

def refuseQuery (frame : Envelope) (outbound : Nat) (timestamp : Int64) : Server Reply := do
  return ({},← enqueueErrorAt config outbound frame.sessionID frame.id .badRequest
    (lit "State snapshot exceeds configured limit; split the query") false timestamp)

/-- The part of `handleStateQuery` behind its session checks. -/
def answerQuery (frame : Envelope) (outbound : Nat) (timestamp : Int64) : Server Reply := do
  match decodePayload readQuery {} frame.payload config.strictValidation with
  | .error error => return ({},.error error)
  | .ok query =>
    let snapshot := snapshotFrame frame.sessionID frame.id timestamp
    match stateSnapshotLimits config snapshot with
    | .error error => return ({},.error error)
    | .ok limits =>
      match newStateSnapshotAccumulator config.limits limits with
      | .error error => return ({},.error error)
      | .ok accumulator =>
        match ← collectStates config frame.sessionID query.namespace_ (sortStrings query.objectIDs) accumulator with
        | .error error => return ({},.error error)
        | .ok none => refuseQuery config frame outbound timestamp
        | .ok (some accumulator) =>
          match accumulator.payload with
          | .error error =>
            if error.is .stateSnapshotLimitExceeded then refuseQuery config frame outbound timestamp
            else return ({},.error error)
          | .ok payload => return ({},← enqueueFrame config outbound {snapshot with payload := payload})

def handleStateQuery (frame : Envelope) (outbound : Nat) : Server Reply := do
  let now ← ask .now
  let timestamp := unixMilli now
  runStream frame.sessionID {} do
    match ← invokeCallback frame.sessionID (ask (.lookup frame.sessionID now)) with
    | .error error => return ({},.error error)
    | .ok none =>
      return ({abandonSession := true},← enqueueErrorAt config outbound frame.sessionID frame.id .invalidSession
        (lit "session expired or unknown") false timestamp)
    | .ok (some session) =>
      if !stateSyncEnabled session.capabilities then
        return ({close := true},← enqueueErrorAt config outbound frame.sessionID frame.id .protocolViolation
          (lit "STATE_QUERY requires state-sync capability version 1") false timestamp)
      else if !config.stateStore then
        return ({},← enqueueErrorAt config outbound frame.sessionID frame.id .internal
          (lit "State store is unavailable") true timestamp)
      else answerQuery config frame outbound timestamp

def checkReplay (sessionID : Bytes) : UInt64 → List Envelope → Except Bytes UInt64
  | expected, [] => .ok expected
  | expected, event::events =>
    if config.validates event ≠ .ok () then .error (lit "replay store returned an invalid EVENT")
    else if event.type ≠ .event ∨ event.sessionID ≠ sessionID ∨ event.seq ≠ expected then
      .error (lit "replay store returned a non-contiguous event range")
    else checkReplay sessionID (expected+1) events

def checkSnapshotStates (namespaces : List Bytes) : List StateIdentity → List StateObject → Except Err Unit
  | _, [] => .ok ()
  | seen, object::objects => do
    validateStateObject object config.limits
    refuseUnless (object.namespace_ ∈ namespaces) (lit "kmtproto: State snapshot returned an unrequested namespace")
    refuseUnless (object.identity ∉ seen) (lit "kmtproto: State snapshot returned a duplicate identity")
    checkSnapshotStates namespaces (object.identity::seen) objects

/-- The order `sort.Slice` puts the objects of a snapshot in. -/
def StateObject.before (a b : StateObject) : Prop :=
  if a.namespace_ ≠ b.namespace_ then a.namespace_ < b.namespace_ else a.objectID ≤ b.objectID

instance : DecidableRel StateObject.before := fun a b => by unfold StateObject.before; infer_instance

def sortStates (states : List StateObject) : List StateObject := states.insertionSort StateObject.before

def assembleSnapshot (snapshot : Envelope) (limits : StateSnapshotLimits) (namespaces : List Bytes)
    (states : List StateObject) : Except Err Envelope :=
  if (states.length : Int) > limits.maxObjects then .error (.sentinel .stateSnapshotLimitExceeded)
  else do
    checkSnapshotStates config namespaces [] states
    let empty ← newStateSnapshotAccumulator config.limits limits
    let accumulator ← (sortStates states).foldlM StateSnapshotAccumulator.add empty
    let payload ← accumulator.payload
    config.validates {snapshot with payload := payload}
    return {snapshot with payload := payload}

def buildResumeStateSnapshot (sessionID frameID : Bytes) (timestamp : Int64) (namespaces : List Bytes) :
    Server (Except Err Envelope) := do
  let snapshot := snapshotFrame sessionID frameID timestamp
  match stateSnapshotLimits config snapshot with
  | .error error => return .error error
  | .ok limits =>
    match ← invokeCallback sessionID (ask (.snapshot namespaces limits)) with
    | .error error => return .error error
    | .ok states => return assembleSnapshot config snapshot limits namespaces states

def refuseResume (frame : Envelope) (outbound : Nat) (timestamp : Int64) (result : HandleResult) (code : ErrorCode)
    (message : Bytes) (retryable : Bool) : Server Reply := do
  return (result,← enqueueErrorAt config outbound frame.sessionID [] code message retryable timestamp)

/-- A callback of the resume failed: a panic passes on, any other error closes the connection. -/
def failResume (frame : Envelope) (outbound : Nat) (timestamp : Int64) (idle : HandleResult) (code : ErrorCode)
    (message : Bytes) : Err → Server Reply
  | .panic => return (idle,.error .panic)
  | _ => refuseResume config frame outbound timestamp {idle with close := true} code message true

def resumedWelcome (frame : Envelope) (resume : ResumePayload) (replayTo : UInt64) (timestamp : Int64) : Envelope :=
  {type := .welcome, sessionID := frame.sessionID, timestamp := timestamp,
   payload := WelcomePayload.marshal
     {mode := welcomeModeResumed, serverTime := timestamp, resumeFrom := resume.lastSeq+1, replayTo := replayTo,
      stateSync := resume.stateSync}}

def sendResume (frame : Envelope) (outbound : Nat) (resume : ResumePayload) (replayTo : UInt64) (timestamp : Int64)
    (idle : HandleResult) (events : List Envelope) (snapshot : Option Envelope) : Server Reply := do
  let welcome := resumedWelcome frame resume replayTo timestamp
  match config.validates welcome with
  | .error error => return (idle,.error error)
  | .ok () =>
    match ← ask (.enqueueBatch outbound (welcome::events ++ snapshot.toList)) with
    | .error error => return (idle,.error error)
    | .ok () => return ({idle with readySessionID := frame.sessionID},.ok ())

def resumeState (frame : Envelope) (outbound : Nat) (resume : ResumePayload) (snapshotID : Bytes) (replayTo : UInt64)
    (timestamp : Int64) (idle : HandleResult) (events : List Envelope) : Server Reply := do
  match resume.stateSync with
  | none => sendResume config frame outbound resume replayTo timestamp idle events none
  | some sync =>
    match ← buildResumeStateSnapshot config frame.sessionID snapshotID timestamp sync.namespaces with
    | .error error =>
      failResume config frame outbound timestamp idle .stateUnavailable (lit "State snapshot could not be produced") error
    | .ok snapshot => sendResume config frame outbound resume replayTo timestamp idle events (some snapshot)

def refuseReplay (frame : Envelope) (outbound : Nat) (timestamp : Int64) (idle : HandleResult) (error : Err) :
    Server Reply :=
  if error.is .replayLimitExceeded then
    refuseResume config frame outbound timestamp idle .syncRequired (lit "replay exceeds configured byte limit") false
  else if error.is .replayUnavailable then
    refuseResume config frame outbound timestamp idle .syncRequired (lit "replay window no longer covers last_seq") false
  else failResume config frame outbound timestamp idle .internal (lit "replay could not be produced") error

def resumeEvents (frame : Envelope) (outbound : Nat) (resume : ResumePayload) (snapshotID : Bytes) (replayTo : UInt64)
    (timestamp : Int64) (idle : HandleResult) : Server Reply := do
  match ← invokeCallback frame.sessionID
      (ask (.replay frame.sessionID resume.lastSeq replayTo ⟨config.maxReplayEvents,config.maxReplayBytes⟩)) with
  | .error error => refuseReplay config frame outbound timestamp idle error
  | .ok events =>
    match checkReplay config frame.sessionID (resume.lastSeq+1) events with
    | .error message =>
      refuseResume config frame outbound timestamp {idle with close := true} .internal message true
    | .ok expected =>
      if expected ≠ replayTo+1 then
        refuseResume config frame outbound timestamp {idle with close := true} .internal
          (lit "replay store returned an incomplete event range") true
      else resumeState config frame outbound resume snapshotID replayTo timestamp idle events

/-- What `handleResume` does in the lane of its session. -/
def resumeStream (frame : Envelope) (outbound : Nat) (resume : ResumePayload) (snapshotID : Bytes)
    (timestamp : Int64) (idle : HandleResult) : Server Reply := do
  match ← invokeCallback frame.sessionID (ask (.currentSeq frame.sessionID)) with
  | .error error =>
    failResume config frame outbound timestamp idle .internal (lit "replay high-water could not be read") error
  | .ok replayTo =>
    if resume.lastSeq > replayTo then
      refuseResume config frame outbound timestamp {idle with close := true} .protocolViolation
        (lit "last_seq is ahead of server stream") false
    else if resume.lastSeq = 18446744073709551615 then
      refuseResume config frame outbound timestamp idle .syncRequired (lit "event sequence is exhausted") false
    else if replayTo - resume.lastSeq > config.maxReplayEvents then
      refuseResume config frame outbound timestamp idle .syncRequired
        (lit "replay exceeds configured event limit") false
    else resumeEvents config frame outbound resume snapshotID replayTo timestamp idle

def resumeSnapshotID (frame : Envelope) (outbound : Nat) (resume : ResumePayload) (state : SessionState)
    (timestamp : Int64) : Server (Except Reply Bytes) := do
  if resume.stateSync.isNone then return .ok []
  else if !stateSyncEnabled state.capabilities then
    return .error (← refuseResume config frame outbound timestamp {close := true} .unsupportedFeature
      (lit "RESUME requires state-sync capability version 1") false)
  else if !config.stateSnapshots then
    return .error (← refuseResume config frame outbound timestamp {close := true} .stateUnavailable
      (lit "State snapshot provider is unavailable") true)
  else
    match ← ask .newFrameID with
    | .error .panic => return .error ({},.error .panic)
    | .error _ =>
      return .error (← refuseResume config frame outbound timestamp {close := true} .stateUnavailable
        (lit "State snapshot identity could not be produced") true)
    | .ok id =>
      if id = [] then
        return .error (← refuseResume config frame outbound timestamp {close := true} .stateUnavailable
          (lit "State snapshot identity could not be produced") true)
      else return .ok id

def handleResume (frame : Envelope) (outbound : Nat) : Server Reply := do
  let now ← ask .now
  let timestamp := unixMilli now
  match decodePayload readResume {} frame.payload config.strictValidation with
  | .error error => return ({},.error error)
  | .ok resume =>
    match ← ask (.lookup frame.sessionID now) with
    | .error error => return ({},.error error)
    | .ok none =>
      refuseResume config frame outbound timestamp {abandonSession := true} .invalidSession
        (lit "session expired or unknown") false
    | .ok (some state) =>
      match ← resumeSnapshotID config frame outbound resume state timestamp with
      | .error reply => return reply
      | .ok snapshotID =>
        let idle : HandleResult := {capabilities := state.capabilities}
        runStream frame.sessionID idle (resumeStream config frame outbound resume snapshotID timestamp idle)

def matchesAppend (event : Envelope) (sessionID eventID eventType content : Bytes) : Except Err Unit := do
  wrapError (lit "kmtproto: EventAppender returned invalid EVENT") (config.validates event)
  let payload ← wrapError (lit "kmtproto: EventAppender returned invalid EVENT payload")
    (decodePayload readEvent {} event.payload config.strictValidation)
  refuseUnless (event.type = .event ∧ event.sessionID = sessionID ∧ event.id = eventID ∧
      payload.eventType = eventType ∧ payload.content = content)
    (lit "kmtproto: EventAppender returned an EVENT that does not match the append request")

def appendEvent (sessionID eventID eventType content : Bytes) (now : Int) (outbound : Nat) : Server Reply := do
  match ← invokeCallback sessionID (ask (.lookup sessionID now)) with
  | .error error => return ({},.error error)
  | .ok none =>
    return ({},.error (.protocol (newProtocolError .invalidSession (lit "session is not resumable"))))
  | .ok (some _) =>
    match ← invokeCallback sessionID (ask (.append sessionID eventID eventType content (unixMilli now))) with
    | .error error => return ({},.error error)
    | .ok event =>
      match matchesAppend config event sessionID eventID eventType content with
      | .error error => return ({},.error error)
      | .ok () => return ({},← enqueueFrame config outbound event)

def publishEvent (sessionID eventID eventType content : Bytes) (outbound : Nat) : Server (Except Err Unit) := do
  if sessionID = [] ∨ eventID = [] ∨ !valid content ∨ !validString eventID then
    return .error (.protocol (newProtocolError .badRequest (lit "invalid event publication")))
  else if (eventID.length : Int) > config.limits.maxIDLength ∨
      (sessionID.length : Int) > config.limits.maxSessionIDLength ∨
      (content.length : Int) > config.limits.maxPayloadSize then
    return .error (.protocol (newProtocolError .badRequest (lit "event publication exceeds protocol limits")))
  else
    let now ← ask .now
    match EventPayload.marshal {eventType := eventType, content := content} with
    | none => return .error .panic
    | some payload =>
      let probe : Envelope := {type := .event, id := eventID, sessionID := sessionID, seq := 18446744073709551615,
                               timestamp := unixMilli now, payload := payload}
      match config.validates probe with
      | .error error => return .error error
      | .ok () =>
        let reply ← runStream sessionID {} (appendEvent config sessionID eventID eventType content now outbound)
        return reply.2

def sendStateUpdate (sessionID updateID : Bytes) (object : StateObject) (now : Int) (outbound : Nat) :
    Server Reply := do
  match ← invokeCallback sessionID (ask (.lookup sessionID now)) with
  | .error error => return ({},.error error)
  | .ok none =>
    return ({},.error (.protocol (newProtocolError .invalidSession (lit "session expired or unknown"))))
  | .ok (some session) =>
    if !stateSyncEnabled session.capabilities then
      return ({},.error (.protocol (newProtocolError .protocolViolation
        (lit "STATE_UPDATE requires state-sync capability version 1"))))
    else
      match StateUpdatePayload.marshal {state := object} with
      | none => return ({},.error .panic)
      | some payload =>
        return ({},← enqueueFrame config outbound
          {type := .stateUpdate, id := updateID, sessionID := sessionID, timestamp := unixMilli now, payload := payload})

def publishStateUpdate (sessionID updateID : Bytes) (object : StateObject) (outbound : Nat) :
    Server (Except Err Unit) := do
  match validateStateObject object config.limits with
  | .error error => return .error error
  | .ok () =>
    let now ← ask .now
    let reply ← runStream sessionID {} (sendStateUpdate config sessionID updateID object now outbound)
    return reply.2

def refuseFrame (frame : Envelope) (outbound : Nat) (error : Err) : Server Reply := do
  if frame.type = .error then
    -- an ERROR is never answered with an ERROR
    ask (.closeQueue outbound)
    return ({close := true},.ok ())
  else
    match error.asProtocol with
    | none => return ({},.error error)
    | some refusal =>
      let _ ← enqueueError config outbound frame.sessionID frame.id refusal.code refusal.message refusal.retryable
      return ({close := refusal.close || refusal.code.behavior.closeConnection},.ok ())

def dispatchFrame (frame : Envelope) (outbound : Nat) : Server Reply := do
  ask (.handled outbound frame)
  match frame.type with
  | .hello => handleHello config frame outbound
  | .ping => handlePing config frame outbound
  | .send => handleSend config frame outbound
  | .stateQuery => handleStateQuery config frame outbound
  | .resume => handleResume config frame outbound
  | .error =>
    ask (.closeQueue outbound)
    return ({close := true},.ok ())
  | _ =>
    return ({close := true},← enqueueError config outbound frame.sessionID frame.id .protocolViolation
      (lit "unexpected client frame type") false)

def processFrame (frame : Envelope) (outbound : Nat) : Server Reply := do
  match validateFrame frame config.limits config.strictValidation with
  | .error error => refuseFrame config frame outbound error
  | .ok () => dispatchFrame config frame outbound

def invokeServerProcess (frame : Envelope) (outbound : Nat) : Server Reply := do
  match ← processFrame config frame outbound with
  | (_,.error .panic) =>
    ask (.closeQueue outbound)
    return ({close := true},.error (.plain (lit "kmtproto: server dependency panicked")))
  | reply => return reply

/-- `ServerAdmission.Handle` behind its locked section. -/
def handleAdmitted (generation : ConnectionGeneration) (frame : Envelope) (outbound : Nat) :
    Server (Except Err Unit) := do
  let reply ← invokeServerProcess config frame outbound
  ask (.applyResult generation outbound reply.1)
  return reply.2

def handle (generation : ConnectionGeneration) (frame : Envelope) : Server (Except Err Unit) := do
  let valid := (validateFrame frame config.limits config.strictValidation).isOk
  match ← ask (.admitFrame generation frame valid) with
  | .stale => return .error errStaleConnection
  | .invalidState => return .error errInvalidState
  | .rejected outbound =>
    enqueueError config outbound frame.sessionID frame.id .protocolViolation
      (lit "frame is invalid for server connection state") false
  | .unvalidated outbound => handleAdmitted config generation frame outbound
  | .admitted outbound _ => handleAdmitted config generation frame outbound

inductive ServerCall where
  | handle (generation : ConnectionGeneration) (frame : Envelope)
  | replaceConnection
  | processFrame (frame : Envelope) (outbound : Nat)
  | publishEvent (sessionID eventID eventType content : Bytes) (outbound : Nat)
  | publishStateUpdate (sessionID updateID : Bytes) (object : StateObject) (outbound : Nat)
  | pruneBefore (sessionID : Bytes) (firstAvailableSeq : UInt64)

def ServerCall.program : ServerCall → Server (Except Err Unit)
  | .handle generation frame => Kmtproto.handle config generation frame
  | .replaceConnection => do
    let _ ← ask .replaceConnection
    return .ok ()
  | .processFrame frame outbound => do
    let reply ← Kmtproto.processFrame config frame outbound
    return reply.2
  | .publishEvent sessionID eventID eventType content outbound =>
    Kmtproto.publishEvent config sessionID eventID eventType content outbound
  | .publishStateUpdate sessionID updateID object outbound =>
    Kmtproto.publishStateUpdate config sessionID updateID object outbound
  | .pruneBefore sessionID firstAvailableSeq => do
    ask (.pruneBefore sessionID firstAvailableSeq)
    return .ok ()

end Handlers

end Kmtproto
