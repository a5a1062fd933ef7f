import Kmtproto.Validate

/-! The client state machine. Every method is a function from the client state to
the state it leaves and the actions or error it returns; the clock reading a
method takes is an argument. -/
namespace Kmtproto
open Json

structure ClientConfig where
  limits : Limits := defaultLimits
  capabilities : List CapabilityOffer := []
  heartbeatTimeout : Int := 20000000000
  disconnectGrace : Int := 10000000000
  strictValidation : Bool := true
  maxReplayEvents : UInt64 := 4096
  maxReplayBytes : Int := 16777216
  eventIdentityWindow : UInt64 := 4096
  maxStateObjects : Int := 4096
  maxStateBytes : Int := 16777216
  deriving DecidableEq, Repr

structure PendingPing where
  id : Bytes
  sentAt : Int
  generation : ConnectionGeneration
  deriving DecidableEq, Repr

structure Client where
  config : ClientConfig
  state : ConnectionState := .disconnected
  generation : ConnectionGeneration := 0
  sessionID : Bytes := []
  lastSeq : UInt64 := 0
  eventIDs : AList (fun _ : UInt64 => Bytes) := ∅
  outbox : AList (fun _ : Bytes => Envelope) := ∅
  pendingPing : Option PendingPing := none
  suspectAt : Int := zeroTime
  capabilities : SessionCapabilities := .empty
  stateObjects : AList (fun _ : StateIdentity => StateObject) := ∅
  stateBytes : Int := 0
  stateQueries : AList (fun _ : Bytes => StateQueryPayload) := ∅
  replayTo : UInt64 := 0
  replayBuffer : List Envelope := []
  replayBytes : Int := 0
  resumeStateNamespaces : List Bytes := []
  resumeEventsComplete : Bool := false
  gapResume : Bool := false
  deriving DecidableEq

inductive Action where
  | sendFrame (frame : Envelope)
  | deliverEvent (event : Envelope)
  | acked (messageID : Bytes)
  | sessionReady (sessionID : Bytes)
  | stateChanged (state : StateObject) (result : StateApplyResult)
  | protocolError (error : ErrorPayload)
  | fullSyncRequired (sessionID : Bytes)
  | closeConnection (reason : Bytes)
  deriving DecidableEq, Repr

abbrev Outcome := Client × Except Err (List Action)

def Client.reply (c : Client) (actions : List Action) : Outcome := (c,.ok actions)

def Client.refuse (c : Client) (error : Err) : Outcome := (c,.error error)

/-- A count or size left at zero takes its default. -/
def normalizeClientConfig (config : ClientConfig) (offers : List CapabilityOffer) : ClientConfig :=
  {config with
    limits := normalizeLimits config.limits
    capabilities := offers
    maxReplayEvents := if config.maxReplayEvents = 0 then 4096 else config.maxReplayEvents
    maxReplayBytes := orDefault config.maxReplayBytes 16777216
    eventIdentityWindow := if config.eventIdentityWindow = 0 then 4096 else config.eventIdentityWindow
    maxStateObjects := orDefault config.maxStateObjects 4096
    maxStateBytes := orDefault config.maxStateBytes 16777216}

def newClientProtocol (config : ClientConfig) : Except Err Client := do
  let limits := normalizeLimits config.limits
  validateLimits limits
  let offers ← wrapError (lit "kmtproto: invalid client capabilities")
    (validateAndCopyCapabilityOffers config.capabilities limits)
  wrapError (lit "kmtproto: invalid client capabilities") (validateImplementedCapabilityOffers offers)
  let config := normalizeClientConfig config offers
  if config.heartbeatTimeout ≤ 0 ∨ config.disconnectGrace ≤ 0 then
    .error (.plain (lit "kmtproto: heartbeat durations must be positive"))
  else if config.maxReplayBytes < 0 ∨ config.maxStateObjects < 0 ∨ config.maxStateBytes < 0 then
    .error (.plain (lit "kmtproto: replay and State limits must be positive"))
  else .ok {config := config}

def Client.resetConnectionTransient (c : Client) : Client :=
  {c with
    pendingPing := none
    suspectAt := zeroTime
    stateQueries := ∅
    replayBuffer := []
    replayTo := 0
    replayBytes := 0
    resumeStateNamespaces := []
    resumeEventsComplete := false
    gapResume := false}

def Client.beginRecovery (c : Client) (namespaces : List Bytes) (gap : Bool) : Client :=
  {c.resetConnectionTransient with state := .resuming, resumeStateNamespaces := namespaces, gapResume := gap}

def Client.drop (c : Client) : Client := {c.resetConnectionTransient with state := .disconnected}

def Client.resumeFrame (c : Client) (namespaces : List Bytes) (now : Int) : Envelope :=
  {type := .resume, sessionID := c.sessionID, timestamp := unixMilli now,
   payload := ResumePayload.marshal
     {lastSeq := c.lastSeq, stateSync := if namespaces.isEmpty then none else some ⟨namespaces⟩}}

def Client.validates (c : Client) (frame : Envelope) : Except Err Unit :=
  validateOutboundFrame frame c.config.limits c.config.strictValidation

def Client.beginConnect (c : Client) : Outcome :=
  Client.reply {c.resetConnectionTransient with generation := c.generation+1, state := .connecting} []

def Client.transportConnected (c : Client) (generation : ConnectionGeneration) : Outcome :=
  if generation ≠ c.generation then c.refuse errStaleConnection
  else if c.state ≠ .connecting then c.refuse errInvalidState
  else Client.reply {c with state := .connected} []

def Client.startSession (c : Client) (generation : ConnectionGeneration) (clientName : Bytes) : Outcome :=
  if generation ≠ c.generation then c.refuse errStaleConnection
  else if c.state ≠ .connected ∨ c.sessionID ≠ [] then c.refuse errInvalidState
  else
    let payload := HelloPayload.marshal {clientName := clientName, capabilities := c.config.capabilities}
    let frame : Envelope := {type := .hello, payload := payload}
    match c.validates frame with
    | .error error => c.refuse error
    | .ok () => Client.reply {c with state := .handshaking} [.sendFrame frame]

def Client.startResume (c : Client) (generation : ConnectionGeneration) (namespaces : List Bytes) (now : Int) : Outcome :=
  if generation ≠ c.generation then c.refuse errStaleConnection
  else if c.state ≠ .connected ∨ c.sessionID = [] then c.refuse errInvalidState
  else
    let frame := c.resumeFrame namespaces now
    match c.validates frame with
    | .error error => c.refuse error
    | .ok () => (c.beginRecovery namespaces false).reply [.sendFrame frame]

def Client.resume (c : Client) (generation : ConnectionGeneration) (now : Int) : Outcome :=
  c.startResume generation [] now

def Client.resumeWithState (c : Client) (generation : ConnectionGeneration) (namespaces : List Bytes) (now : Int) :
    Outcome :=
  if generation ≠ c.generation then c.refuse errStaleConnection
  else if !stateSyncEnabled c.capabilities then
    c.refuse (.protocol (newProtocolError .protocolViolation
      (lit "state-sync capability version 1 was not negotiated")))
  else
    let canonical := sortStrings namespaces
    match validateResumeStateSync ⟨canonical⟩ c.config.limits with
    | .error error => c.refuse error
    | .ok () => c.startResume generation canonical now

def Client.disconnect (c : Client) (generation : ConnectionGeneration) : Outcome :=
  if generation ≠ c.generation then c.refuse errStaleConnection else c.drop.reply []

def Client.queryState (c : Client) (queryID namespace_ : Bytes) (objectIDs : List Bytes) (now : Int) : Outcome :=
  if c.state ≠ .ready ∨ c.sessionID = [] then c.refuse errInvalidState
  else if !stateSyncEnabled c.capabilities then
    c.refuse (.protocol (newProtocolError .protocolViolation
      (lit "state-sync capability version 1 was not negotiated")))
  else
    let payload : StateQueryPayload := {namespace_ := namespace_, objectIDs := sortStrings objectIDs}
    let frame : Envelope := {type := .stateQuery, id := queryID, sessionID := c.sessionID,
                             timestamp := unixMilli now, payload := payload.marshal}
    match c.validates frame with
    | .error error => c.refuse error
    | .ok () =>
      if (c.stateQueries.lookup queryID).isSome then
        c.refuse (.protocol (newProtocolError .protocolViolation (lit "duplicate pending STATE_QUERY id")))
      else Client.reply {c with stateQueries := c.stateQueries.insert queryID payload} [.sendFrame frame]

def Client.enqueueSend (c : Client) (messageID content : Bytes) (now : Int) : Outcome :=
  if c.state ≠ .ready ∨ c.sessionID = [] then c.refuse errInvalidState
  else if messageID = [] ∨ (messageID.length : Int) > c.config.limits.maxIDLength ∨ !valid content then
    c.refuse (.protocol (newProtocolError .badRequest (lit "invalid SEND id or content")))
  else if (content.length : Int) > c.config.limits.maxPayloadSize then
    c.refuse (.protocol (newProtocolError .badRequest (lit "SEND content exceeds maximum payload size")))
  else if (c.outbox.lookup messageID).isSome then
    c.refuse (.protocol (newProtocolError .protocolViolation (lit "duplicate local message id")))
  else
    match SendPayload.marshal {content := content} with
    | none => c.refuse .panic
    | some payload =>
      let frame : Envelope := {type := .send, id := messageID, sessionID := c.sessionID,
                               timestamp := unixMilli now, payload := payload}
      match c.validates frame with
      | .error error => c.refuse error
      | .ok () => Client.reply {c with outbox := c.outbox.insert messageID frame} [.sendFrame frame]

def Client.retryPending (c : Client) : Outcome :=
  if c.state ≠ .ready then c.refuse errInvalidState
  else c.reply ((sortStrings c.outbox.keys).filterMap (fun id => (c.outbox.lookup id).map Action.sendFrame))

def Client.sendPing (c : Client) (generation : ConnectionGeneration) (pingID : Bytes) (now : Int) : Outcome :=
  if generation ≠ c.generation then c.refuse errStaleConnection
  else if c.state ≠ .ready ∨ c.pendingPing.isSome ∨ pingID = [] then c.refuse errInvalidState
  else
    let frame : Envelope := {type := .ping, sessionID := c.sessionID, timestamp := unixMilli now,
                             payload := PingPayload.marshal {pingID := pingID, clientTime := unixMilli now}}
    match c.validates frame with
    | .error error => c.refuse error
    | .ok () =>
      Client.reply {c with pendingPing := some ⟨pingID,now,generation⟩} [.sendFrame frame]

def Client.checkHeartbeat (c : Client) (generation : ConnectionGeneration) (now : Int) : Outcome :=
  if generation ≠ c.generation then c.refuse errStaleConnection
  else
    match c.pendingPing with
    | none => c.reply []
    | some ping =>
      if c.state = .ready ∧ now - ping.sentAt ≥ c.config.heartbeatTimeout then
        Client.reply {c with state := .suspect, suspectAt := now} []
      else if c.state = .suspect ∧ now - c.suspectAt ≥ c.config.disconnectGrace then
        c.drop.reply [.closeConnection (lit "heartbeat timeout")]
      else c.reply []

def Client.rememberEvent (c : Client) (seq : UInt64) (eventID : Bytes) : Client :=
  let eventIDs := c.eventIDs.insert seq eventID
  {c with eventIDs :=
    if seq > c.config.eventIdentityWindow then eventIDs.erase (seq - c.config.eventIdentityWindow) else eventIDs}

def Client.commitEvent (c : Client) (event : Envelope) : Client :=
  Client.rememberEvent {c with lastSeq := event.seq} event.seq event.id

def Client.commitReplay (c : Client) : Client := c.replayBuffer.foldl Client.commitEvent c

def Client.stopResume (c : Client) (code : ErrorCode) (reason : Bytes) : Outcome :=
  c.drop.reply [.protocolError {code := code.name, message := reason, retryable := false},
    .fullSyncRequired c.sessionID,.closeConnection reason]

def Client.stopReplay (c : Client) (reason : Bytes) : Outcome := c.stopResume .syncRequired reason

def Client.stopStateResume (c : Client) (reason : Bytes) : Outcome := c.stopResume .stateSyncRequired reason

def Client.handleIncomingFailure (c : Client) (error : Err) : Outcome :=
  if c.state ≠ .resuming then c.refuse error
  else
    let reason := lit "resume failed: " ++ error.text
    if c.resumeStateNamespaces.isEmpty then c.stopReplay reason else c.stopStateResume reason

def stateObjectBytes (object : StateObject) : Int :=
  object.namespace_.length + object.objectID.length + object.data.length + 8

def replayEventBytes (frame : Envelope) : Int :=
  frame.id.length + frame.sessionID.length + frame.payload.length + 32

structure StateCache where
  objects : AList (fun _ : StateIdentity => StateObject)
  bytes : Int
  actions : List Action

def StateCache.apply (config : ClientConfig) (cache : StateCache) (incoming : StateObject) : Except Err StateCache :=
  let current := cache.objects.lookup incoming.identity
  match applyStateObject current incoming config.limits with
  | .error error =>
    if error.is .stateStale || error.is .stateConflict then
      .error (.protocol {newProtocolError .invalidStateVersion (lit "State version is stale or conflicting") with
        cause := if error.is .stateStale then some .stateStale else some .stateConflict})
    else .error error
  | .ok (committed,result) =>
    if result = .duplicate then .ok cache
    else if current.isNone ∧ (cache.objects.entries.length : Int)+1 > config.maxStateObjects then
      fail .syncRequired (lit "State cache exceeds configured object limit")
    else
      let bytes := cache.bytes - (match current with | some object => stateObjectBytes object | none => 0) +
        stateObjectBytes committed
      if bytes > config.maxStateBytes then
        fail .syncRequired (lit "State cache exceeds configured byte limit")
      else .ok ⟨cache.objects.insert incoming.identity committed,bytes,
        cache.actions++[.stateChanged committed result]⟩

/-- `applyStateObjectsLocked`: all replacements or none. -/
def Client.applyStateObjects (c : Client) (objects : List StateObject) : Except Err (Client × List Action) := do
  let cache ← objects.foldlM (StateCache.apply c.config) ⟨c.stateObjects,c.stateBytes,[]⟩
  return ({c with stateObjects := cache.objects, stateBytes := cache.bytes},cache.actions)

def Client.handleResumeStateSnapshot (c : Client) (frame : Envelope) : Outcome :=
  if !stateSyncEnabled c.capabilities || c.resumeStateNamespaces.isEmpty then
    c.refuse (.protocol (newProtocolError .protocolViolation (lit "unexpected resume STATE_SNAPSHOT")))
  else if !c.resumeEventsComplete then
    c.refuse (.protocol (newProtocolError .protocolViolation
      (lit "resume STATE_SNAPSHOT arrived before EVENT replay completed")))
  else
    match decodePayload readSnapshot {} frame.payload c.config.strictValidation with
    | .error error => c.refuse error
    | .ok payload =>
      if payload.states.any (fun object => object.namespace_ ∉ c.resumeStateNamespaces) then
        c.refuse (.protocol (newProtocolError .protocolViolation
          (lit "resume STATE_SNAPSHOT returned an unrequested namespace")))
      else
        match c.applyStateObjects payload.states with
        | .error _ => c.stopStateResume (lit "State snapshot conflicts with retained State")
        | .ok (merged,stateActions) =>
          Client.reply {merged.commitReplay.resetConnectionTransient with state := .ready}
            (c.replayBuffer.map Action.deliverEvent ++ stateActions ++ [.sessionReady c.sessionID])

def Client.handleStateSnapshot (c : Client) (frame : Envelope) : Outcome :=
  if c.state = .resuming then c.handleResumeStateSnapshot frame
  else if c.state ≠ .ready then c.refuse errInvalidState
  else if !stateSyncEnabled c.capabilities then
    c.refuse (.protocol (newProtocolError .protocolViolation
      (lit "STATE_SNAPSHOT requires state-sync capability version 1")))
  else
    match c.stateQueries.lookup frame.id with
    | none =>
      c.refuse (.protocol (newProtocolError .protocolViolation
        (lit "STATE_SNAPSHOT does not match a pending query")))
    | some query =>
      match decodePayload readSnapshot {} frame.payload c.config.strictValidation with
      | .error error => c.refuse error
      | .ok payload =>
        -- the first object that was not asked for decides which error is returned
        match payload.states.find? (fun object =>
            object.namespace_ != query.namespace_ || object.objectID ∉ query.objectIDs) with
        | some object =>
          c.refuse (.protocol (newProtocolError .protocolViolation
            (if object.namespace_ ≠ query.namespace_ then lit "STATE_SNAPSHOT returned another namespace"
             else lit "STATE_SNAPSHOT returned an unrequested object")))
        | none =>
          match c.applyStateObjects payload.states with
          | .error error => c.refuse error
          | .ok (merged,actions) =>
            Client.reply {merged with stateQueries := merged.stateQueries.erase frame.id} actions

def Client.handleStateUpdate (c : Client) (frame : Envelope) : Outcome :=
  if c.state ≠ .ready then c.refuse errInvalidState
  else if !stateSyncEnabled c.capabilities then
    c.refuse (.protocol (newProtocolError .protocolViolation
      (lit "STATE_UPDATE requires state-sync capability version 1")))
  else
    match decodePayload readUpdate {} frame.payload c.config.strictValidation with
    | .error error => c.refuse error
    | .ok payload =>
      match c.applyStateObjects [payload.state] with
      | .error error => c.refuse error
      | .ok (merged,actions) => merged.reply actions

def Client.handleNewWelcome (c : Client) (frame : Envelope) (payload : WelcomePayload) : Outcome :=
  if payload.mode ≠ welcomeModeNew ∨ frame.sessionID = [] then
    c.refuse (.protocol (newProtocolError .protocolViolation (lit "expected NEW WELCOME")))
  else
    match validateNegotiatedAgainstOffers c.config.capabilities payload.acceptedCapabilities c.config.limits with
    | .error error => c.refuse error
    | .ok () =>
      match newSessionCapabilities payload.acceptedCapabilities c.config.limits with
      | .error error => c.refuse error
      | .ok capabilities =>
        Client.reply {c with sessionID := frame.sessionID, capabilities := capabilities, state := .ready}
          [.sessionReady frame.sessionID]

/-- The namespaces a RESUMED WELCOME echoes are those the RESUME asked for. -/
def Client.checkStateSync (c : Client) (stateSync : Option ResumeStateSync) : Except Err Unit :=
  if c.resumeStateNamespaces.isEmpty then
    reject stateSync.isSome .protocolViolation (lit "unexpected resume state_sync acknowledgement")
  else
    reject (stateSync.map (·.namespaces) ≠ some c.resumeStateNamespaces) .protocolViolation
      (lit "resume state_sync acknowledgement mismatch")

def Client.handleResumedWelcome (c : Client) (frame : Envelope) (payload : WelcomePayload) : Outcome :=
  if payload.mode ≠ welcomeModeResumed ∨ frame.sessionID ≠ c.sessionID ∨ payload.resumeFrom ≠ c.lastSeq+1 ∨
      payload.replayTo < c.lastSeq then
    c.refuse (.protocol (newProtocolError .protocolViolation (lit "invalid resume acknowledgement")))
  else
    match c.checkStateSync payload.stateSync with
    | .error error => c.refuse error
    | .ok () =>
      let fixed : Client := {c with
        replayTo := payload.replayTo
        replayBuffer := []
        replayBytes := 0
        resumeEventsComplete := payload.replayTo == c.lastSeq
        gapResume := false}
      if payload.replayTo - c.lastSeq > c.config.maxReplayEvents then
        fixed.stopReplay (lit "replay exceeds configured event limit")
      else if payload.replayTo = c.lastSeq ∧ c.resumeStateNamespaces.isEmpty then
        Client.reply {fixed.resetConnectionTransient with state := .ready} [.sessionReady c.sessionID]
      else fixed.reply []

def Client.handleWelcome (c : Client) (frame : Envelope) : Outcome :=
  match decodePayload readWelcome {} frame.payload c.config.strictValidation with
  | .error error => c.refuse error
  | .ok payload =>
    match c.state with
    | .handshaking => c.handleNewWelcome frame payload
    | .resuming => c.handleResumedWelcome frame payload
    | _ => c.refuse errInvalidState

def Client.handlePong (c : Client) (generation : ConnectionGeneration) (frame : Envelope) : Outcome :=
  if c.state ≠ .ready ∧ c.state ≠ .suspect then c.refuse errInvalidState
  else
    match decodePayload readPong {} frame.payload c.config.strictValidation with
    | .error error => c.refuse error
    | .ok payload =>
      match c.pendingPing with
      | none => c.reply []
      | some ping =>
        if payload.pingID ≠ ping.id ∨ generation ≠ ping.generation then c.reply []
        else Client.reply {c with pendingPing := none, suspectAt := zeroTime,
                                  state := if c.state = .suspect then .ready else c.state} []

def Client.handleAck (c : Client) (frame : Envelope) : Outcome :=
  if c.state ≠ .ready ∧ c.state ≠ .suspect then c.refuse errInvalidState
  else
    match decodePayload readAck {} frame.payload c.config.strictValidation with
    | .error error => c.refuse error
    | .ok payload =>
      if (c.outbox.lookup payload.refID).isNone then c.reply []
      else Client.reply {c with outbox := c.outbox.erase payload.refID} [.acked payload.refID]

def Client.handleOldEvent (c : Client) (frame : Envelope) : Outcome :=
  match c.eventIDs.lookup frame.seq with
  | none => c.refuse errIdentityExpired
  | some knownID => if knownID = frame.id then c.reply [] else c.refuse errProtocolConflict

def Client.handleReplayEvent (c : Client) (frame : Envelope) : Outcome :=
  if c.replayTo = 0 then
    -- EVENTs in flight on the connection that exposed the gap are superseded by the replay
    if c.gapResume then c.reply []
    else c.refuse (.protocol (newProtocolError .protocolViolation (lit "EVENT arrived before RESUMED WELCOME")))
  else if frame.seq ≠ c.lastSeq + UInt64.ofNat c.replayBuffer.length + 1 ∨ frame.seq > c.replayTo then
    c.refuse (.protocol (newProtocolError .protocolViolation (lit "invalid replay sequence")))
  else if UInt64.ofNat c.replayBuffer.length + 1 > c.config.maxReplayEvents ∨
      replayEventBytes frame > c.config.maxReplayBytes - c.replayBytes then
    c.stopReplay (lit "replay exceeds configured memory limit")
  else
    let buffered : Client := {c with replayBuffer := c.replayBuffer++[frame]
                                     replayBytes := c.replayBytes + replayEventBytes frame}
    if frame.seq ≠ c.replayTo then buffered.reply []
    else if !c.resumeStateNamespaces.isEmpty then Client.reply {buffered with resumeEventsComplete := true} []
    else
      Client.reply {buffered.commitReplay.resetConnectionTransient with state := .ready}
        (buffered.replayBuffer.map Action.deliverEvent ++ [.sessionReady c.sessionID])

def Client.handleLiveEvent (c : Client) (frame : Envelope) (now : Int) : Outcome :=
  if frame.seq > c.lastSeq+1 then
    let resume := c.resumeFrame [] now
    match c.validates resume with
    | .error error => c.refuse error
    | .ok () => (c.beginRecovery [] true).reply [.sendFrame resume]
  else (c.commitEvent frame).reply [.deliverEvent frame]

def Client.handleEvent (c : Client) (frame : Envelope) (now : Int) : Outcome :=
  if c.state ≠ .ready ∧ c.state ≠ .resuming then c.refuse errInvalidState
  else if frame.seq ≤ c.lastSeq then c.handleOldEvent frame
  else if c.state = .resuming then c.handleReplayEvent frame
  else c.handleLiveEvent frame now

def Client.abandonSession (c : Client) : Client :=
  {c.resetConnectionTransient with
    state := .disconnected
    sessionID := []
    lastSeq := 0
    eventIDs := ∅
    outbox := ∅
    capabilities := .empty
    stateObjects := ∅
    stateBytes := 0}

def Client.forgetQuery (c : Client) (refID : Bytes) : Client :=
  if refID = [] then c else {c with stateQueries := c.stateQueries.erase refID}

def Client.applyError (c : Client) (payload : ErrorPayload) (behavior : ErrorBehavior) : Outcome :=
  let wasResuming := c.state = .resuming
  let stateRecovery := !c.resumeStateNamespaces.isEmpty
  let fullSync := behavior.fullSyncRequired || behavior.abandonSession ||
    (stateRecovery && payload.code == ErrorCode.name .stateSyncRequired)
  -- a rejected Resume attempt is terminal: what needs no full sync closes the connection
  let needClose := behavior.closeConnection || (decide wasResuming && !fullSync)
  let queried := c.forgetQuery payload.refID
  let stopped := if wasResuming then queried.drop else queried
  let kept := if behavior.abandonSession then stopped.abandonSession else stopped
  let left := if needClose then kept.drop else kept
  left.reply ([.protocolError payload] ++
    (if wasResuming ∧ fullSync then [.fullSyncRequired c.sessionID] else []) ++
    (if needClose then [.closeConnection payload.code] else []))

def Client.handleError (c : Client) (frame : Envelope) : Outcome :=
  match decodePayload readError {} frame.payload c.config.strictValidation with
  | .error _ => c.drop.reply [.closeConnection (lit "invalid ERROR frame")]
  | .ok payload => c.applyError payload ((behaviorForErrorCode payload.code).getD {})

def Client.dispatch (c : Client) (generation : ConnectionGeneration) (frame : Envelope) (now : Int) : Outcome :=
  match frame.type with
  | .welcome => c.handleWelcome frame
  | .pong => c.handlePong generation frame
  | .ack => c.handleAck frame
  | .event => c.handleEvent frame now
  | .stateSnapshot => c.handleStateSnapshot frame
  | .stateUpdate => c.handleStateUpdate frame
  | .error => c.handleError frame
  | _ => c.refuse (.protocol (newProtocolError .protocolViolation (lit "unexpected server frame type")))

/-- The session a frame must name, apart from WELCOME. -/
def Client.correlates (c : Client) (frame : Envelope) : Except Err Unit :=
  match frame.type with
  | .welcome => .ok ()
  | .error => reject (frame.sessionID ≠ [] ∧ frame.sessionID ≠ c.sessionID) .protocolViolation
      (lit "ERROR belongs to another session")
  | _ => reject (frame.sessionID ≠ c.sessionID) .protocolViolation (lit "frame belongs to another session")

def Client.handleIncoming (c : Client) (generation : ConnectionGeneration) (frame : Envelope) (now : Int) : Outcome :=
  if generation ≠ c.generation then c.refuse errStaleConnection
  else
    match validateFrame frame c.config.limits c.config.strictValidation with
    | .error error =>
      if frame.type = .error then c.drop.reply [.closeConnection (lit "invalid ERROR frame")]
      else c.handleIncomingFailure error
    | .ok () =>
      match c.correlates frame with
      | .error error => c.handleIncomingFailure error
      | .ok () =>
        match c.dispatch generation frame now with
        | (failed,.error error) => failed.handleIncomingFailure error
        | (handled,.ok actions) => handled.reply actions

inductive Call where
  | beginConnect
  | transportConnected (generation : ConnectionGeneration)
  | startSession (generation : ConnectionGeneration) (clientName : Bytes)
  | resume (generation : ConnectionGeneration)
  | resumeWithState (generation : ConnectionGeneration) (namespaces : List Bytes)
  | disconnect (generation : ConnectionGeneration)
  | queryState (queryID namespace_ : Bytes) (objectIDs : List Bytes)
  | enqueueSend (messageID content : Bytes)
  | retryPending
  | sendPing (generation : ConnectionGeneration) (pingID : Bytes)
  | checkHeartbeat (generation : ConnectionGeneration)
  | handleIncoming (generation : ConnectionGeneration) (frame : Envelope)
  deriving DecidableEq, Repr

def Client.step (c : Client) (now : Int) : Call → Outcome
  | .beginConnect => c.beginConnect
  | .transportConnected generation => c.transportConnected generation
  | .startSession generation clientName => c.startSession generation clientName
  | .resume generation => c.resume generation now
  | .resumeWithState generation namespaces => c.resumeWithState generation namespaces now
  | .disconnect generation => c.disconnect generation
  | .queryState queryID namespace_ objectIDs => c.queryState queryID namespace_ objectIDs now
  | .enqueueSend messageID content => c.enqueueSend messageID content now
  | .retryPending => c.retryPending
  | .sendPing generation pingID => c.sendPing generation pingID now
  | .checkHeartbeat generation => c.checkHeartbeat generation now
  | .handleIncoming generation frame => c.handleIncoming generation frame now

end Kmtproto
