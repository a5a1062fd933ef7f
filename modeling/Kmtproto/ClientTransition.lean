import Kmtproto.Client

/-! Everything one client call can do. Each constructor is one outcome of a
method with the guards under which the source reaches it; the invariants of the
client are proved from these cases and never unfold a method again. -/
namespace Kmtproto
open Json

/-- The frame passed generation, validation and session correlation. -/
structure Client.Accepts (c : Client) (generation : ConnectionGeneration) (frame : Envelope) : Prop where
  current : generation = c.generation
  valid : validateFrame frame c.config.limits c.config.strictValidation = .ok ()
  correlated : c.correlates frame = .ok ()

structure Client.Acknowledges (c : Client) (frame : Envelope) (payload : WelcomePayload) : Prop where
  resuming : c.state = .resuming
  decoded : decodePayload readWelcome {} frame.payload c.config.strictValidation = .ok payload
  mode : payload.mode = welcomeModeResumed
  session : frame.sessionID = c.sessionID
  start : payload.resumeFrom = c.lastSeq+1
  stop : c.lastSeq ≤ payload.replayTo
  sync : c.checkStateSync payload.stateSync = .ok ()

def Client.fixReplay (c : Client) (replayTo : UInt64) : Client :=
  {c with
    replayTo := replayTo
    replayBuffer := []
    replayBytes := 0
    resumeEventsComplete := replayTo == c.lastSeq
    gapResume := false}

structure Client.Continues (c : Client) (frame : Envelope) : Prop where
  resuming : c.state = .resuming
  event : frame.type = .event
  later : c.lastSeq < frame.seq
  fixed : c.replayTo ≠ 0
  next : frame.seq = c.lastSeq + UInt64.ofNat c.replayBuffer.length + 1
  inside : frame.seq ≤ c.replayTo
  count : UInt64.ofNat c.replayBuffer.length + 1 ≤ c.config.maxReplayEvents
  size : replayEventBytes frame ≤ c.config.maxReplayBytes - c.replayBytes

def Client.bufferEvent (c : Client) (frame : Envelope) : Client :=
  {c with replayBuffer := c.replayBuffer++[frame], replayBytes := c.replayBytes + replayEventBytes frame}

def Client.completeRecovery (c : Client) : Client :=
  {c.commitReplay.resetConnectionTransient with state := .ready}

structure Client.Completes (c : Client) (frame : Envelope) (payload : StateSnapshotPayload) : Prop where
  resuming : c.state = .resuming
  snapshot : frame.type = .stateSnapshot
  enabled : stateSyncEnabled c.capabilities = true
  requested : c.resumeStateNamespaces ≠ []
  replayed : c.resumeEventsComplete = true
  decoded : decodePayload readSnapshot {} frame.payload c.config.strictValidation = .ok payload
  namespaces : ∀ object ∈ payload.states, object.namespace_ ∈ c.resumeStateNamespaces

def stopActions (c : Client) (code : ErrorCode) (reason : Bytes) : List Action :=
  [.protocolError {code := code.name, message := reason, retryable := false},.fullSyncRequired c.sessionID,
    .closeConnection reason]

inductive ErrorTail (c : Client) (payload : ErrorPayload) : List Action → Prop
  | none : ErrorTail c payload []
  | sync : ErrorTail c payload [.fullSyncRequired c.sessionID]
  | close : ErrorTail c payload [.closeConnection payload.code]
  | both : ErrorTail c payload [.fullSyncRequired c.sessionID,.closeConnection payload.code]

/-- The outcomes of one call, `c` being the state before it. -/
inductive Transition (c : Client) (now : Int) : Call → Client → Except Err (List Action) → Prop
  | refused (call : Call) (error : Err) : Transition c now call c (.error error)
  | silent (call : Call) : Transition c now call c (.ok [])
  | retried (ready : c.state = .ready) :
      Transition c now .retryPending c
        (.ok ((sortStrings c.outbox.keys).filterMap (fun id => (c.outbox.lookup id).map Action.sendFrame)))
  | connecting :
      Transition c now .beginConnect
        {c.resetConnectionTransient with generation := c.generation+1, state := .connecting} (.ok [])
  | connected (starts : c.state = .connecting) :
      Transition c now (.transportConnected c.generation) {c with state := .connected} (.ok [])
  | handshaking (clientName : Bytes) (frame : Envelope) (starts : c.state = .connected) (fresh : c.sessionID = [])
      (hello : frame.type = .hello) :
      Transition c now (.startSession c.generation clientName) {c with state := .handshaking}
        (.ok [.sendFrame frame])
  | resumed (call : Call) (namespaces : List Bytes) (starts : c.state = .connected) (session : c.sessionID ≠ [])
      (asked : call = .resume c.generation ∧ namespaces = [] ∨
        ∃ names, call = .resumeWithState c.generation names ∧ namespaces = sortStrings names ∧
          stateSyncEnabled c.capabilities = true ∧ validateResumeStateSync ⟨namespaces⟩ c.config.limits = .ok ())
      (valid : c.validates (c.resumeFrame namespaces now) = .ok ()) :
      Transition c now call (c.beginRecovery namespaces false) (.ok [.sendFrame (c.resumeFrame namespaces now)])
  | disconnected : Transition c now (.disconnect c.generation) c.drop (.ok [])
  | queried (queryID namespace_ : Bytes) (objectIDs : List Bytes) (payload : StateQueryPayload) (frame : Envelope)
      (ready : c.state = .ready) (session : c.sessionID ≠ []) (query : frame.type = .stateQuery) :
      Transition c now (.queryState queryID namespace_ objectIDs)
        {c with stateQueries := c.stateQueries.insert queryID payload} (.ok [.sendFrame frame])
  | enqueued (messageID content payload : Bytes) (frame : Envelope) (ready : c.state = .ready)
      (session : c.sessionID ≠ []) (fresh : c.outbox.lookup messageID = none)
      (encoded : SendPayload.marshal {content := content} = some payload)
      (built : frame = {type := .send, id := messageID, sessionID := c.sessionID, timestamp := unixMilli now,
                        payload := payload})
      (valid : c.validates frame = .ok ()) :
      Transition c now (.enqueueSend messageID content) {c with outbox := c.outbox.insert messageID frame}
        (.ok [.sendFrame frame])
  | pinged (pingID : Bytes) (frame : Envelope) (ready : c.state = .ready) (idle : c.pendingPing = none)
      (ping : frame.type = .ping) :
      Transition c now (.sendPing c.generation pingID) {c with pendingPing := some ⟨pingID,now,c.generation⟩}
        (.ok [.sendFrame frame])
  | suspected (ping : PendingPing) (ready : c.state = .ready) (pending : c.pendingPing = some ping)
      (late : now - ping.sentAt ≥ c.config.heartbeatTimeout) :
      Transition c now (.checkHeartbeat c.generation) {c with state := .suspect, suspectAt := now} (.ok [])
  | timedOut (suspect : c.state = .suspect) (late : now - c.suspectAt ≥ c.config.disconnectGrace) :
      Transition c now (.checkHeartbeat c.generation) c.drop (.ok [.closeConnection (lit "heartbeat timeout")])
  | established (generation : ConnectionGeneration) (frame : Envelope) (payload : WelcomePayload)
      (capabilities : SessionCapabilities) (accepts : c.Accepts generation frame) (welcome : frame.type = .welcome)
      (starts : c.state = .handshaking)
      (decoded : decodePayload readWelcome {} frame.payload c.config.strictValidation = .ok payload)
      (mode : payload.mode = welcomeModeNew) (session : frame.sessionID ≠ [])
      (negotiated : newSessionCapabilities payload.acceptedCapabilities c.config.limits = .ok capabilities) :
      Transition c now (.handleIncoming generation frame)
        {c with sessionID := frame.sessionID, capabilities := capabilities, state := .ready}
        (.ok [.sessionReady frame.sessionID])
  | welcomed (generation : ConnectionGeneration) (frame : Envelope) (payload : WelcomePayload)
      (accepts : c.Accepts generation frame) (welcome : frame.type = .welcome)
      (acknowledges : c.Acknowledges frame payload)
      (count : payload.replayTo - c.lastSeq ≤ c.config.maxReplayEvents)
      (unfinished : ¬ (payload.replayTo = c.lastSeq ∧ c.resumeStateNamespaces = [])) :
      Transition c now (.handleIncoming generation frame) (c.fixReplay payload.replayTo) (.ok [])
  | caughtUp (generation : ConnectionGeneration) (frame : Envelope) (payload : WelcomePayload)
      (accepts : c.Accepts generation frame) (welcome : frame.type = .welcome)
      (acknowledges : c.Acknowledges frame payload) (level : payload.replayTo = c.lastSeq)
      (plain : c.resumeStateNamespaces = []) :
      Transition c now (.handleIncoming generation frame) {c.resetConnectionTransient with state := .ready}
        (.ok [.sessionReady c.sessionID])
  | ponged (generation : ConnectionGeneration) (frame : Envelope) (payload : PongPayload) (ping : PendingPing)
      (accepts : c.Accepts generation frame) (pong : frame.type = .pong)
      (starts : c.state = .ready ∨ c.state = .suspect)
      (decoded : decodePayload readPong {} frame.payload c.config.strictValidation = .ok payload)
      (pending : c.pendingPing = some ping) (same : payload.pingID = ping.id ∧ generation = ping.generation) :
      Transition c now (.handleIncoming generation frame)
        {c with pendingPing := none, suspectAt := zeroTime,
                state := if c.state = .suspect then .ready else c.state} (.ok [])
  | acked (generation : ConnectionGeneration) (frame : Envelope) (payload : AckPayload) (entry : Envelope)
      (accepts : c.Accepts generation frame) (ack : frame.type = .ack) (starts : c.state = .ready ∨ c.state = .suspect)
      (decoded : decodePayload readAck {} frame.payload c.config.strictValidation = .ok payload)
      (pending : c.outbox.lookup payload.refID = some entry) :
      Transition c now (.handleIncoming generation frame) {c with outbox := c.outbox.erase payload.refID}
        (.ok [.acked payload.refID])
  | delivered (generation : ConnectionGeneration) (frame : Envelope) (accepts : c.Accepts generation frame)
      (event : frame.type = .event) (ready : c.state = .ready) (later : c.lastSeq < frame.seq)
      (next : frame.seq ≤ c.lastSeq+1) :
      Transition c now (.handleIncoming generation frame) (c.commitEvent frame) (.ok [.deliverEvent frame])
  | gapped (generation : ConnectionGeneration) (frame : Envelope) (accepts : c.Accepts generation frame)
      (event : frame.type = .event) (ready : c.state = .ready) (later : c.lastSeq < frame.seq)
      (gap : c.lastSeq+1 < frame.seq) (valid : c.validates (c.resumeFrame [] now) = .ok ()) :
      Transition c now (.handleIncoming generation frame) (c.beginRecovery [] true)
        (.ok [.sendFrame (c.resumeFrame [] now)])
  | buffered (generation : ConnectionGeneration) (frame : Envelope) (accepts : c.Accepts generation frame)
      (continues : c.Continues frame) (unfinished : frame.seq ≠ c.replayTo) :
      Transition c now (.handleIncoming generation frame) (c.bufferEvent frame) (.ok [])
  | replayedForState (generation : ConnectionGeneration) (frame : Envelope) (accepts : c.Accepts generation frame)
      (continues : c.Continues frame) (last : frame.seq = c.replayTo) (requested : c.resumeStateNamespaces ≠ []) :
      Transition c now (.handleIncoming generation frame) {c.bufferEvent frame with resumeEventsComplete := true}
        (.ok [])
  | replayed (generation : ConnectionGeneration) (frame : Envelope) (accepts : c.Accepts generation frame)
      (continues : c.Continues frame) (last : frame.seq = c.replayTo) (plain : c.resumeStateNamespaces = []) :
      Transition c now (.handleIncoming generation frame) (c.bufferEvent frame).completeRecovery
        (.ok ((c.replayBuffer++[frame]).map Action.deliverEvent ++ [.sessionReady c.sessionID]))
  | snapshotCompleted (generation : ConnectionGeneration) (frame : Envelope) (payload : StateSnapshotPayload)
      (merged : Client) (actions : List Action) (accepts : c.Accepts generation frame)
      (completes : c.Completes frame payload) (applied : c.applyStateObjects payload.states = .ok (merged,actions)) :
      Transition c now (.handleIncoming generation frame) merged.completeRecovery
        (.ok (c.replayBuffer.map Action.deliverEvent ++ actions ++ [.sessionReady c.sessionID]))
  | snapshotApplied (generation : ConnectionGeneration) (frame : Envelope) (payload : StateSnapshotPayload)
      (merged : Client) (actions : List Action) (accepts : c.Accepts generation frame)
      (snapshot : frame.type = .stateSnapshot) (ready : c.state = .ready)
      (applied : c.applyStateObjects payload.states = .ok (merged,actions))
      (decoded : decodePayload readSnapshot {} frame.payload c.config.strictValidation = .ok payload) :
      Transition c now (.handleIncoming generation frame)
        {merged with stateQueries := merged.stateQueries.erase frame.id} (.ok actions)
  | updated (generation : ConnectionGeneration) (frame : Envelope) (payload : StateUpdatePayload)
      (merged : Client) (actions : List Action) (accepts : c.Accepts generation frame)
      (update : frame.type = .stateUpdate) (ready : c.state = .ready)
      (applied : c.applyStateObjects [payload.state] = .ok (merged,actions)) :
      Transition c now (.handleIncoming generation frame) merged (.ok actions)
  | stopped (generation : ConnectionGeneration) (frame : Envelope) (code : ErrorCode) (reason : Bytes)
      (current : generation = c.generation) (resuming : c.state = .resuming) :
      Transition c now (.handleIncoming generation frame) c.drop (.ok (stopActions c code reason))
  | invalidError (generation : ConnectionGeneration) (frame : Envelope) (current : generation = c.generation)
      (error : frame.type = .error) :
      Transition c now (.handleIncoming generation frame) c.drop
        (.ok [.closeConnection (lit "invalid ERROR frame")])
  | errorKept (generation : ConnectionGeneration) (frame : Envelope) (payload : ErrorPayload)
      (accepts : c.Accepts generation frame) (error : frame.type = .error) (steady : c.state ≠ .resuming) :
      Transition c now (.handleIncoming generation frame) (c.forgetQuery payload.refID) (.ok [.protocolError payload])
  | errorDropped (generation : ConnectionGeneration) (frame : Envelope) (payload : ErrorPayload)
      (tail : List Action) (accepts : c.Accepts generation frame) (error : frame.type = .error)
      (reported : ErrorTail c payload tail) :
      Transition c now (.handleIncoming generation frame) c.drop (.ok (.protocolError payload::tail))
  | errorAbandoned (generation : ConnectionGeneration) (frame : Envelope) (payload : ErrorPayload)
      (tail : List Action) (accepts : c.Accepts generation frame) (error : frame.type = .error)
      (decoded : decodePayload readError {} frame.payload c.config.strictValidation = .ok payload)
      (code : payload.code = ErrorCode.name .invalidSession) (reported : ErrorTail c payload tail) :
      Transition c now (.handleIncoming generation frame) c.abandonSession (.ok (.protocolError payload::tail))

section Methods
variable (c : Client) (now : Int)

private def Explained (call : Call) (outcome : Outcome) : Prop := Transition c now call outcome.1 outcome.2

private theorem startSession_explained (generation : ConnectionGeneration) (clientName : Bytes) :
    Explained c now (.startSession generation clientName) (c.startSession generation clientName) := by
  unfold Client.startSession
  split
  · exact .refused _ _
  split
  · exact .refused _ _
  rename_i current state
  obtain rfl : generation = c.generation := by simpa using current
  have guards : c.state = .connected ∧ c.sessionID = [] := by simpa using state
  simp only []
  split
  · exact .refused _ _
  · exact .handshaking clientName _ guards.1 guards.2 rfl

private theorem startResume_explained (call : Call) (generation : ConnectionGeneration) (namespaces : List Bytes)
    (asked : generation = c.generation → call = .resume c.generation ∧ namespaces = [] ∨
      ∃ names, call = .resumeWithState c.generation names ∧ namespaces = sortStrings names ∧
        stateSyncEnabled c.capabilities = true ∧ validateResumeStateSync ⟨namespaces⟩ c.config.limits = .ok ()) :
    Explained c now call (c.startResume generation namespaces now) := by
  unfold Client.startResume
  split
  · exact .refused _ _
  split
  · exact .refused _ _
  rename_i current state
  have guards : c.state = .connected ∧ c.sessionID ≠ [] := by simpa using state
  simp only []
  split
  · exact .refused _ _
  · rename_i valid
    exact .resumed call namespaces guards.1 guards.2 (asked (by simpa using current)) valid

private theorem resumeWithState_explained (generation : ConnectionGeneration) (namespaces : List Bytes) :
    Explained c now (.resumeWithState generation namespaces) (c.resumeWithState generation namespaces now) := by
  unfold Client.resumeWithState
  split
  · exact .refused _ _
  split
  · exact .refused _ _
  rename_i _ enabled
  simp only []
  split
  · exact .refused _ _
  · rename_i valid
    refine startResume_explained c now _ generation _ (fun current => Or.inr ⟨namespaces,?_,rfl,?_,valid⟩)
    · rw [current]
    · simpa using enabled

private theorem queryState_explained (queryID namespace_ : Bytes) (objectIDs : List Bytes) :
    Explained c now (.queryState queryID namespace_ objectIDs) (c.queryState queryID namespace_ objectIDs now) := by
  unfold Client.queryState
  split
  · exact .refused _ _
  rename_i state
  have guards : c.state = .ready ∧ c.sessionID ≠ [] := by simpa using state
  split
  · exact .refused _ _
  simp only []
  split
  · exact .refused _ _
  split
  · exact .refused _ _
  · exact .queried queryID namespace_ objectIDs _ _ guards.1 guards.2 rfl

private theorem enqueueSend_explained (messageID content : Bytes) :
    Explained c now (.enqueueSend messageID content) (c.enqueueSend messageID content now) := by
  unfold Client.enqueueSend
  split
  · exact .refused _ _
  rename_i state
  have guards : c.state = .ready ∧ c.sessionID ≠ [] := by simpa using state
  split
  · exact .refused _ _
  split
  · exact .refused _ _
  split
  · exact .refused _ _
  rename_i fresh
  split
  · exact .refused _ _
  rename_i payload encoded
  simp only []
  split
  · exact .refused _ _
  · rename_i valid
    exact .enqueued messageID content payload _ guards.1 guards.2 (by simpa using fresh) encoded rfl valid

private theorem sendPing_explained (generation : ConnectionGeneration) (pingID : Bytes) :
    Explained c now (.sendPing generation pingID) (c.sendPing generation pingID now) := by
  unfold Client.sendPing
  split
  · exact .refused _ _
  split
  · exact .refused _ _
  rename_i current state
  obtain rfl : generation = c.generation := by simpa using current
  have guards : c.state = .ready ∧ c.pendingPing = none ∧ pingID ≠ [] := by simpa using state
  simp only []
  split
  · exact .refused _ _
  · exact .pinged pingID _ guards.1 guards.2.1 rfl

private theorem checkHeartbeat_explained (generation : ConnectionGeneration) :
    Explained c now (.checkHeartbeat generation) (c.checkHeartbeat generation now) := by
  unfold Client.checkHeartbeat
  split
  · exact .refused _ _
  rename_i current
  obtain rfl : generation = c.generation := by simpa using current
  split
  · exact .silent _
  rename_i ping pending
  split
  · rename_i ready
    exact .suspected ping ready.1 pending ready.2
  split
  · rename_i suspect
    exact .timedOut suspect.1 suspect.2
  · exact .silent _

end Methods

section Incoming
variable (c : Client) (now : Int) (generation : ConnectionGeneration) (frame : Envelope)

private def Handled (outcome : Outcome) : Prop :=
  (∃ error, outcome = c.refuse error) ∨
    ∃ next actions, outcome = (next,.ok actions) ∧
      Transition c now (.handleIncoming generation frame) next (.ok actions)

private theorem handled_refuse (error : Err) : Handled c now generation frame (c.refuse error) := Or.inl ⟨error,rfl⟩

private theorem handled_reply (next : Client) (actions : List Action)
    (transition : Transition c now (.handleIncoming generation frame) next (.ok actions)) :
    Handled c now generation frame (next.reply actions) := Or.inr ⟨next,actions,rfl,transition⟩

private theorem handled_silent : Handled c now generation frame (c.reply []) :=
  handled_reply c now generation frame c [] (.silent _)

private theorem handled_stop (current : generation = c.generation) (resuming : c.state = .resuming) (code : ErrorCode)
    (reason : Bytes) : Handled c now generation frame (c.stopResume code reason) :=
  handled_reply c now generation frame _ _ (.stopped generation frame code reason current resuming)

variable (accepts : c.Accepts generation frame)
include accepts

private theorem handleResumeStateSnapshot_handled (snapshot : frame.type = .stateSnapshot)
    (resuming : c.state = .resuming) :
    Handled c now generation frame (c.handleResumeStateSnapshot frame) := by
  unfold Client.handleResumeStateSnapshot
  split
  · exact handled_refuse ..
  rename_i enabled
  have guards : stateSyncEnabled c.capabilities = true ∧ c.resumeStateNamespaces ≠ [] := by simpa using enabled
  split
  · exact handled_refuse ..
  rename_i complete
  split
  · exact handled_refuse ..
  rename_i payload decoded
  split
  · exact handled_refuse ..
  rename_i inside
  split
  · exact handled_stop c now generation frame accepts.current resuming _ _
  · rename_i merged actions applied
    have completes : c.Completes frame payload :=
      ⟨resuming,snapshot,guards.1,guards.2,by simpa using complete,decoded,by simpa using inside⟩
    exact handled_reply c now generation frame _ _
      (.snapshotCompleted generation frame payload merged actions accepts completes applied)

private theorem handleStateSnapshot_handled (snapshot : frame.type = .stateSnapshot) :
    Handled c now generation frame (c.handleStateSnapshot frame) := by
  unfold Client.handleStateSnapshot
  split
  · exact handleResumeStateSnapshot_handled c now generation frame accepts snapshot ‹_›
  split
  · exact handled_refuse ..
  rename_i ready
  split
  · exact handled_refuse ..
  split
  · exact handled_refuse ..
  split
  · exact handled_refuse ..
  rename_i payload decoded
  split
  · exact handled_refuse ..
  split
  · exact handled_refuse ..
  · rename_i merged actions applied
    exact handled_reply c now generation frame _ _
      (.snapshotApplied generation frame payload merged actions accepts snapshot (by simpa using ready) applied decoded)

private theorem handleStateUpdate_handled (update : frame.type = .stateUpdate) :
    Handled c now generation frame (c.handleStateUpdate frame) := by
  unfold Client.handleStateUpdate
  split
  · exact handled_refuse ..
  rename_i ready
  split
  · exact handled_refuse ..
  split
  · exact handled_refuse ..
  rename_i payload _
  split
  · exact handled_refuse ..
  · rename_i merged actions applied
    exact handled_reply c now generation frame _ _
      (.updated generation frame payload merged actions accepts update (by simpa using ready) applied)

private theorem handleNewWelcome_handled (welcome : frame.type = .welcome) (payload : WelcomePayload)
    (starts : c.state = .handshaking)
    (decoded : decodePayload readWelcome {} frame.payload c.config.strictValidation = .ok payload) :
    Handled c now generation frame (c.handleNewWelcome frame payload) := by
  unfold Client.handleNewWelcome
  split
  · exact handled_refuse ..
  rename_i form
  have guards : payload.mode = welcomeModeNew ∧ frame.sessionID ≠ [] := by simpa using form
  split
  · exact handled_refuse ..
  split
  · exact handled_refuse ..
  · rename_i capabilities negotiated
    exact handled_reply c now generation frame _ _ (.established generation frame payload capabilities accepts welcome
      starts decoded guards.1 guards.2 negotiated)

private theorem handleResumedWelcome_handled (welcome : frame.type = .welcome) (payload : WelcomePayload)
    (resuming : c.state = .resuming)
    (decoded : decodePayload readWelcome {} frame.payload c.config.strictValidation = .ok payload) :
    Handled c now generation frame (c.handleResumedWelcome frame payload) := by
  unfold Client.handleResumedWelcome
  split
  · exact handled_refuse ..
  rename_i form
  simp only [not_or,ne_eq,not_not,UInt64.not_lt] at form
  split
  · exact handled_refuse ..
  rename_i sync
  have acknowledges : c.Acknowledges frame payload :=
    ⟨resuming,decoded,form.1,form.2.1,form.2.2.1,form.2.2.2,sync⟩
  simp only []
  split
  · exact handled_stop c now generation frame accepts.current resuming _ _
  rename_i count
  have bounded : payload.replayTo - c.lastSeq ≤ c.config.maxReplayEvents := UInt64.not_lt.mp count
  split
  · rename_i level
    exact handled_reply c now generation frame _ _ (.caughtUp generation frame payload accepts welcome acknowledges
      level.1 (by simpa using level.2))
  · rename_i unfinished
    exact handled_reply c now generation frame _ _ (.welcomed generation frame payload accepts welcome acknowledges
      bounded (by simpa using unfinished))

private theorem handleWelcome_handled (welcome : frame.type = .welcome) :
    Handled c now generation frame (c.handleWelcome frame) := by
  unfold Client.handleWelcome
  split
  · exact handled_refuse ..
  rename_i payload decoded
  split
  · exact handleNewWelcome_handled c now generation frame accepts welcome payload ‹_› decoded
  · exact handleResumedWelcome_handled c now generation frame accepts welcome payload ‹_› decoded
  · exact handled_refuse ..

private theorem handlePong_handled (pong : frame.type = .pong) :
    Handled c now generation frame (c.handlePong generation frame) := by
  unfold Client.handlePong
  split
  · exact handled_refuse ..
  rename_i state
  split
  · exact handled_refuse ..
  rename_i payload decoded
  split
  · exact handled_silent ..
  rename_i ping pending
  split
  · exact handled_silent ..
  · rename_i same
    exact handled_reply c now generation frame _ _ (.ponged generation frame payload ping accepts pong
      (by tauto) decoded pending (by simpa using same))

private theorem handleAck_handled (ack : frame.type = .ack) :
    Handled c now generation frame (c.handleAck frame) := by
  unfold Client.handleAck
  split
  · exact handled_refuse ..
  rename_i state
  split
  · exact handled_refuse ..
  rename_i payload decoded
  split
  · exact handled_silent ..
  · rename_i pending
    obtain ⟨entry,found⟩ := Option.ne_none_iff_exists'.mp (by simpa using pending)
    exact handled_reply c now generation frame _ _ (.acked generation frame payload entry accepts ack
      (by tauto) decoded found)

private theorem handleReplayEvent_handled (event : frame.type = .event) (resuming : c.state = .resuming)
    (later : c.lastSeq < frame.seq) : Handled c now generation frame (c.handleReplayEvent frame) := by
  unfold Client.handleReplayEvent
  split
  · split
    · exact handled_silent ..
    · exact handled_refuse ..
  rename_i fixed
  split
  · exact handled_refuse ..
  rename_i order
  simp only [not_or,ne_eq,not_not,UInt64.not_lt] at order
  split
  · exact handled_stop c now generation frame accepts.current resuming _ _
  rename_i limits
  simp only [not_or,UInt64.not_lt,Int.not_lt] at limits
  have continues : c.Continues frame := ⟨resuming,event,later,fixed,order.1,order.2,limits.1,limits.2⟩
  simp only []
  split
  · rename_i unfinished
    exact handled_reply c now generation frame _ _ (.buffered generation frame accepts continues unfinished)
  rename_i last
  have reached : frame.seq = c.replayTo := by simpa using last
  split
  · rename_i requested
    exact handled_reply c now generation frame _ _
      (.replayedForState generation frame accepts continues reached (by simpa using requested))
  · rename_i plain
    exact handled_reply c now generation frame _ _
      (.replayed generation frame accepts continues reached (by simpa using plain))

private theorem handleEvent_handled (event : frame.type = .event) :
    Handled c now generation frame (c.handleEvent frame now) := by
  unfold Client.handleEvent
  split
  · exact handled_refuse ..
  rename_i state
  split
  · unfold Client.handleOldEvent
    split
    · exact handled_refuse ..
    split
    · exact handled_silent ..
    · exact handled_refuse ..
  rename_i old
  have later : c.lastSeq < frame.seq := UInt64.not_le.mp old
  split
  · exact handleReplayEvent_handled c now generation frame accepts event ‹_› later
  rename_i resuming
  have ready : c.state = .ready := by tauto
  unfold Client.handleLiveEvent
  split
  · rename_i gap
    simp only []
    split
    · exact handled_refuse ..
    · exact handled_reply c now generation frame _ _
        (.gapped generation frame accepts event ready later gap ‹_›)
  · rename_i next
    exact handled_reply c now generation frame _ _
      (.delivered generation frame accepts event ready later (UInt64.not_lt.mp next))

private theorem applyError_handled (error : frame.type = .error) (payload : ErrorPayload) (behavior : ErrorBehavior)
    (decoded : decodePayload readError {} frame.payload c.config.strictValidation = .ok payload)
    (known : behavior.abandonSession = true →
      payload.code = ErrorCode.name .invalidSession ∧ behavior.closeConnection = false) :
    Handled c now generation frame (c.applyError payload behavior) := by
  have dropped : (c.forgetQuery payload.refID).drop = c.drop := by unfold Client.forgetQuery; split <;> rfl
  have again : c.drop.drop = c.drop := rfl
  have abandoned : (c.forgetQuery payload.refID).abandonSession = c.abandonSession := by
    unfold Client.forgetQuery; split <;> rfl
  have left : c.drop.abandonSession = c.abandonSession := rfl
  unfold Client.applyError
  by_cases abandon : behavior.abandonSession = true
  · obtain ⟨code,keepsOpen⟩ := known abandon
    by_cases resuming : c.state = .resuming
    · simp only [abandon,keepsOpen,resuming,dropped,left,Bool.or_true,Bool.true_or,Bool.not_true,Bool.and_false,Bool.or_false,
        Bool.false_eq_true,if_true,if_false,true_and]
      exact handled_reply c now generation frame _ _
        (.errorAbandoned generation frame payload _ accepts error decoded code .sync)
    · simp only [abandon,keepsOpen,resuming,abandoned,decide_false,Bool.false_and,Bool.or_false,Bool.false_eq_true,if_true,
        if_false,false_and]
      exact handled_reply c now generation frame _ _
        (.errorAbandoned generation frame payload _ accepts error decoded code .none)
  · by_cases resuming : c.state = .resuming
    · simp only [abandon,resuming,dropped,again,Bool.false_eq_true,if_true,if_false,ite_self,true_and]
      refine handled_reply c now generation frame _ _ (.errorDropped generation frame payload _ accepts error ?_)
      generalize (behavior.fullSyncRequired || _ || _) = fullSync
      cases fullSync <;> cases behavior.closeConnection <;> first | exact .close | exact .sync | exact .both
    · simp only [abandon,resuming,decide_false,Bool.false_and,Bool.or_false,Bool.false_eq_true,if_false,false_and,
        List.append_nil]
      by_cases close : behavior.closeConnection = true
      · simp only [close,if_true,dropped]
        exact handled_reply c now generation frame _ _ (.errorDropped generation frame payload _ accepts error .close)
      · simp only [close]
        exact handled_reply c now generation frame _ _ (.errorKept generation frame payload accepts error resuming)

private theorem handleError_handled (error : frame.type = .error) :
    Handled c now generation frame (c.handleError frame) := by
  unfold Client.handleError
  split
  · exact handled_reply c now generation frame _ _ (.invalidError generation frame accepts.current error)
  rename_i payload decoded
  refine applyError_handled c now generation frame accepts error payload _ decoded (fun abandon => ?_)
  unfold behaviorForErrorCode at abandon ⊢
  cases found : ErrorCode.ofName payload.code with
  | none => simp [found] at abandon
  | some code =>
    have named : code.name = payload.code := by
      have matched := List.find?_some found
      simpa using matched
    simp only [found,Option.map_some,Option.getD_some] at abandon ⊢
    cases code <;> first | exact ⟨named.symm,rfl⟩ | cases abandon

private theorem dispatch_handled : Handled c now generation frame (c.dispatch generation frame now) := by
  unfold Client.dispatch
  split
  · exact handleWelcome_handled c now generation frame accepts ‹_›
  · exact handlePong_handled c now generation frame accepts ‹_›
  · exact handleAck_handled c now generation frame accepts ‹_›
  · exact handleEvent_handled c now generation frame accepts ‹_›
  · exact handleStateSnapshot_handled c now generation frame accepts ‹_›
  · exact handleStateUpdate_handled c now generation frame accepts ‹_›
  · exact handleError_handled c now generation frame accepts ‹_›
  · exact handled_refuse ..

theorem Client.dispatch_refused {error : Err} (refused : (c.dispatch generation frame now).2 = .error error) :
    c.dispatch generation frame now = c.refuse error := by
  rcases dispatch_handled c now generation frame accepts with ⟨cause,same⟩ | ⟨next,actions,same,transition⟩
  · rw [same] at refused ⊢
    cases refused
    rfl
  · rw [same] at refused
    cases refused

omit accepts in
private theorem handleIncomingFailure_explained (error : Err) (current : generation = c.generation) :
    Explained c now (.handleIncoming generation frame) (c.handleIncomingFailure error) := by
  unfold Client.handleIncomingFailure
  split
  · exact .refused _ _
  rename_i state
  have resuming : c.state = .resuming := by simpa using state
  simp only []
  split
  · exact .stopped generation frame _ _ current resuming
  · exact .stopped generation frame _ _ current resuming

omit accepts in
private theorem handleIncoming_explained :
    Explained c now (.handleIncoming generation frame) (c.handleIncoming generation frame now) := by
  unfold Client.handleIncoming
  split
  · exact .refused _ _
  rename_i fresh
  have current : generation = c.generation := by simpa using fresh
  split
  · split
    · exact .invalidError generation frame current ‹_›
    · exact handleIncomingFailure_explained c now generation frame _ current
  rename_i valid
  split
  · exact handleIncomingFailure_explained c now generation frame _ current
  rename_i correlated
  rcases dispatch_handled c now generation frame ⟨current,valid,correlated⟩ with
    ⟨error,same⟩ | ⟨next,actions,same,transition⟩
  · rw [same]
    exact handleIncomingFailure_explained c now generation frame error current
  · rw [same]
    exact transition

end Incoming

/-- Every call of the client is one of its transitions. -/
theorem Client.step_transition (c : Client) (now : Int) (call : Call) :
    Transition c now call (c.step now call).1 (c.step now call).2 := by
  cases call with
  | beginConnect => exact .connecting
  | transportConnected generation =>
    simp only [step,transportConnected]
    split
    · exact .refused _ _
    split
    · exact .refused _ _
    rename_i current state
    obtain rfl : generation = c.generation := by simpa using current
    exact .connected (by simpa using state)
  | startSession generation clientName => exact startSession_explained c now generation clientName
  | resume generation =>
    exact startResume_explained c now _ generation [] (fun current => Or.inl ⟨by rw [current],rfl⟩)
  | resumeWithState generation namespaces => exact resumeWithState_explained c now generation namespaces
  | disconnect generation =>
    simp only [step,disconnect]
    split
    · exact .refused _ _
    rename_i current
    obtain rfl : generation = c.generation := by simpa using current
    exact .disconnected
  | queryState queryID namespace_ objectIDs => exact queryState_explained c now queryID namespace_ objectIDs
  | enqueueSend messageID content => exact enqueueSend_explained c now messageID content
  | retryPending =>
    simp only [step,retryPending]
    split
    · exact .refused _ _
    · rename_i state
      exact .retried (by simpa using state)
  | sendPing generation pingID => exact sendPing_explained c now generation pingID
  | checkHeartbeat generation => exact checkHeartbeat_explained c now generation
  | handleIncoming generation frame => exact handleIncoming_explained c now generation frame

end Kmtproto
