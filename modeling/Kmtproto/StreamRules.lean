import Kmtproto.ResumeBatch
import Kmtproto.ErrorFrames

/-! What the calls of the server keep to about the streams of events. EVENTs and resume
batches leave a call only while it has its turn in the lane of their session; a
publication that appended an event and did not send it ends with an error. -/
namespace Kmtproto
open Json Interaction

def resumption (strict : Bool) (sessionID : Bytes) (frame : Envelope) : Option WelcomePayload :=
  if frame.type = .welcome ∧ frame.sessionID = sessionID then
    match decodePayload readWelcome {} frame.payload strict with
    | .ok payload => if payload.mode = welcomeModeResumed then some payload else none
    | .error _ => none
  else none

/-- The frame is part of no stream: neither an EVENT nor a RESUMED WELCOME. -/
def Envelope.Unstreamed (strict : Bool) (frame : Envelope) : Prop :=
  frame.type ≠ .event ∧ ∀ sessionID, resumption strict sessionID frame = none

theorem resumption_other {strict : Bool} {sessionID : Bytes} {frame : Envelope} (other : frame.type ≠ .welcome) :
    resumption strict sessionID frame = none := if_neg (fun both => other both.1)

theorem Envelope.unstreamed_of_type {strict : Bool} {frame : Envelope} (event : frame.type ≠ .event)
    (welcome : frame.type ≠ .welcome) : frame.Unstreamed strict := ⟨event,fun _ => resumption_other welcome⟩

/-- Requests that leave lanes and streams alone. -/
def QuietOp (strict : Bool) : Op → Prop
  | .joinLane _ | .awaitLane _ _ | .leaveLane _ _ | .currentSeq _ | .append _ _ _ _ _ => False
  | .enqueueBatch _ frames => ∀ frame ∈ frames, frame.Unstreamed strict
  | _ => True

def Op.sends : Op → Bool
  | .acquireFlight _ _ | .finishFlight _ _ | .beginSendCallback _ _ | .endSendCallback _ | .claim _ _ _ _
  | .complete _ _ _ _ | .handleSend _ _ _ | .handleSendReturn _ _ _ | .inject _ => true
  | _ => false

def CalmOp (strict : Bool) (op : Op) : Prop := QuietOp strict op ∧ op.sends = false

def QuietReports (config : ServerConfig) (op : Op) : Prop := QuietOp config.strictValidation op ∧ Reported config op

def CalmReports (config : ServerConfig) (op : Op) : Prop := CalmOp config.strictValidation op ∧ Reported config op

theorem calm_quiet {config : ServerConfig} {α : Type} {program : Server α} (calm : Asks (CalmReports config) program) :
    Asks (QuietReports config) program := calm.mono (fun _ calm => ⟨calm.1.1,calm.2⟩)

theorem asks_reply {P : Op → Prop} {result : HandleResult} {last : Server (Except Err Unit)} (asks : Asks P last) :
    Asks P (do return (result,← last) : Server Reply) :=
  asks.bind (fun _ => asks_pure _)

section Quiet
variable {config : ServerConfig} {outbound : Nat} {frame : Envelope} {α : Type}

theorem calm_enqueueFrame {sent : Envelope}
    (plain : config.validates sent = .ok () → sent.Unstreamed config.strictValidation)
    (report : sent.type = .error → ErrorReport config sent) : Asks (CalmReports config) (enqueueFrame config outbound sent) := by
  unfold enqueueFrame
  split
  · exact asks_pure _
  · rename_i valid
    exact asks_ask ⟨⟨by simpa [QuietOp] using plain valid,rfl⟩,by simpa [Reported] using report⟩

theorem calm_errorAt {sessionID refID : Bytes} {code : ErrorCode} {message : Bytes} {retryable : Bool}
    {timestamp : Int64} (text : validString message = true) (flag : code.Agrees retryable) : Asks (CalmReports config)
      (enqueueErrorAt config outbound sessionID refID code message retryable timestamp) := by
  unfold enqueueErrorAt
  refine (calm_enqueueFrame (fun _ => Envelope.unstreamed_of_type (by simp [errorFrameAt]) (by simp [errorFrameAt]))
    (fun _ => errorFrameAt_report text flag)).bind (fun sent => ?_)
  cases sent with
  | error error => exact asks_pure _
  | ok _ =>
    simp only []
    split
    · exact (asks_ask ⟨⟨trivial,rfl⟩,trivial⟩).bind (fun _ => asks_pure _)
    · exact asks_pure _

theorem calm_error {sessionID refID : Bytes} {code : ErrorCode} {message : Bytes} {retryable : Bool}
    (text : validString message = true) (flag : code.Agrees retryable) :
    Asks (CalmReports config) (enqueueError config outbound sessionID refID code message retryable) :=
  (asks_ask ⟨⟨trivial,rfl⟩,trivial⟩).bind (fun _ => calm_errorAt text flag)

theorem quiet_sendCallback {key : Bytes} {flight : Nat} {callback : Server (Except Err α)}
    (quiet : Asks (QuietReports config) callback) :
    Asks (QuietReports config) (invokeSendCallback key flight callback) := by
  unfold invokeSendCallback
  refine (asks_ask ⟨trivial,trivial⟩).bind (fun active => ?_)
  split
  · refine quiet.bind (fun result => (asks_ask ⟨trivial,trivial⟩).bind (fun _ => ?_))
    split <;> exact asks_pure _
  · exact asks_pure _

theorem calm_laneCallback {sessionID : Bytes} {callback : Server (Except Err α)}
    (quiet : Asks (CalmReports config) callback) :
    Asks (CalmReports config) (invokeCallback sessionID callback) := by
  unfold invokeCallback
  refine (asks_ask ⟨⟨trivial,rfl⟩,trivial⟩).bind (fun active => ?_)
  split
  · exact quiet.bind (fun result => (asks_ask ⟨⟨trivial,rfl⟩,trivial⟩).bind (fun _ => asks_pure _))
  · exact asks_pure _

theorem welcome_unstreamed {sessionID : Bytes} {timestamp : Int64} {payload : WelcomePayload}
    (mode : payload.mode = welcomeModeNew) :
    Envelope.Unstreamed config.strictValidation
      {type := .welcome, sessionID := sessionID, timestamp := timestamp, payload := payload.marshal} := by
  refine ⟨by simp,fun session => ?_⟩
  unfold resumption
  split
  · split
    · rename_i read decoded
      obtain ⟨back,written,new⟩ := readWelcome_new config.strictValidation payload mode
      cases written.symm.trans (decodePayload_written (reads_welcome payload) decoded)
      rw [new,if_neg (by decide)]
    · rfl
  · rfl

theorem calm_handleHello : Asks (CalmReports config) (handleHello config frame outbound) := by
  unfold handleHello
  split
  · exact asks_pure _
  split
  · rename_i error failed
    split
    · rename_i refusal found
      have report := (refuses_negotiate _ _ _).reportable failed found
      exact asks_reply (calm_error report.text report.flag)
    · exact asks_pure _
  refine (asks_ask ⟨⟨trivial,rfl⟩,trivial⟩).bind (fun identified => ?_)
  cases identified with
  | error error =>
    cases error <;> first
      | exact asks_pure _
      | exact asks_reply (calm_error (by decide) (by decide))
  | ok sessionID =>
    simp only []
    split
    · exact asks_reply (calm_error (by decide) (by decide))
    split
    · exact asks_pure _
    refine (asks_ask ⟨⟨trivial,rfl⟩,trivial⟩).bind (fun sentAt => (asks_ask ⟨⟨trivial,rfl⟩,trivial⟩).bind (fun serverTime => ?_))
    split
    · exact asks_pure _
    refine (asks_ask ⟨⟨trivial,rfl⟩,trivial⟩).bind (fun createdAt => (asks_ask ⟨⟨trivial,rfl⟩,trivial⟩).bind (fun created => ?_))
    cases created with
    | error error =>
      simp only []
      split
      · exact asks_reply (calm_error (by decide) (by decide))
      · exact asks_pure _
    | ok _ =>
      refine (calm_enqueueFrame (fun _ => welcome_unstreamed rfl) nofun).bind (fun sent => ?_)
      cases sent <;> exact asks_pure _

theorem calm_handlePing : Asks (CalmReports config) (handlePing config frame outbound) := by
  unfold handlePing
  refine (asks_ask ⟨⟨trivial,rfl⟩,trivial⟩).bind (fun now => (asks_ask ⟨⟨trivial,rfl⟩,trivial⟩).bind (fun found => ?_))
  match found with
  | .error error => exact asks_pure _
  | .ok none => exact asks_reply (calm_error (by decide) (by decide))
  | .ok (some state) =>
    simp only []
    split
    · exact asks_pure _
    refine (asks_ask ⟨⟨trivial,rfl⟩,trivial⟩).bind (fun _ => (asks_ask ⟨⟨trivial,rfl⟩,trivial⟩).bind (fun _ => asks_reply (calm_enqueueFrame ?_ nofun)))
    exact fun _ => Envelope.unstreamed_of_type (by simp) (by simp)

theorem quiet_enqueueACK {ack : Envelope} (type : ack.type = .ack) :
    Asks (QuietReports config) (enqueueFrame config outbound ack) :=
  calm_quiet (calm_enqueueFrame (fun _ => Envelope.unstreamed_of_type (by simp [type]) (by simp [type])) (by simp [type]))

theorem quiet_resendACK (ack : Envelope) : Asks (QuietReports config) (resendACK config frame outbound ack) := by
  unfold resendACK
  split
  · exact asks_pure _
  · rename_i stored
    exact quiet_enqueueACK (validateStoredACK_ackFor stored).type

theorem quiet_followSend (ticket : FlightTicket) (timestamp : Int64) :
    Asks (QuietReports config) (followSend config ticket frame outbound timestamp) := by
  unfold followSend waitForOriginal
  split
  · refine (asks_ask ⟨trivial,trivial⟩).bind (fun found => ?_)
    cases found with
    | none => exact calm_quiet (calm_errorAt (by decide) (by decide))
    | some ack => exact quiet_resendACK ack
  · refine (asks_ask ⟨trivial,trivial⟩).bind (fun ended => ?_)
    split
    · refine (asks_ask ⟨trivial,trivial⟩).bind (fun found => ?_)
      cases found with
      | none => exact calm_quiet (calm_errorAt (by decide) (by decide))
      | some ack => exact quiet_resendACK ack
    · exact asks_pure _

theorem quiet_refusedSend (existing : Option DedupRecord) (flight : Nat) (fingerprint : SendFingerprint)
    (timestamp : Int64) :
    Asks (QuietReports config) (refusedSend config existing flight fingerprint frame outbound timestamp) := by
  unfold refusedSend
  split
  · exact calm_quiet (calm_errorAt (by decide) (by decide))
  split
  · exact calm_quiet (calm_errorAt (by decide) (by decide))
  split
  · split
    · exact asks_pure _
    · rename_i stored
      exact (asks_ask ⟨trivial,trivial⟩).bind (fun _ => quiet_enqueueACK (validateStoredACK_ackFor stored).type)
  · exact calm_quiet (calm_errorAt (by decide) (by decide))

theorem quiet_acknowledgeSend (key : Bytes) (flight : Nat) (timestamp : Int64) :
    Asks (QuietReports config) (acknowledgeSend config key flight frame outbound timestamp) := by
  unfold acknowledgeSend completeSend
  simp only []
  split
  · exact asks_pure _
  refine (quiet_sendCallback ((asks_ask ⟨trivial,trivial⟩).bind (fun _ => asks_ask ⟨trivial,trivial⟩))).bind (fun completed => ?_)
  cases completed with
  | error error => exact asks_pure _
  | ok _ =>
    refine (asks_ask ⟨trivial,trivial⟩).bind (fun _ => (quiet_sendCallback (asks_ask ⟨trivial,trivial⟩)).bind (fun injected => ?_))
    cases injected with
    | error error => exact asks_pure _
    | ok _ => exact quiet_enqueueACK rfl

theorem quiet_claimedSend (key content : Bytes) (flight : Nat) (timestamp : Int64) :
    Asks (QuietReports config) (claimedSend config key flight content frame outbound timestamp) := by
  unfold claimedSend callApplication
  refine (quiet_sendCallback (asks_ask ⟨trivial,trivial⟩)).bind (fun injected => ?_)
  cases injected with
  | error error => exact asks_pure _
  | ok _ =>
    refine (quiet_sendCallback ((asks_ask ⟨trivial,trivial⟩).bind (fun _ => asks_ask ⟨trivial,trivial⟩))).bind (fun accepted => ?_)
    cases accepted with
    | error error => exact calm_quiet (calm_errorAt (by decide) (by decide))
    | ok _ =>
      refine (quiet_sendCallback (asks_ask ⟨trivial,trivial⟩)).bind (fun injected => ?_)
      cases injected with
      | error error => exact asks_pure _
      | ok _ => exact quiet_acknowledgeSend key flight timestamp

theorem quiet_leadSend (key content : Bytes) (flight : Nat) (fingerprint : SendFingerprint) (now : Int) :
    Asks (QuietReports config) (leadSend config key flight content fingerprint now frame outbound) := by
  unfold leadSend claimSend
  refine (quiet_sendCallback (asks_ask ⟨trivial,trivial⟩)).bind (fun found => ?_)
  match found with
  | .error error => exact asks_pure _
  | .ok none => exact asks_reply (calm_quiet (calm_errorAt (by decide) (by decide)))
  | .ok (some state) =>
    refine (quiet_sendCallback ((asks_ask ⟨trivial,trivial⟩).bind (fun _ => asks_ask ⟨trivial,trivial⟩))).bind (fun claimed => ?_)
    match claimed with
    | .error error => exact asks_pure _
    | .ok (false,existing) => exact asks_reply (quiet_refusedSend existing flight fingerprint _)
    | .ok (true,_) => exact asks_reply (quiet_claimedSend key content flight _)

theorem quiet_handleSend : Asks (QuietReports config) (handleSend config frame outbound) := by
  unfold handleSend
  refine (asks_ask ⟨trivial,trivial⟩).bind (fun now => ?_)
  split
  · exact asks_pure _
  refine (asks_ask ⟨trivial,trivial⟩).bind (fun ticket => ?_)
  split
  · exact asks_reply (calm_quiet (calm_errorAt (by decide) (by decide)))
  split
  · exact asks_reply (quiet_followSend ticket _)
  · exact (quiet_leadSend _ _ _ _ _).bind (fun _ => (asks_ask ⟨trivial,trivial⟩).bind (fun _ => asks_pure _))

theorem calm_collectStates (sessionID namespace_ : Bytes) (objectIDs : List Bytes)
    (accumulator : StateSnapshotAccumulator) :
    Asks (CalmReports config) (collectStates config sessionID namespace_ objectIDs accumulator) := by
  induction objectIDs generalizing accumulator with
  | nil => exact asks_pure _
  | cons objectID objectIDs ih =>
    unfold collectStates
    refine (calm_laneCallback (asks_ask ⟨⟨trivial,rfl⟩,trivial⟩)).bind (fun found => ?_)
    rcases found with error | (_ | object)
    · exact asks_pure _
    · exact ih accumulator
    · simp only []
      split
      · exact asks_pure _
      split
      · exact asks_pure _
      split
      · split <;> exact asks_pure _
      · exact ih _

theorem calm_answerQuery (timestamp : Int64) :
    Asks (CalmReports config) (answerQuery config frame outbound timestamp) := by
  have refused : Asks (CalmReports config) (refuseQuery config frame outbound timestamp) :=
    asks_reply (calm_errorAt (by decide) (by decide))
  unfold answerQuery
  split
  · exact asks_pure _
  simp only []
  split
  · exact asks_pure _
  split
  · exact asks_pure _
  refine (calm_collectStates _ _ _ _).bind (fun collected => ?_)
  match collected with
  | .error error => exact asks_pure _
  | .ok none => exact refused
  | .ok (some accumulator) =>
    simp only []
    split
    · split
      · exact refused
      · exact asks_pure _
    · refine asks_reply (calm_enqueueFrame (fun _ => Envelope.unstreamed_of_type ?_ ?_) ?_) <;> simp [snapshotFrame]

theorem calm_handleStateQuery : ∃ request : Int → Server Reply,
    handleStateQuery config frame outbound = (do let now ← ask .now; runStream frame.sessionID {} (request now)) ∧
      ∀ now, Asks (CalmReports config) (request now) := by
  refine ⟨_,rfl,fun now => (calm_laneCallback (asks_ask ⟨⟨trivial,rfl⟩,trivial⟩)).bind (fun found => ?_)⟩
  match found with
  | .error error => exact asks_pure _
  | .ok none => exact asks_reply (calm_errorAt (by decide) (by decide))
  | .ok (some session) =>
    simp only []
    split
    · exact asks_reply (calm_errorAt (by decide) (by decide))
    split
    · exact asks_reply (calm_errorAt (by decide) (by decide))
    · exact calm_answerQuery _

theorem calm_refuseFrame {error : Err} (failed : validateFrame frame config.limits config.strictValidation = .error error) :
    Asks (CalmReports config) (refuseFrame config frame outbound error) := by
  unfold refuseFrame
  split
  · exact (asks_ask ⟨⟨trivial,rfl⟩,trivial⟩).bind (fun _ => asks_pure _)
  split
  · exact asks_pure _
  · rename_i refusal found
    have report := (refuses_frame _ _ _).reportable failed found
    exact (calm_error report.text report.flag).bind (fun _ => asks_pure _)

theorem calm_sendStateUpdate (sessionID updateID : Bytes) (object : StateObject) (now : Int) :
    Asks (CalmReports config) (sendStateUpdate config sessionID updateID object now outbound) := by
  unfold sendStateUpdate
  refine (calm_laneCallback (asks_ask ⟨⟨trivial,rfl⟩,trivial⟩)).bind (fun found => ?_)
  match found with
  | .error error => exact asks_pure _
  | .ok none => exact asks_pure _
  | .ok (some session) =>
    simp only []
    split
    · exact asks_pure _
    split
    · exact asks_pure _
    · exact asks_reply (calm_enqueueFrame (fun _ => Envelope.unstreamed_of_type (by simp) (by simp)) nofun)

end Quiet

/-- Where a call stands with the stream of a session: its turn in the lane, the high-water
mark it read in it, and the event it appended and has not sent. A publication has the
session and the queue it is for. -/
structure StreamState where
  publishes : Option (Bytes × Nat) := none
  lane : Bytes := []
  turn : LaneTurn := .outside
  boundary : Option UInt64 := none
  unsent : Option Envelope := none

namespace StreamState
variable (config : ServerConfig) (state : StreamState)

def Active : Prop := state.turn = .left → state.unsent = none

def allowed : Op → Prop
  | .joinLane _ => state.turn = .outside
  | .awaitLane sessionID ticket => state.lane = sessionID ∧ state.turn = .queued ticket
  | .leaveLane sessionID ticket => state.lane = sessionID ∧ state.turn = .running ticket
  | .currentSeq sessionID => state.lane = sessionID ∧ state.turn.isRunning = true
  | .append sessionID _ _ _ _ => state.lane = sessionID ∧ state.turn.isRunning = true ∧ state.unsent = none ∧
      ∃ outbound, state.publishes = some (sessionID,outbound)
  | .enqueueBatch outbound frames =>
      (state.unsent = none ∧ ∀ frame ∈ frames, frame.Unstreamed config.strictValidation) ∨
      (state.turn.isRunning = true ∧ ∃ event, frames = [event] ∧ state.unsent = some event ∧
        state.publishes = some (state.lane,outbound)) ∨
      (state.turn.isRunning = true ∧ state.unsent = none ∧ ∃ frame replayTo, frame.sessionID = state.lane ∧
        state.boundary = some replayTo ∧ IsResumeBatch config frame replayTo frames)
  | _ => state.Active

def next : (op : Op) → Answer op → StreamState
  | .joinLane sessionID, some ticket => {state with lane := sessionID, turn := .queued ticket}
  | .awaitLane _ ticket, _ => {state with turn := .running ticket}
  | .leaveLane _ _, _ => {state with turn := .left}
  | .currentSeq _, .ok boundary => {state with boundary := some boundary}
  | .append _ _ _ _ _, .ok event => {state with boundary := none, unsent := some event}
  | .enqueueBatch _ _, .ok () => {state with unsent := none}
  | _, _ => state

@[simp] theorem next_publishes (op : Op) (answer : Answer op) : (state.next op answer).publishes = state.publishes := by
  unfold next
  split <;> rfl

end StreamState

def streamRules (config : ServerConfig) : Monitor Op Answer StreamState where
  allowed := StreamState.allowed config
  next := StreamState.next

theorem streamRules_publishes {config : ServerConfig} (state : StreamState) (events : List (Event Op Answer)) :
    ((streamRules config).after state events).publishes = state.publishes := by
  induction events generalizing state with
  | nil => rfl
  | cons event events ih => exact (ih _).trans (state.next_publishes event.1 event.2)

/-- A publication that appended an event and did not send it reports an error. -/
def StreamState.Reports (state : StreamState) (result : Except Err Unit) : Prop :=
  state.unsent ≠ none → ∃ error, result = .error error

def ServerCall.stream : ServerCall → StreamState
  | .publishEvent sessionID _ _ _ outbound => {publishes := some (sessionID,outbound)}
  | _ => {}

section Compliance
variable {config : ServerConfig} {outbound : Nat} {frame : Envelope} {state : StreamState} {α : Type}

theorem stream_quiet {program : Server α} (asks : Asks (QuietReports config) program)
    (sent : state.unsent = none) : Meets (streamRules config) (fun after _ => after = state) state program := by
  refine asks.meets (fun op quiet => ?_)
  cases op with
  | joinLane | awaitLane | leaveLane | currentSeq | append => exact quiet.1.elim
  | enqueueBatch target frames =>
    refine ⟨.inl ⟨sent,quiet.1⟩,fun answer => ?_⟩
    cases answer with
    | error error => rfl
    | ok done =>
      change {state with unsent := none} = state
      rw [← sent]
  | _ => exact ⟨fun _ => sent,fun _ => rfl⟩

/-- A request in the lane of its session, when it keeps its turn. -/
theorem stream_runStream {sessionID : Bytes} {idle : HandleResult} {request : Server Reply}
    {post : StreamState → Reply → Prop} (outside : state.turn = .outside)
    (unrun : ∀ error, post state (idle,.error error))
    (runs : ∀ ticket, Meets (streamRules config)
      (fun after reply => after.lane = sessionID ∧ after.turn = .running ticket ∧
        post {after with turn := .left} reply ∧
        (reply.2 = .error .panic → ∀ error, post {after with turn := .left} (reply.1,.error error)))
      {state with lane := sessionID, turn := .running ticket} request) :
    Meets (streamRules config) post state (runStream sessionID idle request) := by
  unfold runStream
  refine ⟨outside,fun joined => ?_⟩
  cases joined with
  | none => exact unrun _
  | some ticket =>
    refine ⟨⟨rfl,rfl⟩,fun _ => ?_⟩
    change Meets _ _ {state with lane := sessionID, turn := .running ticket} (request >>= _)
    rw [meets_bind]
    refine (runs ticket).mono (fun after reply ended => ?_)
    obtain ⟨lane,turn,plain,panicked⟩ := ended
    refine ⟨⟨lane,turn⟩,fun _ => ?_⟩
    obtain ⟨result,outcome⟩ := reply
    cases outcome with
    | ok done => exact plain
    | error error =>
      cases error with
      | panic => exact panicked rfl _
      | _ => exact plain

theorem stream_quietRequest {sessionID : Bytes} {idle : HandleResult} {request : Server Reply}
    (quiet : Asks (QuietReports config) request) (outside : state.turn = .outside) (sent : state.unsent = none) :
    Meets (streamRules config) (fun after _ => after.unsent = none) state (runStream sessionID idle request) := by
  refine stream_runStream outside (fun _ => sent) (fun ticket => ?_)
  refine (stream_quiet quiet (by exact sent)).mono (fun after reply same => ?_)
  rw [same]
  exact ⟨rfl,rfl,sent,fun _ _ => sent⟩

theorem stream_laneCallback {β : Type} {sessionID : Bytes} {callback : Server (Except Err α)}
    {next : Except Err α → Server β} {post : StreamState → β → Prop} (here : state.turn ≠ .left)
    (busy : ∀ error, Meets (streamRules config) post state (next (.error error)))
    (runs : Meets (streamRules config)
      (fun after result => after.turn ≠ .left ∧ Meets (streamRules config) post after (next result)) state callback) :
    Meets (streamRules config) post state (invokeCallback sessionID callback >>= next) := by
  rw [meets_bind]
  unfold invokeCallback
  refine ⟨fun left => absurd left here,fun active => ?_⟩
  cases active with
  | false => exact busy _
  | true =>
    change Meets _ _ state (callback >>= _)
    rw [meets_bind]
    exact runs.mono (fun after result ended => ⟨fun left => absurd left ended.1,fun _ => ended.2⟩)

/-- A publication sends the event it appended to its own queue, or reports an error. -/
theorem stream_publishEvent {sessionID eventID eventType content : Bytes} :
    Meets (streamRules config) StreamState.Reports {publishes := some (sessionID,outbound)}
      (publishEvent config sessionID eventID eventType content outbound) := by
  have nothing {state : StreamState} (sent : state.unsent = none) (result : Except Err Unit) : state.Reports result :=
    fun unsent => absurd sent unsent
  unfold publishEvent
  split
  · exact nothing rfl _
  split
  · exact nothing rfl _
  refine meets_ask_bind.mpr ⟨nofun,fun now => ?_⟩
  split
  · exact nothing rfl _
  simp only []
  split
  · exact nothing rfl _
  refine (meets_bind _ _ _).mpr (stream_runStream rfl (fun _ => nothing rfl _) (fun ticket => ?_))
  have ended {after : StreamState} {reply : Reply} (lane : after.lane = sessionID) (turn : after.turn = .running ticket)
      (reports : after.Reports reply.2) : after.lane = sessionID ∧ after.turn = .running ticket ∧
        StreamState.Reports {after with turn := .left} reply.2 ∧
        (reply.2 = .error .panic → ∀ error, StreamState.Reports {after with turn := .left} (.error error)) :=
    ⟨lane,turn,reports,fun _ error _ => ⟨error,rfl⟩⟩
  unfold appendEvent
  refine stream_laneCallback (by simp) (fun error => ended rfl rfl (nothing rfl _)) ⟨nofun,fun found => ?_⟩
  refine ⟨by simp [streamRules,StreamState.next],?_⟩
  match found with
  | .error error => exact ended rfl rfl (nothing rfl _)
  | .ok none => exact ended rfl rfl (nothing rfl _)
  | .ok (some session) =>
    refine stream_laneCallback (by simp [streamRules,StreamState.next]) (fun error => ended rfl rfl (nothing rfl _))
      ⟨⟨rfl,rfl,rfl,outbound,rfl⟩,fun appended => ?_⟩
    cases appended with
    | error error => exact ⟨by simp [streamRules,StreamState.next],ended rfl rfl (nothing rfl _)⟩
    | ok event =>
      refine ⟨by simp [streamRules,StreamState.next],?_⟩
      dsimp only
      split
      · exact ended rfl rfl (fun _ => ⟨_,rfl⟩)
      rw [meets_bind]
      unfold enqueueFrame
      cases config.validates event with
      | error error => exact ended rfl rfl (fun _ => ⟨_,rfl⟩)
      | ok valid =>
        refine ⟨.inr (.inl ⟨rfl,event,rfl,rfl,rfl⟩),fun answer => ?_⟩
        cases answer with
        | error error => exact ended rfl rfl (fun _ => ⟨_,rfl⟩)
        | ok done => exact ended rfl rfl (nothing rfl _)

/-- A RESUME sends its batch while it has the turn it read the boundary in. -/
theorem stream_handleResume (sent : state.unsent = none) (outside : state.turn = .outside) :
    Meets (streamRules config) (fun after _ => after.unsent = none) state (handleResume config frame outbound) := by
  let Follows (progress : ResumeProgress) (after : StreamState) : Prop :=
    after.unsent = none ∧ after.turn = progress.turn ∧ (progress.turn = .outside ∨ after.lane = frame.sessionID) ∧
      ∀ replayTo, progress.boundary = some (.ok replayTo) → after.boundary = some replayTo
  have follows : ∀ progress after op, Follows progress after → (resumeRules config frame outbound).allowed progress op →
      (streamRules config).allowed after op ∧ ∀ answer,
        Follows ((resumeRules config frame outbound).next progress op answer) ((streamRules config).next after op answer) := by
    rintro progress after op ⟨sent,turn,lane,boundary⟩ allowed
    have inside (running : progress.turn.isRunning = true) : after.lane = frame.sessionID := by
      refine lane.resolve_left (fun outside => ?_)
      rw [outside] at running
      cases running
    cases op with
    | joinLane sessionID =>
      obtain ⟨rfl,outside⟩ := allowed
      refine ⟨turn.trans outside,fun answer => ?_⟩
      cases answer with
      | none => exact ⟨sent,turn,lane,boundary⟩
      | some ticket => exact ⟨sent,rfl,.inr rfl,boundary⟩
    | awaitLane sessionID ticket =>
      obtain ⟨rfl,queued⟩ := allowed
      have own := lane.resolve_left (by simp [queued])
      exact ⟨⟨own,turn.trans queued⟩,fun _ => ⟨sent,rfl,.inr own,boundary⟩⟩
    | leaveLane sessionID ticket =>
      obtain ⟨rfl,running⟩ := allowed
      have own := lane.resolve_left (by simp [running])
      exact ⟨⟨own,turn.trans running⟩,fun _ => ⟨sent,rfl,.inr own,boundary⟩⟩
    | currentSeq sessionID =>
      obtain ⟨rfl,running,_⟩ := allowed
      refine ⟨⟨inside running,by rw [turn]; exact running⟩,fun answer => ?_⟩
      cases answer with
      | error error => exact ⟨sent,turn,lane,fun _ read => by cases read⟩
      | ok mark =>
        refine ⟨sent,turn,lane,fun replayTo read => ?_⟩
        cases read
        rfl
    | enqueueBatch target frames =>
      obtain ⟨_,_,kind⟩ := allowed
      refine ⟨?_,fun answer => ?_⟩
      · rcases kind with ⟨refusal,rfl,type⟩ | ⟨running,replayTo,read,batch⟩
        · refine .inl ⟨sent,?_⟩
          simpa using Envelope.unstreamed_of_type (by simp [type]) (by simp [type])
        · exact .inr (.inr ⟨by rw [turn]; exact running,sent,frame,replayTo,(inside running).symm,boundary replayTo read,batch⟩)
      · cases answer with
        | error error => exact ⟨sent,turn,lane,boundary⟩
        | ok done => exact ⟨rfl,turn,lane,boundary⟩
    | now | newFrameID | lookup | beginLaneCallback | endLaneCallback | snapshot | closeQueue | replay =>
      exact ⟨fun _ => sent,fun _ => ⟨sent,turn,lane,boundary⟩⟩
    | _ => exact allowed.elim
  refine (resume_handle.simulate follows ⟨sent,outside,.inl rfl,fun _ read => by cases read⟩).mono (fun after reply ended => ?_)
  obtain ⟨progress,followed,_⟩ := ended
  exact followed.1

theorem stream_processFrame (sent : state.unsent = none) (outside : state.turn = .outside) :
    Meets (streamRules config) (fun after _ => after.unsent = none) state (processFrame config frame outbound) := by
  have lifted {program : Server Reply} (quiet : Asks (QuietReports config) program) :
      Meets (streamRules config) (fun after _ => after.unsent = none) state program :=
    (stream_quiet quiet sent).mono (fun _ _ same => by rw [same]; exact sent)
  unfold processFrame
  split
  · rename_i error failed
    exact lifted (calm_quiet (calm_refuseFrame failed))
  unfold dispatchFrame
  refine ⟨fun _ => sent,fun _ => ?_⟩
  change Meets _ _ state _
  split
  · exact lifted (calm_quiet calm_handleHello)
  · exact lifted (calm_quiet calm_handlePing)
  · exact lifted quiet_handleSend
  · obtain ⟨request,same,calm⟩ := @calm_handleStateQuery config outbound frame
    rw [same]
    exact ⟨fun _ => sent,fun now => stream_quietRequest (calm_quiet (calm now)) outside sent⟩
  · exact stream_handleResume sent outside
  · exact lifted ((asks_ask ⟨trivial,trivial⟩).bind (fun _ => asks_pure _))
  · exact lifted (asks_reply (calm_quiet (calm_error (by decide) (by decide))))

theorem stream_handleAdmitted {generation : ConnectionGeneration} (sent : state.unsent = none)
    (outside : state.turn = .outside) :
    Meets (streamRules config) (fun after _ => after.unsent = none) state (handleAdmitted config generation frame outbound) := by
  unfold handleAdmitted invokeServerProcess
  rw [meets_bind,meets_bind]
  refine (stream_processFrame sent outside).mono (fun after reply ended => ?_)
  obtain ⟨result,outcome⟩ := reply
  have applied (result : HandleResult) (outcome : Except Err Unit) : Meets (streamRules config)
      (fun after _ => after.unsent = none) after (do ask (.applyResult generation outbound result); return outcome) :=
    ⟨fun _ => ended,fun _ => ended⟩
  cases outcome with
  | ok done => exact applied _ _
  | error error =>
    cases error with
    | panic => exact ⟨fun _ => ended,fun _ => applied _ _⟩
    | _ => exact applied _ _

/-- Every call keeps to the rules about streams. -/
theorem ServerCall.streams (config : ServerConfig) (call : ServerCall) :
    Meets (streamRules config) StreamState.Reports call.stream (call.program config) := by
  have reports {program : Server (Except Err Unit)} {state : StreamState}
      (meets : Meets (streamRules config) (fun after _ => after.unsent = none) state program) :
      Meets (streamRules config) StreamState.Reports state program :=
    meets.mono (fun _ _ sent unsent => absurd sent unsent)
  cases call with
  | handle generation frame =>
    refine reports ⟨fun _ => rfl,fun answer => ?_⟩
    cases answer with
    | stale | invalidState => exact rfl
    | rejected outbound => exact (stream_quiet (calm_quiet (calm_error (by decide) (by decide))) rfl).mono (fun _ _ same => by rw [same]; rfl)
    | unvalidated outbound => exact stream_handleAdmitted rfl rfl
    | admitted outbound state => exact stream_handleAdmitted rfl rfl
  | replaceConnection => exact reports ⟨fun _ => rfl,fun _ => rfl⟩
  | processFrame frame outbound => exact reports ((meets_bind _ _ _).mpr (stream_processFrame rfl rfl))
  | publishEvent sessionID eventID eventType content outbound => exact stream_publishEvent
  | publishStateUpdate sessionID updateID object outbound =>
    refine reports ?_
    change Meets _ _ _ (Kmtproto.publishStateUpdate _ _ _ _ _)
    unfold Kmtproto.publishStateUpdate
    split
    · exact rfl
    · refine meets_ask_bind.mpr ⟨fun _ => rfl,fun now => ?_⟩
      change Meets _ _ ({} : StreamState) (runStream _ _ _ >>= _)
      rw [meets_bind]
      exact stream_quietRequest (calm_quiet (calm_sendStateUpdate _ _ _ _)) rfl rfl
  | pruneBefore sessionID first => exact reports ⟨fun _ => rfl,fun _ => rfl⟩

end Compliance

end Kmtproto
