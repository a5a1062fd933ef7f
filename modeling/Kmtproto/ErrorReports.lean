import Kmtproto.StreamRules

/-! Every rejected frame is answered with one ERROR, unless an identifier the ERROR
would copy has a control character; and no call sends an ERROR but a report. -/
namespace Kmtproto
open Json Interaction

section Reported
variable {config : ServerConfig} {outbound : Nat} {frame : Envelope} {α : Type}

theorem reported_quiet {program : Server α} (quiet : Asks (QuietReports config) program) :
    Asks (Reported config) program := quiet.mono (fun _ quiet => quiet.2)

theorem reported_calm {program : Server α} (calm : Asks (CalmReports config) program) :
    Asks (Reported config) program := calm.mono (fun _ calm => calm.2)

theorem reported_runStream {sessionID : Bytes} {idle : HandleResult} {request : Server Reply}
    (reported : Asks (Reported config) request) : Asks (Reported config) (runStream sessionID idle request) := by
  unfold runStream
  refine (asks_ask trivial).bind (fun joined => ?_)
  cases joined with
  | none => exact asks_pure _
  | some ticket =>
    refine (asks_ask trivial).bind (fun _ => reported.bind (fun reply => (asks_ask trivial).bind (fun _ => ?_)))
    split <;> exact asks_pure _

private theorem reported_callback {sessionID : Bytes} {callback : Server (Except Err α)}
    (reported : Asks (Reported config) callback) : Asks (Reported config) (invokeCallback sessionID callback) := by
  unfold invokeCallback
  refine (asks_ask trivial).bind (fun active => ?_)
  split
  · exact reported.bind (fun result => (asks_ask trivial).bind (fun _ => asks_pure _))
  · exact asks_pure _

theorem reported_refuseResume {timestamp : Int64} {result : HandleResult} {code : ErrorCode} {message : Bytes}
    {retryable : Bool} (text : validString message = true) (flag : code.Agrees retryable) :
    Asks (Reported config) (refuseResume config frame outbound timestamp result code message retryable) :=
  asks_reply (reported_calm (calm_errorAt text flag))

theorem reported_failResume {timestamp : Int64} {idle : HandleResult} {code : ErrorCode} {message : Bytes} {error : Err}
    (text : validString message = true) (flag : code.Agrees true) :
    Asks (Reported config) (failResume config frame outbound timestamp idle code message error) := by
  unfold failResume
  split
  · exact asks_pure _
  · exact reported_refuseResume text flag

private theorem checkReplay_text {sessionID : Bytes} {expected : UInt64} {events : List Envelope} {message : Bytes}
    (failed : checkReplay config sessionID expected events = .error message) : validString message = true := by
  induction events generalizing expected with
  | nil => cases failed
  | cons event events ih =>
    rw [checkReplay] at failed
    split at failed
    · cases failed
      decide
    split at failed
    · cases failed
      decide
    · exact ih failed

theorem reported_sendResume {resume : ResumePayload} {replayTo : UInt64} {timestamp : Int64} {idle : HandleResult}
    {events : List Envelope} {snapshot : Option Envelope} (replayed : ∀ event ∈ events, event.type = .event)
    (state : ∀ built ∈ snapshot, built.type = .stateSnapshot) :
    Asks (Reported config) (sendResume config frame outbound resume replayTo timestamp idle events snapshot) := by
  unfold sendResume
  simp only []
  split
  · exact asks_pure _
  refine (asks_ask ?_).bind (fun sent => ?_)
  · intro sent member type
    simp only [List.cons_append,List.mem_cons,List.mem_append,Option.mem_toList] at member
    rcases member with rfl | member | member
    · cases type
    · cases type.symm.trans (replayed sent member)
    · cases type.symm.trans (state sent member)
  · split <;> exact asks_pure _

theorem reported_resumeState {resume : ResumePayload} {snapshotID : Bytes} {replayTo : UInt64} {timestamp : Int64}
    {idle : HandleResult} {events : List Envelope} (replayed : ∀ event ∈ events, event.type = .event) :
    Asks (Reported config) (resumeState config frame outbound resume snapshotID replayTo timestamp idle events) := by
  unfold resumeState
  split
  · exact reported_sendResume replayed nofun
  unfold buildResumeStateSnapshot
  simp only []
  split
  · exact reported_failResume (by decide) (by decide)
  rename_i sync _ _ limits _
  refine ⟨trivial,fun active => ?_⟩
  have failed (error : Err) : Asks (Reported config) (failResume config frame outbound timestamp idle .stateUnavailable
      (lit "State snapshot could not be produced") error) := reported_failResume (by decide) (by decide)
  cases active with
  | false => exact failed (.sentinel .streamCallbackActive)
  | true =>
    refine ⟨trivial,fun found => ⟨trivial,fun _ => ?_⟩⟩
    cases found with
    | error error => exact failed error
    | ok states =>
      cases assembled : assembleSnapshot config (snapshotFrame frame.sessionID snapshotID timestamp) limits sync.namespaces
          states with
      | error error =>
        simp only [Program.andThen,pure,assembled]
        exact failed error
      | ok built =>
        simp only [Program.andThen,pure,assembled]
        refine reported_sendResume replayed (fun other member => ?_)
        cases member
        exact (assembleSnapshot_frame assembled).1

theorem reported_resumeStream {resume : ResumePayload} {snapshotID : Bytes} {timestamp : Int64} {idle : HandleResult} :
    Asks (Reported config) (resumeStream config frame outbound resume snapshotID timestamp idle) := by
  unfold resumeStream
  refine (reported_callback (asks_ask trivial)).bind (fun read => ?_)
  cases read with
  | error error => exact reported_failResume (by decide) (by decide)
  | ok replayTo =>
    simp only []
    split
    · exact reported_refuseResume (by decide) (by decide)
    split
    · exact reported_refuseResume (by decide) (by decide)
    split
    · exact reported_refuseResume (by decide) (by decide)
    unfold resumeEvents
    refine (reported_callback (asks_ask trivial)).bind (fun replayed => ?_)
    cases replayed with
    | error error =>
      simp only []
      unfold refuseReplay
      split
      · exact reported_refuseResume (by decide) (by decide)
      split
      · exact reported_refuseResume (by decide) (by decide)
      · exact reported_failResume (by decide) (by decide)
    | ok events =>
      simp only []
      split
      · rename_i message failed
        exact reported_refuseResume (checkReplay_text failed) (by decide)
      · rename_i expected checked
        split
        · exact reported_refuseResume (by decide) (by decide)
        · exact reported_resumeState (fun event member => ((checkReplay_range checked).valid event member).2.1)

theorem reported_handleResume : Asks (Reported config) (handleResume config frame outbound) := by
  unfold handleResume
  refine (asks_ask trivial).bind (fun now => ?_)
  simp only []
  split
  · exact asks_pure _
  rename_i resume _
  refine (asks_ask trivial).bind (fun found => ?_)
  match found with
  | .error error => exact asks_pure _
  | .ok none => exact reported_refuseResume (by decide) (by decide)
  | .ok (some state) =>
    refine Asks.bind ?_ (fun identified => ?_)
    · unfold resumeSnapshotID
      split
      · exact asks_pure _
      split
      · exact (reported_refuseResume (by decide) (by decide)).bind (fun _ => asks_pure _)
      split
      · exact (reported_refuseResume (by decide) (by decide)).bind (fun _ => asks_pure _)
      refine (asks_ask trivial).bind (fun named => ?_)
      match named with
      | .error .panic => exact asks_pure _
      | .error (.protocol _) | .error (.sentinel _) | .error (.plain _) | .error (.wrap _ _) =>
        exact (reported_refuseResume (by decide) (by decide)).bind (fun _ => asks_pure _)
      | .ok id =>
        simp only []
        split
        · exact (reported_refuseResume (by decide) (by decide)).bind (fun _ => asks_pure _)
        · exact asks_pure _
    · cases identified with
      | error reply => exact asks_pure _
      | ok snapshotID => exact reported_runStream reported_resumeStream

theorem reported_publishEvent {sessionID eventID eventType content : Bytes} :
    Asks (Reported config) (publishEvent config sessionID eventID eventType content outbound) := by
  unfold publishEvent
  split
  · exact asks_pure _
  split
  · exact asks_pure _
  refine (asks_ask trivial).bind (fun now => ?_)
  split
  · exact asks_pure _
  simp only []
  split
  · exact asks_pure _
  refine (reported_runStream ?_).bind (fun _ => asks_pure _)
  unfold appendEvent
  refine (reported_callback (asks_ask trivial)).bind (fun found => ?_)
  match found with
  | .error error => exact asks_pure _
  | .ok none => exact asks_pure _
  | .ok (some session) =>
    refine (reported_callback (asks_ask trivial)).bind (fun appended => ?_)
    cases appended with
    | error error => exact asks_pure _
    | ok event =>
      simp only []
      split
      · exact asks_pure _
      · rename_i matched
        have type := (matchesAppend_event matched).1
        refine asks_reply ?_
        unfold enqueueFrame
        split
        · exact asks_pure _
        · exact asks_ask (by simp [Reported,type])

theorem reported_processFrame : Asks (Reported config) (processFrame config frame outbound) := by
  unfold processFrame
  split
  · rename_i error failed
    exact reported_calm (calm_refuseFrame failed)
  unfold dispatchFrame
  refine (asks_ask trivial).bind (fun _ => ?_)
  split
  · exact reported_calm calm_handleHello
  · exact reported_calm calm_handlePing
  · exact reported_quiet quiet_handleSend
  · obtain ⟨request,same,calm⟩ := @calm_handleStateQuery config outbound frame
    rw [same]
    exact (asks_ask trivial).bind (fun now => reported_runStream (reported_calm (calm now)))
  · exact reported_handleResume
  · exact (asks_ask trivial).bind (fun _ => asks_pure _)
  · exact asks_reply (reported_calm (calm_error (by decide) (by decide)))

/-- Every ERROR a call sends is a report. -/
theorem ServerCall.reported (config : ServerConfig) (call : ServerCall) : Asks (Reported config) (call.program config) := by
  have admitted (generation : ConnectionGeneration) (frame : Envelope) (outbound : Nat) :
      Asks (Reported config) (handleAdmitted config generation frame outbound) := by
    unfold handleAdmitted invokeServerProcess
    refine Asks.bind (reported_processFrame.bind (fun reply => ?_)) (fun _ => (asks_ask trivial).bind (fun _ => asks_pure _))
    split
    · exact (asks_ask trivial).bind (fun _ => asks_pure _)
    · exact asks_pure _
  cases call with
  | handle generation frame =>
    refine (asks_ask trivial).bind (fun answer => ?_)
    cases answer with
    | stale | invalidState => exact asks_pure _
    | rejected outbound => exact reported_calm (calm_error (by decide) (by decide))
    | unvalidated outbound => exact admitted _ _ _
    | admitted outbound state => exact admitted _ _ _
  | replaceConnection => exact (asks_ask trivial).bind (fun _ => asks_pure _)
  | processFrame frame outbound => exact reported_processFrame.bind (fun _ => asks_pure _)
  | publishEvent sessionID eventID eventType content outbound => exact reported_publishEvent
  | publishStateUpdate sessionID updateID object outbound =>
    change Asks _ (Kmtproto.publishStateUpdate _ _ _ _ _)
    unfold Kmtproto.publishStateUpdate
    split
    · exact asks_pure _
    · exact (asks_ask trivial).bind (fun now =>
        (reported_runStream (reported_calm (calm_sendStateUpdate _ _ _ _))).bind (fun _ => asks_pure _))
  | pruneBefore sessionID first => exact (asks_ask trivial).bind (fun _ => asks_pure _)

end Reported

/-- An identifier an ERROR can quote: one that it copies has no control character. -/
def Quotable (value : Bytes) (limit : Int) : Prop :=
  (value.length : Int) ≤ limit → validString value = true → hasControl value = false

def quoted (value : Bytes) (limit : Int) : Bytes := if validBoundedProtocolString value limit true then value else []

structure Answers (config : ServerConfig) (frame : Envelope) (failure : ProtocolError) (sent : Envelope) : Prop where
  type : sent.type = .error
  valid : config.validates sent = .ok ()
  sessionID : sent.sessionID = quoted frame.sessionID config.limits.maxSessionIDLength
  payload : decodePayload readError {} sent.payload config.strictValidation =
    .ok {code := failure.code.name, message := truncateUTF8 failure.message config.limits.maxErrorMessageLength,
         refID := quoted frame.id config.limits.maxIDLength, retryable := failure.retryable}

/-- The queues took every batch of the trace. -/
def QueuesOpen (trace : List (Event Op Answer)) : Prop :=
  ∀ outbound frames answer, (⟨.enqueueBatch outbound frames,answer⟩ : Event Op Answer) ∈ trace → answer = .ok ()

section Rejected
variable {config : ServerConfig} {frame : Envelope} {outbound : Nat}

theorem quotable_iff (value : Bytes) (limit : Int) : Quotable value limit ↔ hasControl (copied value limit) = false := by
  unfold Quotable copied
  split
  · rename_i dropped
    refine ⟨fun _ => rfl,fun _ fits valid => ?_⟩
    simp only [valid,Bool.not_true,Bool.false_eq_true,or_false] at dropped
    omega
  · rename_i kept
    simp only [not_or,Bool.not_eq_true',Bool.not_eq_false] at kept
    exact ⟨fun quotable => quotable (not_lt.mp kept.1) kept.2,fun free _ _ => free⟩

theorem copied_quoted {value : Bytes} {limit : Int} (quotable : Quotable value limit) : copied value limit = quoted value limit := by
  unfold copied quoted
  by_cases dropped : (value.length : Int) > limit ∨ !validString value
  · rw [if_pos dropped,if_neg]
    rcases dropped with long | invalid
    · simp [validBoundedProtocolString,long]
    · simp only [Bool.not_eq_true'] at invalid
      simp [validBoundedProtocolString,invalid]
  · rw [if_neg dropped,if_pos]
    simp only [not_or,Bool.not_eq_true',Bool.not_eq_false] at dropped
    have free := quotable (not_lt.mp dropped.1) dropped.2
    simp [validBoundedProtocolString,dropped.1,dropped.2,free]

/-- The ERROR built for a failure is valid when the identifiers of its frame can be quoted. -/
theorem errorFrameAt_valid_iff (defaults : config.limits = defaultLimits) {failure : ProtocolError}
    (report : failure.Reportable) (timestamp : Int64) :
    config.validates (errorFrameAt config frame.sessionID frame.id failure.code failure.message failure.retryable timestamp)
      = .ok () ↔ Quotable frame.id config.limits.maxIDLength ∧ Quotable frame.sessionID config.limits.maxSessionIDLength := by
  rw [quotable_iff,quotable_iff,and_comm,ServerConfig.validates,validateOutboundFrame_eq,errorFrameAt_eq,defaults]
  obtain ⟨_,valid,short⟩ := truncateUTF8_spec report.text defaultLimits.maxErrorMessageLength
  refine validateFrame_error_iff ⟨copied_valid _ _,?_⟩ rfl report.flag ⟨valid,?_⟩ ⟨copied_valid _ _,?_⟩
  · have fits := copied_length frame.sessionID (show 0 ≤ defaultLimits.maxSessionIDLength by decide)
    exact_mod_cast (show _ ≤ (128 : Int) from fits)
  · have fits := short (by decide)
    exact_mod_cast (show _ ≤ (1024 : Int) from fits)
  · have fits := copied_length frame.id (show 0 ≤ defaultLimits.maxIDLength by decide)
    exact_mod_cast (show _ ≤ (128 : Int) from fits)

theorem refuseFrame_sends {error : Err} {failure : ProtocolError} {trace : List (Event Op Answer)} {reply : Reply}
    (runs : Runs (refuseFrame config frame outbound error) trace reply) (other : frame.type ≠ .error)
    (found : error.asProtocol = some failure) (opened : QueuesOpen trace) :
    ∃ timestamp, batchesSent trace =
      match config.validates (errorFrameAt config frame.sessionID frame.id failure.code failure.message failure.retryable
        timestamp) with
      | .ok () => [(outbound,[errorFrameAt config frame.sessionID frame.id failure.code failure.message failure.retryable
          timestamp])]
      | .error _ => [] := by
  unfold refuseFrame at runs
  rw [if_neg other,found] at runs
  obtain ⟨sent,first,rest,rfl,reported,ended⟩ := runs.bind_split
  obtain ⟨rfl,rfl⟩ := ended.pure_inv
  unfold enqueueError at reported
  obtain ⟨now,later,rfl,sending⟩ := reported.ask_split
  refine ⟨unixMilli now,?_⟩
  unfold enqueueErrorAt enqueueFrame at sending
  cases checked : config.validates (errorFrameAt config frame.sessionID frame.id failure.code failure.message
      failure.retryable (unixMilli now)) with
  | error error =>
    rw [checked] at sending
    obtain ⟨rfl,_⟩ := Runs.pure_inv sending
    rfl
  | ok done =>
    rw [checked] at sending
    obtain ⟨answer,last,rfl,closing⟩ := Runs.ask_split sending
    cases opened _ _ answer (by simp)
    simp only [] at closing
    split at closing
    · obtain ⟨_,_,rfl,done⟩ := Runs.ask_split closing
      obtain ⟨rfl,_⟩ := Runs.pure_inv done
      rfl
    · obtain ⟨rfl,_⟩ := Runs.pure_inv closing
      rfl

/-- Every rejected frame is answered with one valid ERROR, as long as its identifiers can
be quoted, and every ERROR the server builds reports a code and a message. -/
theorem rejected_frame_answered (config : ServerConfig) (defaults : config.limits = defaultLimits) :
    (∀ frame outbound error trace reply, frame.type ≠ .error →
      validateFrame frame config.limits config.strictValidation = .error error →
      Runs (processFrame config frame outbound) trace reply → QueuesOpen trace →
      ∃ failure, error.asProtocol = some failure ∧
        (∀ timestamp, ErrorReport config
          (errorFrameAt config frame.sessionID frame.id failure.code failure.message failure.retryable timestamp)) ∧
        ((∃ sent, batchesSent trace = [(outbound,[sent])] ∧ Answers config frame failure sent) ↔
          Quotable frame.id config.limits.maxIDLength ∧ Quotable frame.sessionID config.limits.maxSessionIDLength)) ∧
    ∀ call : ServerCall, Asks (Reported config) (call.program config) := by
  refine ⟨fun frame outbound error trace reply other failed runs opened => ?_,ServerCall.reported config⟩
  obtain ⟨failure,found,report⟩ := refuses_frame _ _ _ error failed
  refine ⟨failure,found,fun _ => errorFrameAt_report report.text report.flag,?_⟩
  unfold processFrame at runs
  rw [failed] at runs
  obtain ⟨timestamp,sends⟩ := refuseFrame_sends runs other found opened
  rw [sends,← errorFrameAt_valid_iff defaults report timestamp]
  constructor
  · rintro ⟨sent,one,_⟩
    split at one
    · assumption
    · cases one
  · intro valid
    rw [valid]
    have quotable := (errorFrameAt_valid_iff defaults report timestamp).mp valid
    refine ⟨_,rfl,rfl,valid,copied_quoted quotable.2,?_⟩
    rw [decodePayload_errorFrameAt _ report.text,copied_quoted quotable.1]

end Rejected

private theorem replaying_open (program : Server Reply) : QueuesOpen (program.offered replaying).1 := by
  intro outbound frames answer member
  exact eq_of_heq (Sigma.mk.inj (Program.mem_offered member)).2

def controlPing : Envelope := {type := .ping, id := [0x01]}

theorem control_id_unanswered :
    validateFrame controlPing defaultLimits true =
        .error (.protocol (newProtocolError .badRequest (lit "invalid or oversized frame id"))) ∧
      ∃ trace reply, Runs (processFrame {} controlPing 0) trace reply ∧ QueuesOpen trace ∧ batchesSent trace = [] :=
  ⟨by decide +kernel,_,_,Program.runs_offered _ replaying,replaying_open _,by decide +kernel⟩

/-- A PING without a session is answered. -/
theorem rejected_frame_answered_ping : ∃ failure sent,
    batchesSent ((processFrame {} {type := .ping, id := lit "p"} 0).offered replaying).1 = [(0,[sent])] ∧
      Answers {} {type := .ping, id := lit "p"} failure sent := by
  obtain ⟨failure,_,_,answered⟩ := (rejected_frame_answered {} rfl).1 {type := .ping, id := lit "p"} 0
    (.protocol (newProtocolError .badRequest (lit "PING requires session_id"))) _ _ (by decide) (by decide +kernel)
    (Program.runs_offered _ replaying) (replaying_open _)
  obtain ⟨sent,one,answers⟩ := answered.mpr ⟨fun _ _ => by decide +kernel,fun _ _ => by decide +kernel⟩
  exact ⟨failure,sent,one,answers⟩

end Kmtproto
