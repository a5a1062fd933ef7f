import Kmtproto.StreamRules

/-! The registry of SENDs in flight. A flight belongs to the call that registered it
until that call finishes it, and the callbacks of a SEND run under its flight, so the
registry always shows exactly the calls that lead one. -/
namespace Kmtproto
open Json Interaction

inductive FlightPhase where
  | idle
  | leading (key : Bytes) (flight : Nat) (fingerprint : SendFingerprint)
  | calling (key : Bytes) (flight : Nat) (fingerprint : SendFingerprint)
  deriving DecidableEq

namespace FlightPhase

def lead : FlightPhase → Option (Bytes × Nat × SendFingerprint)
  | .idle => none
  | .leading key flight fingerprint | .calling key flight fingerprint => some (key,flight,fingerprint)

def active : FlightPhase → Bool
  | .calling _ _ _ => true
  | _ => false

def entered : FlightPhase → FlightPhase
  | .leading key flight fingerprint => .calling key flight fingerprint
  | phase => phase

def left : FlightPhase → FlightPhase
  | .calling key flight fingerprint => .leading key flight fingerprint
  | phase => phase

def next (phase : FlightPhase) : (op : Op) → Answer op → FlightPhase
  | .acquireFlight key fingerprint, ticket =>
    if ticket.conflict = false ∧ ticket.leader = true then .leading key ticket.flight fingerprint else phase
  | .beginSendCallback _ _, true => phase.entered
  | .endSendCallback _, _ => phase.left
  | .finishFlight _ _, _ => .idle
  | _, _ => phase

@[simp] theorem lead_entered (phase : FlightPhase) : phase.entered.lead = phase.lead := by cases phase <;> rfl

@[simp] theorem lead_left (phase : FlightPhase) : phase.left.lead = phase.lead := by cases phase <;> rfl

end FlightPhase

def Envelope.BadRequest (strict : Bool) (frame : Envelope) : Prop :=
  frame.type = .error ∧ ∃ payload, decodePayload readError {} frame.payload strict = .ok payload ∧
    payload.code = ErrorCode.badRequest.name

/-- What a call that handles a valid SEND knows about it: the identity and fingerprint of the
SEND, its flight, whether another flight was in the way, and the fingerprint of the record
that kept it from claiming. -/
structure SendState where
  sends : Option (Bytes × SendFingerprint) := none
  conflict : Bool := false
  found : Option SendFingerprint := none
  phase : FlightPhase := .idle

namespace SendState
variable (strict : Bool) (state : SendState)

def Conflicting : Prop :=
  state.conflict = true ∨ ∃ key flight fingerprint other,
    state.phase = .leading key flight fingerprint ∧ state.found = some other ∧ other ≠ fingerprint

def allowed : Op → Prop
  | .acquireFlight key fingerprint => state.sends = some (key,fingerprint) ∧ state.phase = .idle
  | .beginSendCallback key flight | .finishFlight key flight => ∃ fingerprint, state.phase = .leading key flight fingerprint
  | .endSendCallback flight => ∃ key fingerprint, state.phase = .calling key flight fingerprint
  | .claim sessionID msgID fingerprint _ => ∃ flight, state.phase = .calling (dedupKey sessionID msgID) flight fingerprint
  | .complete sessionID msgID _ _ | .handleSend sessionID msgID _ | .handleSendReturn sessionID msgID _ =>
      ∃ flight fingerprint, state.phase = .calling (dedupKey sessionID msgID) flight fingerprint
  | .inject _ => state.phase.active = true
  -- a call that handles no SEND looks sessions up under no flight
  | .lookup sessionID _ => state.sends ≠ none →
      ∃ msgID flight fingerprint, state.phase = .calling (dedupKey sessionID msgID) flight fingerprint
  | .enqueueBatch _ frames => state.sends ≠ none → ∀ frame ∈ frames, frame.BadRequest strict → state.Conflicting
  | _ => True

def next (op : Op) (answer : Answer op) : SendState :=
  let state := {state with phase := state.phase.next op answer}
  match op, answer with
  | .acquireFlight _ _, ticket => {state with conflict := ticket.conflict, found := none}
  | .claim _ _ _ _, .ok (_,record) => {state with found := record.map DedupRecord.fingerprint}
  | _, _ => state

theorem next_sends (op : Op) (answer : Answer op) : (state.next op answer).sends = state.sends := by
  unfold next
  simp only []
  split <;> rfl

theorem next_phase (op : Op) (answer : Answer op) : (state.next op answer).phase = state.phase.next op answer := by
  unfold next
  simp only []
  split <;> rfl

end SendState

def sendRules (strict : Bool) : Monitor Op Answer SendState where
  allowed := SendState.allowed strict
  next := SendState.next

/-- The identity and fingerprint of the SEND a valid frame carries. -/
def Envelope.sending (config : ServerConfig) (frame : Envelope) : Option (Bytes × SendFingerprint) :=
  if frame.type = .send ∧ validateFrame frame config.limits config.strictValidation = .ok () then
    match decodePayload readSend {} frame.payload config.strictValidation with
    | .ok payload => some (dedupKey frame.sessionID frame.id,Sha256.sum256 payload.content)
    | .error _ => none
  else none

def ServerCall.sending (config : ServerConfig) : ServerCall → Option (Bytes × SendFingerprint)
  | .handle _ frame | .processFrame frame _ => frame.sending config
  | _ => none

def ServerCall.send (config : ServerConfig) (call : ServerCall) : SendState := {sends := call.sending config}

section Error
variable {config : ServerConfig} {sessionID refID message : Bytes} {code : ErrorCode} {retryable : Bool} {timestamp : Int64}

private theorem error_members (payload : ErrorPayload) :
    ∀ entry ∈ [(lit "code",quote payload.code)] ++ optional (!payload.message.isEmpty) (lit "message") (quote payload.message) ++
      optional (!payload.refID.isEmpty) (lit "ref_id") (quote payload.refID) ++
      [(lit "retryable",encodeBool payload.retryable)], Passes entry.1 ∧ ∃ node, Reads 1 entry.2 node := by
  intro entry member
  simp only [optional,List.mem_append,List.mem_singleton,List.mem_ite_nil_right] at member
  rcases member with ((rfl | ⟨_,rfl⟩) | ⟨_,rfl⟩) | rfl
  · exact ⟨rfl,_,reads_quote 1 _⟩
  · exact ⟨rfl,_,reads_quote 1 _⟩
  · exact ⟨rfl,_,reads_quote 1 _⟩
  · exact ⟨rfl,_,reads_bool 1 _⟩

private theorem reads_error (payload : ErrorPayload) : ∃ node, Reads 2 payload.marshal node :=
  ⟨_,reads_object 1 _ (fun entry member => (error_members payload entry member).1)
    (fun entry member => (error_members payload entry member).2)⟩

private theorem readError_code {strict : Bool} {payload read : ErrorPayload}
    (got : readError strict {} payload.marshal = some read) : read.code = toValid payload.code := by
  have members := readStruct_written 1 (fun entry member => (error_members payload entry member).1)
    (fun entry member => (error_members payload entry member).2) got
  rw [List.append_assoc,List.append_assoc,List.singleton_append,readMembers_cons _ (by decide) rfl
    (by simp only [field,readText_quote,Option.map_some]; rfl)] at members
  have message (current : ErrorPayload) (rest : List (Bytes × Bytes)) :
      ((lit "message",quote payload.message)::rest).foldlM (readMember errorFields strict) current =
        rest.foldlM (readMember errorFields strict) {current with message := toValid payload.message} :=
    readMembers_cons _ (by decide) rfl (by simp only [field,readText_quote,Option.map_some])
  have ref (current : ErrorPayload) (rest : List (Bytes × Bytes)) :
      ((lit "ref_id",quote payload.refID)::rest).foldlM (readMember errorFields strict) current =
        rest.foldlM (readMember errorFields strict) {current with refID := toValid payload.refID} :=
    readMembers_cons _ (by decide) rfl (by simp only [field,readText_quote,Option.map_some])
  have flag (current : ErrorPayload) :
      [(lit "retryable",encodeBool payload.retryable)].foldlM (readMember errorFields strict) current =
        some {current with retryable := payload.retryable} :=
    readMembers_cons _ (by decide) rfl (by simp only [field,readFlag_encodeBool,Option.map_some])
  unfold optional at members
  split at members <;> split at members <;>
    simp only [List.nil_append,List.cons_append,message,ref,flag,Option.some.injEq] at members <;>
    rw [← members]

/-- An error reports the code it was made with. -/
theorem badRequest_code (reported : (errorFrameAt config sessionID refID code message retryable timestamp).BadRequest
    config.strictValidation) : code = .badRequest := by
  obtain ⟨_,payload,decoded,named⟩ := reported
  obtain ⟨node,reads⟩ := reads_error _
  have written := readError_code (decodePayload_written reads decoded)
  have names : toValid code.name = ErrorCode.badRequest.name → code = .badRequest := by cases code <;> decide
  exact names (written.symm.trans named)

end Error

section Compliance
variable {config : ServerConfig} {outbound : Nat} {frame : Envelope} {state : SendState} {α : Type}

theorem send_free {program : Server α} (asks : Asks (fun op => op.sends = false) program) (other : state.sends = none) :
    Meets (sendRules config.strictValidation) (fun after _ => after = state) state program := by
  refine asks.meets (fun op free => ?_)
  cases op with
  | acquireFlight | finishFlight | beginSendCallback | endSendCallback | claim | complete | handleSend
  | handleSendReturn | inject => cases free
  | enqueueBatch | lookup => exact ⟨fun sends => absurd other sends,fun _ => rfl⟩
  | _ => exact ⟨trivial,fun _ => rfl⟩

theorem send_enqueueFrame {sent : Envelope}
    (plain : sent.BadRequest config.strictValidation → state.Conflicting) :
    Meets (sendRules config.strictValidation) (fun after _ => after = state) state (enqueueFrame config outbound sent) := by
  unfold enqueueFrame
  split
  · exact rfl
  · exact ⟨fun _ => by simpa using plain,fun _ => rfl⟩

theorem send_errorAt {sessionID refID : Bytes} {code : ErrorCode} {message : Bytes} {retryable : Bool} {timestamp : Int64}
    (plain : code = .badRequest → state.Conflicting) :
    Meets (sendRules config.strictValidation) (fun after _ => after = state) state
      (enqueueErrorAt config outbound sessionID refID code message retryable timestamp) := by
  unfold enqueueErrorAt
  rw [meets_bind]
  refine (send_enqueueFrame (fun reported => plain (badRequest_code reported))).mono (fun after sent same => ?_)
  subst same
  cases sent with
  | error error => exact rfl
  | ok done =>
    simp only []
    split
    · exact ⟨trivial,fun _ => rfl⟩
    · exact rfl

theorem send_enqueueACK {ack : Envelope} (type : ack.type = .ack) :
    Meets (sendRules config.strictValidation) (fun after _ => after = state) state (enqueueFrame config outbound ack) :=
  send_enqueueFrame (fun reported => by simp [reported.1] at type)

section Flight
variable {key : Bytes} {flight : Nat} {fingerprint : SendFingerprint}

/-- A callback under the flight the call leads. -/
theorem send_callback {β : Type} {callback : Server (Except Err α)} {next : Except Err α → Server β}
    {post : SendState → β → Prop} (leads : state.phase = .leading key flight fingerprint)
    (busy : ∀ error, Meets (sendRules config.strictValidation) post state (next (.error error)))
    (runs : Meets (sendRules config.strictValidation)
      (fun after result => after.phase = .calling key flight fingerprint ∧
        Meets (sendRules config.strictValidation) post {after with phase := .leading key flight fingerprint}
          (next (recovered result))) {state with phase := .calling key flight fingerprint} callback) :
    Meets (sendRules config.strictValidation) post state (invokeSendCallback key flight callback >>= next) := by
  rw [meets_bind]
  unfold invokeSendCallback
  refine ⟨⟨fingerprint,leads⟩,fun active => ?_⟩
  cases active with
  | false => exact busy _
  | true =>
    have entered : SendState.next state (.beginSendCallback key flight) true =
        {state with phase := .calling key flight fingerprint} := by
      simp [SendState.next,FlightPhase.next,leads,FlightPhase.entered]
    change Meets _ _ (SendState.next state (.beginSendCallback key flight) true) (callback >>= _)
    rw [entered,meets_bind]
    refine runs.mono (fun after result ended => ⟨⟨key,fingerprint,ended.1⟩,fun answer => ?_⟩)
    have left : SendState.next after (.endSendCallback flight) answer =
        {after with phase := .leading key flight fingerprint} := by
      simp [SendState.next,FlightPhase.next,ended.1,FlightPhase.left]
    change Meets _ _ (SendState.next after (.endSendCallback flight) answer) _
    rw [left]
    cases result with
    | ok value => exact ended.2
    | error error => cases error <;> exact ended.2

theorem send_plainCallback {β : Type} {callback : Server (Except Err α)} {next : Except Err α → Server β}
    {post : SendState → β → Prop} (leads : state.phase = .leading key flight fingerprint)
    (plain : Meets (sendRules config.strictValidation) (fun after _ => after = {state with phase := .calling key flight fingerprint})
      {state with phase := .calling key flight fingerprint} callback)
    (ends : ∀ result, Meets (sendRules config.strictValidation) post state (next result)) :
    Meets (sendRules config.strictValidation) post state (invokeSendCallback key flight callback >>= next) := by
  refine send_callback leads (fun error => ends _) (plain.mono (fun after result same => ?_))
  subst same
  refine ⟨rfl,?_⟩
  rw [← leads]
  exact ends _

theorem send_resendACK (ack : Envelope) :
    Meets (sendRules config.strictValidation) (fun after _ => after = state) state (resendACK config frame outbound ack) := by
  unfold resendACK
  split
  · exact rfl
  · rename_i stored
    exact send_enqueueACK (validateStoredACK_ackFor stored).type

theorem send_follow (ticket : FlightTicket) (timestamp : Int64) :
    Meets (sendRules config.strictValidation) (fun after _ => after = state) state
      (followSend config ticket frame outbound timestamp) := by
  unfold followSend waitForOriginal
  split
  · refine ⟨trivial,fun found => ?_⟩
    cases found with
    | none => exact send_errorAt nofun
    | some ack => exact send_resendACK ack
  · refine ⟨trivial,fun ended => ?_⟩
    cases ended with
    | false => exact rfl
    | true =>
      refine ⟨trivial,fun found => ?_⟩
      cases found with
      | none => exact send_errorAt nofun
      | some ack => exact send_resendACK ack

/-- A SEND is refused for its content only when the record it found has another. -/
theorem send_refused {existing : Option DedupRecord} (timestamp : Int64)
    (leads : state.phase = .leading key flight fingerprint) (found : state.found = existing.map DedupRecord.fingerprint) :
    Meets (sendRules config.strictValidation) (fun after _ => after = state) state
      (refusedSend config existing flight fingerprint frame outbound timestamp) := by
  unfold refusedSend
  split
  · exact send_errorAt nofun
  split
  · rename_i record other
    exact send_errorAt (fun _ => .inr ⟨key,flight,fingerprint,record.fingerprint,leads,found,other⟩)
  split
  · split
    · exact rfl
    · rename_i stored
      exact ⟨trivial,fun _ => send_enqueueACK (validateStoredACK_ackFor stored).type⟩
  · exact send_errorAt nofun

theorem send_acknowledge (timestamp : Int64) (leads : state.phase = .leading key flight fingerprint)
    (own : key = dedupKey frame.sessionID frame.id) :
    Meets (sendRules config.strictValidation) (fun after _ => after = state) state
      (acknowledgeSend config key flight frame outbound timestamp) := by
  unfold acknowledgeSend completeSend
  simp only []
  split
  · exact rfl
  refine send_plainCallback leads ⟨trivial,fun _ => ⟨⟨flight,fingerprint,by rw [own]; rfl⟩,fun _ => rfl⟩⟩ (fun completed => ?_)
  cases completed with
  | error error => exact rfl
  | ok _ =>
    refine ⟨trivial,fun _ => send_plainCallback leads ⟨rfl,fun _ => rfl⟩ (fun injected => ?_)⟩
    cases injected with
    | error error => exact rfl
    | ok _ => exact send_enqueueACK rfl

theorem send_claimed (content : Bytes) (timestamp : Int64) (leads : state.phase = .leading key flight fingerprint)
    (own : key = dedupKey frame.sessionID frame.id) :
    Meets (sendRules config.strictValidation) (fun after _ => after = state) state
      (claimedSend config key flight content frame outbound timestamp) := by
  unfold claimedSend callApplication
  refine send_plainCallback leads ⟨rfl,fun _ => rfl⟩ (fun injected => ?_)
  cases injected with
  | error error => exact rfl
  | ok _ =>
    have calling : ∃ other print, FlightPhase.calling key flight fingerprint =
        .calling (dedupKey frame.sessionID frame.id) other print := ⟨flight,fingerprint,by rw [own]⟩
    refine send_plainCallback leads ⟨calling,fun _ => ⟨calling,fun _ => rfl⟩⟩ (fun accepted => ?_)
    cases accepted with
    | error error => exact send_errorAt nofun
    | ok _ =>
      refine send_plainCallback leads ⟨rfl,fun _ => rfl⟩ (fun injected => ?_)
      cases injected with
      | error error => exact rfl
      | ok _ => exact send_acknowledge timestamp leads own

theorem send_lead (content : Bytes) (now : Int) (leads : state.phase = .leading key flight fingerprint)
    (own : key = dedupKey frame.sessionID frame.id) :
    Meets (sendRules config.strictValidation) (fun after _ => after.phase = .leading key flight fingerprint) state
      (leadSend config key flight content fingerprint now frame outbound) := by
  unfold leadSend claimSend
  refine send_plainCallback leads ⟨fun _ => ⟨frame.id,flight,fingerprint,by rw [own]⟩,fun _ => rfl⟩ (fun looked => ?_)
  match looked with
  | .error error => exact leads
  | .ok none =>
    refine (meets_bind _ _ _).mpr (Meets.mono (send_errorAt ?_) (fun after _ same => ?_))
    · nofun
    · subst same
      exact leads
  | .ok (some session) =>
    refine send_callback leads (fun _ => leads) ⟨trivial,fun instant => ⟨⟨flight,by rw [own]; rfl⟩,fun claimed => ?_⟩⟩
    match claimed with
    | .error error => exact ⟨rfl,by cases error <;> exact rfl⟩
    | .ok (false,existing) =>
      refine ⟨rfl,(meets_bind _ _ _).mpr ?_⟩
      exact (send_refused (unixMilli now) rfl rfl).mono (fun _ _ same => by rw [same]; rfl)
    | .ok (true,existing) =>
      refine ⟨rfl,(meets_bind _ _ _).mpr ?_⟩
      exact (send_claimed content (unixMilli now) rfl own).mono (fun _ _ same => by rw [same]; rfl)

end Flight

theorem send_handleSend (idle : state.phase = .idle)
    (sends : ∀ payload, decodePayload readSend {} frame.payload config.strictValidation = .ok payload →
      state.sends = some (dedupKey frame.sessionID frame.id,Sha256.sum256 payload.content)) :
    Meets (sendRules config.strictValidation) (fun after _ => after.phase = .idle) state (handleSend config frame outbound) := by
  unfold handleSend
  refine meets_ask_bind.mpr ⟨trivial,fun now => ?_⟩
  split
  · exact idle
  rename_i payload decoded
  refine meets_ask_bind.mpr ⟨⟨sends payload decoded,idle⟩,fun ticket => ?_⟩
  obtain ⟨flight,leader,conflict,callbackActive⟩ := ticket
  cases conflict with
  | true =>
    rw [if_pos rfl,meets_bind]
    refine Meets.mono (send_errorAt (fun _ => .inl rfl)) (fun after _ same => ?_)
    subst same
    exact idle
  | false =>
    rw [if_neg (by simp)]
    cases leader with
    | false =>
      rw [if_pos (by rfl),meets_bind]
      refine (send_follow _ _).mono (fun after _ same => ?_)
      subst same
      exact idle
    | true =>
      rw [if_neg (by simp),meets_bind]
      exact (send_lead payload.content now rfl rfl).mono (fun after _ leads => ⟨⟨_,leads⟩,fun _ => rfl⟩)

section Free

theorem free_ask {op : Op} (free : op.sends = false) :
    Asks (fun op => op.sends = false) (ask op : Server (Answer op)) := ⟨free,fun _ => trivial⟩

theorem free_runStream {sessionID : Bytes} {idle : HandleResult} {request : Server Reply}
    (free : Asks (fun op => op.sends = false) request) :
    Asks (fun op => op.sends = false) (runStream sessionID idle request) := by
  unfold runStream
  refine (free_ask rfl).bind (fun joined => ?_)
  cases joined with
  | none => exact asks_pure _
  | some ticket =>
    refine (free_ask rfl).bind (fun _ => free.bind (fun reply => (free_ask rfl).bind (fun _ => ?_)))
    split <;> exact asks_pure _

theorem calm_free {program : Server α} (calm : Asks (CalmReports config) program) :
    Asks (fun op => op.sends = false) program := calm.mono (fun _ calm => calm.1.2)

theorem free_handleResume : Asks (fun op => op.sends = false) (handleResume config frame outbound) := by
  refine resume_handle.asks (fun progress op allowed => ?_)
  cases op <;> first
    | rfl
    | exact allowed.elim

theorem free_publishEvent {sessionID eventID eventType content : Bytes} :
    Asks (fun op => op.sends = false) (publishEvent config sessionID eventID eventType content outbound) := by
  have callback {α : Type} {callback : Server (Except Err α)} (free : Asks (fun op => op.sends = false) callback) :
      Asks (fun op => op.sends = false) (invokeCallback sessionID callback) := by
    unfold invokeCallback
    refine (free_ask rfl).bind (fun active => ?_)
    split
    · exact free.bind (fun _ => (free_ask rfl).bind (fun _ => asks_pure _))
    · exact asks_pure _
  unfold publishEvent
  split
  · exact asks_pure _
  split
  · exact asks_pure _
  refine (free_ask rfl).bind (fun now => ?_)
  split
  · exact asks_pure _
  simp only []
  split
  · exact asks_pure _
  refine (free_runStream ?_).bind (fun _ => asks_pure _)
  unfold appendEvent
  refine (callback (free_ask rfl)).bind (fun looked => ?_)
  match looked with
  | .error error => exact asks_pure _
  | .ok none => exact asks_pure _
  | .ok (some session) =>
    refine (callback (free_ask rfl)).bind (fun stored => ?_)
    cases stored with
    | error error => exact asks_pure _
    | ok event =>
      simp only []
      split
      · exact asks_pure _
      · refine asks_reply ?_
        unfold enqueueFrame
        split
        · exact asks_pure _
        · exact free_ask rfl

end Free

theorem send_processFrame (idle : state.phase = .idle)
    (sends : state.sends = frame.sending config) :
    Meets (sendRules config.strictValidation) (fun after _ => after.phase = .idle) state
      (processFrame config frame outbound) := by
  have lifted {program : Server Reply} (other : frame.sending config = none)
      (free : Asks (fun op => op.sends = false) program) :
      Meets (sendRules config.strictValidation) (fun after _ => after.phase = .idle) state program :=
    (send_free free (sends.trans other)).mono (fun _ _ same => by rw [same]; exact idle)
  unfold processFrame
  split
  · rename_i error invalid
    exact lifted (if_neg (by simp [invalid])) (calm_free (calm_refuseFrame invalid))
  rename_i valid
  unfold dispatchFrame
  refine meets_ask_bind.mpr ⟨trivial,fun _ => ?_⟩
  have kind (other : frame.type ≠ .send) : frame.sending config = none := if_neg (fun both => other both.1)
  split
  · exact lifted (kind (by simp [*])) (calm_free calm_handleHello)
  · exact lifted (kind (by simp [*])) (calm_free calm_handlePing)
  · rename_i type
    refine send_handleSend idle (fun payload decoded => ?_)
    exact sends.trans (by rw [Envelope.sending,if_pos ⟨type,valid⟩,decoded])
  · obtain ⟨request,same,calm⟩ := @calm_handleStateQuery config outbound frame
    rw [same]
    exact lifted (kind (by simp [*])) ((free_ask rfl).bind (fun now => free_runStream (calm_free (calm now))))
  · exact lifted (kind (by simp [*])) free_handleResume
  · exact lifted (kind (by simp [*])) ((free_ask rfl).bind (fun _ => asks_pure _))
  · rename_i send _ _ _
    exact lifted (kind send) (asks_reply (calm_free (calm_error (by decide) (by decide))))

theorem send_handleAdmitted {generation : ConnectionGeneration} (idle : state.phase = .idle)
    (sends : state.sends = frame.sending config) :
    Meets (sendRules config.strictValidation) (fun after _ => after.phase = .idle) state
      (handleAdmitted config generation frame outbound) := by
  unfold handleAdmitted invokeServerProcess
  rw [meets_bind,meets_bind]
  refine (send_processFrame idle sends).mono (fun after reply ended => ?_)
  have applied (result : HandleResult) (outcome : Except Err Unit) : Meets (sendRules config.strictValidation)
      (fun after _ => after.phase = .idle) after (do ask (.applyResult generation outbound result); return outcome) :=
    ⟨trivial,fun _ => ended⟩
  obtain ⟨result,outcome⟩ := reply
  cases outcome with
  | ok done => exact applied _ _
  | error error =>
    cases error with
    | panic => exact ⟨trivial,fun _ => applied _ _⟩
    | _ => exact applied _ _

/-- Every call keeps to the rules about SENDs, and ends without a flight. -/
theorem ServerCall.sendsByRules (config : ServerConfig) (call : ServerCall) :
    Meets (sendRules config.strictValidation) (fun after _ => after.phase = .idle) (call.send config) (call.program config) := by
  have lifted {program : Server (Except Err Unit)} (free : Asks (fun op => op.sends = false) program) :
      Meets (sendRules config.strictValidation) (fun after _ => after.phase = .idle) {} program :=
    (send_free free rfl).mono (fun _ _ same => by rw [same])
  cases call with
  | handle generation frame =>
    refine ⟨trivial,fun answer => ?_⟩
    cases answer with
    | stale | invalidState => exact rfl
    | rejected outbound =>
      refine ⟨trivial,fun _ => Meets.mono (send_errorAt ?_) (fun _ _ same => by rw [same]; rfl)⟩
      nofun
    | unvalidated outbound => exact send_handleAdmitted rfl rfl
    | admitted outbound state => exact send_handleAdmitted rfl rfl
  | processFrame frame outbound => exact (meets_bind _ _ _).mpr (send_processFrame rfl rfl)
  | replaceConnection => exact lifted ((free_ask rfl).bind (fun _ => asks_pure _))
  | publishEvent sessionID eventID eventType content outbound => exact lifted free_publishEvent
  | publishStateUpdate sessionID updateID object outbound =>
    refine lifted ?_
    change Asks _ (Kmtproto.publishStateUpdate _ _ _ _ _)
    unfold Kmtproto.publishStateUpdate
    split
    · exact asks_pure _
    · exact (free_ask rfl).bind (fun now =>
        (free_runStream (calm_free (calm_sendStateUpdate _ _ _ _))).bind (fun _ => asks_pure _))
  | pruneBefore sessionID first => exact lifted ((free_ask rfl).bind (fun _ => asks_pure _))

end Compliance

end Kmtproto
