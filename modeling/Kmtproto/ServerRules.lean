import Kmtproto.ServerHandlers

/-! What the calls of the server keep to, whatever they are answered. The rules say
which frames a call may enqueue, in which order it takes a SEND through claim,
Application and completion, and what it owes to the gate; every invariant of the shared
state is proved from them. -/
namespace Kmtproto
open Json Interaction

inductive SendPhase where
  | idle
  | claimed (sessionID msgID : Bytes)
  | started (sessionID msgID content : Bytes)
  | accepted (sessionID msgID content : Bytes)
  deriving DecidableEq

/-- What a call has learned from the answers so far. -/
structure Knowledge where
  frame : Option Envelope := none
  gated : Bool := false
  owes : Option (ConnectionGeneration × Nat) := none
  phase : SendPhase := .idle
  events : List Envelope := []
  acks : List Envelope := []
  welcomed : List (Nat × Bytes) := []
  sessions : List (Bytes × SessionCapabilities) := []

/-- The ACK that answers the SEND `msgID` of a session. -/
structure AckFor (strict : Bool) (ack : Envelope) (sessionID msgID : Bytes) : Prop where
  type : ack.type = .ack
  session : ack.sessionID = sessionID
  ref : decodePayload readAck {} ack.payload strict = .ok {refID := msgID}

def SendContent (strict : Bool) (frame : Envelope) (content : Bytes) : Prop :=
  frame.type = .send ∧ decodePayload readSend {} frame.payload strict = .ok {content := content}

def Envelope.asksSession (frame : Envelope) : Prop :=
  frame.type = .ping ∨ frame.type = .send ∨ frame.type = .stateQuery

instance (frame : Envelope) : Decidable frame.asksSession := inferInstanceAs (Decidable (_ ∨ _))

namespace Knowledge
variable (known : Knowledge)

/-- A call that went through admission answers only on a queue that welcomed the session. -/
def welcomes (outbound : Nat) (sessionID : Bytes) : Prop :=
  known.gated = true → (outbound,sessionID) ∈ known.welcomed

def maySend (outbound : Nat) (frame : Envelope) : Prop :=
  match frame.type with
  | .error | .welcome => True
  | .event => frame ∈ known.events ∧ known.welcomes outbound frame.sessionID
  | .ack => frame ∈ known.acks ∧ known.welcomes outbound frame.sessionID
  | .pong | .stateSnapshot => known.welcomes outbound frame.sessionID
  | .stateUpdate => known.gated = false
  | _ => False

def sent (outbound : Nat) (frame : Envelope) : Knowledge :=
  if frame.type = .welcome then {known with welcomed := (outbound,frame.sessionID)::known.welcomed} else known

def maySendAll (outbound : Nat) : Knowledge → List Envelope → Prop
  | _, [] => True
  | known, frame::frames => known.maySend outbound frame ∧ maySendAll outbound (known.sent outbound frame) frames

/-- The gate lets a frame through: the call owes it a result, and a frame about a session
is about one the queue has welcomed. -/
def admits (generation : ConnectionGeneration) (outbound : Nat) (frame : Envelope) : Knowledge :=
  {known with
    owes := some (generation,outbound)
    welcomed := if frame.asksSession then (outbound,frame.sessionID)::known.welcomed else known.welcomed}

/-- A result that makes the gate READY names a session this call welcomed, with the
capabilities the repository has for it. -/
def mayApply (outbound : Nat) (result : HandleResult) : Prop :=
  result.readySessionID ≠ [] → (outbound,result.readySessionID) ∈ known.welcomed ∧
    (result.readySessionID,result.capabilities) ∈ known.sessions

/-- The frame of the call is the SEND `msgID` of a session without a NUL in its name. -/
def about (sessionID msgID : Bytes) : Prop :=
  0 ∉ sessionID ∧ ∃ frame, known.frame = some frame ∧ frame.sessionID = sessionID ∧ frame.id = msgID

def allowed (strict : Bool) (known : Knowledge) : Op → Prop
  | .claim sessionID msgID _ _ => known.phase = .idle ∧ known.about sessionID msgID
  | .handleSend sessionID msgID content => known.phase = .claimed sessionID msgID ∧
      ∃ frame, known.frame = some frame ∧ frame.sessionID = sessionID ∧ frame.id = msgID ∧
        SendContent strict frame content
  | .handleSendReturn sessionID msgID content => known.phase = .started sessionID msgID content
  | .complete sessionID msgID ack _ => known.about sessionID msgID ∧
      (∃ content, known.phase = .accepted sessionID msgID content) ∧ AckFor strict ack sessionID msgID
  | .setFlightACK _ ack => ack ∈ known.acks
  | .enqueueBatch outbound frames => maySendAll outbound known frames
  | .handled outbound frame => frame.asksSession → known.welcomes outbound frame.sessionID
  | .replaceConnection | .admitFrame _ _ _ | .applyResult _ _ _ => False
  | _ => True

def callAllowed (strict : Bool) (known : Knowledge) : Op → Prop
  | .replaceConnection => True
  | .admitFrame _ _ _ => known.gated = true ∧ known.owes = none
  | .applyResult generation outbound result =>
      known.owes = some (generation,outbound) ∧ known.mayApply outbound result
  | op => known.allowed strict op

def next : (op : Op) → Answer op → Knowledge
  | .lookup sessionID _, .ok (some state) => {known with sessions := (sessionID,state.capabilities)::known.sessions}
  | .create state, .ok () => {known with sessions := (state.sessionID,state.capabilities)::known.sessions}
  | .claim sessionID msgID _ _, .ok (true,_) => {known with phase := .claimed sessionID msgID}
  | .claim _ _ _ _, .ok (false,some record) => {known with acks := record.ack.toList++known.acks}
  | .handleSend sessionID msgID content, () => {known with phase := .started sessionID msgID content}
  | .handleSendReturn sessionID msgID content, .ok () => {known with phase := .accepted sessionID msgID content}
  | .handleSendReturn _ _ _, .error _ => {known with phase := .idle}
  | .complete _ _ ack _, .ok () => {known with phase := .idle, acks := ack::known.acks}
  | .flightACK _, some ack => {known with acks := ack::known.acks}
  | .append _ _ _ _ _, .ok event => {known with events := event::known.events}
  | .replay _ _ _ _, .ok events => {known with events := events++known.events}
  | .enqueueBatch outbound frames, .ok () => frames.foldl (fun known frame => known.sent outbound frame) known
  | .admitFrame generation frame _, .admitted outbound _ => known.admits generation outbound frame
  | .admitFrame generation frame true, .unvalidated outbound => known.admits generation outbound frame
  | .admitFrame generation _ false, .unvalidated outbound => {known with owes := some (generation,outbound)}
  | .applyResult _ _ _, () => {known with owes := none}
  | _, _ => known

end Knowledge

def rules (strict : Bool) : Monitor Op Answer Knowledge where
  allowed := Knowledge.allowed strict
  next := Knowledge.next

def callRules (strict : Bool) : Monitor Op Answer Knowledge where
  allowed := Knowledge.callAllowed strict
  next := Knowledge.next

section Steps
variable {config : ServerConfig} {known : Knowledge} {outbound : Nat}

@[simp] theorem rules_allowed (strict : Bool) (op : Op) : (rules strict).allowed known op = known.allowed strict op := rfl

@[simp] theorem rules_next (strict : Bool) (op : Op) (answer : Answer op) :
    (rules strict).next known op answer = known.next op answer := rfl

@[simp] theorem callRules_next (strict : Bool) (op : Op) (answer : Answer op) :
    (callRules strict).next known op answer = known.next op answer := rfl

theorem Knowledge.sent_frame (frames : List Envelope) :
    ∃ welcomed, frames.foldl (fun known frame => known.sent outbound frame) known = {known with welcomed := welcomed} := by
  induction frames generalizing known with
  | nil => exact ⟨_,rfl⟩
  | cons frame frames ih =>
    obtain ⟨welcomed,same⟩ := @ih (known.sent outbound frame)
    refine ⟨welcomed,same.trans ?_⟩
    unfold Knowledge.sent
    split <;> rfl

/-- A handler leaves what its call owes as it is. -/
theorem Knowledge.next_owes {strict : Bool} {op : Op} (allowed : known.allowed strict op) (answer : Answer op) :
    (known.next op answer).owes = known.owes := by
  unfold Knowledge.next
  split <;> first
    | rfl
    | exact allowed.elim
    | skip
  rename_i outbound frames
  obtain ⟨welcomed,same⟩ := known.sent_frame frames
  rw [same]

theorem Knowledge.callAllowed_of_allowed {strict : Bool} {op : Op} (allowed : known.allowed strict op) :
    known.callAllowed strict op := by
  unfold Knowledge.callAllowed
  split <;> first
    | exact allowed.elim
    | exact allowed

/-- A handler within a call. -/
theorem meets_call {α : Type} {strict : Bool} {post : Knowledge → α → Prop} {program : Server α}
    (meets : Meets (rules strict) post known program) :
    Meets (callRules strict) (fun after value => post after value ∧ after.owes = known.owes) known program := by
  have same : (callRules strict).next = (rules strict).next := rfl
  exact meets.transfer same (fun _ _ kept allowed =>
    ⟨Knowledge.callAllowed_of_allowed allowed,fun answer => (Knowledge.next_owes allowed answer).trans kept⟩) rfl

theorem Knowledge.sent_other {frame : Envelope} (other : frame.type ≠ .welcome) : known.sent outbound frame = known :=
  if_neg other

theorem meets_enqueueFrame {frame : Envelope} {post : Knowledge → Except Err Unit → Prop}
    (may : config.validates frame = .ok () → known.maySend outbound frame) (failed : ∀ error, post known (.error error))
    (done : config.validates frame = .ok () → post (known.sent outbound frame) (.ok ())) :
    Meets (rules config.strictValidation) post known (enqueueFrame config outbound frame) := by
  unfold enqueueFrame
  split
  · exact failed _
  · rename_i valid
    refine ⟨⟨may valid,trivial⟩,fun answer => ?_⟩
    cases answer with
    | error error => exact failed error
    | ok answer => exact done valid

/-- Reporting an error is always allowed and teaches nothing. -/
theorem meets_enqueueErrorAt {sessionID refID : Bytes} {code : ErrorCode} {message : Bytes} {retryable : Bool}
    {timestamp : Int64} {post : Knowledge → Except Err Unit → Prop} (done : ∀ result, post known result) :
    Meets (rules config.strictValidation) post known
      (enqueueErrorAt config outbound sessionID refID code message retryable timestamp) := by
  unfold enqueueErrorAt
  rw [meets_bind]
  refine meets_enqueueFrame (fun _ => trivial) (fun error => done _) (fun _ => ?_)
  simp only []
  split
  · exact ⟨trivial,fun _ => done _⟩
  · exact done _

theorem meets_enqueueError {sessionID refID : Bytes} {code : ErrorCode} {message : Bytes} {retryable : Bool}
    {post : Knowledge → Except Err Unit → Prop} (done : ∀ result, post known result) :
    Meets (rules config.strictValidation) post known
      (enqueueError config outbound sessionID refID code message retryable) :=
  ⟨trivial,fun _ => meets_enqueueErrorAt done⟩

def recovered {α : Type} : Except Err α → Except Err α
  | .error .panic => .error (.plain (lit "kmtproto: SEND dependency callback panicked"))
  | result => result

theorem meets_invokeSendCallback {α : Type} {key : Bytes} {flight : Nat} {callback : Server (Except Err α)}
    {post : Knowledge → Except Err α → Prop} {strict : Bool} (busy : ∀ error, post known (.error error))
    (runs : Meets (rules strict) (fun known result => post known (recovered result)) known callback) :
    Meets (rules strict) post known (invokeSendCallback key flight callback) := by
  unfold invokeSendCallback
  rw [meets_bind]
  refine ⟨trivial,fun active => ?_⟩
  cases active with
  | false => exact busy _
  | true =>
    change Meets _ _ known (callback >>= _)
    rw [meets_bind]
    refine runs.mono (fun known result ended => ⟨trivial,fun _ => ?_⟩)
    cases result with
    | ok value => exact ended
    | error error => cases error <;> exact ended

theorem meets_invokeCallback {α : Type} {sessionID : Bytes} {callback : Server (Except Err α)}
    {post : Knowledge → Except Err α → Prop} {strict : Bool} (busy : ∀ error, post known (.error error))
    (runs : Meets (rules strict) post known callback) :
    Meets (rules strict) post known (invokeCallback sessionID callback) := by
  unfold invokeCallback
  rw [meets_bind]
  refine ⟨trivial,fun active => ?_⟩
  cases active with
  | false => exact busy _
  | true =>
    change Meets _ _ known (callback >>= _)
    rw [meets_bind]
    exact runs.mono (fun known result ended => ⟨trivial,fun _ => ended⟩)

theorem meets_runStream {sessionID : Bytes} {idle : HandleResult} {request : Server Reply} {strict : Bool}
    (post : Knowledge → HandleResult → Prop) (unrun : post known idle)
    (runs : Meets (rules strict) (fun known reply => post known reply.1) known request) :
    Meets (rules strict) (fun known reply => post known reply.1) known (runStream sessionID idle request) := by
  unfold runStream
  rw [meets_bind]
  refine ⟨trivial,fun ticket => ?_⟩
  cases ticket with
  | none => exact unrun
  | some ticket =>
    refine ⟨trivial,fun _ => ?_⟩
    change Meets _ _ known (request >>= _)
    rw [meets_bind]
    refine runs.mono (fun known reply ended => ⟨trivial,fun _ => ?_⟩)
    simp only []
    split <;> exact ended

end Steps

end Kmtproto
