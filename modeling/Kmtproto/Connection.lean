import Kmtproto.ServerCompliance

/-! What a Handle call does to its connection. A handler touches one queue only, and
when it closes that queue its result closes the gate; the call around it goes to the
gate with the generation it was started with. -/
namespace Kmtproto
open Json Interaction

def Op.connection : Op → Bool
  | .enqueueBatch _ _ | .closeQueue _ | .handled _ _ | .replaceConnection | .admitFrame _ _ _ | .applyResult _ _ _ => true
  | _ => false

/-- The rules of a handler that answers on a queue; the state says whether it closed it. -/
def queueRules (outbound : Nat) : Monitor Op Answer Bool where
  allowed _ op := match op with
    | .enqueueBatch target _ | .closeQueue target | .handled target _ => target = outbound
    | .replaceConnection | .admitFrame _ _ _ | .applyResult _ _ _ => False
    | _ => True
  next closed op _ := match op with
    | .closeQueue _ => true
    | _ => closed

/-- A reply to a handler that closed its queue closes the gate. -/
def Shuts (closed : Bool) (reply : Reply) : Prop := closed = true → reply.1.close = true

def ClosesAsCoded {α : Type} (result : Except Err α) : Prop :=
  ∀ error refusal, result = .error error → error.asProtocol = some refusal →
    refusal.code.behavior.closeConnection = true → refusal.close = true

section Coded
variable {α β : Type}

theorem ClosesAsCoded.ok (value : α) : ClosesAsCoded (.ok value : Except Err α) := by
  intro error refusal failed
  cases failed

theorem ClosesAsCoded.fail (code : ErrorCode) (message : Bytes) :
    ClosesAsCoded (Kmtproto.fail code message : Except Err α) := by
  intro error refusal failed found closes
  cases failed
  cases found
  exact closes

theorem ClosesAsCoded.bind {first : Except Err α} {next : α → Except Err β} (head : ClosesAsCoded first)
    (tail : ∀ value, ClosesAsCoded (next value)) : ClosesAsCoded (first >>= next) := by
  cases first with
  | error other =>
    intro error refusal failed
    cases failed
    exact head other refusal rfl
  | ok value => exact tail value

theorem ClosesAsCoded.reject (condition : Prop) [Decidable condition] (code : ErrorCode) (message : Bytes) :
    ClosesAsCoded (Kmtproto.reject condition code message) := by
  unfold Kmtproto.reject
  split
  · exact .fail code message
  · exact .ok ()

theorem validateCapabilityName_coded (name : Bytes) (limits : Limits) :
    ClosesAsCoded (validateCapabilityName name limits) := by
  unfold validateCapabilityName
  split
  · exact .fail _ _
  split
  · exact .fail _ _
  split
  · split
    · exact .fail _ _
    · exact .ok ()
  · exact .ok ()

theorem checkVersions_coded (previous : Option UInt16) (versions : List UInt16) :
    ClosesAsCoded (checkVersions previous versions) := by
  induction versions generalizing previous with
  | nil => exact .ok ()
  | cons version versions ih =>
    unfold checkVersions
    split
    · exact .fail _ _
    split
    · exact .fail _ _
    · exact ih _

theorem capabilityError_coded {name : Bytes} {result : Except Err α} (coded : ClosesAsCoded result) :
    ClosesAsCoded (capabilityError name result) := by
  cases result with
  | ok value => exact .ok value
  | error other =>
    intro error refusal failed found
    cases failed
    exact coded other refusal rfl found

theorem copyOffers_coded (limits : Limits) (seen : List Bytes) (offers : List CapabilityOffer) :
    ClosesAsCoded (copyOffers limits seen offers) := by
  induction offers generalizing seen with
  | nil => exact .ok []
  | cons offer offers ih =>
    unfold copyOffers
    refine .bind (validateCapabilityName_coded _ _) (fun _ => .bind (.reject _ _ _) (fun _ => .bind ?_ (fun _ => ?_)))
    · refine capabilityError_coded ?_
      unfold validateAndSortCapabilityVersions
      split
      · exact .fail _ _
      · exact .bind (checkVersions_coded _ _) (fun _ => .ok _)
    · exact .bind (ih _) (fun _ => .ok _)

theorem acceptOffers_coded (registry : CapabilityRegistry) (offers : List CapabilityOffer) :
    ClosesAsCoded (acceptOffers registry offers) := by
  induction offers with
  | nil => exact .ok []
  | cons offer offers ih =>
    unfold acceptOffers
    split
    · split
      · exact .fail _ _
      · exact ih
    · exact .bind ih (fun _ => .ok _)

theorem checkNegotiated_coded (limits : Limits) (previous : Option Bytes) (seen : List Bytes)
    (capabilities : List NegotiatedCapability) : ClosesAsCoded (checkNegotiated limits previous seen capabilities) := by
  induction capabilities generalizing previous seen with
  | nil => exact .ok ()
  | cons capability capabilities ih =>
    unfold checkNegotiated
    exact .bind (validateCapabilityName_coded _ _) (fun _ => .bind (.reject _ _ _) (fun _ => .bind (.reject _ _ _)
      (fun _ => .bind (.reject _ _ _) (fun _ => ih _ _))))

/-- A negotiation that fails reports an error that closes as its code says. -/
theorem negotiate_coded (registry : CapabilityRegistry) (offers : List CapabilityOffer) (limits : Limits) :
    ClosesAsCoded (registry.negotiate offers limits) := by
  unfold CapabilityRegistry.negotiate
  refine .bind ?_ (fun validated => .bind (acceptOffers_coded _ _) (fun accepted => ?_))
  · unfold validateAndCopyCapabilityOffers
    simp only []
    split
    · exact .fail _ _
    · exact copyOffers_coded _ _ _
  · intro error refusal failed
    unfold newSessionCapabilities at failed
    split at failed
    · rename_i other invalid
      cases failed
      unfold validateNegotiatedCapabilities at invalid
      simp only [] at invalid
      split at invalid
      · exact ClosesAsCoded.fail _ _ error refusal invalid
      · exact checkNegotiated_coded _ _ _ _ error refusal invalid
    · cases failed

end Coded

section Handlers
variable {config : ServerConfig} {outbound : Nat} {frame : Envelope} {α β : Type}

def KeepsOpen (outbound : Nat) (program : Server α) : Prop :=
  ∀ closed, Meets (queueRules outbound) (fun after _ => after = closed) closed program

theorem KeepsOpen.andThen {program : Server α} {next : α → Server β} {post : Bool → β → Prop} {closed : Bool}
    (keeps : KeepsOpen outbound program) (rest : ∀ value, Meets (queueRules outbound) post closed (next value)) :
    Meets (queueRules outbound) post closed (program >>= next) := by
  rw [meets_bind]
  refine (keeps closed).mono (fun after value same => ?_)
  rw [same]
  exact rest value

theorem keepsOpen_pure (value : α) : KeepsOpen outbound (pure value : Server α) := fun _ => rfl

theorem keepsOpen_bind {program : Server α} {next : α → Server β} (first : KeepsOpen outbound program)
    (rest : ∀ value, KeepsOpen outbound (next value)) : KeepsOpen outbound (program >>= next) :=
  fun closed => first.andThen (fun value => rest value closed)

theorem keepsOpen_ask {op : Op} (other : op.connection = false) : KeepsOpen outbound (ask op) := by
  intro closed
  cases op with
  | enqueueBatch | closeQueue | handled | replaceConnection | admitFrame | applyResult => cases other
  | _ => exact ⟨trivial,fun _ => rfl⟩

theorem keepsOpen_enqueueFrame (sent : Envelope) : KeepsOpen outbound (enqueueFrame config outbound sent) := by
  unfold enqueueFrame
  split
  · exact keepsOpen_pure _
  · exact fun closed => ⟨rfl,fun _ => rfl⟩

theorem keepsOpen_sendCallback {key : Bytes} {flight : Nat} {callback : Server (Except Err α)}
    (keeps : KeepsOpen outbound callback) : KeepsOpen outbound (invokeSendCallback key flight callback) := by
  unfold invokeSendCallback
  refine keepsOpen_bind (keepsOpen_ask rfl) (fun active => ?_)
  split
  · refine keepsOpen_bind keeps (fun result => keepsOpen_bind (keepsOpen_ask rfl) (fun _ => ?_))
    split <;> exact keepsOpen_pure _
  · exact keepsOpen_pure _

theorem keepsOpen_laneCallback {sessionID : Bytes} {callback : Server (Except Err α)}
    (keeps : KeepsOpen outbound callback) : KeepsOpen outbound (invokeCallback sessionID callback) := by
  unfold invokeCallback
  refine keepsOpen_bind (keepsOpen_ask rfl) (fun active => ?_)
  split
  · exact keepsOpen_bind keeps (fun result => keepsOpen_bind (keepsOpen_ask rfl) (fun _ => keepsOpen_pure _))
  · exact keepsOpen_pure _

/-- An ERROR closes the queue only when its code says so. -/
theorem meets_errorAt {sessionID refID : Bytes} {code : ErrorCode} {message : Bytes} {retryable : Bool}
    {timestamp : Int64} :
    Meets (queueRules outbound) (fun after _ => after = true → code.behavior.closeConnection = true) false
      (enqueueErrorAt config outbound sessionID refID code message retryable timestamp) := by
  unfold enqueueErrorAt
  refine (keepsOpen_enqueueFrame _).andThen (fun sent => ?_)
  cases sent with
  | error error => exact fun never => (Bool.false_ne_true never).elim
  | ok _ =>
    simp only []
    split
    · rename_i closes
      exact ⟨rfl,fun _ _ => closes⟩
    · exact fun never => (Bool.false_ne_true never).elim

theorem keepsOpen_errorAt {sessionID refID : Bytes} {code : ErrorCode} {message : Bytes} {retryable : Bool}
    {timestamp : Int64} (stays : code.behavior.closeConnection = false) :
    KeepsOpen outbound (enqueueErrorAt config outbound sessionID refID code message retryable timestamp) := by
  unfold enqueueErrorAt
  refine keepsOpen_bind (keepsOpen_enqueueFrame _) (fun sent => ?_)
  cases sent with
  | error error => exact keepsOpen_pure _
  | ok _ =>
    simp only [stays]
    exact keepsOpen_pure _

theorem shuts_errorAt {sessionID refID : Bytes} {code : ErrorCode} {message : Bytes} {retryable : Bool}
    {timestamp : Int64} {result : HandleResult} (coded : code.behavior.closeConnection = true → result.close = true) :
    Meets (queueRules outbound) Shuts false
      (do return (result,← enqueueErrorAt config outbound sessionID refID code message retryable timestamp)) :=
  (meets_bind _ _ _).mpr (meets_errorAt.mono (fun _ _ closes closed => coded (closes closed)))

theorem shuts_error {sessionID refID : Bytes} {code : ErrorCode} {message : Bytes} {retryable : Bool}
    {result : HandleResult} (coded : code.behavior.closeConnection = true → result.close = true) :
    Meets (queueRules outbound) Shuts false
      (do return (result,← enqueueError config outbound sessionID refID code message retryable)) :=
  ⟨trivial,fun _ => shuts_errorAt coded⟩

theorem shuts_open {result : HandleResult} {last : Server (Except Err Unit)} (keeps : KeepsOpen outbound last) :
    Meets (queueRules outbound) Shuts false (do return (result,← last)) :=
  keeps.andThen (fun _ never => (Bool.false_ne_true never).elim)

theorem shuts_pure (reply : Reply) : Meets (queueRules outbound) Shuts false (pure reply : Server Reply) :=
  fun never => (Bool.false_ne_true never).elim

theorem shuts_runStream {sessionID : Bytes} {idle : HandleResult} {request : Server Reply}
    (runs : Meets (queueRules outbound) Shuts false request) :
    Meets (queueRules outbound) Shuts false (runStream sessionID idle request) := by
  unfold runStream
  refine (keepsOpen_ask rfl).andThen (fun ticket => ?_)
  cases ticket with
  | none => exact shuts_pure _
  | some ticket =>
    refine (keepsOpen_ask rfl).andThen (fun _ => ?_)
    rw [meets_bind]
    refine runs.mono (fun closed reply shuts => (keepsOpen_ask rfl).andThen (fun _ => ?_))
    split <;> exact shuts

theorem shuts_handleHello : Meets (queueRules outbound) Shuts false (handleHello config frame outbound) := by
  unfold handleHello
  split
  · exact shuts_pure _
  split
  · rename_i hello _ error failed
    split
    · rename_i refusal found
      exact shuts_error (negotiate_coded _ _ _ error refusal failed found)
    · exact shuts_pure _
  refine (keepsOpen_ask rfl).andThen (fun identified => ?_)
  cases identified with
  | error error =>
    cases error <;> first
      | exact shuts_pure _
      | exact shuts_error (by simp [ErrorCode.behavior])
  | ok sessionID =>
    simp only []
    split
    · exact shuts_error (by simp [ErrorCode.behavior])
    split
    · exact shuts_pure _
    refine (keepsOpen_ask rfl).andThen (fun sentAt => (keepsOpen_ask rfl).andThen (fun serverTime => ?_))
    split
    · exact shuts_pure _
    refine (keepsOpen_ask rfl).andThen (fun createdAt => (keepsOpen_ask rfl).andThen (fun created => ?_))
    cases created with
    | error error =>
      simp only []
      split
      · exact shuts_error (by simp [ErrorCode.behavior])
      · exact shuts_pure _
    | ok _ =>
      refine (keepsOpen_enqueueFrame _).andThen (fun sent => ?_)
      cases sent <;> exact shuts_pure _

theorem shuts_handlePing : Meets (queueRules outbound) Shuts false (handlePing config frame outbound) := by
  unfold handlePing
  refine (keepsOpen_ask rfl).andThen (fun now => (keepsOpen_ask rfl).andThen (fun found => ?_))
  match found with
  | .error error => exact shuts_pure _
  | .ok none => exact shuts_error (by simp [ErrorCode.behavior])
  | .ok (some state) =>
    simp only []
    split
    · exact shuts_pure _
    · exact (keepsOpen_ask rfl).andThen (fun _ => (keepsOpen_ask rfl).andThen (fun _ =>
        shuts_open (keepsOpen_enqueueFrame _)))

theorem keepsOpen_resendACK (ack : Envelope) : KeepsOpen outbound (resendACK config frame outbound ack) := by
  unfold resendACK
  split
  · exact keepsOpen_pure _
  · exact keepsOpen_enqueueFrame _

theorem keepsOpen_followSend (ticket : FlightTicket) (timestamp : Int64) :
    KeepsOpen outbound (followSend config ticket frame outbound timestamp) := by
  unfold followSend waitForOriginal
  split
  · refine keepsOpen_bind (keepsOpen_ask rfl) (fun found => ?_)
    cases found with
    | none => exact keepsOpen_errorAt rfl
    | some ack => exact keepsOpen_resendACK ack
  · refine keepsOpen_bind (keepsOpen_ask rfl) (fun finished => ?_)
    split
    · refine keepsOpen_bind (keepsOpen_ask rfl) (fun found => ?_)
      cases found with
      | none => exact keepsOpen_errorAt rfl
      | some ack => exact keepsOpen_resendACK ack
    · exact keepsOpen_pure _

theorem keepsOpen_refusedSend (existing : Option DedupRecord) (flight : Nat) (fingerprint : SendFingerprint)
    (timestamp : Int64) :
    KeepsOpen outbound (refusedSend config existing flight fingerprint frame outbound timestamp) := by
  unfold refusedSend
  split
  · exact keepsOpen_errorAt rfl
  split
  · exact keepsOpen_errorAt rfl
  split
  · split
    · exact keepsOpen_pure _
    · exact keepsOpen_bind (keepsOpen_ask rfl) (fun _ => keepsOpen_enqueueFrame _)
  · exact keepsOpen_errorAt rfl

theorem keepsOpen_acknowledgeSend (key : Bytes) (flight : Nat) (timestamp : Int64) :
    KeepsOpen outbound (acknowledgeSend config key flight frame outbound timestamp) := by
  unfold acknowledgeSend
  simp only []
  split
  · exact keepsOpen_pure _
  refine keepsOpen_bind (keepsOpen_sendCallback ?_) (fun completed => ?_)
  · exact keepsOpen_bind (keepsOpen_ask rfl) (fun _ => keepsOpen_ask rfl)
  · split
    · exact keepsOpen_pure _
    refine keepsOpen_bind (keepsOpen_ask rfl) (fun _ => keepsOpen_bind (keepsOpen_sendCallback (keepsOpen_ask rfl))
      (fun injected => ?_))
    split
    · exact keepsOpen_pure _
    · exact keepsOpen_enqueueFrame _

theorem keepsOpen_claimedSend (key content : Bytes) (flight : Nat) (timestamp : Int64) :
    KeepsOpen outbound (claimedSend config key flight content frame outbound timestamp) := by
  unfold claimedSend
  refine keepsOpen_bind (keepsOpen_sendCallback (keepsOpen_ask rfl)) (fun injected => ?_)
  split
  · exact keepsOpen_pure _
  refine keepsOpen_bind (keepsOpen_sendCallback ?_) (fun accepted => ?_)
  · exact keepsOpen_bind (keepsOpen_ask rfl) (fun _ => keepsOpen_ask rfl)
  split
  · exact keepsOpen_errorAt rfl
  refine keepsOpen_bind (keepsOpen_sendCallback (keepsOpen_ask rfl)) (fun again => ?_)
  split
  · exact keepsOpen_pure _
  · exact keepsOpen_acknowledgeSend _ _ _

theorem shuts_leadSend (key content : Bytes) (flight : Nat) (fingerprint : SendFingerprint) (now : Int) :
    Meets (queueRules outbound) Shuts false (leadSend config key flight content fingerprint now frame outbound) := by
  unfold leadSend
  refine (keepsOpen_sendCallback (keepsOpen_ask rfl)).andThen (fun found => ?_)
  match found with
  | .error error => exact shuts_pure _
  | .ok none => exact shuts_errorAt (by simp [ErrorCode.behavior])
  | .ok (some state) =>
    refine (keepsOpen_sendCallback ?_).andThen (fun claimed => ?_)
    · exact keepsOpen_bind (keepsOpen_ask rfl) (fun _ => keepsOpen_ask rfl)
    match claimed with
    | .error error => exact shuts_pure _
    | .ok (true,_) => exact shuts_open (keepsOpen_claimedSend _ _ _ _)
    | .ok (false,existing) => exact shuts_open (keepsOpen_refusedSend _ _ _ _)

theorem shuts_handleSend : Meets (queueRules outbound) Shuts false (handleSend config frame outbound) := by
  unfold handleSend
  refine (keepsOpen_ask rfl).andThen (fun now => ?_)
  split
  · exact shuts_pure _
  refine (keepsOpen_ask rfl).andThen (fun ticket => ?_)
  split
  · exact shuts_errorAt (by simp [ErrorCode.behavior])
  split
  · exact shuts_open (keepsOpen_followSend _ _)
  · rw [meets_bind]
    exact (shuts_leadSend _ _ _ _ _).mono (fun closed reply shuts => ⟨trivial,fun _ => shuts⟩)

theorem keepsOpen_collectStates (sessionID namespace_ : Bytes) (objectIDs : List Bytes)
    (accumulator : StateSnapshotAccumulator) :
    KeepsOpen outbound (collectStates config sessionID namespace_ objectIDs accumulator) := by
  induction objectIDs generalizing accumulator with
  | nil => exact keepsOpen_pure _
  | cons objectID objectIDs ih =>
    unfold collectStates
    refine keepsOpen_bind (keepsOpen_laneCallback (keepsOpen_ask rfl)) (fun found => ?_)
    rcases found with error | (_ | object)
    · exact keepsOpen_pure _
    · exact ih _
    · simp only []
      split
      · exact keepsOpen_pure _
      split
      · exact keepsOpen_pure _
      split
      · split <;> exact keepsOpen_pure _
      · exact ih _

theorem shuts_handleStateQuery :
    Meets (queueRules outbound) Shuts false (handleStateQuery config frame outbound) := by
  unfold handleStateQuery
  refine (keepsOpen_ask rfl).andThen (fun now => shuts_runStream ?_)
  refine (keepsOpen_laneCallback (keepsOpen_ask rfl)).andThen (fun found => ?_)
  match found with
  | .error error => exact shuts_pure _
  | .ok none => exact shuts_errorAt (by simp [ErrorCode.behavior])
  | .ok (some session) =>
    simp only []
    split
    · exact shuts_errorAt (fun _ => rfl)
    split
    · exact shuts_errorAt (by simp [ErrorCode.behavior])
    unfold answerQuery
    split
    · exact shuts_pure _
    simp only []
    split
    · exact shuts_pure _
    split
    · exact shuts_pure _
    refine (keepsOpen_collectStates _ _ _ _).andThen (fun collected => ?_)
    have refused : Meets (queueRules outbound) Shuts false (refuseQuery config frame outbound (unixMilli now)) :=
      shuts_errorAt (by simp [ErrorCode.behavior])
    match collected with
    | .error error => exact shuts_pure _
    | .ok none => exact refused
    | .ok (some accumulator) =>
      simp only []
      split
      · split
        · exact refused
        · exact shuts_pure _
      · exact shuts_open (keepsOpen_enqueueFrame _)

section Resume
variable {timestamp : Int64} {idle : HandleResult}

theorem shuts_failResume {code : ErrorCode} {message : Bytes} (error : Err) :
    Meets (queueRules outbound) Shuts false (failResume config frame outbound timestamp idle code message error) := by
  unfold failResume
  split
  · exact shuts_pure _
  · exact shuts_errorAt (fun _ => rfl)

theorem shuts_sendResume {resume : ResumePayload} {replayTo : UInt64} {events : List Envelope}
    {snapshot : Option Envelope} : Meets (queueRules outbound) Shuts false
      (sendResume config frame outbound resume replayTo timestamp idle events snapshot) := by
  unfold sendResume
  simp only []
  split
  · exact shuts_pure _
  · refine ⟨rfl,fun sent => ?_⟩
    cases sent <;> exact shuts_pure _

theorem shuts_resumeState {resume : ResumePayload} {snapshotID : Bytes} {replayTo : UInt64} {events : List Envelope} :
    Meets (queueRules outbound) Shuts false
      (resumeState config frame outbound resume snapshotID replayTo timestamp idle events) := by
  unfold resumeState
  split
  · exact shuts_sendResume
  have built (sync : ResumeStateSync) : KeepsOpen outbound
      (buildResumeStateSnapshot config frame.sessionID snapshotID timestamp sync.namespaces) := by
    unfold buildResumeStateSnapshot
    simp only []
    split
    · exact keepsOpen_pure _
    · refine keepsOpen_bind (keepsOpen_laneCallback (keepsOpen_ask rfl)) (fun found => ?_)
      split <;> exact keepsOpen_pure _
  refine (built _).andThen (fun snapshot => ?_)
  cases snapshot with
  | error error => exact shuts_failResume error
  | ok snapshot => exact shuts_sendResume

theorem shuts_resumeEvents {resume : ResumePayload} {snapshotID : Bytes} {replayTo : UInt64} :
    Meets (queueRules outbound) Shuts false
      (resumeEvents config frame outbound resume snapshotID replayTo timestamp idle) := by
  unfold resumeEvents
  refine (keepsOpen_laneCallback (keepsOpen_ask rfl)).andThen (fun replayed => ?_)
  cases replayed with
  | error error =>
    change Meets _ _ _ (refuseReplay config frame outbound timestamp idle error)
    unfold refuseReplay
    split
    · exact shuts_errorAt (by simp [ErrorCode.behavior])
    split
    · exact shuts_errorAt (by simp [ErrorCode.behavior])
    · exact shuts_failResume error
  | ok events =>
    simp only []
    split
    · exact shuts_errorAt (fun _ => rfl)
    split
    · exact shuts_errorAt (fun _ => rfl)
    · exact shuts_resumeState

theorem shuts_resumeStream {resume : ResumePayload} {snapshotID : Bytes} :
    Meets (queueRules outbound) Shuts false
      (resumeStream config frame outbound resume snapshotID timestamp idle) := by
  unfold resumeStream
  refine (keepsOpen_laneCallback (keepsOpen_ask rfl)).andThen (fun current => ?_)
  cases current with
  | error error => exact shuts_failResume error
  | ok replayTo =>
    simp only []
    split
    · exact shuts_errorAt (fun _ => rfl)
    split
    · exact shuts_errorAt (by simp [ErrorCode.behavior])
    split
    · exact shuts_errorAt (by simp [ErrorCode.behavior])
    · exact shuts_resumeEvents

theorem shuts_resumeSnapshotID {resume : ResumePayload} {state : SessionState} :
    Meets (queueRules outbound) (fun closed named => match named with
      | .error reply => Shuts closed reply
      | .ok _ => closed = false) false
      (resumeSnapshotID config frame outbound resume state timestamp) := by
  have refused (code : ErrorCode) (message : Bytes) (retryable : Bool) :
      Meets (queueRules outbound) (fun closed (named : Except Reply Bytes) => match named with
        | .error reply => Shuts closed reply
        | .ok _ => closed = false) false
        (do return .error (← refuseResume config frame outbound timestamp {close := true} code message retryable)) :=
    (meets_bind _ _ _).mpr ((shuts_errorAt (fun _ => rfl)).mono (fun _ _ shuts => shuts))
  unfold resumeSnapshotID
  split
  · exact rfl
  split
  · exact refused _ _ _
  split
  · exact refused _ _ _
  refine (keepsOpen_ask rfl).andThen (fun identified => ?_)
  cases identified with
  | error error =>
    cases error <;> first
      | exact fun never => (Bool.false_ne_true never).elim
      | exact refused _ _ _
  | ok id =>
    simp only []
    split
    · exact refused _ _ _
    · exact rfl

theorem shuts_handleResume : Meets (queueRules outbound) Shuts false (handleResume config frame outbound) := by
  unfold handleResume
  refine (keepsOpen_ask rfl).andThen (fun now => ?_)
  simp only []
  split
  · exact shuts_pure _
  refine (keepsOpen_ask rfl).andThen (fun found => ?_)
  match found with
  | .error error => exact shuts_pure _
  | .ok none => exact shuts_errorAt (by simp [ErrorCode.behavior])
  | .ok (some state) =>
    simp only []
    rw [meets_bind]
    refine shuts_resumeSnapshotID.mono (fun closed named ended => ?_)
    cases named with
    | error reply => exact ended
    | ok snapshotID =>
      change closed = false at ended
      subst ended
      exact shuts_runStream shuts_resumeStream

end Resume

theorem shuts_processFrame : Meets (queueRules outbound) Shuts false (processFrame config frame outbound) := by
  unfold processFrame
  split
  · unfold refuseFrame
    split
    · exact ⟨rfl,fun _ _ => rfl⟩
    split
    · exact shuts_pure _
    · rename_i refusal _
      rw [meets_bind]
      refine ⟨trivial,fun now => meets_errorAt.mono (fun closed _ closes shut => ?_)⟩
      simp [closes shut]
  · unfold dispatchFrame
    refine ⟨rfl,fun _ => ?_⟩
    change Meets _ _ false _
    split
    · exact shuts_handleHello
    · exact shuts_handlePing
    · exact shuts_handleSend
    · exact shuts_handleStateQuery
    · exact shuts_handleResume
    · exact ⟨rfl,fun _ _ => rfl⟩
    · exact shuts_error (fun _ => rfl)

/-- A handler whose dependency panics has its queue closed and the gate with it. -/
theorem shuts_invokeServerProcess :
    Meets (queueRules outbound) Shuts false (invokeServerProcess config frame outbound) := by
  unfold invokeServerProcess
  rw [meets_bind]
  refine shuts_processFrame.mono (fun closed reply shuts => ?_)
  split
  · exact ⟨rfl,fun _ _ => rfl⟩
  · exact shuts

end Handlers

end Kmtproto
