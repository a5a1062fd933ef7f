import Kmtproto.ServerRules
import Kmtproto.Wire

/-! Every call of the server keeps to the rules: one lemma for each handler, and one
for the calls as a whole. -/
namespace Kmtproto
open Json Interaction

section Requests
variable {known : Knowledge} {strict : Bool} {α : Type} {post : Knowledge → α → Prop}

theorem meets_request {op : Op} {next : Answer op → Server α} :
    Meets (rules strict) post known (ask op >>= next) ↔
      known.allowed strict op ∧ ∀ answer, Meets (rules strict) post (known.next op answer) (next answer) := Iff.rfl

theorem wrapError_ok {text : Bytes} {result : Except Err α} {value : α} (ok : wrapError text result = .ok value) :
    result = .ok value := by
  cases result with
  | error error => cases ok
  | ok found => exact ok

theorem refuseUnless_ok {condition : Bool} {text : Bytes} (ok : refuseUnless condition text = .ok ()) :
    condition = true := by
  unfold refuseUnless at ok
  split at ok
  · assumption
  · cases ok

theorem Knowledge.mayApply_of_empty {outbound : Nat} {result : HandleResult} (empty : result.readySessionID = []) :
    known.mayApply outbound result := fun ready => absurd empty ready

theorem meets_reply {result : HandleResult} {last : Server (Except Err Unit)} (empty : result.readySessionID = [])
    (meets : Meets (rules strict) (fun _ _ => True) known last) :
    Meets (rules strict) (fun _ (reply : Reply) => reply.1.readySessionID = []) known (do return (result,← last)) :=
  (meets_bind _ _ _).mpr (meets.mono (fun _ _ _ => empty))

end Requests

section Injection
variable {known : Knowledge} {strict : Bool} {key : Bytes} {flight : Nat} {α β : Type} {post : Knowledge → β → Prop}

theorem meets_sendCallback {callback : Server (Except Err α)} {next : Except Err α → Server β}
    (busy : ∀ error, Meets (rules strict) post known (next (.error error)))
    (runs : Meets (rules strict) (fun known result => Meets (rules strict) post known (next (recovered result))) known
      callback) :
    Meets (rules strict) post known (invokeSendCallback key flight callback >>= next) :=
  (meets_bind _ _ _).mpr (meets_invokeSendCallback busy runs)

theorem meets_inject {point : FailurePoint} {next : Except Err Unit → Server β}
    (failed : ∀ error, Meets (rules strict) post known (next (.error error)))
    (passed : Meets (rules strict) post known (next (.ok ()))) :
    Meets (rules strict) post known (invokeSendCallback key flight (ask (.inject point)) >>= next) := by
  refine meets_sendCallback failed ⟨trivial,fun injected => ?_⟩
  cases injected with
  | error error => cases error <;> exact failed _
  | ok _ => exact passed

theorem meets_laneCallback {sessionID : Bytes} {callback : Server (Except Err α)} {next : Except Err α → Server β}
    (busy : ∀ error, Meets (rules strict) post known (next (.error error)))
    (runs : Meets (rules strict) (fun known result => Meets (rules strict) post known (next result)) known callback) :
    Meets (rules strict) post known (invokeCallback sessionID callback >>= next) :=
  (meets_bind _ _ _).mpr (meets_invokeCallback busy runs)

end Injection

section Acks
variable {config : ServerConfig} {ack frame : Envelope} {sessionID messageID : Bytes}

theorem validateStoredACK_ackFor (ok : validateStoredACK config ack sessionID messageID = .ok ()) :
    AckFor config.strictValidation ack sessionID messageID := by
  unfold validateStoredACK at ok
  obtain ⟨_,_,ok⟩ := bind_ok ok
  obtain ⟨_,kind,ok⟩ := bind_ok ok
  obtain ⟨payload,decoded,ok⟩ := bind_ok ok
  have about := of_decide_eq_true (refuseUnless_ok kind)
  have same := of_decide_eq_true (refuseUnless_ok ok)
  refine ⟨about.1,about.2,?_⟩
  rw [wrapError_ok decoded,← same]

theorem ackFrame_ackFor (timestamp : Int64) (valid : validString frame.id = true) :
    AckFor config.strictValidation (ackFrame frame timestamp) frame.sessionID frame.id :=
  ⟨rfl,rfl,decodePayload_ack config.strictValidation frame.id valid⟩

end Acks

section Send
variable {config : ServerConfig} {known : Knowledge} {outbound : Nat} {frame : Envelope}

theorem Knowledge.maySend_ack {ack : Envelope} {messageID : Bytes} (stored : ack ∈ known.acks)
    (answers : AckFor config.strictValidation ack frame.sessionID messageID)
    (welcomed : known.welcomes outbound frame.sessionID) : known.maySend outbound ack := by
  unfold Knowledge.maySend
  rw [answers.type]
  exact ⟨stored,answers.session ▸ welcomed⟩

theorem meets_enqueueACK {ack : Envelope} {messageID : Bytes} (stored : ack ∈ known.acks)
    (answers : AckFor config.strictValidation ack frame.sessionID messageID)
    (welcomed : known.welcomes outbound frame.sessionID) :
    Meets (rules config.strictValidation) (fun _ _ => True) known (enqueueFrame config outbound ack) :=
  meets_enqueueFrame (fun _ => Knowledge.maySend_ack stored answers welcomed) (fun _ => trivial) (fun _ => trivial)

theorem meets_resendACK {ack : Envelope} (stored : ack ∈ known.acks)
    (welcomed : known.welcomes outbound frame.sessionID) :
    Meets (rules config.strictValidation) (fun _ _ => True) known (resendACK config frame outbound ack) := by
  unfold resendACK
  split
  · trivial
  · rename_i ok
    exact meets_enqueueACK stored (validateStoredACK_ackFor ok) welcomed

theorem meets_flightACK {flight : Nat} {next : Option Envelope → Server (Except Err Unit)}
    (welcomed : known.welcomes outbound frame.sessionID)
    (found : ∀ ack, next (some ack) = resendACK config frame outbound ack)
    (absent : Meets (rules config.strictValidation) (fun _ _ => True) known (next none)) :
    Meets (rules config.strictValidation) (fun _ _ => True) known (ask (.flightACK flight) >>= next) := by
  refine meets_request.mpr ⟨trivial,fun answer => ?_⟩
  cases answer with
  | none => exact absent
  | some ack =>
    rw [found]
    exact meets_resendACK (List.mem_cons_self ..) welcomed

theorem meets_followSend {ticket : FlightTicket} {timestamp : Int64} (welcomed : known.welcomes outbound frame.sessionID) :
    Meets (rules config.strictValidation) (fun _ _ => True) known (followSend config ticket frame outbound timestamp) := by
  unfold followSend
  split
  · exact meets_flightACK welcomed (fun _ => rfl) (meets_enqueueErrorAt (fun _ => trivial))
  · unfold waitForOriginal
    refine meets_request.mpr ⟨trivial,fun finished => ?_⟩
    cases finished with
    | false => trivial
    | true => exact meets_flightACK welcomed (fun _ => rfl) (meets_enqueueErrorAt (fun _ => trivial))

theorem meets_refusedSend {existing : Option DedupRecord} {flight : Nat} {fingerprint : SendFingerprint}
    {timestamp : Int64} (stored : ∀ record ∈ existing, ∀ ack ∈ record.ack, ack ∈ known.acks)
    (welcomed : known.welcomes outbound frame.sessionID) :
    Meets (rules config.strictValidation) (fun _ _ => True) known
      (refusedSend config existing flight fingerprint frame outbound timestamp) := by
  unfold refusedSend
  split
  · exact meets_enqueueErrorAt (fun _ => trivial)
  · rename_i record
    split
    · exact meets_enqueueErrorAt (fun _ => trivial)
    · split
      · rename_i ack _ found
        have member := stored record rfl ack found
        split
        · trivial
        · rename_i ok
          exact meets_request.mpr ⟨member,fun _ => meets_enqueueACK member (validateStoredACK_ackFor ok) welcomed⟩
      · exact meets_enqueueErrorAt (fun _ => trivial)

theorem meets_acknowledgeSend {key content : Bytes} {flight : Nat} {timestamp : Int64}
    (phase : known.phase = .accepted frame.sessionID frame.id content) (framed : known.frame = some frame)
    (valid : validString frame.id = true) (plain : 0 ∉ frame.sessionID) (welcomed : known.welcomes outbound frame.sessionID) :
    Meets (rules config.strictValidation) (fun _ _ => True) known
      (acknowledgeSend config key flight frame outbound timestamp) := by
  have answers : AckFor config.strictValidation (ackFrame frame timestamp) frame.sessionID frame.id :=
    ackFrame_ackFor timestamp valid
  unfold acknowledgeSend
  simp only []
  split
  · trivial
  refine meets_sendCallback (fun _ => trivial) ?_
  refine meets_request.mpr ⟨trivial,fun now =>
    ⟨⟨⟨plain,frame,framed,rfl,rfl⟩,⟨content,phase⟩,answers⟩,fun completed => ?_⟩⟩
  cases completed with
  | error error => cases error <;> trivial
  | ok _ =>
    refine meets_request.mpr ⟨List.mem_cons_self ..,fun _ => ?_⟩
    exact meets_inject (fun _ => trivial) (meets_enqueueACK (List.mem_cons_self ..) answers welcomed)

/-- A claimed SEND calls the Application once and is acknowledged only when it accepts. -/
theorem meets_claimedSend {key content : Bytes} {flight : Nat} {timestamp : Int64}
    (phase : known.phase = .claimed frame.sessionID frame.id) (framed : known.frame = some frame)
    (carries : SendContent config.strictValidation frame content) (valid : validString frame.id = true)
    (plain : 0 ∉ frame.sessionID) (welcomed : known.welcomes outbound frame.sessionID) :
    Meets (rules config.strictValidation) (fun _ _ => True) known
      (claimedSend config key flight content frame outbound timestamp) := by
  unfold claimedSend
  refine meets_inject (fun _ => trivial) ?_
  refine meets_sendCallback (fun _ => meets_enqueueErrorAt (fun _ => trivial)) ?_
  refine meets_request.mpr ⟨⟨phase,frame,framed,rfl,rfl,carries⟩,fun _ => ⟨rfl,fun accepted => ?_⟩⟩
  cases accepted with
  | error error => cases error <;> exact meets_enqueueErrorAt (fun _ => trivial)
  | ok _ => exact meets_inject (fun _ => trivial) (meets_acknowledgeSend rfl framed valid plain welcomed)

/-- The call that holds the flight claims its SEND before anything else. -/
theorem meets_leadSend {key content : Bytes} {flight : Nat} {fingerprint : SendFingerprint} {now : Int}
    (phase : known.phase = .idle) (framed : known.frame = some frame)
    (carries : SendContent config.strictValidation frame content) (valid : validString frame.id = true)
    (plain : 0 ∉ frame.sessionID) (welcomed : known.welcomes outbound frame.sessionID) :
    Meets (rules config.strictValidation) (fun _ reply => reply.1.readySessionID = []) known
      (leadSend config key flight content fingerprint now frame outbound) := by
  unfold leadSend
  refine meets_sendCallback (fun _ => rfl) ⟨trivial,fun found => ?_⟩
  match found with
  | .error error => cases error <;> exact rfl
  | .ok none => exact meets_reply rfl (meets_enqueueErrorAt (fun _ => trivial))
  | .ok (some state) =>
    refine meets_sendCallback (fun _ => rfl) ?_
    refine meets_request.mpr ⟨trivial,fun now => ⟨⟨phase,plain,frame,framed,rfl,rfl⟩,fun claimed => ?_⟩⟩
    match claimed with
    | .error error => cases error <;> exact rfl
    | .ok (true,_) =>
      exact meets_reply rfl (meets_claimedSend rfl framed carries valid plain welcomed)
    | .ok (false,none) =>
      exact meets_reply rfl (meets_refusedSend (by simp) welcomed)
    | .ok (false,some record) =>
      refine meets_reply rfl (meets_refusedSend ?_ welcomed)
      rintro _ ⟨⟩ ack stored
      exact List.mem_append_left _ (Option.mem_toList.mpr stored)

theorem meets_handleSend (phase : known.phase = .idle) (framed : known.frame = some frame) (kind : frame.type = .send)
    (valid : validString frame.id = true) (plain : 0 ∉ frame.sessionID)
    (welcomed : known.welcomes outbound frame.sessionID) :
    Meets (rules config.strictValidation) (fun _ reply => reply.1.readySessionID = []) known
      (handleSend config frame outbound) := by
  unfold handleSend
  refine meets_request.mpr ⟨trivial,fun now => ?_⟩
  split
  · exact rfl
  rename_i payload decoded
  refine meets_request.mpr ⟨trivial,fun ticket => ?_⟩
  split
  · exact meets_reply rfl (meets_enqueueErrorAt (fun _ => trivial))
  split
  · exact meets_reply rfl (meets_followSend welcomed)
  · refine (meets_bind _ _ _).mpr ((meets_leadSend phase framed ⟨kind,decoded⟩ valid plain welcomed).mono ?_)
    exact fun _ _ empty => ⟨trivial,fun _ => empty⟩

end Send

section Query
variable {config : ServerConfig} {known : Knowledge} {outbound : Nat} {frame : Envelope}

theorem meets_handleHello :
    Meets (rules config.strictValidation) (fun known reply => known.mayApply outbound reply.1) known
      (handleHello config frame outbound) := by
  have empty (known : Knowledge) (result : HandleResult) (none : result.readySessionID = []) :
      known.mayApply outbound result := Knowledge.mayApply_of_empty none
  unfold handleHello
  split
  · exact empty _ _ rfl
  split
  · split
    · exact (meets_reply rfl (meets_enqueueError (fun _ => trivial))).mono (fun _ _ none => empty _ _ none)
    · exact empty _ _ rfl
  refine meets_request.mpr ⟨trivial,fun identified => ?_⟩
  cases identified with
  | error error =>
    cases error <;> first
      | exact empty _ _ rfl
      | exact (meets_reply rfl (meets_enqueueError (fun _ => trivial))).mono (fun _ _ none => empty _ _ none)
  | ok sessionID =>
    simp only []
    split
    · exact (meets_reply rfl (meets_enqueueError (fun _ => trivial))).mono (fun _ _ none => empty _ _ none)
    split
    · exact empty _ _ rfl
    refine meets_request.mpr ⟨trivial,fun sentAt => meets_request.mpr ⟨trivial,fun serverTime => ?_⟩⟩
    split
    · exact empty _ _ rfl
    refine meets_request.mpr ⟨trivial,fun createdAt => meets_request.mpr ⟨trivial,fun created => ?_⟩⟩
    cases created with
    | error error =>
      simp only []
      split
      · exact (meets_reply rfl (meets_enqueueError (fun _ => trivial))).mono (fun _ _ none => empty _ _ none)
      · exact empty _ _ rfl
    | ok _ =>
      refine (meets_bind _ _ _).mpr (meets_enqueueFrame (fun _ => trivial) (fun _ => empty _ _ rfl) (fun _ => ?_))
      exact fun _ => ⟨List.mem_cons_self ..,List.mem_cons_self ..⟩

theorem meets_handlePing (welcomed : known.welcomes outbound frame.sessionID) :
    Meets (rules config.strictValidation) (fun _ reply => reply.1.readySessionID = []) known
      (handlePing config frame outbound) := by
  unfold handlePing
  refine meets_request.mpr ⟨trivial,fun now => meets_request.mpr ⟨trivial,fun found => ?_⟩⟩
  match found with
  | .error error => exact rfl
  | .ok none => exact meets_reply rfl (meets_enqueueError (fun _ => trivial))
  | .ok (some state) =>
    simp only []
    split
    · exact rfl
    refine meets_request.mpr ⟨trivial,fun sentAt => meets_request.mpr ⟨trivial,fun serverTime => ?_⟩⟩
    exact meets_reply rfl (meets_enqueueFrame (fun _ => welcomed) (fun _ => trivial) (fun _ => trivial))

theorem meets_collectStates {sessionID namespace_ : Bytes} {objectIDs : List Bytes}
    {accumulator : StateSnapshotAccumulator} {post : Knowledge → Except Err (Option StateSnapshotAccumulator) → Prop}
    (done : ∀ result, post known result) :
    Meets (rules config.strictValidation) post known
      (collectStates config sessionID namespace_ objectIDs accumulator) := by
  induction objectIDs generalizing accumulator with
  | nil => exact done _
  | cons objectID objectIDs ih =>
    unfold collectStates
    refine meets_laneCallback (fun _ => done _) ⟨trivial,fun found => ?_⟩
    match found with
    | .error error => exact done _
    | .ok none => exact ih
    | .ok (some object) =>
      change Meets _ _ known (ite _ _ _)
      split
      · exact done _
      split
      · exact done _
      split
      · split <;> exact done _
      · exact ih

theorem meets_answerQuery {timestamp : Int64} (welcomed : known.welcomes outbound frame.sessionID) :
    Meets (rules config.strictValidation) (fun _ reply => reply.1.readySessionID = []) known
      (answerQuery config frame outbound timestamp) := by
  have refused : Meets (rules config.strictValidation) (fun _ reply => reply.1.readySessionID = []) known
      (refuseQuery config frame outbound timestamp) := meets_reply rfl (meets_enqueueErrorAt (fun _ => trivial))
  unfold answerQuery
  split
  · exact rfl
  simp only []
  split
  · exact rfl
  split
  · exact rfl
  refine (meets_bind _ _ _).mpr (meets_collectStates (fun result => ?_))
  match result with
  | .error error => exact rfl
  | .ok none => exact refused
  | .ok (some accumulator) =>
    simp only []
    split
    · split
      · exact refused
      · exact rfl
    · exact meets_reply rfl (meets_enqueueFrame (fun _ => welcomed) (fun _ => trivial) (fun _ => trivial))

theorem meets_handleStateQuery (welcomed : known.welcomes outbound frame.sessionID) :
    Meets (rules config.strictValidation) (fun _ reply => reply.1.readySessionID = []) known
      (handleStateQuery config frame outbound) := by
  unfold handleStateQuery
  refine meets_request.mpr ⟨trivial,fun now => ?_⟩
  refine meets_runStream (fun _ result => result.readySessionID = []) rfl ?_
  refine meets_laneCallback (fun _ => rfl) ⟨trivial,fun found => ?_⟩
  match found with
  | .error error => exact rfl
  | .ok none => exact meets_reply rfl (meets_enqueueErrorAt (fun _ => trivial))
  | .ok (some session) =>
    change Meets _ _ _ (ite _ _ _)
    split
    · exact meets_reply rfl (meets_enqueueErrorAt (fun _ => trivial))
    split
    · exact meets_reply rfl (meets_enqueueErrorAt (fun _ => trivial))
    · exact meets_answerQuery welcomed

end Query

section Resume
variable {config : ServerConfig} {known : Knowledge} {outbound : Nat} {frame : Envelope}

structure ReplayRange (config : ServerConfig) (sessionID : Bytes) (expected : UInt64) (events : List Envelope)
    (last : UInt64) : Prop where
  valid : ∀ event ∈ events, config.validates event = .ok () ∧ event.type = .event ∧ event.sessionID = sessionID
  numbered : ∀ index event, events[index]? = some event → event.seq = expected + UInt64.ofNat index
  count : last = expected + UInt64.ofNat events.length

theorem checkReplay_range {sessionID : Bytes} {expected last : UInt64} {events : List Envelope}
    (checked : checkReplay config sessionID expected events = .ok last) :
    ReplayRange config sessionID expected events last := by
  induction events generalizing expected with
  | nil =>
    cases checked
    exact ⟨by simp,by simp,by simp⟩
  | cons event events ih =>
    rw [checkReplay] at checked
    split at checked
    · cases checked
    rename_i valid
    split at checked
    · cases checked
    rename_i fits
    simp only [not_or,ne_eq,not_not] at fits
    obtain ⟨others,numbered,count⟩ := ih checked
    have shift (n : Nat) : expected + 1 + UInt64.ofNat n = expected + UInt64.ofNat (n+1) := by
      rw [UInt64.ofNat_add,UInt64.add_assoc,UInt64.add_comm 1,UInt64.ofNat_one]
    refine ⟨?_,?_,by rw [count,List.length_cons,shift]⟩
    · intro other member
      rcases List.mem_cons.mp member with rfl | member
      · exact ⟨not_not.mp valid,fits.1,fits.2.1⟩
      · exact others other member
    · intro index other found
      cases index with
      | zero =>
        cases found
        simpa using fits.2.2
      | succ index => rw [numbered index other found,shift]

theorem Knowledge.foldl_sent {frames : List Envelope} (others : ∀ frame ∈ frames, frame.type ≠ .welcome) :
    frames.foldl (fun known frame => known.sent outbound frame) known = known := by
  induction frames with
  | nil => rfl
  | cons frame frames ih =>
    rw [List.foldl_cons,Knowledge.sent_other (others frame (List.mem_cons_self ..))]
    exact ih (fun frame member => others frame (List.mem_cons_of_mem _ member))

theorem Knowledge.maySendAll_others {frames : List Envelope} (others : ∀ frame ∈ frames, frame.type ≠ .welcome)
    (may : ∀ frame ∈ frames, known.maySend outbound frame) : Knowledge.maySendAll outbound known frames := by
  induction frames with
  | nil => trivial
  | cons frame frames ih =>
    refine ⟨may frame (List.mem_cons_self ..),?_⟩
    rw [Knowledge.sent_other (others frame (List.mem_cons_self ..))]
    exact ih (fun frame member => others frame (List.mem_cons_of_mem _ member))
      (fun frame member => may frame (List.mem_cons_of_mem _ member))

theorem meets_refuseResume {timestamp : Int64} {result : HandleResult} {code : ErrorCode} {message : Bytes}
    {retryable : Bool} (empty : result.readySessionID = []) :
    Meets (rules config.strictValidation) (fun known reply => known.mayApply outbound reply.1) known
      (refuseResume config frame outbound timestamp result code message retryable) :=
  (meets_reply empty (meets_enqueueErrorAt (fun _ => trivial))).mono (fun _ _ none => Knowledge.mayApply_of_empty none)

theorem meets_failResume {timestamp : Int64} {idle : HandleResult} {code : ErrorCode} {message : Bytes} {error : Err}
    (empty : idle.readySessionID = []) :
    Meets (rules config.strictValidation) (fun known reply => known.mayApply outbound reply.1) known
      (failResume config frame outbound timestamp idle code message error) := by
  unfold failResume
  split
  · exact Knowledge.mayApply_of_empty empty
  · exact meets_refuseResume empty

theorem assembleSnapshot_frame {snapshot built : Envelope} {limits : StateSnapshotLimits} {namespaces : List Bytes}
    {states : List StateObject} (ok : assembleSnapshot config snapshot limits namespaces states = .ok built) :
    built.type = snapshot.type ∧ built.sessionID = snapshot.sessionID := by
  unfold assembleSnapshot at ok
  split at ok
  · cases ok
  obtain ⟨_,_,ok⟩ := bind_ok ok
  obtain ⟨_,_,ok⟩ := bind_ok ok
  obtain ⟨_,_,ok⟩ := bind_ok ok
  obtain ⟨_,_,ok⟩ := bind_ok ok
  obtain ⟨_,_,ok⟩ := bind_ok ok
  cases ok
  exact ⟨rfl,rfl⟩

/-- The batch of a resume is its WELCOME, then frames of the same session. -/
theorem meets_sendResume {resume : ResumePayload} {replayTo : UInt64} {timestamp : Int64} {idle : HandleResult}
    {events : List Envelope} {snapshot : Option Envelope} (empty : idle.readySessionID = [])
    (stored : (frame.sessionID,idle.capabilities) ∈ known.sessions)
    (replayed : ∀ event ∈ events, event.type = .event ∧ event.sessionID = frame.sessionID ∧ event ∈ known.events)
    (built : ∀ state ∈ snapshot, state.type = .stateSnapshot ∧ state.sessionID = frame.sessionID) :
    Meets (rules config.strictValidation) (fun known reply => known.mayApply outbound reply.1) known
      (sendResume config frame outbound resume replayTo timestamp idle events snapshot) := by
  have failed : known.mayApply outbound idle := Knowledge.mayApply_of_empty empty
  have others : ∀ other ∈ events++snapshot.toList, other.type ≠ .welcome := by
    intro other member
    rcases List.mem_append.mp member with event | state
    · simp [(replayed other event).1]
    · simp [(built other (Option.mem_toList.mp state)).1]
  unfold sendResume
  simp only []
  split
  · exact failed
  refine meets_request.mpr ⟨⟨trivial,Knowledge.maySendAll_others others ?_⟩,fun sent => ?_⟩
  · intro other member
    have welcomed : (outbound,frame.sessionID) ∈
        (known.sent outbound (resumedWelcome frame resume replayTo timestamp)).welcomed := List.mem_cons_self ..
    rcases List.mem_append.mp member with event | state
    · obtain ⟨kind,session,found⟩ := replayed other event
      simp only [Knowledge.maySend,kind]
      exact ⟨found,fun _ => session ▸ welcomed⟩
    · obtain ⟨kind,session⟩ := built other (Option.mem_toList.mp state)
      simp only [Knowledge.maySend,kind]
      exact fun _ => session ▸ welcomed
  · cases sent with
    | error error => exact failed
    | ok _ =>
      have after : known.next (.enqueueBatch outbound
          (resumedWelcome frame resume replayTo timestamp::events ++ snapshot.toList)) (.ok ()) =
          known.sent outbound (resumedWelcome frame resume replayTo timestamp) := Knowledge.foldl_sent others
      rw [after]
      exact fun _ => ⟨List.mem_cons_self ..,stored⟩

theorem meets_resumeState {resume : ResumePayload} {snapshotID : Bytes} {replayTo : UInt64} {timestamp : Int64}
    {idle : HandleResult} {events : List Envelope} (empty : idle.readySessionID = [])
    (stored : (frame.sessionID,idle.capabilities) ∈ known.sessions)
    (replayed : ∀ event ∈ events, event.type = .event ∧ event.sessionID = frame.sessionID ∧ event ∈ known.events) :
    Meets (rules config.strictValidation) (fun known reply => known.mayApply outbound reply.1) known
      (resumeState config frame outbound resume snapshotID replayTo timestamp idle events) := by
  unfold resumeState
  split
  · exact meets_sendResume empty stored replayed (by simp)
  have failed (error : Err) : Meets (rules config.strictValidation) (fun known reply => known.mayApply outbound reply.1)
      known (failResume config frame outbound timestamp idle .stateUnavailable
        (lit "State snapshot could not be produced") error) := meets_failResume empty
  refine (meets_bind _ _ _).mpr ?_
  unfold buildResumeStateSnapshot
  simp only []
  split
  · exact failed _
  rename_i sync _ _ limits _
  refine meets_laneCallback failed ⟨trivial,fun found => ?_⟩
  cases found with
  | error error => exact failed error
  | ok states =>
    cases ok : assembleSnapshot config (snapshotFrame frame.sessionID snapshotID timestamp) limits sync.namespaces states with
    | error error =>
      refine (meets_pure _).mpr ?_
      dsimp only
      rw [ok]
      exact failed error
    | ok state =>
      refine (meets_pure _).mpr ?_
      dsimp only
      rw [ok]
      refine meets_sendResume empty stored replayed ?_
      rintro _ ⟨⟩
      exact assembleSnapshot_frame ok

theorem meets_resumeEvents {resume : ResumePayload} {snapshotID : Bytes} {replayTo : UInt64} {timestamp : Int64}
    {idle : HandleResult} (empty : idle.readySessionID = [])
    (stored : (frame.sessionID,idle.capabilities) ∈ known.sessions) :
    Meets (rules config.strictValidation) (fun known reply => known.mayApply outbound reply.1) known
      (resumeEvents config frame outbound resume snapshotID replayTo timestamp idle) := by
  have failed (error : Err) : Meets (rules config.strictValidation) (fun known reply => known.mayApply outbound reply.1)
      known (refuseReplay config frame outbound timestamp idle error) := by
    unfold refuseReplay
    split
    · exact meets_refuseResume empty
    split
    · exact meets_refuseResume empty
    · exact meets_failResume empty
  unfold resumeEvents
  refine meets_laneCallback failed ⟨trivial,fun replayed => ?_⟩
  cases replayed with
  | error error => exact failed error
  | ok events =>
    refine (meets_pure _).mpr ?_
    dsimp only
    split
    · exact meets_refuseResume empty
    rename_i checked
    split
    · exact meets_refuseResume empty
    refine meets_resumeState empty stored (fun event member => ?_)
    have valid := (checkReplay_range checked).valid event member
    exact ⟨valid.2.1,valid.2.2,List.mem_append_left _ member⟩

theorem meets_resumeStream {resume : ResumePayload} {snapshotID : Bytes} {timestamp : Int64} {idle : HandleResult}
    (empty : idle.readySessionID = []) (stored : (frame.sessionID,idle.capabilities) ∈ known.sessions) :
    Meets (rules config.strictValidation) (fun known reply => known.mayApply outbound reply.1) known
      (resumeStream config frame outbound resume snapshotID timestamp idle) := by
  unfold resumeStream
  refine meets_laneCallback (fun _ => meets_failResume empty) ⟨trivial,fun current => ?_⟩
  cases current with
  | error error => exact meets_failResume empty
  | ok replayTo =>
    change Meets _ _ known (ite _ _ _)
    split
    · exact meets_refuseResume empty
    split
    · exact meets_refuseResume empty
    split
    · exact meets_refuseResume empty
    · exact meets_resumeEvents empty stored

theorem meets_handleResume :
    Meets (rules config.strictValidation) (fun known reply => known.mayApply outbound reply.1) known
      (handleResume config frame outbound) := by
  have refused {known : Knowledge} {timestamp : Int64} {code : ErrorCode} {message : Bytes} {retryable : Bool}
      {next : Except Reply Bytes → Server Reply} (passes : ∀ reply, next (.error reply) = pure reply) :
      Meets (rules config.strictValidation) (fun known reply => known.mayApply outbound reply.1) known
        ((do return .error (← refuseResume config frame outbound timestamp {close := true} code message retryable)) >>=
          next) := by
    refine (meets_bind _ _ _).mpr ((meets_bind _ _ _).mpr ((meets_refuseResume rfl).mono (fun known reply may => ?_)))
    change Meets _ _ known (next (.error reply))
    rw [passes]
    exact may
  unfold handleResume
  refine meets_request.mpr ⟨trivial,fun now => ?_⟩
  simp only []
  split
  · exact Knowledge.mayApply_of_empty rfl
  refine meets_request.mpr ⟨trivial,fun found => ?_⟩
  match found with
  | .error error => exact Knowledge.mayApply_of_empty rfl
  | .ok none => exact meets_refuseResume rfl
  | .ok (some state) =>
    have stream (snapshotID : Bytes) (resume : ResumePayload) :
        Meets (rules config.strictValidation) (fun known reply => known.mayApply outbound reply.1)
          {known with sessions := (frame.sessionID,state.capabilities)::known.sessions}
          (runStream frame.sessionID {capabilities := state.capabilities}
            (resumeStream config frame outbound resume snapshotID (unixMilli now) {capabilities := state.capabilities})) :=
      meets_runStream (fun known result => known.mayApply outbound result) (Knowledge.mayApply_of_empty rfl)
        (meets_resumeStream rfl (List.mem_cons_self ..))
    unfold resumeSnapshotID
    simp only []
    split
    · exact stream _ _
    split
    · exact refused (fun _ => rfl)
    split
    · exact refused (fun _ => rfl)
    refine (meets_bind _ _ _).mpr (meets_request.mpr ⟨trivial,fun identified => ?_⟩)
    cases identified with
    | error error =>
      cases error <;> first
        | exact Knowledge.mayApply_of_empty rfl
        | exact (meets_bind _ _ _).mp (refused (fun _ => rfl))
    | ok id =>
      simp only []
      split
      · exact (meets_bind _ _ _).mp (refused (fun _ => rfl))
      · exact stream _ _

end Resume

section Publication
variable {config : ServerConfig} {known : Knowledge} {outbound : Nat}

theorem matchesAppend_event {event : Envelope} {sessionID eventID eventType content : Bytes}
    (ok : matchesAppend config event sessionID eventID eventType content = .ok ()) :
    event.type = .event ∧ event.sessionID = sessionID := by
  unfold matchesAppend at ok
  obtain ⟨_,_,ok⟩ := bind_ok ok
  obtain ⟨_,_,ok⟩ := bind_ok ok
  have about := of_decide_eq_true (refuseUnless_ok ok)
  exact ⟨about.1,about.2.1⟩

theorem meets_publishEvent {sessionID eventID eventType content : Bytes} (ungated : known.gated = false) :
    Meets (rules config.strictValidation) (fun _ _ => True) known
      (publishEvent config sessionID eventID eventType content outbound) := by
  unfold publishEvent
  split
  · trivial
  split
  · trivial
  refine meets_request.mpr ⟨trivial,fun now => ?_⟩
  split
  · trivial
  simp only []
  split
  · trivial
  refine (meets_bind _ _ _).mpr (meets_runStream (fun _ _ => True) trivial ?_)
  unfold appendEvent
  refine meets_laneCallback (fun _ => trivial) ⟨trivial,fun found => ?_⟩
  match found with
  | .error error => trivial
  | .ok none => trivial
  | .ok (some state) =>
    refine meets_laneCallback (fun _ => trivial) ⟨trivial,fun appended => ?_⟩
    cases appended with
    | error error => trivial
    | ok event =>
      refine (meets_pure _).mpr ?_
      dsimp only
      split
      · trivial
      rename_i ok
      refine (meets_bind _ _ _).mpr (meets_enqueueFrame (fun _ => ?_) (fun _ => trivial) (fun _ => trivial))
      simp only [Knowledge.maySend,(matchesAppend_event ok).1]
      exact ⟨List.mem_cons_self ..,fun gated => absurd (ungated.symm.trans gated) (by simp)⟩

theorem meets_publishStateUpdate {sessionID updateID : Bytes} {object : StateObject} (ungated : known.gated = false) :
    Meets (rules config.strictValidation) (fun _ _ => True) known
      (publishStateUpdate config sessionID updateID object outbound) := by
  unfold publishStateUpdate
  split
  · trivial
  refine meets_request.mpr ⟨trivial,fun now => ?_⟩
  refine (meets_bind _ _ _).mpr (meets_runStream (fun _ _ => True) trivial ?_)
  unfold sendStateUpdate
  refine meets_laneCallback (fun _ => trivial) ⟨trivial,fun found => ?_⟩
  match found with
  | .error error => trivial
  | .ok none => trivial
  | .ok (some session) =>
    change Meets _ _ _ (ite _ _ _)
    split
    · trivial
    split
    · trivial
    · exact (meets_bind _ _ _).mpr (meets_enqueueFrame (fun _ => ungated) (fun _ => trivial) (fun _ => trivial))

end Publication

section Calls
variable {config : ServerConfig} {known : Knowledge} {outbound : Nat} {frame : Envelope}

theorem meets_dispatchFrame (phase : known.phase = .idle) (framed : known.frame = some frame)
    (valid : validateFrame frame config.limits config.strictValidation = .ok ())
    (welcomed : frame.asksSession → known.welcomes outbound frame.sessionID) :
    Meets (rules config.strictValidation) (fun known reply => known.mayApply outbound reply.1) known
      (dispatchFrame config frame outbound) := by
  have empty {program : Server Reply} (meets : Meets (rules config.strictValidation)
      (fun _ reply => reply.1.readySessionID = []) known program) :
      Meets (rules config.strictValidation) (fun known reply => known.mayApply outbound reply.1) known program :=
    meets.mono (fun _ _ none => Knowledge.mayApply_of_empty none)
  unfold dispatchFrame
  refine meets_request.mpr ⟨welcomed,fun _ => ?_⟩
  change Meets _ _ known _
  split
  · exact meets_handleHello
  · rename_i kind
    exact empty (meets_handlePing (welcomed (.inl kind)))
  · rename_i kind
    obtain ⟨id,plain,_⟩ := validateFrame_envelope valid
    exact empty (meets_handleSend phase framed kind id plain (welcomed (.inr (.inl kind))))
  · rename_i kind
    exact empty (meets_handleStateQuery (welcomed (.inr (.inr kind))))
  · exact meets_handleResume
  · exact meets_request.mpr ⟨trivial,fun _ => Knowledge.mayApply_of_empty rfl⟩
  · exact empty (meets_reply rfl (meets_enqueueError (fun _ => trivial)))

theorem meets_processFrame (phase : known.phase = .idle) (framed : known.frame = some frame)
    (welcomed : validateFrame frame config.limits config.strictValidation = .ok () → frame.asksSession →
      known.welcomes outbound frame.sessionID) :
    Meets (rules config.strictValidation) (fun known reply => known.mayApply outbound reply.1) known
      (processFrame config frame outbound) := by
  unfold processFrame
  split
  · unfold refuseFrame
    split
    · exact meets_request.mpr ⟨trivial,fun _ => Knowledge.mayApply_of_empty rfl⟩
    split
    · exact Knowledge.mayApply_of_empty rfl
    · exact (meets_bind _ _ _).mpr (meets_enqueueError (fun _ => Knowledge.mayApply_of_empty rfl))
  · rename_i valid
    exact meets_dispatchFrame phase framed valid (welcomed valid)

theorem meets_callRequest {strict : Bool} {α : Type} {post : Knowledge → α → Prop} {op : Op}
    {next : Answer op → Server α} :
    Meets (callRules strict) post known (ask op >>= next) ↔
      known.callAllowed strict op ∧ ∀ answer, Meets (callRules strict) post (known.next op answer) (next answer) := Iff.rfl

theorem meets_free {strict : Bool} {α : Type} {program : Server α} (free : known.owes = none)
    (meets : Meets (rules strict) (fun _ _ => True) known program) :
    Meets (callRules strict) (fun known _ => known.owes = none) known program :=
  (meets_call meets).mono (fun _ _ ended => ended.2.trans free)

/-- A call that was let through applies the result of its handler. -/
theorem meets_handleAdmitted {generation : ConnectionGeneration} (phase : known.phase = .idle)
    (framed : known.frame = some frame) (owes : known.owes = some (generation,outbound))
    (welcomed : validateFrame frame config.limits config.strictValidation = .ok () → frame.asksSession →
      known.welcomes outbound frame.sessionID) :
    Meets (callRules config.strictValidation) (fun known _ => known.owes = none) known
      (handleAdmitted config generation frame outbound) := by
  have processed : Meets (rules config.strictValidation) (fun known reply => known.mayApply outbound reply.1) known
      (invokeServerProcess config frame outbound) := by
    unfold invokeServerProcess
    refine (meets_bind _ _ _).mpr ((meets_processFrame phase framed welcomed).mono ?_)
    intro known reply may
    split
    · exact meets_request.mpr ⟨trivial,fun _ => Knowledge.mayApply_of_empty rfl⟩
    · exact may
  unfold handleAdmitted
  refine (meets_bind _ _ _).mpr ((meets_call processed).mono (fun after reply ended => ?_))
  exact meets_callRequest.mpr ⟨⟨ended.2.trans owes,ended.1⟩,fun _ => rfl⟩

theorem meets_handle {generation : ConnectionGeneration} (phase : known.phase = .idle) (framed : known.frame = some frame)
    (gated : known.gated = true) (free : known.owes = none) :
    Meets (callRules config.strictValidation) (fun known _ => known.owes = none) known
      (handle config generation frame) := by
  have admitted (outbound : Nat) : Meets (callRules config.strictValidation) (fun known _ => known.owes = none)
      (known.admits generation outbound frame) (handleAdmitted config generation frame outbound) := by
    refine meets_handleAdmitted phase framed rfl (fun _ asks _ => ?_)
    simp only [Knowledge.admits,if_pos asks]
    exact List.mem_cons_self ..
  unfold handle
  refine meets_callRequest.mpr ⟨⟨gated,free⟩,fun admission => ?_⟩
  cases admission with
  | stale => exact free
  | invalidState => exact free
  | rejected outbound => exact meets_free free (meets_enqueueError (fun _ => trivial))
  | admitted outbound state => exact admitted outbound
  | unvalidated outbound =>
    cases checked : validateFrame frame config.limits config.strictValidation with
    | ok valid => exact admitted outbound
    | error error =>
      refine meets_handleAdmitted phase framed rfl (fun valid => ?_)
      rw [checked] at valid
      cases valid

def ServerCall.start : ServerCall → Knowledge
  | .handle _ frame => {frame := some frame, gated := true}
  | .processFrame frame _ => {frame := some frame}
  | .replaceConnection => {gated := true}
  | _ => {}

/-- Every call keeps to the rules, and owes the gate nothing when it ends. -/
theorem ServerCall.complies (config : ServerConfig) (call : ServerCall) :
    Meets (callRules config.strictValidation) (fun known _ => known.owes = none) call.start (call.program config) := by
  cases call with
  | handle generation frame => exact meets_handle rfl rfl rfl rfl
  | replaceConnection => exact meets_callRequest.mpr ⟨trivial,fun _ => rfl⟩
  | processFrame frame outbound =>
    refine meets_free rfl ((meets_bind _ _ _).mpr ((meets_processFrame rfl rfl ?_).mono ?_))
    · exact fun _ _ gated => (Bool.false_ne_true gated).elim
    · exact fun _ _ _ => trivial
  | publishEvent sessionID eventID eventType content outbound => exact meets_free rfl (meets_publishEvent rfl)
  | publishStateUpdate sessionID updateID object outbound => exact meets_free rfl (meets_publishStateUpdate rfl)
  | pruneBefore sessionID firstAvailableSeq =>
    exact meets_free rfl (meets_request.mpr ⟨trivial,fun _ => trivial⟩)

end Calls

end Kmtproto
