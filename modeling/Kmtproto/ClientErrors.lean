import Kmtproto.ClientInvariant

/-! Failed client calls. A call that returns an error has changed nothing, and a
recovery never ends in an error: a frame the protocol forbids closes the
connection instead. -/
namespace Kmtproto
open Json

def recoveryFrames : List FrameType := [.welcome,.event,.stateSnapshot,.error]

/-- A frame that must not reach a client in RESUMING. -/
inductive Client.Violates (c : Client) (frame : Envelope) : Prop
  | invalid (error : Err) (refused : validateFrame frame c.config.limits c.config.strictValidation = .error error)
  | foreign (error : Err) (refused : c.correlates frame = .error error)
  | unexpected (other : frame.type ∉ recoveryFrames)
  | acknowledgement (payload : WelcomePayload) (welcome : frame.type = .welcome)
      (decoded : decodePayload readWelcome {} frame.payload c.config.strictValidation = .ok payload)
      (differs : payload.mode ≠ welcomeModeResumed ∨ frame.sessionID ≠ c.sessionID ∨
        payload.resumeFrom ≠ c.lastSeq+1 ∨ payload.replayTo < c.lastSeq)
  | stateSync (payload : WelcomePayload) (welcome : frame.type = .welcome)
      (decoded : decodePayload readWelcome {} frame.payload c.config.strictValidation = .ok payload)
      (differs : payload.stateSync.map (·.namespaces) ≠
        if c.resumeStateNamespaces = [] then none else some c.resumeStateNamespaces)
  | identity (event : frame.type = .event) (old : frame.seq ≤ c.lastSeq)
      (other : c.eventIDs.lookup frame.seq ≠ some frame.id)
  | early (event : frame.type = .event) (later : c.lastSeq < frame.seq) (unfixed : c.replayTo = 0)
      (plain : c.gapResume = false)
  | sequence (event : frame.type = .event) (later : c.lastSeq < frame.seq) (fixed : c.replayTo ≠ 0)
      (other : frame.seq ≠ c.lastSeq + UInt64.ofNat c.replayBuffer.length + 1 ∨ c.replayTo < frame.seq)
  | snapshot (type : frame.type = .stateSnapshot)
      (unasked : stateSyncEnabled c.capabilities = false ∨ c.resumeStateNamespaces = [] ∨
        c.resumeEventsComplete = false)
  | scope (type : frame.type = .stateSnapshot) (payload : StateSnapshotPayload) (object : StateObject)
      (decoded : decodePayload readSnapshot {} frame.payload c.config.strictValidation = .ok payload)
      (returned : object ∈ payload.states) (outside : object.namespace_ ∉ c.resumeStateNamespaces)

def Closes (outcome : Outcome) : Prop :=
  outcome.1.state = .disconnected ∧ ∃ actions reason, outcome.2 = .ok actions ∧ Action.closeConnection reason ∈ actions

section Resuming
variable {c : Client} {frame : Envelope} {now : Int} (resuming : c.state = .resuming)
include resuming

theorem failure_closes (error : Err) : Closes (c.handleIncomingFailure error) := by
  have steady : ¬ c.state ≠ .resuming := by simpa using resuming
  unfold Client.handleIncomingFailure
  rw [if_neg steady]
  simp only []
  split
  · exact ⟨rfl,_,lit "resume failed: " ++ error.text,rfl,by simp⟩
  · exact ⟨rfl,_,lit "resume failed: " ++ error.text,rfl,by simp⟩

private theorem invalid_closes (error : Err)
    (refused : validateFrame frame c.config.limits c.config.strictValidation = .error error) :
    Closes (c.handleIncoming c.generation frame now) := by
  unfold Client.handleIncoming
  rw [if_neg (by simp),refused]
  simp only []
  split
  · exact ⟨rfl,_,lit "invalid ERROR frame",rfl,by simp⟩
  · exact failure_closes resuming error

private theorem foreign_closes (error : Err)
    (valid : validateFrame frame c.config.limits c.config.strictValidation = .ok ())
    (refused : c.correlates frame = .error error) :
    Closes (c.handleIncoming c.generation frame now) := by
  unfold Client.handleIncoming
  rw [if_neg (by simp),valid]
  simp only [refused]
  exact failure_closes resuming error

/-- A frame its handler refuses closes the connection. -/
private theorem refused_closes (error : Err) (accepts : c.Accepts c.generation frame)
    (refused : (c.dispatch c.generation frame now).2 = .error error) :
    Closes (c.handleIncoming c.generation frame now) := by
  have same := Client.dispatch_refused c now c.generation frame accepts refused
  unfold Client.handleIncoming
  rw [if_neg (by simp),accepts.valid]
  simp only [accepts.correlated,same,Client.refuse]
  exact failure_closes resuming error

private theorem welcome_refused (payload : WelcomePayload) (welcome : frame.type = .welcome)
    (decoded : decodePayload readWelcome {} frame.payload c.config.strictValidation = .ok payload)
    (differs : (payload.mode ≠ welcomeModeResumed ∨ frame.sessionID ≠ c.sessionID ∨
        payload.resumeFrom ≠ c.lastSeq+1 ∨ payload.replayTo < c.lastSeq) ∨
      payload.stateSync.map (·.namespaces) ≠
        if c.resumeStateNamespaces = [] then none else some c.resumeStateNamespaces) :
    ∃ error, (c.dispatch c.generation frame now).2 = .error error := by
  have handled : c.dispatch c.generation frame now = c.handleResumedWelcome frame payload := by
    simp [Client.dispatch,welcome,Client.handleWelcome,decoded,resuming]
  rw [handled]
  unfold Client.handleResumedWelcome
  split
  · exact ⟨_,rfl⟩
  rename_i agrees
  have sync := differs.resolve_left agrees
  have refused : ∃ error, c.checkStateSync payload.stateSync = .error error := by
    unfold Client.checkStateSync
    cases asked : c.resumeStateNamespaces with
    | nil =>
      cases echoed : payload.stateSync with
      | none => simp [asked,echoed] at sync
      | some _ => exact ⟨_,rfl⟩
    | cons namespace_ namespaces =>
      rw [asked,if_neg (by simp)] at sync
      rw [if_neg (by simp),reject,if_pos sync]
      exact ⟨_,rfl⟩
  obtain ⟨error,refused⟩ := refused
  rw [refused]
  exact ⟨error,rfl⟩

private theorem event_refused (event : frame.type = .event)
    (other : frame.seq ≤ c.lastSeq ∧ c.eventIDs.lookup frame.seq ≠ some frame.id ∨
      c.lastSeq < frame.seq ∧ c.replayTo = 0 ∧ c.gapResume = false ∨
      c.lastSeq < frame.seq ∧ c.replayTo ≠ 0 ∧
        (frame.seq ≠ c.lastSeq + UInt64.ofNat c.replayBuffer.length + 1 ∨ c.replayTo < frame.seq)) :
    ∃ error, (c.dispatch c.generation frame now).2 = .error error := by
  have handled : c.dispatch c.generation frame now =
      if frame.seq ≤ c.lastSeq then c.handleOldEvent frame else c.handleReplayEvent frame := by
    simp [Client.dispatch,event,Client.handleEvent,resuming]
  rw [handled]
  rcases other with ⟨old,other⟩ | ⟨later,unfixed,plain⟩ | ⟨later,fixed,other⟩
  · rw [if_pos old,Client.handleOldEvent]
    split
    · exact ⟨_,rfl⟩
    rename_i known found
    rw [if_neg (fun same => other (by rw [found,same]))]
    exact ⟨_,rfl⟩
  · rw [if_neg (UInt64.not_le.mpr later),Client.handleReplayEvent,if_pos unfixed,plain]
    exact ⟨_,rfl⟩
  · rw [if_neg (UInt64.not_le.mpr later),Client.handleReplayEvent,if_neg fixed,if_pos other]
    exact ⟨_,rfl⟩

private theorem snapshot_refused (type : frame.type = .stateSnapshot)
    (other : (stateSyncEnabled c.capabilities = false ∨ c.resumeStateNamespaces = [] ∨
        c.resumeEventsComplete = false) ∨
      ∃ payload, decodePayload readSnapshot {} frame.payload c.config.strictValidation = .ok payload ∧
        ∃ object ∈ payload.states, object.namespace_ ∉ c.resumeStateNamespaces) :
    ∃ error, (c.dispatch c.generation frame now).2 = .error error := by
  have handled : c.dispatch c.generation frame now = c.handleResumeStateSnapshot frame := by
    simp [Client.dispatch,type,Client.handleStateSnapshot,resuming]
  rw [handled]
  unfold Client.handleResumeStateSnapshot
  split
  · exact ⟨_,rfl⟩
  rename_i asked
  split
  · exact ⟨_,rfl⟩
  rename_i complete
  rcases other with unasked | ⟨payload,decoded,outside⟩
  · simp_all
  · simp only [decoded]
    rw [if_pos (by simpa using outside)]
    exact ⟨_,rfl⟩

theorem Client.Violates.closes (violates : c.Violates frame) :
    Closes (c.handleIncoming c.generation frame now) := by
  cases valid : validateFrame frame c.config.limits c.config.strictValidation with
  | error error => exact invalid_closes resuming error valid
  | ok =>
    cases correlated : c.correlates frame with
    | error error => exact foreign_closes resuming error valid correlated
    | ok =>
      have accepts : c.Accepts c.generation frame := ⟨rfl,valid,correlated⟩
      have refused : ∃ error, (c.dispatch c.generation frame now).2 = .error error := by
        cases violates with
        | invalid error refused => rw [valid] at refused; cases refused
        | foreign error refused => rw [correlated] at refused; cases refused
        | unexpected other =>
          unfold Client.dispatch
          cases type : frame.type <;>
            first
            | exact absurd (by rw [type]; decide) other
            | simp [Client.handlePong,Client.handleAck,Client.handleStateUpdate,Client.refuse,resuming]
        | acknowledgement payload welcome decoded differs =>
          exact welcome_refused resuming payload welcome decoded (.inl differs)
        | stateSync payload welcome decoded differs =>
          exact welcome_refused resuming payload welcome decoded (.inr differs)
        | identity event old other => exact event_refused resuming event (.inl ⟨old,other⟩)
        | early event later unfixed plain => exact event_refused resuming event (.inr (.inl ⟨later,unfixed,plain⟩))
        | sequence event later fixed other => exact event_refused resuming event (.inr (.inr ⟨later,fixed,other⟩))
        | snapshot type unasked => exact snapshot_refused resuming type (.inl unasked)
        | scope type payload object decoded returned outside =>
          exact snapshot_refused resuming type (.inr ⟨payload,decoded,object,returned,outside⟩)
      obtain ⟨error,refused⟩ := refused
      exact refused_closes resuming error accepts refused

omit resuming in
private theorem Closes.succeeds {outcome : Outcome} (closes : Closes outcome) :
    ∃ actions, outcome.2 = .ok actions := by
  obtain ⟨_,actions,_,same,_⟩ := closes
  exact ⟨actions,same⟩

theorem incoming_succeeds : ∃ actions, (c.handleIncoming c.generation frame now).2 = .ok actions := by
  cases valid : validateFrame frame c.config.limits c.config.strictValidation with
  | error error => exact (invalid_closes resuming error valid).succeeds
  | ok =>
    cases correlated : c.correlates frame with
    | error error => exact (foreign_closes resuming error valid correlated).succeeds
    | ok =>
      cases handled : c.dispatch c.generation frame now with
      | mk next result =>
        cases result with
        | error error =>
          exact (refused_closes resuming error ⟨rfl,valid,correlated⟩ (by rw [handled])).succeeds
        | ok actions => exact ⟨actions,by simp [Client.handleIncoming,valid,correlated,handled,Client.reply]⟩

end Resuming

private theorem Transition.unchanged {c next : Client} {now : Int} {call : Call} {error : Err}
    (transition : Transition c now call next (.error error)) : next = c := by
  cases transition
  rfl

/-- A failed call leaves the client as it was, and in RESUMING no frame of the connection fails: one that
violates the protocol, or that its handler refuses, closes the connection. -/
theorem Client.errors_atomic (c : Client) (now : Int) :
    (∀ call error, (c.step now call).2 = .error error → (c.step now call).1 = c) ∧
      (c.state = .resuming → ∀ frame,
        (∃ actions, (c.handleIncoming c.generation frame now).2 = .ok actions) ∧
          (c.Violates frame → Closes (c.handleIncoming c.generation frame now)) ∧
          (∀ error, c.Accepts c.generation frame → (c.dispatch c.generation frame now).2 = .error error →
            Closes (c.handleIncoming c.generation frame now))) := by
  refine ⟨fun call error failed => ?_,fun resuming frame => ⟨incoming_succeeds resuming,?_,?_⟩⟩
  · have transition := c.step_transition now call
    rw [failed] at transition
    exact transition.unchanged
  · intro violates
    exact violates.closes resuming
  · intro error accepts refused
    exact refused_closes resuming error accepts refused

def beyondReplay : Envelope :=
  {type := .event, id := lit "e9", sessionID := lit "s", seq := 9, payload := lit "\x7b\"content\":1\x7d"}

theorem Client.errors_atomic_gap :
    (Client.run {config := {}} gapCalls).state = .resuming ∧
      Closes ((Client.run {config := {}} gapCalls).handleIncoming 1 beyondReplay 0) := by
  have resuming : (Client.run {config := {}} gapCalls).state = .resuming := by decide +kernel
  have fixed : (Client.run {config := {}} gapCalls).replayTo = 3 ∧
      (Client.run {config := {}} gapCalls).lastSeq = 0 ∧
      (Client.run {config := {}} gapCalls).generation = 1 := by decide +kernel
  have violates : (Client.run {config := {}} gapCalls).Violates beyondReplay := by
    refine .sequence rfl ?_ ?_ (.inr ?_)
    · rw [fixed.2.1]; decide
    · rw [fixed.1]; decide
    · rw [fixed.1]; decide
  have closes := (((Client.errors_atomic _ 0).2 resuming beyondReplay).2.1 violates)
  rw [fixed.2.2] at closes
  exact ⟨resuming,closes⟩

end Kmtproto
