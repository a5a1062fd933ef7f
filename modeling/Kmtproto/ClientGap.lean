import Kmtproto.ClientReplay

/-! Frames in flight while a gap is recovered. The client asks for a replay on the
connection it is using, so frames the server sent before it saw the RESUME still
arrive; EVENTs are superseded by the replay, every other frame ends the recovery. -/
namespace Kmtproto
open Json

/-- The frames a server can have put on the connection of a READY client. -/
structure InFlight (c : Client) (frame : Envelope) : Prop where
  valid : validateFrame frame c.config.limits c.config.strictValidation = .ok ()
  session : frame.sessionID = c.sessionID
  kind : frame.type ∈ [.event,.ack,.pong,.stateSnapshot,.stateUpdate]

/-- An EVENT the replay brings again, or one already delivered whose identity is still known. -/
def Superseded (c : Client) (frame : Envelope) : Prop :=
  frame.type = .event ∧ (c.lastSeq < frame.seq ∨ c.eventIDs.lookup frame.seq = some frame.id)

def Action.Aborts : Action → Prop
  | .fullSyncRequired _ => True
  | .closeConnection _ => True
  | _ => False

structure Undisturbed (c : Client) (generation : ConnectionGeneration) (frames : List (Int × Envelope)) : Prop where
  resuming : (c.run (incoming generation frames)).state = .resuming
  silent : ∀ actions, .ok actions ∈ c.results (incoming generation frames) → ∀ action ∈ actions, ¬ action.Aborts
  recovers : ∀ now welcome payload replay, c.ResumeReply generation welcome payload (replay.map Prod.snd) →
    (c.run (incoming generation (frames++(now,welcome)::replay))).state = .ready ∧
      (c.run (incoming generation (frames++(now,welcome)::replay))).lastSeq = payload.replayTo

section Gap
variable (c : Client) (now : Int) (frame : Envelope)

private theorem InFlight.accepts (inFlight : InFlight c frame) :
    (c.beginRecovery [] true).Accepts c.generation frame where
  current := rfl
  valid := inFlight.valid
  correlated := by
    have session : ¬ frame.sessionID ≠ (c.beginRecovery [] true).sessionID := not_not_intro inFlight.session
    have kind := inFlight.kind
    simp only [List.mem_cons,List.not_mem_nil,or_false] at kind
    rcases kind with type | type | type | type | type <;> simp [Client.correlates,type,session,reject]

private theorem oldEvent_superseded (old : ¬ c.lastSeq < frame.seq) (event : frame.type = .event) :
    (c.beginRecovery [] true).dispatch c.generation frame now = (c.beginRecovery [] true).handleOldEvent frame := by
  have level : frame.seq ≤ (c.beginRecovery [] true).lastSeq := UInt64.not_lt.mp old
  have resuming : (c.beginRecovery [] true).state = .resuming := rfl
  simp [Client.dispatch,event,Client.handleEvent,level,resuming]

theorem gap_superseded (inFlight : InFlight c frame) (superseded : Superseded c frame) :
    (c.beginRecovery [] true).step now (.handleIncoming c.generation frame) = (c.beginRecovery [] true,.ok []) := by
  obtain ⟨event,known⟩ := superseded
  refine Client.step_accepted (InFlight.accepts c frame inFlight) _ _ ?_
  by_cases later : c.lastSeq < frame.seq
  · have level : ¬ frame.seq ≤ c.lastSeq := UInt64.not_le.mpr later
    simp [Client.dispatch,event,Client.handleEvent,Client.handleReplayEvent,Client.beginRecovery,
      Client.resetConnectionTransient,level,Client.reply]
  · have identity : (c.beginRecovery [] true).eventIDs.lookup frame.seq = some frame.id := known.resolve_left later
    rw [oldEvent_superseded c now frame later event,Client.handleOldEvent,identity]
    simp [Client.reply]

theorem gap_stopped (inFlight : InFlight c frame) (other : ¬ Superseded c frame) :
    ∃ reason, (c.beginRecovery [] true).step now (.handleIncoming c.generation frame) =
      ((c.beginRecovery [] true).drop,.ok (stopActions (c.beginRecovery [] true) .syncRequired reason)) := by
  have refused : ∃ error, (c.beginRecovery [] true).dispatch c.generation frame now =
      (c.beginRecovery [] true,.error error) := by
    have kind := inFlight.kind
    simp only [List.mem_cons,List.not_mem_nil,or_false] at kind
    rcases kind with event | ack | pong | snapshot | update
    · have old : ¬ c.lastSeq < frame.seq := fun later => other ⟨event,Or.inl later⟩
      have unknown : c.eventIDs.lookup frame.seq ≠ some frame.id := fun known => other ⟨event,Or.inr known⟩
      rw [oldEvent_superseded c now frame old event,Client.handleOldEvent]
      split
      · exact ⟨_,rfl⟩
      · rename_i knownID found
        rw [if_neg (fun same : knownID = frame.id => unknown (same ▸ found))]
        exact ⟨_,rfl⟩
    · exact ⟨errInvalidState,by simp [Client.dispatch,ack,Client.handleAck,Client.beginRecovery,Client.refuse]⟩
    · exact ⟨errInvalidState,by simp [Client.dispatch,pong,Client.handlePong,Client.beginRecovery,Client.refuse]⟩
    · exact ⟨_,by simp [Client.dispatch,snapshot,Client.handleStateSnapshot,Client.handleResumeStateSnapshot,
        Client.beginRecovery,Client.refuse]; rfl⟩
    · exact ⟨errInvalidState,by simp [Client.dispatch,update,Client.handleStateUpdate,Client.beginRecovery,Client.refuse]⟩
  obtain ⟨error,refused⟩ := refused
  exact ⟨_,Client.step_failed (InFlight.accepts c frame inFlight) error rfl rfl refused⟩

end Gap

private theorem gap_superseded_run (c : Client) (frames : List (Int × Envelope))
    (inFlight : ∀ frame ∈ frames, InFlight c frame.2) (superseded : ∀ frame ∈ frames, Superseded c frame.2) :
    (c.beginRecovery [] true).run (incoming c.generation frames) = c.beginRecovery [] true ∧
      (c.beginRecovery [] true).results (incoming c.generation frames) = List.replicate frames.length (.ok []) := by
  induction frames with
  | nil => exact ⟨rfl,rfl⟩
  | cons frame frames ih =>
    have stepped := gap_superseded c frame.1 frame.2 (inFlight frame (by simp)) (superseded frame (by simp))
    obtain ⟨state,results⟩ := ih (fun later member => inFlight later (by simp [member]))
      (fun later member => superseded later (by simp [member]))
    simp only [incoming,List.map_cons,Client.run_cons,Client.results,stepped]
    exact ⟨state,congrArg (Except.ok []::·) results⟩

private theorem gap_stopped_run (c : Client) (frames : List (Int × Envelope))
    (inFlight : ∀ frame ∈ frames, InFlight c frame.2) (other : ∃ frame ∈ frames, ¬ Superseded c frame.2) :
    ∃ reason, .ok (stopActions (c.beginRecovery [] true) .syncRequired reason) ∈
      (c.beginRecovery [] true).results (incoming c.generation frames) := by
  induction frames with
  | nil => simp at other
  | cons frame frames ih =>
    simp only [incoming,List.map_cons,Client.results]
    by_cases superseded : Superseded c frame.2
    · rw [gap_superseded c frame.1 frame.2 (inFlight frame (by simp)) superseded]
      obtain ⟨bad,member,distinct⟩ := other
      have later : bad ∈ frames := (List.mem_cons.mp member).resolve_left (fun same => distinct (same ▸ superseded))
      obtain ⟨reason,found⟩ := ih (fun later member => inFlight later (by simp [member])) ⟨bad,later,distinct⟩
      exact ⟨reason,List.mem_cons_of_mem _ found⟩
    · obtain ⟨reason,stepped⟩ := gap_stopped c frame.1 frame.2 (inFlight frame (by simp)) superseded
      exact ⟨reason,by rw [stepped]; exact List.mem_cons_self⟩

theorem gap_entry {c d : Client} {now : Int} {generation : ConnectionGeneration} {frame : Envelope}
    {result : Except Err (List Action)} (ready : c.state = .ready)
    (entered : c.step now (.handleIncoming generation frame) = (d,result)) (resuming : d.state = .resuming) :
    generation = c.generation ∧ d = c.beginRecovery [] true := by
  have transition := c.step_transition now (.handleIncoming generation frame)
  rw [entered] at transition
  obtain ⟨namespaces,gap,through,opened,_⟩ := transition.enters (by simp [ready]) resuming
  cases through
  exact ⟨rfl,opened⟩

/-- A gap recovery survives the frames in flight exactly when all of them are superseded EVENTs. -/
theorem gap_recovery_undisturbed_iff (c d : Client) (now : Int) (generation : ConnectionGeneration) (gap : Envelope)
    (result : Except Err (List Action)) (frames : List (Int × Envelope)) (ready : c.state = .ready)
    (entered : c.step now (.handleIncoming generation gap) = (d,result)) (resuming : d.state = .resuming)
    (inFlight : ∀ frame ∈ frames, InFlight c frame.2) :
    Undisturbed d generation frames ↔ ∀ frame ∈ frames, Superseded c frame.2 := by
  obtain ⟨rfl,rfl⟩ := gap_entry ready entered resuming
  constructor
  · intro undisturbed
    by_contra other
    push Not at other
    obtain ⟨reason,stopped⟩ := gap_stopped_run c frames inFlight other
    exact undisturbed.silent _ stopped (.fullSyncRequired c.sessionID) (by simp [stopActions]; rfl) trivial
  · intro superseded
    obtain ⟨state,results⟩ := gap_superseded_run c frames inFlight superseded
    refine ⟨by rw [state]; rfl,?_,?_⟩
    · intro actions member
      rw [results] at member
      obtain ⟨_,same⟩ := List.mem_replicate.mp member
      cases same
      simp
    · intro later welcome payload replay reply
      obtain ⟨final,_⟩ := reply.completes later replay rfl
      have whole : incoming c.generation (frames++(later,welcome)::replay) =
          incoming c.generation frames ++ incoming c.generation ((later,welcome)::replay) := List.map_append
      rw [whole,Client.run_append,state,final]
      refine ⟨rfl,?_⟩
      have last := commitEvents_lastSeq (c.beginRecovery [] true).resetConnectionTransient (replay.map Prod.snd) reply.order
      exact UInt64.toNat_inj.mp (last.trans reply.reached)

def pendingSend : Client :=
  Client.run {config := {}} (gapCalls.take 4 ++ [(0,.enqueueSend (lit "m") (lit "1"))])

def laterEvent (id : Bytes) (seq : UInt64) : Envelope :=
  {type := .event, id := id, sessionID := lit "s", seq := seq, payload := lit "\x7b\"content\":1\x7d"}

def pendingAck : Envelope :=
  {type := .ack, sessionID := lit "s", payload := AckPayload.marshal {refID := lit "m"}}

instance (c : Client) (frame : Envelope) : Decidable (InFlight c frame) :=
  decidable_of_iff (validateFrame frame c.config.limits c.config.strictValidation = .ok () ∧
      frame.sessionID = c.sessionID ∧ frame.type ∈ [.event,.ack,.pong,.stateSnapshot,.stateUpdate])
    ⟨fun ⟨valid,session,kind⟩ => ⟨valid,session,kind⟩,fun ⟨valid,session,kind⟩ => ⟨valid,session,kind⟩⟩

/-- The ACK of the client's own SEND, already under way when EVENT 2 exposes the gap,
ends the recovery. -/
theorem gap_recovery_disturbed_by_ack :
    pendingSend.state = .ready ∧ (pendingSend.outbox.lookup (lit "m")).isSome = true ∧
      (pendingSend.step 0 (.handleIncoming 1 (laterEvent (lit "e2") 2))).1.state = .resuming ∧
      InFlight pendingSend pendingAck ∧
      ¬ Undisturbed (pendingSend.step 0 (.handleIncoming 1 (laterEvent (lit "e2") 2))).1 1 [(0,pendingAck)] := by
  refine ⟨by decide +kernel,by decide +kernel,by decide +kernel,by decide +kernel,fun undisturbed => ?_⟩
  have stopped : ((pendingSend.step 0 (.handleIncoming 1 (laterEvent (lit "e2") 2))).1.run
      (incoming 1 [(0,pendingAck)])).state = .disconnected := by decide +kernel
  rw [undisturbed.resuming] at stopped
  cases stopped

theorem gap_recovery_undisturbed_by_event :
    Undisturbed (pendingSend.step 0 (.handleIncoming 1 (laterEvent (lit "e2") 2))).1 1
      [(0,laterEvent (lit "e3") 3)] := by
  have inFlight : InFlight pendingSend (laterEvent (lit "e3") 3) := by decide +kernel
  have later : pendingSend.lastSeq < (laterEvent (lit "e3") 3).seq := by decide +kernel
  refine (gap_recovery_undisturbed_iff pendingSend _ 0 1 (laterEvent (lit "e2") 2) _ [(0,laterEvent (lit "e3") 3)]
    (by decide +kernel) rfl (by decide +kernel) ?_).mpr ?_
  · simpa using inFlight
  · simpa using ⟨rfl,Or.inl later⟩

end Kmtproto
