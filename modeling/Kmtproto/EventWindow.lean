import Kmtproto.Delivery
import Kmtproto.ClientOutbox
import Kmtproto.ClientGap

/-! The identities a client remembers. Of the events delivered in a session exactly
the last ones are kept, as many as the window holds, and they decide what a repeated
EVENT is taken for. -/
namespace Kmtproto
open Json

structure Client.InWindow (c : Client) (seq : UInt64) : Prop where
  positive : 1 ≤ seq.toNat
  delivered : seq.toNat ≤ c.lastSeq.toNat
  recent : c.lastSeq.toNat < seq.toNat + c.config.eventIdentityWindow.toNat

instance (c : Client) (seq : UInt64) : Decidable (c.InWindow seq) :=
  decidable_of_iff (1 ≤ seq.toNat ∧ seq.toNat ≤ c.lastSeq.toNat ∧
    c.lastSeq.toNat < seq.toNat + c.config.eventIdentityWindow.toNat)
    ⟨fun held => ⟨held.1,held.2.1,held.2.2⟩,fun held => ⟨held.1,held.2,held.3⟩⟩

/-- The events a session delivered, in order, and the part of them that is remembered. -/
structure Client.Remembers (c : Client) (log : List Envelope) : Prop where
  numbered : ∀ i event, log[i]? = some event → event.seq.toNat = i+1
  reached : c.lastSeq.toNat = log.length
  window : ∀ seq, c.eventIDs.lookup seq = if c.InWindow seq then (log[seq.toNat-1]?).map Envelope.id else none

section Commit
variable {c : Client} {log : List Envelope} {event : Envelope}

private theorem rememberEvent_lookup (window : c.config.eventIdentityWindow ≠ 0) (seq key : UInt64) (eventID : Bytes) :
    (c.rememberEvent seq eventID).eventIDs.lookup key =
      if key = seq then some eventID
      else if 1 ≤ key.toNat ∧ key.toNat + c.config.eventIdentityWindow.toNat = seq.toNat then none
      else c.eventIDs.lookup key := by
  have size : c.config.eventIdentityWindow.toNat ≠ 0 := fun zero => window (UInt64.toNat_inj.mp zero)
  simp only [Client.rememberEvent]
  split
  · rename_i beyond
    have beyond : c.config.eventIdentityWindow.toNat < seq.toNat := UInt64.lt_iff_toNat_lt.mp beyond
    have oldest : (seq - c.config.eventIdentityWindow).toNat = seq.toNat - c.config.eventIdentityWindow.toNat :=
      UInt64.toNat_sub_of_le _ _ (UInt64.le_iff_toNat_le.mpr (by omega))
    by_cases erased : key = seq - c.config.eventIdentityWindow
    · have place := congrArg UInt64.toNat erased
      rw [oldest] at place
      have other : key ≠ seq := fun same => by rw [same] at place; omega
      rw [erased,AList.lookup_erase,if_neg (erased ▸ other),if_pos (by rw [← erased]; omega)]
    · have apart : ¬ (1 ≤ key.toNat ∧ key.toNat + c.config.eventIdentityWindow.toNat = seq.toNat) := fun same =>
        erased (UInt64.toNat_inj.mp (by omega))
      rw [AList.lookup_erase_ne erased,if_neg apart]
      split
      · rename_i same
        rw [same,AList.lookup_insert]
      · rename_i other
        exact AList.lookup_insert_ne other
  · rename_i small
    have small : seq.toNat ≤ c.config.eventIdentityWindow.toNat := by
      rw [gt_iff_lt,UInt64.lt_iff_toNat_lt] at small
      omega
    split
    · rename_i same
      rw [same,AList.lookup_insert]
    · rename_i other
      rw [AList.lookup_insert_ne other,if_neg (by omega)]

private theorem Client.Remembers.commit (remembers : c.Remembers log) (window : c.config.eventIdentityWindow ≠ 0)
    (next : event.seq.toNat = c.lastSeq.toNat + 1) : (c.commitEvent event).Remembers (log++[event]) := by
  have size : c.config.eventIdentityWindow.toNat ≠ 0 := fun zero => window (UInt64.toNat_inj.mp zero)
  have reached := remembers.reached
  have last : (c.commitEvent event).lastSeq = event.seq := rfl
  have config : (c.commitEvent event).config = c.config := rfl
  refine ⟨fun i other found => ?_,?_,fun seq => ?_⟩
  · by_cases old : i < log.length
    · rw [List.getElem?_append_left old] at found
      exact remembers.numbered i other found
    · rw [List.getElem?_append_right (by omega)] at found
      have bound := (List.getElem?_eq_some_iff.mp found).1
      have zero : i - log.length = 0 := by simpa using bound
      rw [zero] at found
      cases found
      omega
  · rw [last,next,List.length_append,List.length_singleton]
    omega
  · have remembered := rememberEvent_lookup (c := {c with lastSeq := event.seq}) window event.seq seq event.id
    change (c.commitEvent event).eventIDs.lookup seq = _ at remembered
    rw [remembered]
    split
    · rename_i same
      subst same
      rw [if_pos ⟨by omega,by rw [last],by rw [last,config]; omega⟩,
        List.getElem?_append_right (by omega)]
      simp [show event.seq.toNat - 1 - log.length = 0 by omega]
    · rename_i other
      have apart : seq.toNat ≠ event.seq.toNat := fun same => other (UInt64.toNat_inj.mp same)
      split
      · rename_i oldest
        rw [if_neg (fun inside => by
          have recent := inside.recent
          rw [last,config] at recent
          simp only at oldest
          omega)]
      · rename_i kept
        simp only at kept
        have moved : (c.commitEvent event).InWindow seq ↔ c.InWindow seq := by
          constructor
          · intro inside
            have upper := inside.delivered
            have recent := inside.recent
            rw [last] at upper recent
            rw [config] at recent
            exact ⟨inside.positive,by omega,by omega⟩
          · intro inside
            have upper := inside.delivered
            have recent := inside.recent
            have positive := inside.positive
            exact ⟨positive,by rw [last]; omega,by rw [last,config]; omega⟩
        change c.eventIDs.lookup seq = _
        rw [remembers.window,if_congr moved rfl rfl]
        split
        · rename_i inside
          have upper := inside.delivered
          have positive := inside.positive
          rw [List.getElem?_append_left (by omega)]
        · rfl

theorem Client.Remembers.commits {events : List Envelope} (remembers : c.Remembers log)
    (window : c.config.eventIdentityWindow ≠ 0) (consecutive : Consecutive c.lastSeq events) :
    (events.foldl Client.commitEvent c).Remembers (log++events) := by
  induction events generalizing c log with
  | nil => simpa using remembers
  | cons event events ih =>
    have first : event.seq.toNat = c.lastSeq.toNat + 1 := consecutive 0 (by simp)
    rw [List.foldl_cons,List.append_cons]
    exact ih (remembers.commit window first) window consecutive.tail

private theorem commitEvents_fields (first second : Client) (events : List Envelope) (config : first.config = second.config)
    (lastSeq : first.lastSeq = second.lastSeq) (eventIDs : first.eventIDs = second.eventIDs) :
    (events.foldl Client.commitEvent first).lastSeq = (events.foldl Client.commitEvent second).lastSeq ∧
      (events.foldl Client.commitEvent first).eventIDs = (events.foldl Client.commitEvent second).eventIDs := by
  induction events generalizing first second with
  | nil => exact ⟨lastSeq,eventIDs⟩
  | cons event events ih =>
    refine ih (first.commitEvent event) (second.commitEvent event) config rfl ?_
    simp only [Client.commitEvent,Client.rememberEvent,config,eventIDs]

private theorem Client.Remembers.fields {next : Client} (remembers : c.Remembers log) (config : next.config = c.config)
    (lastSeq : next.lastSeq = c.lastSeq) (eventIDs : next.eventIDs = c.eventIDs) : next.Remembers log := by
  refine ⟨remembers.numbered,by rw [lastSeq,remembers.reached],fun seq => ?_⟩
  have same : next.InWindow seq ↔ c.InWindow seq := by
    constructor
    · exact fun inside => ⟨inside.positive,lastSeq ▸ inside.delivered,lastSeq ▸ config ▸ inside.recent⟩
    · exact fun inside => ⟨inside.positive,lastSeq.symm ▸ inside.delivered,lastSeq.symm ▸ config.symm ▸ inside.recent⟩
  rw [eventIDs,remembers.window,if_congr same rfl rfl]

private theorem Client.remembers_nothing (lastSeq : c.lastSeq = 0) (eventIDs : c.eventIDs = ∅) : c.Remembers [] := by
  refine ⟨by simp,by rw [lastSeq]; rfl,fun seq => ?_⟩
  rw [if_neg (fun inside => by
    have upper := inside.delivered
    have positive := inside.positive
    rw [lastSeq] at upper
    simp only [UInt64.toNat_zero] at upper
    omega),eventIDs]
  rfl

end Commit

private theorem completeRecovery_session (c : Client) : c.completeRecovery.sessionID = c.sessionID := by
  obtain ⟨last,eventIDs,committed⟩ := commitEvents_frame c c.replayBuffer
  rw [Client.completeRecovery,Client.commitReplay,committed]
  rfl

private theorem newClientProtocol_window (config : ClientConfig) (initial : Client)
    (created : newClientProtocol config = .ok initial) : initial.config.eventIdentityWindow ≠ 0 := by
  unfold newClientProtocol at created
  obtain ⟨_,_,created⟩ := bind_ok created
  obtain ⟨_,_,created⟩ := bind_ok created
  obtain ⟨_,_,created⟩ := bind_ok created
  simp only [] at created
  split at created
  · cases created
  split at created
  · cases created
  · cases created
    simp only [normalizeClientConfig]
    split
    · decide
    · assumption

private theorem Transition.commits {c next : Client} {now : Int} {call : Call} {result : Except Err (List Action)}
    (transition : Transition c now call next result) (formed : c.WellFormed) :
    (next.sessionID = c.sessionID ∧ next.lastSeq = ((deliveries (resultActions result)).foldl Client.commitEvent c).lastSeq ∧
      next.eventIDs = ((deliveries (resultActions result)).foldl Client.commitEvent c).eventIDs) ∨
    next.sessionID ≠ c.sessionID ∧ next.lastSeq = 0 ∧ next.eventIDs = ∅ := by
  have errors {payload : ErrorPayload} {tail : List Action} (reported : ErrorTail c payload tail) :
      deliveries (.protocolError payload::tail) = [] := by cases reported <;> rfl
  cases transition with
  | retried ready =>
    have undelivered : deliveries (resultActions (.ok ((sortStrings c.outbox.keys).filterMap
        (fun id => (c.outbox.lookup id).map Action.sendFrame)))) = [] := by
      refine deliveries_none (fun action member event same => ?_)
      subst same
      obtain ⟨id,_,found⟩ := List.mem_filterMap.mp member
      cases looked : c.outbox.lookup id <;> simp [looked] at found
    rw [undelivered]
    exact .inl ⟨rfl,rfl,rfl⟩
  | established generation frame payload capabilities accepts welcome starts decoded mode session =>
    have empty := formed.handshake starts
    have fresh := formed.fresh empty
    exact .inr ⟨fun same => session (same.trans empty),fresh.1,fresh.2.1⟩
  | errorAbandoned generation frame payload tail accepts error decoded code reported =>
    by_cases session : c.sessionID = []
    · have fresh := formed.fresh session
      refine .inl ?_
      change [] = c.sessionID ∧ (0 : UInt64) = ((deliveries (.protocolError payload::tail)).foldl Client.commitEvent c).lastSeq ∧
        ∅ = ((deliveries (.protocolError payload::tail)).foldl Client.commitEvent c).eventIDs
      rw [errors reported]
      exact ⟨session.symm,fresh.1.symm,fresh.2.1.symm⟩
    · exact .inr ⟨fun same => session same.symm,rfl,rfl⟩
  | replayed generation frame accepts continues last plain =>
    refine .inl ?_
    have handed : deliveries ((c.replayBuffer++[frame]).map Action.deliverEvent ++ [.sessionReady c.sessionID]) =
        c.replayBuffer++[frame] := by
      rw [deliveries_append,deliveries_map]
      exact List.append_nil _
    rw [resultActions,handed]
    exact ⟨completeRecovery_session _,commitEvents_fields (c.bufferEvent frame) c (c.replayBuffer++[frame]) rfl rfl rfl⟩
  | snapshotCompleted generation frame payload merged actions accepts completes applied =>
    have changes := applyStateObjects_actions c merged payload.states actions applied
    obtain ⟨objects,size,rfl⟩ := applyStateObjects_frame c _ _ _ applied
    refine .inl ?_
    have handed : deliveries (c.replayBuffer.map Action.deliverEvent ++ actions ++ [.sessionReady c.sessionID]) =
        c.replayBuffer := by
      rw [deliveries_append,deliveries_append,deliveries_map,deliveries_state changes]
      exact (List.append_nil _).trans (List.append_nil _)
    rw [resultActions,handed]
    exact ⟨completeRecovery_session _,
      commitEvents_fields {c with stateObjects := objects, stateBytes := size} c c.replayBuffer rfl rfl rfl⟩
  | snapshotApplied generation frame payload merged actions accepts snapshot ready applied
  | updated generation frame payload merged actions accepts snapshot ready applied =>
    have changes := applyStateObjects_actions _ _ _ _ applied
    obtain ⟨objects,size,rfl⟩ := applyStateObjects_frame c _ _ _ applied
    rw [resultActions,deliveries_state changes]
    exact .inl ⟨rfl,rfl,rfl⟩
  | errorKept generation frame payload =>
    unfold Client.forgetQuery
    split <;> exact .inl ⟨rfl,rfl,rfl⟩
  | errorDropped generation frame payload tail accepts error reported =>
    rw [resultActions,errors reported]
    exact .inl ⟨rfl,rfl,rfl⟩
  | _ => exact .inl ⟨rfl,rfl,rfl⟩

/-- The events delivered in the session the client is in. -/
def deliveredLog (steps : List ClientStep) : List Envelope :=
  steps.foldl (fun log s => if s.after.sessionID = s.before.sessionID then log ++ deliveries s.actions else []) []

/-- After any run the client remembers the end of its delivered log. -/
theorem Client.run_remembers (config : ClientConfig) (initial : Client) (calls : List (Int × Call))
    (created : newClientProtocol config = .ok initial) :
    (initial.run calls).Remembers (deliveredLog (initial.steps calls)) ∧
      (initial.run calls).config.eventIdentityWindow ≠ 0 := by
  have formed := newClientProtocol_wellFormed config initial created
  obtain ⟨same,bytes,_⟩ := newClientProtocol_fresh config initial created
  have window := newClientProtocol_window config initial created
  induction calls using List.reverseRecOn with
  | nil =>
    refine ⟨Client.remembers_nothing ?_ ?_,window⟩
    · change initial.lastSeq = 0
      rw [same]
    · change initial.eventIDs = ∅
      rw [same]
  | append_singleton calls call ih =>
    obtain ⟨remembers,kept⟩ := ih
    have transition := Client.step_transition (initial.run calls) call.1 call.2
    have well := formed.run bytes calls
    rw [Client.run_append,Client.steps_snoc,deliveredLog,List.foldl_append,List.foldl_cons,List.foldl_nil,← deliveredLog]
    change ((initial.run calls).step call.1 call.2).1.Remembers
        (if ((initial.run calls).step call.1 call.2).1.sessionID = (initial.run calls).sessionID then
          deliveredLog (initial.steps calls) ++ deliveries (resultActions ((initial.run calls).step call.1 call.2).2)
        else []) ∧
      ((initial.run calls).step call.1 call.2).1.config.eventIdentityWindow ≠ 0
    refine ⟨?_,by rw [transition.config]; exact kept⟩
    rcases transition.commits well with ⟨session,lastSeq,eventIDs⟩ | ⟨session,lastSeq,eventIDs⟩
    · rw [if_pos session]
      have advances := (transition.advances well).within session
      have committed := remembers.commits kept advances.1
      refine committed.fields ?_ lastSeq eventIDs
      rw [transition.config]
      obtain ⟨_,_,framed⟩ := commitEvents_frame (initial.run calls)
        (deliveries (resultActions ((initial.run calls).step call.1 call.2).2))
      rw [framed]
    · rw [if_neg session]
      exact Client.remembers_nothing lastSeq eventIDs

section Verdict
variable {c : Client} {frame : Envelope} {log : List Envelope} (now : Int)

private theorem accepts_seq (accepts : c.Accepts c.generation frame) (event : frame.type = .event) : 1 ≤ frame.seq.toNat := by
  have typed := (validateFrame_parts accepts.valid).2
  simp only [validateTyped,event,validateEvent] at typed
  obtain ⟨_,_,typed⟩ := bind_ok typed
  obtain ⟨named,_⟩ := reject_bind_ok typed
  rw [not_or] at named
  exact Nat.one_le_iff_ne_zero.mpr (fun zero => named.2 (UInt64.toNat_inj.mp zero))

private theorem step_old (accepts : c.Accepts c.generation frame) (event : frame.type = .event)
    (state : c.state = .ready ∨ c.state = .resuming) (old : frame.seq ≤ c.lastSeq) :
    c.step now (.handleIncoming c.generation frame) =
      match c.eventIDs.lookup frame.seq with
      | none => c.handleIncomingFailure errIdentityExpired
      | some knownID => if knownID = frame.id then (c,.ok []) else c.handleIncomingFailure errProtocolConflict := by
  have accepting : ¬ (c.state ≠ .ready ∧ c.state ≠ .resuming) := by
    rcases state with same | same <;> simp [same]
  have dispatched : c.dispatch c.generation frame now = c.handleOldEvent frame := by
    rw [Client.dispatch,event]
    simp only [Client.handleEvent]
    rw [if_neg accepting,if_pos old]
  change c.handleIncoming c.generation frame now = _
  unfold Client.handleIncoming
  rw [if_neg (not_not_intro rfl),accepts.valid]
  simp only [accepts.correlated,dispatched,Client.handleOldEvent]
  cases c.eventIDs.lookup frame.seq with
  | none => rfl
  | some knownID =>
    by_cases same : knownID = frame.id
    · simp only [if_pos same]
      rfl
    · simp only [if_neg same]
      rfl

private theorem failure_quiet (c : Client) (error : Err) :
    (c.handleIncomingFailure error).1.lastSeq = c.lastSeq ∧
      deliveries (resultActions (c.handleIncomingFailure error).2) = [] := by
  unfold Client.handleIncomingFailure
  split
  · exact ⟨rfl,rfl⟩
  · simp only
    split <;> exact ⟨rfl,rfl⟩

private theorem failure_visible (c : Client) (error : Err) : c.handleIncomingFailure error ≠ (c,.ok []) := by
  unfold Client.handleIncomingFailure
  split
  · nofun
  · simp only
    split <;> exact fun same => nomatch (Prod.mk.inj same).2

private theorem failure_text {first second : Err} (same : c.handleIncomingFailure first = c.handleIncomingFailure second) :
    first.text = second.text := by
  unfold Client.handleIncomingFailure at same
  split at same
  · exact congrArg Err.text (Except.error.inj (Prod.mk.inj same).2)
  · simp only at same
    split at same
    all_goals
      simp only [Client.stopReplay,Client.stopStateResume,Client.stopResume,Client.reply,Prod.mk.injEq,true_and,
        Except.ok.injEq,List.cons.injEq,Action.closeConnection.injEq,and_true] at same
      exact List.append_cancel_left same.2

end Verdict

/-- In every reachable state the identities of exactly the last delivered events are
remembered, and they decide whether a repeated EVENT is ignored, conflicts or is
too old; none is delivered again or moves the sequence. -/
theorem event_identity_verdicts (config : ClientConfig) (initial : Client) (calls : List (Int × Call))
    (created : newClientProtocol config = .ok initial) :
    let c := initial.run calls
    let log := deliveredLog (initial.steps calls)
    c.Remembers log ∧
    ∀ now frame, c.Accepts c.generation frame → frame.type = .event → (c.state = .ready ∨ c.state = .resuming) →
      frame.seq ≤ c.lastSeq →
      let outcome := c.step now (.handleIncoming c.generation frame)
      (outcome = (c,.ok []) ↔
        c.InWindow frame.seq ∧ (log[frame.seq.toNat-1]?).map Envelope.id = some frame.id) ∧
      (outcome = c.handleIncomingFailure errProtocolConflict ↔
        c.InWindow frame.seq ∧ (log[frame.seq.toNat-1]?).map Envelope.id ≠ some frame.id) ∧
      (outcome = c.handleIncomingFailure errIdentityExpired ↔
        frame.seq.toNat + c.config.eventIdentityWindow.toNat ≤ c.lastSeq.toNat) ∧
      outcome.1.lastSeq = c.lastSeq ∧ deliveries (resultActions outcome.2) = [] := by
  intro c log
  have remembers : c.Remembers log := (Client.run_remembers config initial calls created).1
  refine ⟨remembers,fun now frame accepts event state old => ?_⟩
  intro outcome
  have positive := accepts_seq accepts event
  have delivered : frame.seq.toNat ≤ c.lastSeq.toNat := UInt64.le_iff_toNat_le.mp old
  have reached := remembers.reached
  have texts : errProtocolConflict.text ≠ errIdentityExpired.text := by decide
  have differ : c.handleIncomingFailure errProtocolConflict ≠ c.handleIncomingFailure errIdentityExpired :=
    fun same => texts (failure_text same)
  have judged : outcome = _ := step_old now accepts event state old
  rw [remembers.window] at judged
  by_cases inside : c.InWindow frame.seq
  · have recent := inside.recent
    have there : frame.seq.toNat - 1 < log.length := by omega
    rw [if_pos inside,List.getElem?_eq_getElem there,Option.map_some] at judged
    rw [List.getElem?_eq_getElem there,Option.map_some]
    simp only at judged
    split at judged
    · rename_i same
      rw [judged,same]
      have conflict := failure_visible c errProtocolConflict
      have expired := failure_visible c errIdentityExpired
      exact ⟨⟨fun _ => ⟨inside,rfl⟩,fun _ => rfl⟩,⟨fun wrong => absurd wrong.symm conflict,fun held => absurd rfl held.2⟩,
        ⟨fun wrong => absurd wrong.symm expired,fun below => by omega⟩,rfl,rfl⟩
    · rename_i other
      have quiet := failure_quiet c errProtocolConflict
      rw [judged]
      exact ⟨⟨fun wrong => absurd wrong (failure_visible c _),fun held => absurd (Option.some.inj held.2) other⟩,
        ⟨fun _ => ⟨inside,fun same => other (Option.some.inj same)⟩,fun _ => rfl⟩,
        ⟨fun wrong => absurd wrong differ,fun below => by omega⟩,quiet.1,quiet.2⟩
  · have below : frame.seq.toNat + c.config.eventIdentityWindow.toNat ≤ c.lastSeq.toNat := by
      by_contra above
      exact inside ⟨positive,delivered,by omega⟩
    have quiet := failure_quiet c errIdentityExpired
    rw [if_neg inside] at judged
    simp only at judged
    rw [judged]
    exact ⟨⟨fun wrong => absurd wrong (failure_visible c _),fun held => absurd held.1 inside⟩,
      ⟨fun wrong => absurd wrong.symm differ,fun held => absurd held.1 inside⟩,
      ⟨fun _ => below,fun _ => rfl⟩,quiet.1,quiet.2⟩

def windowCalls : List (Int × Call) :=
  gapCalls.take 4 ++ [(0,.handleIncoming 1 (laterEvent (lit "e1") 1)),(0,.handleIncoming 1 (laterEvent (lit "e2") 2)),
    (0,.handleIncoming 1 (laterEvent (lit "e3") 3))]

theorem event_identity_verdicts_window :
    let c := Client.run {config := {eventIdentityWindow := 2}} windowCalls
    c.step 0 (.handleIncoming c.generation (laterEvent (lit "e1") 1)) = c.handleIncomingFailure errIdentityExpired ∧
      c.step 0 (.handleIncoming c.generation (laterEvent (lit "e2") 2)) = (c,.ok []) := by
  intro c
  have created : newClientProtocol {eventIdentityWindow := 2} = .ok {config := {eventIdentityWindow := 2}} := rfl
  have verdict := (event_identity_verdicts _ _ windowCalls created).2 0
  have state : c.state = .ready := by decide +kernel
  have last : c.lastSeq = 3 := by decide +kernel
  have window : c.config.eventIdentityWindow = 2 := by decide +kernel
  have first : c.Accepts c.generation (laterEvent (lit "e1") 1) := ⟨rfl,by decide +kernel,by decide +kernel⟩
  have second : c.Accepts c.generation (laterEvent (lit "e2") 2) := ⟨rfl,by decide +kernel,by decide +kernel⟩
  refine ⟨?_,?_⟩
  · refine (verdict _ first rfl (.inl state) (by rw [last]; decide)).2.2.1.mpr ?_
    rw [last,window]
    decide
  · refine (verdict _ second rfl (.inl state) (by rw [last]; decide)).1.mpr ⟨⟨by decide,?_,?_⟩,by decide +kernel⟩
    · rw [last]; decide
    · rw [last,window]; decide

end Kmtproto
