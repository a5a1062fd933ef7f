import Kmtproto.ClientRecovery

/-! What a RESUMING client accepts. A RESUMED WELCOME fixes the boundary, the
EVENTs up to it are collected, and the last of them or the snapshot after it
completes the recovery. -/
namespace Kmtproto
open Json

def incoming (generation : ConnectionGeneration) (frames : List (Int × Envelope)) : List (Int × Call) :=
  frames.map (fun frame => (frame.1,.handleIncoming generation frame.2))

/-- The client with `events` added to its replay. -/
def Client.collect (c : Client) (events : List Envelope) : Client :=
  {c with replayBuffer := c.replayBuffer++events
          replayBytes := c.replayBytes + (events.map replayEventBytes).sum}

section Step
variable {c : Client} {now : Int} {generation : ConnectionGeneration} {frame : Envelope}

theorem Client.step_accepted (accepts : c.Accepts generation frame) (next : Client) (actions : List Action)
    (handled : c.dispatch generation frame now = (next,.ok actions)) :
    c.step now (.handleIncoming generation frame) = (next,.ok actions) := by
  change c.handleIncoming generation frame now = _
  unfold Client.handleIncoming
  rw [if_neg (not_not_intro accepts.current),accepts.valid]
  simp only [accepts.correlated,handled]
  rfl

/-- While RESUMING a refusal by a handler stops the recovery. -/
theorem Client.step_failed (accepts : c.Accepts generation frame) (error : Err) (resuming : c.state = .resuming)
    (plain : c.resumeStateNamespaces = []) (handled : c.dispatch generation frame now = (c,.error error)) :
    c.step now (.handleIncoming generation frame) =
      (c.drop,.ok (stopActions c .syncRequired (lit "resume failed: " ++ error.text))) := by
  change c.handleIncoming generation frame now = _
  unfold Client.handleIncoming
  rw [if_neg (not_not_intro accepts.current),accepts.valid]
  simp only [accepts.correlated,handled]
  simp [Client.handleIncomingFailure,resuming,plain,Client.stopReplay,Client.stopResume,Client.reply,stopActions]

theorem Client.step_welcome (now : Int) (payload : WelcomePayload) (accepts : c.Accepts generation frame)
    (welcome : frame.type = .welcome) (acknowledges : c.Acknowledges frame payload)
    (count : payload.replayTo - c.lastSeq ≤ c.config.maxReplayEvents) :
    c.step now (.handleIncoming generation frame) =
      if payload.replayTo = c.lastSeq ∧ c.resumeStateNamespaces = [] then
        ({c.resetConnectionTransient with state := .ready},.ok [.sessionReady c.sessionID])
      else (c.fixReplay payload.replayTo,.ok []) := by
  have inside : ¬ payload.replayTo < c.lastSeq := UInt64.not_lt.mpr acknowledges.stop
  have small : ¬ payload.replayTo - c.lastSeq > c.config.maxReplayEvents := UInt64.not_lt.mpr count
  have guards : ¬ (payload.mode ≠ welcomeModeResumed ∨ frame.sessionID ≠ c.sessionID ∨
      payload.resumeFrom ≠ c.lastSeq+1 ∨ payload.replayTo < c.lastSeq) := by
    simp [acknowledges.mode,acknowledges.session,acknowledges.start,acknowledges.stop]
  have handled : c.dispatch generation frame now = c.handleResumedWelcome frame payload := by
    simp [Client.dispatch,welcome,Client.handleWelcome,acknowledges.decoded,acknowledges.resuming]
  rw [Client.handleResumedWelcome,if_neg guards,acknowledges.sync] at handled
  simp only [if_neg small,List.isEmpty_iff] at handled
  split
  · rename_i level
    rw [if_pos level] at handled
    exact Client.step_accepted accepts _ _ handled
  · rename_i level
    rw [if_neg level] at handled
    exact Client.step_accepted accepts _ _ handled

theorem Client.step_replay (now : Int) (accepts : c.Accepts generation frame) (continues : c.Continues frame) :
    c.step now (.handleIncoming generation frame) =
      if frame.seq ≠ c.replayTo then (c.bufferEvent frame,.ok [])
      else if c.resumeStateNamespaces ≠ [] then ({c.bufferEvent frame with resumeEventsComplete := true},.ok [])
      else ((c.bufferEvent frame).completeRecovery,
        .ok ((c.replayBuffer++[frame]).map Action.deliverEvent ++ [.sessionReady c.sessionID])) := by
  have later : ¬ frame.seq ≤ c.lastSeq := UInt64.not_le.mpr continues.later
  have inside : ¬ frame.seq > c.replayTo := UInt64.not_lt.mpr continues.inside
  have order : ¬ (frame.seq ≠ c.lastSeq + UInt64.ofNat c.replayBuffer.length + 1 ∨ frame.seq > c.replayTo) :=
    not_or_intro (not_not_intro continues.next) inside
  have room : ¬ (UInt64.ofNat c.replayBuffer.length + 1 > c.config.maxReplayEvents ∨
      replayEventBytes frame > c.config.maxReplayBytes - c.replayBytes) :=
    not_or_intro (UInt64.not_lt.mpr continues.count) (not_lt.mpr continues.size)
  have handled : c.dispatch generation frame now = c.handleReplayEvent frame := by
    simp only [Client.dispatch,continues.event,Client.handleEvent,continues.resuming]
    simp [later]
  rw [Client.handleReplayEvent,if_neg continues.fixed,if_neg order,if_neg room] at handled
  simp only [Bool.not_eq_true',List.isEmpty_eq_false_iff] at handled
  split
  · rename_i unfinished
    rw [if_pos unfinished] at handled
    exact Client.step_accepted accepts _ _ handled
  · rename_i last
    rw [if_neg last] at handled
    split
    · rename_i requested
      rw [if_pos requested] at handled
      exact Client.step_accepted accepts _ _ handled
    · rename_i plain
      rw [if_neg plain] at handled
      exact Client.step_accepted accepts _ _ handled

end Step

structure Client.Awaits (c : Client) (generation : ConnectionGeneration) (events : List Envelope) : Prop where
  resuming : c.state = .resuming
  fixed : c.replayTo ≠ 0
  order : ∀ i (inside : i < events.length), events[i].seq.toNat = c.lastSeq.toNat + c.replayBuffer.length + 1 + i
  reached : c.lastSeq.toNat + c.replayBuffer.length + events.length = c.replayTo.toNat
  count : c.replayBuffer.length + events.length ≤ c.config.maxReplayEvents.toNat
  size : c.replayBytes + (events.map replayEventBytes).sum ≤ c.config.maxReplayBytes
  frames : ∀ event ∈ events, event.type = .event ∧ c.Accepts generation event

section Replay
variable {c : Client} {generation : ConnectionGeneration} {event : Envelope} {events : List Envelope}

theorem replayEventBytes_pos (frame : Envelope) : 0 < replayEventBytes frame := by
  unfold replayEventBytes
  omega

private theorem sum_replayEventBytes_nonneg (events : List Envelope) : 0 ≤ (events.map replayEventBytes).sum := by
  induction events with
  | nil => rfl
  | cons event events ih =>
    have pos := replayEventBytes_pos event
    simp only [List.map_cons,List.sum_cons]
    omega

theorem Client.Awaits.continues (awaits : c.Awaits generation (event::events)) : c.Continues event := by
  have order := awaits.order 0 (by simp)
  have reached := awaits.reached
  have count := awaits.count
  have size := awaits.size
  have bytes := sum_replayEventBytes_nonneg events
  have top := c.replayTo.toNat_lt
  simp only [List.getElem_cons_zero,List.length_cons,List.map_cons,List.sum_cons] at order reached count size
  have small : c.replayBuffer.length % 2^64 = c.replayBuffer.length := Nat.mod_eq_of_lt (by omega)
  refine ⟨awaits.resuming,(awaits.frames event (by simp)).1,?_,awaits.fixed,?_,?_,?_,by omega⟩
  · exact UInt64.lt_iff_toNat_lt.mpr (by omega)
  · apply UInt64.toNat_inj.mp
    simp only [UInt64.toNat_add,UInt64.toNat_ofNat',small,UInt64.toNat_one]
    omega
  · exact UInt64.le_iff_toNat_le.mpr (by omega)
  · apply UInt64.le_iff_toNat_le.mpr
    have bound := c.config.maxReplayEvents.toNat_lt
    simp only [UInt64.toNat_add,UInt64.toNat_ofNat',small,UInt64.toNat_one]
    omega

theorem Client.Awaits.next (awaits : c.Awaits generation (event::events)) :
    (c.bufferEvent event).Awaits generation events where
  resuming := awaits.resuming
  fixed := awaits.fixed
  order := by
    intro i inside
    have order := awaits.order (i+1) (by simpa using inside)
    simp only [List.getElem_cons_succ] at order
    simp only [Client.bufferEvent,List.length_append,List.length_singleton]
    omega
  reached := by
    have reached := awaits.reached
    simp only [Client.bufferEvent,List.length_append,List.length_cons,List.length_nil] at reached ⊢
    omega
  count := by
    have count := awaits.count
    simp only [Client.bufferEvent,List.length_append,List.length_cons,List.length_nil] at count ⊢
    omega
  size := by
    have size := awaits.size
    simp only [Client.bufferEvent,List.map_cons,List.sum_cons] at size ⊢
    omega
  frames := by
    intro later member
    obtain ⟨type,accepts⟩ := awaits.frames later (by simp [member])
    exact ⟨type,accepts.current,accepts.valid,accepts.correlated⟩

theorem Client.Awaits.last_iff (awaits : c.Awaits generation (event::events)) :
    event.seq = c.replayTo ↔ events = [] := by
  have order := awaits.order 0 (by simp)
  have reached := awaits.reached
  simp only [List.getElem_cons_zero,List.length_cons] at order reached
  rw [← UInt64.toNat_inj,← List.length_eq_zero_iff]
  omega

private theorem bufferEvent_collect (c : Client) (event : Envelope) (events : List Envelope) :
    (c.bufferEvent event).collect events = c.collect (event::events) := by
  simp [Client.bufferEvent,Client.collect,add_assoc]

def Client.replayOutcome (c : Client) (events : List Envelope) : Client × List Action :=
  if c.resumeStateNamespaces = [] then
    ((c.collect events).completeRecovery,
      (c.replayBuffer++events).map Action.deliverEvent ++ [.sessionReady c.sessionID])
  else ({c.collect events with resumeEventsComplete := true},[])

/-- A recovery that receives the events it waits for stays silent up to the last of them. -/
theorem Client.Awaits.run (frames : List (Int × Envelope)) (awaits : c.Awaits generation (frames.map Prod.snd))
    (received : frames ≠ []) :
    c.run (incoming generation frames) = (c.replayOutcome (frames.map Prod.snd)).1 ∧
      c.results (incoming generation frames) = List.replicate (frames.length-1) (.ok []) ++
        [.ok (c.replayOutcome (frames.map Prod.snd)).2] := by
  induction frames generalizing c with
  | nil => exact absurd rfl received
  | cons frame frames ih =>
    obtain ⟨now,event⟩ := frame
    have accepts := (awaits.frames event (by simp)).2
    have stepped := Client.step_replay now accepts awaits.continues
    have last := awaits.last_iff
    simp only [incoming,List.map_cons,Client.run_cons,Client.results]
    cases frames with
    | nil =>
      rw [if_neg (not_not_intro (last.mpr rfl))] at stepped
      have single : c.bufferEvent event = c.collect [event] := by simp [Client.bufferEvent,Client.collect]
      by_cases plain : c.resumeStateNamespaces = []
      · rw [if_neg (not_not_intro plain)] at stepped
        rw [stepped]
        simp [Client.replayOutcome,plain,single,Client.run,Client.results]
      · rw [if_pos plain] at stepped
        rw [stepped]
        simp [Client.replayOutcome,plain,single,Client.run,Client.results]
    | cons following frames =>
      have unfinished : event.seq ≠ c.replayTo := fun same => by simpa using last.mp same
      rw [if_pos unfinished] at stepped
      rw [stepped]
      obtain ⟨state,results⟩ := ih awaits.next (by simp)
      have outcome : (c.bufferEvent event).replayOutcome ((following::frames).map Prod.snd) =
          c.replayOutcome (event::(following::frames).map Prod.snd) := by
        unfold Client.replayOutcome
        rw [bufferEvent_collect]
        simp [Client.bufferEvent]
      rw [outcome] at state results
      exact ⟨state,congrArg (Except.ok []::·) results⟩

end Replay

structure Client.ResumeReply (c : Client) (generation : ConnectionGeneration) (welcome : Envelope)
    (payload : WelcomePayload) (events : List Envelope) : Prop where
  accepts : c.Accepts generation welcome
  type : welcome.type = .welcome
  acknowledges : c.Acknowledges welcome payload
  order : Consecutive c.lastSeq events
  reached : c.lastSeq.toNat + events.length = payload.replayTo.toNat
  count : events.length ≤ c.config.maxReplayEvents.toNat
  size : (events.map replayEventBytes).sum ≤ c.config.maxReplayBytes
  frames : ∀ event ∈ events, event.type = .event ∧ c.Accepts generation event

/-- The client READY with `events` committed. -/
def Client.committed (c : Client) (events : List Envelope) : Client :=
  {events.foldl Client.commitEvent c.resetConnectionTransient with state := .ready}

section Reply
variable {c : Client} {generation : ConnectionGeneration} {welcome : Envelope} {payload : WelcomePayload}

theorem commitEvents_reset (c : Client) (events : List Envelope) :
    (events.foldl Client.commitEvent c).resetConnectionTransient =
      events.foldl Client.commitEvent c.resetConnectionTransient := by
  induction events generalizing c with
  | nil => rfl
  | cons event events ih => exact ih (c.commitEvent event)

theorem collect_completeRecovery (c : Client) (replayTo : UInt64) (events : List Envelope) :
    ((c.fixReplay replayTo).collect events).completeRecovery = c.committed events := by
  rw [Client.completeRecovery,Client.commitReplay,commitEvents_reset]
  rfl

theorem Client.ResumeReply.awaits {events : List Envelope} (reply : c.ResumeReply generation welcome payload events)
    (nonempty : events ≠ []) : (c.fixReplay payload.replayTo).Awaits generation events where
  resuming := reply.acknowledges.resuming
  fixed := by
    intro zero
    have reached := reply.reached
    have pos := List.length_pos_iff.mpr nonempty
    change payload.replayTo = 0 at zero
    rw [zero,UInt64.toNat_zero] at reached
    omega
  order := reply.order
  reached := reply.reached
  count := by
    change 0 + events.length ≤ _
    rw [Nat.zero_add]
    exact reply.count
  size := by
    change 0 + (events.map replayEventBytes).sum ≤ _
    rw [zero_add]
    exact reply.size
  frames := fun event member => ⟨(reply.frames event member).1,(reply.frames event member).2.current,
    (reply.frames event member).2.valid,(reply.frames event member).2.correlated⟩

private theorem ResumeReply.fits {events : List Envelope} (reply : c.ResumeReply generation welcome payload events) :
    payload.replayTo - c.lastSeq ≤ c.config.maxReplayEvents := by
  have reached := reply.reached
  have count := reply.count
  apply UInt64.le_iff_toNat_le.mpr
  rw [UInt64.toNat_sub_of_le _ _ reply.acknowledges.stop]
  omega

/-- Without State the announced events bring the client to READY. -/
theorem Client.ResumeReply.completes (now : Int) (frames : List (Int × Envelope))
    (reply : c.ResumeReply generation welcome payload (frames.map Prod.snd)) (plain : c.resumeStateNamespaces = []) :
    c.run (incoming generation ((now,welcome)::frames)) = c.committed (frames.map Prod.snd) ∧
      c.results (incoming generation ((now,welcome)::frames)) = List.replicate frames.length (.ok []) ++
        [.ok ((frames.map Prod.snd).map Action.deliverEvent ++ [.sessionReady c.sessionID])] := by
  have stepped := Client.step_welcome now payload reply.accepts reply.type reply.acknowledges (ResumeReply.fits reply)
  simp only [incoming,List.map_cons,Client.run_cons,Client.results]
  have reached := reply.reached
  rw [List.length_map] at reached
  cases frames with
  | nil =>
    have level : payload.replayTo = c.lastSeq := UInt64.toNat_inj.mp (by simpa using reached.symm)
    rw [if_pos ⟨level,plain⟩] at stepped
    rw [stepped]
    exact ⟨rfl,rfl⟩
  | cons frame frames =>
    have unfinished : payload.replayTo ≠ c.lastSeq := by
      intro level
      rw [level,List.length_cons] at reached
      omega
    rw [if_neg (fun both => unfinished both.1)] at stepped
    rw [stepped]
    obtain ⟨state,results⟩ := (reply.awaits (by simp)).run (frame::frames) (by simp)
    rw [Client.replayOutcome,if_pos (show (c.fixReplay payload.replayTo).resumeStateNamespaces = [] from plain),
      collect_completeRecovery] at state results
    exact ⟨state,congrArg (Except.ok []::·) results⟩

end Reply

end Kmtproto
