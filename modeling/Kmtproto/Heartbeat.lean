import Kmtproto.ClientReplay
import Kmtproto.ClientRecovery

/-! The heartbeat as a property of the calls made. A connection is closed for its
heartbeat only after a ping of that connection stayed unanswered, first until the
timeout and then through the grace period; only the PONG of the pending ping, the
end of the connection or a gap takes the ping back. -/
namespace Kmtproto
open Json

/-- The call hands in a PONG for the ping, and the client takes it. -/
def Client.HandlesPong (c : Client) (call : Call) (pingID : Bytes) : Prop :=
  ∃ generation frame payload, call = .handleIncoming generation frame ∧ c.Accepts generation frame ∧
    frame.type = .pong ∧ decodePayload readPong {} frame.payload c.config.strictValidation = .ok payload ∧
    payload.pingID = pingID

def pingCall (ping : PendingPing) : Int × Call := (ping.sentAt,.sendPing ping.generation ping.id)

/-- The ping was sent after `first` and was pending through everything `later`. -/
structure Awaited (initial : Client) (ping : PendingPing) (first later : List (Int × Call)) : Prop where
  sent : ∃ actions, ((initial.run first).step ping.sentAt (pingCall ping).2).2 = .ok actions
  current : (initial.run first).generation = ping.generation
  pending : ∀ part, part <+: later →
    (initial.run (first++pingCall ping::part)).pendingPing = some ping ∧
      (initial.run (first++pingCall ping::part)).generation = ping.generation

/-- The check at `instant` found the ping late and the client READY. -/
structure FoundLate (initial : Client) (ping : PendingPing) (instant : Int) (first between : List (Int × Call)) : Prop where
  ready : (initial.run (first++pingCall ping::between)).state = .ready
  late : instant - ping.sentAt ≥ initial.config.heartbeatTimeout
  suspected : ((initial.run (first++pingCall ping::between)).step instant (.checkHeartbeat ping.generation)).1.state = .suspect

section Step
variable {c next : Client} {now : Int} {call : Call} {result : Except Err (List Action)}

/-- A ping that is pending after a call was pending before or was just sent. -/
theorem Transition.pending (transition : Transition c now call next result) {ping : PendingPing}
    (pending : next.pendingPing = some ping) :
    (c.pendingPing = some ping ∧ next.generation = c.generation) ∨
      (call = .sendPing ping.generation ping.id ∧ now = ping.sentAt ∧ ping.generation = c.generation ∧
        next.generation = c.generation ∧ next.state = .ready ∧ ∃ actions, result = .ok actions) := by
  cases transition with
  | pinged pingID frame ready =>
    cases pending
    exact Or.inr ⟨rfl,rfl,rfl,rfl,ready,_,rfl⟩
  | delivered generation frame => exact Or.inl ⟨pending,rfl⟩
  | snapshotApplied generation frame payload merged actions accepts snapshot ready applied =>
    obtain ⟨_,_,rfl⟩ := applyStateObjects_frame c payload.states merged actions applied
    exact Or.inl ⟨pending,rfl⟩
  | updated generation frame payload merged actions accepts update ready applied =>
    obtain ⟨_,_,rfl⟩ := applyStateObjects_frame c [payload.state] next actions applied
    exact Or.inl ⟨pending,rfl⟩
  | errorKept generation frame payload =>
    unfold Client.forgetQuery at pending ⊢
    split at pending
    all_goals exact Or.inl ⟨pending,by simp_all⟩
  | _ => first
    | exact Or.inl ⟨pending,rfl⟩
    | exact absurd pending (by simp [Client.completeRecovery,Client.drop,Client.beginRecovery,Client.abandonSession,
        Client.resetConnectionTransient])

/-- A client is SUSPECT after a call because it was or because the check found its ping late. -/
theorem Transition.suspects (transition : Transition c now call next result) (suspect : next.state = .suspect) :
    (c.state = .suspect ∧ next.suspectAt = c.suspectAt) ∨
      ∃ ping, c.pendingPing = some ping ∧ c.state = .ready ∧ call = .checkHeartbeat c.generation ∧ next.suspectAt = now ∧
        now - ping.sentAt ≥ c.config.heartbeatTimeout := by
  cases transition with
  | suspected ping ready pending late => exact Or.inr ⟨ping,pending,ready,rfl,rfl,late⟩
  | ponged =>
    simp only at suspect
    split at suspect
    · cases suspect
    · contradiction
  | snapshotApplied generation frame payload merged actions accepts snapshot ready applied =>
    obtain ⟨_,_,rfl⟩ := applyStateObjects_frame c payload.states merged actions applied
    exact Or.inl ⟨suspect,rfl⟩
  | updated generation frame payload merged actions accepts update ready applied =>
    obtain ⟨_,_,rfl⟩ := applyStateObjects_frame c [payload.state] next actions applied
    exact Or.inl ⟨suspect,rfl⟩
  | errorKept generation frame payload =>
    unfold Client.forgetQuery at suspect ⊢
    split at suspect
    all_goals exact Or.inl ⟨suspect,by simp_all⟩
  | _ => first
    | exact Or.inl ⟨suspect,rfl⟩
    | cases suspect

private theorem checkHeartbeat_closes {generation : ConnectionGeneration} {reason : Bytes}
    (closes : .closeConnection reason ∈ resultActions (c.step now (.checkHeartbeat generation)).2) :
    generation = c.generation ∧ c.state = .suspect ∧ now - c.suspectAt ≥ c.config.disconnectGrace := by
  simp only [Client.step,Client.checkHeartbeat,Client.refuse,Client.reply] at closes
  split at closes
  · simp [resultActions] at closes
  rename_i current
  split at closes
  · simp [resultActions] at closes
  split at closes
  · simp [resultActions] at closes
  split at closes
  · rename_i suspect
    exact ⟨not_not.mp current,suspect⟩
  · simp [resultActions] at closes

inductive PingKept (ping : PendingPing) (c next : Client) (frame : Envelope) : Prop
  | kept (pending : next.pendingPing = some ping) (state : next.state = c.state) (suspectAt : next.suspectAt = c.suspectAt)
  | disconnected (left : next.state = .disconnected)
  | recovering (event : frame.type = .event) (gap : c.lastSeq+1 < frame.seq) (resuming : next.state = .resuming)

theorem Transition.ping_kept {generation : ConnectionGeneration} {frame : Envelope} {ping : PendingPing}
    (transition : Transition c now (.handleIncoming generation frame) next result) (formed : c.WellFormed)
    (pending : c.pendingPing = some ping) (other : ¬ c.HandlesPong (.handleIncoming generation frame) ping.id) :
    PingKept ping c next frame := by
  have steady := (formed.ping ping pending).1
  generalize same : Call.handleIncoming generation frame = call at transition
  cases transition with
  | established _ _ _ _ _ _ starts => rcases steady with steady | steady <;> cases starts.symm.trans steady
  | resumed _ _ starts => rcases steady with steady | steady <;> cases starts.symm.trans steady
  | welcomed _ _ _ _ _ acknowledges =>
    rcases steady with steady | steady <;> cases acknowledges.resuming.symm.trans steady
  | caughtUp _ _ _ _ _ acknowledges =>
    rcases steady with steady | steady <;> cases acknowledges.resuming.symm.trans steady
  | ponged _ _ payload found accepts pong starts decoded awaited answers =>
    cases same
    cases awaited.symm.trans pending
    exact (other ⟨_,_,payload,rfl,accepts,pong,decoded,answers.1⟩).elim
  | gapped _ _ accepts event ready later gap =>
    cases same
    exact .recovering event gap rfl
  | buffered _ _ accepts continues =>
    rcases steady with steady | steady <;> cases continues.resuming.symm.trans steady
  | replayedForState _ _ accepts continues =>
    rcases steady with steady | steady <;> cases continues.resuming.symm.trans steady
  | replayed _ _ accepts continues =>
    rcases steady with steady | steady <;> cases continues.resuming.symm.trans steady
  | snapshotCompleted _ _ payload merged actions accepts completes =>
    rcases steady with steady | steady <;> cases completes.resuming.symm.trans steady
  | snapshotApplied _ _ payload merged actions accepts snapshot ready applied =>
    obtain ⟨_,_,rfl⟩ := applyStateObjects_frame c payload.states merged actions applied
    exact .kept pending rfl rfl
  | updated _ _ payload merged actions accepts update ready applied =>
    obtain ⟨_,_,rfl⟩ := applyStateObjects_frame c [payload.state] next actions applied
    exact .kept pending rfl rfl
  | errorKept _ _ payload =>
    unfold Client.forgetQuery
    split
    all_goals exact .kept pending rfl rfl
  | stopped => exact .disconnected rfl
  | invalidError => exact .disconnected rfl
  | errorDropped => exact .disconnected rfl
  | errorAbandoned => exact .disconnected rfl
  | refused => exact .kept pending rfl rfl
  | silent => exact .kept pending rfl rfl
  | delivered => exact .kept pending rfl rfl
  | acked => exact .kept pending rfl rfl
  | _ => cases same

theorem Client.HandlesPong.answers {generation : ConnectionGeneration} {frame : Envelope} {ping : PendingPing}
    (handles : c.HandlesPong (.handleIncoming generation frame) ping.id) (pending : c.pendingPing = some ping)
    (held : (c.state = .ready ∨ c.state = .suspect) ∧ ping.generation = c.generation) :
    (c.step now (.handleIncoming generation frame)).1.state = .ready ∧
      (c.step now (.handleIncoming generation frame)).1.pendingPing = none := by
  obtain ⟨_,_,payload,⟨⟩,accepts,pong,decoded,answers⟩ := handles
  obtain ⟨steady,current⟩ := held
  have handled : c.dispatch generation frame now =
      ({c with pendingPing := none, suspectAt := zeroTime, state := if c.state = .suspect then .ready else c.state},.ok []) := by
    simp only [Client.dispatch,pong]
    unfold Client.handlePong
    rw [if_neg (by tauto),decoded]
    simp only [pending]
    rw [if_neg (by rw [answers,accepts.current,current]; simp)]
    rfl
  rw [Client.step_accepted accepts _ _ handled]
  refine ⟨?_,rfl⟩
  rcases steady with steady | steady <;> simp [steady]

end Step

section Run
variable {initial : Client}

theorem Client.run_snoc (c : Client) (calls : List (Int × Call)) (call : Int × Call) :
    c.run (calls++[call]) = ((c.run calls).step call.1 call.2).1 := by
  rw [Client.run_append]
  rfl

theorem Client.run_config (c : Client) (calls : List (Int × Call)) : (c.run calls).config = c.config := by
  refine Client.run_induction (fun next => next.config = c.config) ?_ c calls rfl
  intro c next now call result held transition
  rw [transition.config,held]

private theorem Awaited.snoc {ping : PendingPing} {first later : List (Int × Call)} {call : Int × Call}
    (awaited : Awaited initial ping first later)
    (pending : (initial.run (first++pingCall ping::later++[call])).pendingPing = some ping)
    (current : (initial.run (first++pingCall ping::later++[call])).generation = ping.generation) :
    Awaited initial ping first (later++[call]) := by
  refine ⟨awaited.sent,awaited.current,fun part begins => ?_⟩
  rcases List.prefix_concat_iff.mp begins with whole | before
  · rw [whole,← List.cons_append,← List.append_assoc]
    exact ⟨pending,current⟩
  · exact awaited.pending part before

private theorem Awaited.unanswered {ping : PendingPing} {first later part : List (Int × Call)} {call : Int × Call}
    (awaited : Awaited initial ping first later) (formed : ∀ calls, (initial.run calls).WellFormed)
    (begins : part++[call] <+: later) : ¬ (initial.run (first++pingCall ping::part)).HandlesPong call.2 ping.id := by
  intro handles
  obtain ⟨pending,_⟩ := awaited.pending part ((List.prefix_append part [call]).trans begins)
  obtain ⟨after,_⟩ := awaited.pending (part++[call]) begins
  rw [← List.cons_append,← List.append_assoc,Client.run_snoc] at after
  obtain ⟨generation,frame,_,incoming,_⟩ := id handles
  rw [incoming] at handles after
  cases (handles.answers pending ((formed _).ping ping pending)).2.symm.trans after

private theorem tracked (initial : Client) (unsent : initial.pendingPing = none) (calls : List (Int × Call))
    (formed : ∀ calls, (initial.run calls).WellFormed) (ping : PendingPing)
    (pending : (initial.run calls).pendingPing = some ping) :
    ∃ first later, calls = first++pingCall ping::later ∧ Awaited initial ping first later ∧
      ((initial.run calls).state = .suspect → ∃ between last,
        later = between++((initial.run calls).suspectAt,.checkHeartbeat ping.generation)::last ∧
          FoundLate initial ping (initial.run calls).suspectAt first between) := by
  induction calls using List.reverseRecOn with
  | nil =>
    change initial.pendingPing = some ping at pending
    cases unsent.symm.trans pending
  | append_singleton calls call ih =>
    have transition := (initial.run calls).step_transition call.1 call.2
    have held := formed calls
    rw [Client.run_snoc] at pending ⊢
    rcases transition.pending pending with ⟨before,stays⟩ | ⟨sends,placed,current,stays,ready,sent⟩
    · obtain ⟨first,later,rfl,awaited,suspected⟩ := ih before
      have generation := (held.ping ping before).2
      refine ⟨first,later++[call],by simp,awaited.snoc ?_ ?_,fun suspect => ?_⟩
      · rw [Client.run_snoc]
        exact pending
      · rw [Client.run_snoc,stays,generation]
      rcases transition.suspects suspect with ⟨already,same⟩ | ⟨found,pinged,ready,checks,placed,late⟩
      · obtain ⟨between,last,whole,late⟩ := suspected already
        rw [same]
        exact ⟨between,last++[call],by nth_rewrite 1 [whole]; simp,late⟩
      · cases pinged.symm.trans before
        have check : call = (call.1,.checkHeartbeat ping.generation) := by
          rw [generation,← checks]
        refine ⟨later,[],?_,ready,?_,?_⟩
        · rw [placed,← check]
        · rw [placed,← Client.run_config initial]
          exact late
        · rw [placed,generation,← checks]
          exact suspect
    · have call' : call = pingCall ping := by
        rw [pingCall,← sends,← placed]
      obtain ⟨actions,succeeds⟩ := sent
      refine ⟨calls,[],by rw [call'],⟨⟨actions,?_⟩,current.symm,fun part begins => ?_⟩,fun suspect => ?_⟩
      · rw [← succeeds,call']
        rfl
      · rw [List.prefix_nil.mp begins,← call',Client.run_snoc]
        exact ⟨pending,stays.trans current.symm⟩
      · cases ready.symm.trans suspect

end Run

/-- The history behind a close for the heartbeat, and what clears a pending ping. -/
theorem heartbeat_sound (config : ClientConfig) (initial : Client) (calls : List (Int × Call))
    (created : newClientProtocol config = .ok initial) :
    let c := initial.run calls
    (∀ t generation reason,
      .closeConnection reason ∈ resultActions (c.step t (.checkHeartbeat generation)).2 →
      ∃ ping t1 first between last,
        ping.generation = generation ∧ generation = c.generation ∧
        calls = first++pingCall ping::between++(t1,.checkHeartbeat generation)::last ∧
        Awaited initial ping first (between++(t1,.checkHeartbeat generation)::last) ∧
        FoundLate initial ping t1 first between ∧
        t - t1 ≥ initial.config.disconnectGrace ∧
        ∀ part call, part++[call] <+: between++(t1,.checkHeartbeat generation)::last →
          ¬ (initial.run (first++pingCall ping::part)).HandlesPong call.2 ping.id) ∧
    ∀ ping, c.pendingPing = some ping → ∀ now generation frame,
      (c.HandlesPong (.handleIncoming generation frame) ping.id →
        (c.step now (.handleIncoming generation frame)).1.state = .ready ∧
          (c.step now (.handleIncoming generation frame)).1.pendingPing = none) ∧
      (¬ c.HandlesPong (.handleIncoming generation frame) ping.id →
        PingKept ping c (c.step now (.handleIncoming generation frame)).1 frame) := by
  intro c
  obtain ⟨same,bytes,_⟩ := newClientProtocol_fresh config initial created
  have formed calls := (newClientProtocol_wellFormed config initial created).run bytes calls
  refine ⟨fun t generation reason closes => ?_,fun ping pending now generation frame => ⟨fun handles => ?_,fun other => ?_⟩⟩
  · obtain ⟨rfl,suspect,late⟩ := checkHeartbeat_closes closes
    obtain ⟨ping,pending⟩ := Option.ne_none_iff_exists'.mp ((formed calls).suspect suspect)
    obtain ⟨first,later,whole,awaited,suspected⟩ := tracked initial (by rw [same]) calls formed ping pending
    obtain ⟨between,last,rfl,found⟩ := suspected suspect
    have current : ping.generation = c.generation := ((formed calls).ping ping pending).2
    rw [current] at whole awaited
    rw [Client.run_config] at late
    exact ⟨ping,c.suspectAt,first,between,last,current,rfl,by simpa using whole,awaited,found,late,
      fun part call begins => awaited.unanswered formed begins⟩
  · exact handles.answers pending ((formed calls).ping ping pending)
  · exact (c.step_transition now (.handleIncoming generation frame)).ping_kept (formed calls) pending other

def unansweredCalls (checked : Int) : List (Int × Call) :=
  gapCalls.take 4 ++ [(0,.sendPing 1 (lit "p")),(checked,.checkHeartbeat 1)]

def pongFrame (pingID : Bytes) : Envelope :=
  {type := .pong, sessionID := lit "s", payload := PongPayload.marshal {pingID := pingID}}

theorem heartbeat_sound_unanswered :
    (Client.run {config := {}} (unansweredCalls 20000000000)).state = .suspect ∧
      (∃ t1, 30000000000 - t1 ≥ ({} : ClientConfig).disconnectGrace ∧
        (t1,Call.checkHeartbeat 1) ∈ unansweredCalls 20000000000) ∧
      ((Client.run {config := {}} (unansweredCalls 20000000000)).step 0
        (.handleIncoming 1 (pongFrame (lit "p")))).1.state = .ready := by
  have pending : (Client.run {config := {}} (unansweredCalls 20000000000)).pendingPing = some ⟨lit "p",0,1⟩ := by
    decide +kernel
  have handles : (Client.run {config := {}} (unansweredCalls 20000000000)).HandlesPong
      (.handleIncoming 1 (pongFrame (lit "p"))) (lit "p") :=
    ⟨1,_,{pingID := lit "p"},rfl,⟨by decide +kernel,by decide +kernel,by decide +kernel⟩,rfl,by decide +kernel,rfl⟩
  obtain ⟨closed,frames⟩ := heartbeat_sound {} {config := {}} (unansweredCalls 20000000000) rfl
  obtain ⟨_,t1,first,between,last,_,_,whole,_,_,late,_⟩ :=
    closed 30000000000 1 (lit "heartbeat timeout") (by decide +kernel)
  obtain ⟨ready,_⟩ := (frames _ pending 0 1 (pongFrame (lit "p"))).1 handles
  exact ⟨by decide +kernel,⟨t1,late,by rw [whole]; simp⟩,ready⟩

end Kmtproto
