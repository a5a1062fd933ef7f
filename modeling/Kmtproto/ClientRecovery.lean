import Kmtproto.ClientInvariant

/-! Recovery is all or nothing. What a Session retains stays as it was on entry
while a recovery collects its replay, and the one call that ends in READY commits
the events, then the State, then reports the Session. -/
namespace Kmtproto
open Json

structure Retained where
  sessionID : Bytes
  lastSeq : UInt64
  eventIDs : AList (fun _ : UInt64 => Bytes)
  outbox : AList (fun _ : Bytes => Envelope)
  capabilities : SessionCapabilities
  stateObjects : AList (fun _ : StateIdentity => StateObject)
  stateBytes : Int

def Client.retained (c : Client) : Retained :=
  ⟨c.sessionID,c.lastSeq,c.eventIDs,c.outbox,c.capabilities,c.stateObjects,c.stateBytes⟩

def Client.results (c : Client) : List (Int × Call) → List (Except Err (List Action))
  | [] => []
  | (now,call)::calls => (c.step now call).2 :: (c.step now call).1.results calls

def Action.Commits : Action → Prop
  | .deliverEvent _ => True
  | .stateChanged _ _ => True
  | _ => False

def Quiet (result : Except Err (List Action)) : Prop :=
  ∀ actions, result = .ok actions → ∀ action ∈ actions, ¬ action.Commits

/-- The events take the sequence numbers that follow `start`. -/
def Consecutive (start : UInt64) (events : List Envelope) : Prop :=
  ∀ i (inside : i < events.length), events[i].seq.toNat = start.toNat + 1 + i

/-- The calls that start a recovery, with the namespaces they ask for and whether
a live gap is the reason. -/
inductive EntersBy (c : Client) : Call → List Bytes → Bool → Prop
  | resume : EntersBy c (.resume c.generation) [] false
  | resumeWithState (names : List Bytes) : EntersBy c (.resumeWithState c.generation names) (sortStrings names) false
  | gap (frame : Envelope) (event : frame.type = .event) (gap : c.lastSeq+1 < frame.seq) :
      EntersBy c (.handleIncoming c.generation frame) [] true

/-- A recovery under way that started from `origin`. -/
structure Client.Recovering (origin : Client) (namespaces : List Bytes) (c : Client) : Prop where
  resuming : c.state = .resuming
  kept : c.retained = origin.retained
  asked : c.resumeStateNamespaces = namespaces

/-- The State changes a completing frame hands over: those of its snapshot when
namespaces were asked for, and none otherwise. -/
inductive SnapshotChanges (c : Client) (frame : Envelope) : List Action → Prop
  | plain (unasked : c.resumeStateNamespaces = []) : SnapshotChanges c frame []
  | snapshot (payload : StateSnapshotPayload) (merged : Client) (actions : List Action)
      (completes : c.Completes frame payload) (applied : c.applyStateObjects payload.states = .ok (merged,actions)) :
      SnapshotChanges c frame actions

/-- The boundary a completing frame reaches: it is the one an earlier WELCOME
fixed, unless the frame is that WELCOME. -/
inductive Boundary (c : Client) (frame : Envelope) : UInt64 → Prop
  | fixed (later : frame.type ≠ .welcome) : Boundary c frame c.replayTo
  | welcomed (payload : WelcomePayload) (welcome : frame.type = .welcome) (acknowledges : c.Acknowledges frame payload) :
      Boundary c frame payload.replayTo

/-- A recovery from `origin` completed by one incoming frame. -/
structure Completed (origin c : Client) (frame : Envelope) (next : Client) (actions : List Action) : Prop where
  handed : ∃ replayTo events changes, Boundary c frame replayTo ∧ SnapshotChanges c frame changes ∧
    actions = events.map Action.deliverEvent ++ changes ++ [.sessionReady origin.sessionID] ∧
    Consecutive origin.lastSeq events ∧ origin.lastSeq.toNat + events.length = replayTo.toNat ∧
    (∀ action ∈ changes, ∃ object result, action = .stateChanged object result) ∧ next.lastSeq = replayTo
  session : next.sessionID = origin.sessionID
  outbox : next.outbox = origin.outbox
  capabilities : next.capabilities = origin.capabilities

def Abandoned (c : Client) (call : Call) (next : Client) : Prop :=
  ∃ generation frame payload, call = .handleIncoming generation frame ∧ frame.type = .error ∧
    decodePayload readError {} frame.payload c.config.strictValidation = .ok payload ∧
    payload.code = ErrorCode.name .invalidSession ∧ next = c.abandonSession

section Commit

theorem Consecutive.tail {start : UInt64} {event : Envelope} {events : List Envelope}
    (consecutive : Consecutive start (event::events)) : Consecutive event.seq events := by
  intro i inside
  have first := consecutive 0 (by simp)
  have following := consecutive (i+1) (by simpa using inside)
  simp only [List.getElem_cons_zero,List.getElem_cons_succ] at first following
  omega

theorem commitEvents_lastSeq (c : Client) (events : List Envelope) (consecutive : Consecutive c.lastSeq events) :
    (events.foldl Client.commitEvent c).lastSeq.toNat = c.lastSeq.toNat + events.length := by
  induction events generalizing c with
  | nil => rfl
  | cons event events ih =>
    have first := consecutive 0 (by simp)
    rw [List.foldl_cons,ih (c.commitEvent event) consecutive.tail]
    change event.seq.toNat + events.length = _
    simp only [List.getElem_cons_zero,List.length_cons] at first ⊢
    omega

theorem Client.ReplayOrdered.consecutive {c : Client} (ordered : c.ReplayOrdered) :
    Consecutive c.lastSeq c.replayBuffer := fun i inside => (ordered.seqs i inside).1

private theorem StateCache.apply_actions (config : ClientConfig) (cache next : StateCache) (object : StateObject)
    (applied : cache.apply config object = .ok next) :
    ∃ changes, next.actions = cache.actions ++ changes ∧
      ∀ action ∈ changes, ∃ object result, action = .stateChanged object result := by
  unfold StateCache.apply at applied
  simp only [] at applied
  split at applied
  · split at applied <;> cases applied
  split at applied
  · cases applied
    exact ⟨[],by simp⟩
  split at applied
  · cases applied
  · split at applied <;> split at applied <;> cases applied <;> exact ⟨_,rfl,by simp⟩

private theorem applyAll_actions (config : ClientConfig) (objects : List StateObject) (cache next : StateCache)
    (applied : objects.foldlM (StateCache.apply config) cache = .ok next) :
    ∃ changes, next.actions = cache.actions ++ changes ∧
      ∀ action ∈ changes, ∃ object result, action = .stateChanged object result := by
  induction objects generalizing cache with
  | nil =>
    cases applied
    exact ⟨[],by simp⟩
  | cons object objects ih =>
    obtain ⟨middle,first,rest⟩ := bind_ok applied
    obtain ⟨changes,same,every⟩ := StateCache.apply_actions config cache middle object first
    obtain ⟨later,final,all⟩ := ih middle rest
    refine ⟨changes++later,by rw [final,same,List.append_assoc],?_⟩
    intro action member
    exact (List.mem_append.mp member).elim (every action) (all action)

theorem applyStateObjects_actions (c merged : Client) (objects : List StateObject) (actions : List Action)
    (applied : c.applyStateObjects objects = .ok (merged,actions)) :
    ∀ action ∈ actions, ∃ object result, action = .stateChanged object result := by
  obtain ⟨cache,folded,same⟩ := bind_ok applied
  obtain ⟨changes,all,every⟩ := applyAll_actions c.config objects _ cache folded
  simp only [pure,Except.pure,Except.ok.injEq,Prod.mk.injEq] at same
  rw [← same.2,all]
  simpa using every

end Commit

section Steps
variable {c next : Client} {now : Int} {call : Call} {result : Except Err (List Action)}

/-- The call that enters RESUMING only asks for the recovery. -/
theorem Transition.enters (transition : Transition c now call next result) (outside : c.state ≠ .resuming)
    (entered : next.state = .resuming) :
    ∃ namespaces gap, EntersBy c call namespaces gap ∧ next = c.beginRecovery namespaces gap ∧ Quiet result := by
  cases transition with
  | resumed call namespaces starts session asked valid =>
    refine ⟨namespaces,false,?_,rfl,by simp [Quiet,Action.Commits]⟩
    rcases asked with ⟨rfl,rfl⟩ | ⟨names,rfl,rfl,_⟩
    · exact .resume
    · exact .resumeWithState names
  | gapped generation frame accepts event ready later gap =>
    exact ⟨[],true,accepts.current ▸ .gap frame event gap,rfl,by simp [Quiet,Action.Commits]⟩
  | refused | silent | retried | queried | enqueued | pinged | delivered => exact absurd entered outside
  | ponged generation frame payload ping accepts pong starts =>
    simp only [] at entered
    split at entered
    · cases entered
    · exact absurd entered outside
  | acked generation frame payload entry accepts ack starts => exact absurd entered outside
  | welcomed generation frame payload accepts welcome acknowledges => exact absurd acknowledges.resuming outside
  | buffered generation frame accepts continues => exact absurd continues.resuming outside
  | replayedForState generation frame accepts continues => exact absurd continues.resuming outside
  | snapshotApplied generation frame payload merged actions accepts snapshot ready applied =>
    obtain ⟨objects,size,rfl⟩ := applyStateObjects_frame c _ _ _ applied
    exact absurd entered outside
  | updated generation frame payload merged actions accepts update ready applied =>
    obtain ⟨objects,size,rfl⟩ := applyStateObjects_frame c _ _ _ applied
    exact absurd entered outside
  | errorKept generation frame payload =>
    unfold Client.forgetQuery at entered
    split at entered <;> exact absurd entered outside
  | _ => cases entered

variable {origin : Client} {namespaces : List Bytes}

/-- A call that leaves the recovery open keeps what the Session retains. -/
theorem Transition.recovering (transition : Transition c now call next result)
    (recovering : origin.Recovering namespaces c) (unfinished : next.state = .resuming) :
    origin.Recovering namespaces next ∧ Quiet result := by
  have resuming := recovering.resuming
  cases transition with
  | refused | silent => exact ⟨recovering,by simp [Quiet]⟩
  | welcomed | buffered | replayedForState =>
    exact ⟨⟨resuming,recovering.kept,recovering.asked⟩,by simp [Quiet]⟩
  | retried ready | queried _ _ _ _ _ ready | enqueued _ _ _ _ ready | pinged _ _ ready | delivered _ _ _ _ ready
  | gapped _ _ _ _ ready | snapshotApplied _ _ _ _ _ _ _ ready | updated _ _ _ _ _ _ _ ready =>
    simp [resuming] at ready
  | ponged _ _ _ _ _ _ starts | acked _ _ _ _ _ _ starts => simp [resuming] at starts
  | errorKept _ _ _ _ _ steady => exact absurd resuming steady
  | resumed _ _ starts => simp [resuming] at starts
  | _ => cases unfinished

private theorem completeRecovery_fields (c : Client) (consecutive : Consecutive c.lastSeq c.replayBuffer)
    (replayTo : UInt64) (reached : c.lastSeq.toNat + c.replayBuffer.length = replayTo.toNat) :
    c.completeRecovery.lastSeq = replayTo ∧ c.completeRecovery.sessionID = c.sessionID ∧
      c.completeRecovery.outbox = c.outbox ∧ c.completeRecovery.capabilities = c.capabilities := by
  obtain ⟨lastSeq,eventIDs,same⟩ := commitEvents_frame c c.replayBuffer
  have last := commitEvents_lastSeq c c.replayBuffer consecutive
  refine ⟨UInt64.toNat_inj.mp (last.trans reached),?_⟩
  rw [Client.completeRecovery,Client.commitReplay,same]
  exact ⟨rfl,rfl,rfl⟩

private theorem retained_fields (kept : c.retained = origin.retained) :
    c.sessionID = origin.sessionID ∧ c.lastSeq = origin.lastSeq ∧ c.outbox = origin.outbox ∧
      c.capabilities = origin.capabilities := by
  simp only [Client.retained,Retained.mk.injEq] at kept
  tauto

/-- A call that ends the recovery in READY hands everything over at once. -/
theorem Transition.completes (transition : Transition c now call next result) (formed : c.WellFormed)
    (recovering : origin.Recovering namespaces c) (ready : next.state = .ready) :
    ∃ generation frame actions, call = .handleIncoming generation frame ∧ result = .ok actions ∧
      Completed origin c frame next actions := by
  have resuming := recovering.resuming
  have ordered := formed.replay resuming
  obtain ⟨session,lastSeq,outbox,capabilities⟩ := retained_fields recovering.kept
  cases transition with
  | caughtUp generation frame payload accepts welcome acknowledges level plain =>
    refine ⟨generation,frame,_,rfl,rfl,⟨payload.replayTo,[],[],.welcomed payload welcome acknowledges,.plain plain,?_⟩,
      session,outbox,capabilities⟩
    simp [session,Consecutive,level,lastSeq,Client.resetConnectionTransient]
  | replayed generation frame accepts continues last plain =>
    have kept := (continues.keeps ordered).1
    have seq := continues.seq ordered
    have reached : c.lastSeq.toNat + (c.replayBuffer++[frame]).length = c.replayTo.toNat := by
      rw [last] at seq
      simp only [List.length_append,List.length_singleton]
      omega
    obtain ⟨boundary,same⟩ := completeRecovery_fields (c.bufferEvent frame) kept.consecutive c.replayTo reached
    have later : frame.type ≠ .welcome := by simp [continues.event]
    refine ⟨generation,frame,_,rfl,rfl,⟨c.replayTo,c.replayBuffer++[frame],[],.fixed later,.plain plain,?_⟩,
      same.1.trans session,same.2.1.trans outbox,same.2.2.trans capabilities⟩
    exact ⟨by simp [session],lastSeq ▸ kept.consecutive,lastSeq ▸ reached,by simp,boundary⟩
  | snapshotCompleted generation frame payload merged actions accepts completes applied =>
    have changes := applyStateObjects_actions c merged payload.states actions applied
    have snapshot := SnapshotChanges.snapshot payload merged actions completes applied
    have reached := ordered.complete completes.replayed
    obtain ⟨objects,size,rfl⟩ := applyStateObjects_frame c _ _ _ applied
    obtain ⟨boundary,same⟩ := completeRecovery_fields {c with stateObjects := objects, stateBytes := size}
      ordered.consecutive c.replayTo reached
    have later : frame.type ≠ .welcome := by simp [completes.snapshot]
    refine ⟨generation,frame,_,rfl,rfl,⟨c.replayTo,c.replayBuffer,actions,.fixed later,snapshot,?_⟩,
      same.1.trans session,same.2.1.trans outbox,same.2.2.trans capabilities⟩
    exact ⟨by rw [session],lastSeq ▸ ordered.consecutive,lastSeq ▸ reached,changes,boundary⟩
  | established _ _ _ _ _ _ starts => simp [resuming] at starts
  | refused | silent | retried | queried | enqueued | pinged | delivered | acked | welcomed | buffered | replayedForState =>
    simp [resuming,Client.commitEvent,Client.rememberEvent,Client.fixReplay,Client.bufferEvent] at ready
  | snapshotApplied _ _ _ _ _ _ _ starts | updated _ _ _ _ _ _ _ starts => simp [resuming] at starts
  | ponged _ _ _ _ _ _ starts => simp [resuming] at starts
  | errorKept _ _ _ _ _ steady => exact absurd resuming steady
  | _ => cases ready

private theorem errorTail_quiet {payload : ErrorPayload} {tail : List Action} (reported : ErrorTail c payload tail) :
    Quiet (.ok (.protocolError payload::tail)) := by
  cases reported <;> simp [Quiet,Action.Commits]

/-- A recovery that ends any other way leaves what the Session retains. -/
theorem Transition.gives_up (transition : Transition c now call next result)
    (recovering : origin.Recovering namespaces c) (left : next.state ≠ .resuming) (failed : next.state ≠ .ready) :
    (next.retained = origin.retained ∨ Abandoned c call next) ∧ Quiet result := by
  have resuming := recovering.resuming
  have kept := recovering.kept
  cases transition with
  | errorAbandoned generation frame payload tail accepts error decoded code reported =>
    exact ⟨Or.inr ⟨generation,frame,payload,rfl,error,decoded,code,rfl⟩,errorTail_quiet reported⟩
  | errorDropped generation frame payload tail accepts error reported => exact ⟨Or.inl kept,errorTail_quiet reported⟩
  | established | caughtUp | replayed | snapshotCompleted => exact absurd rfl failed
  | delivered _ _ _ _ ready | queried _ _ _ _ _ ready | enqueued _ _ _ _ ready | pinged _ _ ready | retried ready
  | snapshotApplied _ _ _ _ _ _ _ ready | updated _ _ _ _ _ _ _ ready => simp [resuming] at ready
  | ponged _ _ _ _ _ _ starts | acked _ _ _ _ _ _ starts => simp [resuming] at starts
  | errorKept _ _ _ _ _ steady => exact absurd resuming steady
  | _ => exact ⟨Or.inl kept,by simp [Quiet,Action.Commits,stopActions]⟩

end Steps

theorem Client.run_cons (c : Client) (call : Int × Call) (calls : List (Int × Call)) :
    c.run (call::calls) = (c.step call.1 call.2).1.run calls := rfl

theorem Client.run_append (c : Client) (first second : List (Int × Call)) :
    c.run (first++second) = (c.run first).run second := List.foldl_append

theorem Client.Recovering.run {origin c : Client} {namespaces : List Bytes}
    (recovering : origin.Recovering namespaces c) (during : List (Int × Call))
    (staying : ∀ calls, calls <+: during → (c.run calls).state = .resuming) :
    (∀ calls, calls <+: during → origin.Recovering namespaces (c.run calls)) ∧
      ∀ result ∈ c.results during, Quiet result := by
  induction during generalizing c with
  | nil =>
    refine ⟨fun calls first => ?_,by simp [Client.results]⟩
    rw [List.prefix_nil.mp first]
    exact recovering
  | cons call during ih =>
    have first : (c.step call.1 call.2).1.state = .resuming := staying [call] (by simp)
    obtain ⟨following,quiet⟩ := (c.step_transition call.1 call.2).recovering recovering first
    obtain ⟨states,results⟩ := ih following
      (fun calls front => staying (call::calls) ((List.prefix_cons_inj call).mpr front))
    constructor
    · intro calls front
      cases calls with
      | nil => exact recovering
      | cons head calls =>
        obtain ⟨rfl,rest⟩ := List.cons_prefix_cons.mp front
        exact states calls rest
    · intro result member
      rcases List.mem_cons.mp member with rfl | later
      · exact quiet
      · exact results result later

/-- A recovery attempt, from the call that enters RESUMING to the call that leaves it. -/
theorem Client.recovery_all_or_nothing (config : ClientConfig) (initial : Client)
    (before : List (Int × Call)) (enter : Int × Call) (during : List (Int × Call))
    (created : newClientProtocol config = .ok initial) (outside : (initial.run before).state ≠ .resuming)
    (staying : ∀ calls, calls <+: during → (initial.run (before++enter::calls)).state = .resuming) :
    ∃ namespaces gap, EntersBy (initial.run before) enter.2 namespaces gap ∧
      (∀ calls, calls <+: during →
        (initial.run before).Recovering namespaces (initial.run (before++enter::calls))) ∧
      (∀ result ∈ (initial.run before).results (enter::during), Quiet result) ∧
      ∀ now call next result, (initial.run (before++enter::during)).step now call = (next,result) →
        (next.state = .ready → ∃ generation frame actions, call = .handleIncoming generation frame ∧
          result = .ok actions ∧
          Completed (initial.run before) (initial.run (before++enter::during)) frame next actions) ∧
        (next.state ≠ .resuming → next.state ≠ .ready → Quiet result ∧
          (next.retained = (initial.run before).retained ∨
            Abandoned (initial.run (before++enter::during)) call next)) := by
  have entry := (initial.run before).step_transition enter.1 enter.2
  simp only [Client.run_append,Client.run_cons] at staying ⊢
  obtain ⟨namespaces,gap,entered,opened,quiet⟩ := entry.enters outside (staying [] (List.nil_prefix))
  have recovering : (initial.run before).Recovering namespaces ((initial.run before).step enter.1 enter.2).1 := by
    rw [opened]
    exact ⟨rfl,rfl,rfl⟩
  obtain ⟨states,results⟩ := recovering.run during staying
  refine ⟨namespaces,gap,entered,states,?_,?_⟩
  · intro result member
    rcases List.mem_cons.mp member with rfl | later
    · exact quiet
    · exact results result later
  intro now call next result stepped
  have bytes := (newClientProtocol_fresh config initial created).2.1
  have formed := (newClientProtocol_wellFormed config initial created).run bytes (before++enter::during)
  rw [Client.run_append,Client.run_cons] at formed
  have last := Client.step_transition
    (((initial.run before).step enter.1 enter.2).1.run during) now call
  rw [stepped] at last
  have standing := states during (List.prefix_refl during)
  refine ⟨last.completes formed standing,fun left failed => ?_⟩
  exact (last.gives_up standing left failed).symm

theorem Client.recovery_all_or_nothing_gap :
    (Client.run {config := {}} (gapCalls.take 4)).state = .ready ∧
      (Client.run {config := {}} gapCalls).state = .resuming ∧
      (Client.run {config := {}} gapCalls).retained = (Client.run {config := {}} (gapCalls.take 4)).retained := by
  refine ⟨by decide +kernel,by decide +kernel,?_⟩
  -- the fifth call exposes the gap; the WELCOME and one replayed EVENT follow
  have staying : ∀ calls ∈ (gapCalls.drop 5).inits,
      (Client.run {config := {}} (gapCalls.take 4++gapCalls[4]::calls)).state = .resuming := by decide +kernel
  obtain ⟨_,_,_,states,_⟩ := Client.recovery_all_or_nothing {} {config := {}} (gapCalls.take 4) gapCalls[4]
    (gapCalls.drop 5) rfl (by decide +kernel) (fun calls front => staying calls (List.mem_inits _ _ |>.mpr front))
  exact (states (gapCalls.drop 5) (List.prefix_refl _)).kept

end Kmtproto
