import Kmtproto.ClientTransition

/-! Well-formed client states. The states that belong to a Session name one, what
a connection or a recovery attempt owns is gone outside it, and a replay buffer
continues the delivered sequence within its limits. -/
namespace Kmtproto
open Json

def Client.run (c : Client) (calls : List (Int × Call)) : Client :=
  calls.foldl (fun c call => (c.step call.1 call.2).1) c

def resultActions : Except Err (List Action) → List Action
  | .ok actions => actions
  | .error _ => []

/-- The replay collected so far continues the delivered sequence up to the boundary. -/
structure Client.ReplayOrdered (c : Client) : Prop where
  seqs : ∀ i (inside : i < c.replayBuffer.length),
    c.replayBuffer[i].seq.toNat = c.lastSeq.toNat + 1 + i ∧ c.replayBuffer[i].seq ≤ c.replayTo
  bytes : c.replayBytes = (c.replayBuffer.map replayEventBytes).sum
  size : c.replayBytes ≤ c.config.maxReplayBytes
  count : c.replayBuffer.length ≤ c.config.maxReplayEvents.toNat
  complete : c.resumeEventsComplete = true → c.lastSeq.toNat + c.replayBuffer.length = c.replayTo.toNat

def Client.RecoveryCleared (c : Client) : Prop :=
  c.replayBuffer = [] ∧ c.replayTo = 0 ∧ c.replayBytes = 0 ∧ c.resumeStateNamespaces = [] ∧
    c.resumeEventsComplete = false ∧ c.gapResume = false

def Client.SessionCleared (c : Client) : Prop :=
  c.lastSeq = 0 ∧ c.eventIDs = ∅ ∧ c.outbox = ∅ ∧ c.capabilities = .empty ∧ c.stateObjects = ∅ ∧ c.stateBytes = 0

structure Client.WellFormed (c : Client) : Prop where
  session : c.state = .ready ∨ c.state = .suspect ∨ c.state = .resuming → c.sessionID ≠ []
  handshake : c.state = .handshaking → c.sessionID = []
  fresh : c.sessionID = [] → c.SessionCleared
  ping : ∀ ping ∈ c.pendingPing, (c.state = .ready ∨ c.state = .suspect) ∧ ping.generation = c.generation
  suspect : c.state = .suspect → c.pendingPing ≠ none
  queries : c.stateQueries ≠ ∅ → c.state = .ready ∨ c.state = .suspect
  cleared : c.state ≠ .resuming → c.RecoveryCleared
  replay : c.state = .resuming → c.ReplayOrdered
  outbox : ∀ id frame, c.outbox.lookup id = some frame → frame.id = id ∧ frame.sessionID = c.sessionID

section Fields
variable (c : Client)

@[simp] theorem resetConnectionTransient_cleared : c.resetConnectionTransient.RecoveryCleared :=
  ⟨rfl,rfl,rfl,rfl,rfl,rfl⟩

theorem commitEvents_frame (events : List Envelope) :
    ∃ lastSeq eventIDs, events.foldl Client.commitEvent c = {c with lastSeq := lastSeq, eventIDs := eventIDs} := by
  induction events generalizing c with
  | nil => exact ⟨c.lastSeq,c.eventIDs,rfl⟩
  | cons event events ih =>
    obtain ⟨lastSeq,eventIDs,same⟩ := ih (c.commitEvent event)
    exact ⟨lastSeq,eventIDs,same⟩

private theorem recovery_ends {c : Client} (session : c.sessionID ≠ [])
    (outbox : ∀ id frame, c.outbox.lookup id = some frame → frame.id = id ∧ frame.sessionID = c.sessionID) :
    ({c.resetConnectionTransient with state := .ready} : Client).WellFormed where
  session := fun _ => session
  handshake := by simp
  fresh := fun empty => absurd empty session
  ping := by simp [Client.resetConnectionTransient]
  suspect := by simp
  queries := by simp [Client.resetConnectionTransient]
  cleared := fun _ => resetConnectionTransient_cleared c
  replay := by simp
  outbox := outbox

theorem applyStateObjects_frame (objects : List StateObject) (merged : Client) (actions : List Action)
    (applied : c.applyStateObjects objects = .ok (merged,actions)) :
    ∃ stateObjects stateBytes, merged = {c with stateObjects := stateObjects, stateBytes := stateBytes} := by
  unfold Client.applyStateObjects at applied
  obtain ⟨cache,_,same⟩ := bind_ok applied
  simp only [pure,Except.pure,Except.ok.injEq,Prod.mk.injEq] at same
  exact ⟨cache.objects,cache.bytes,same.1.symm⟩

end Fields

section Preservation
variable {c : Client} (formed : c.WellFormed)
include formed

/-- A state without a connection's transient data needs only what a Session retains. -/
theorem Client.WellFormed.reset (state : ConnectionState) (generation : ConnectionGeneration)
    (steady : state ≠ .resuming ∧ state ≠ .suspect ∧ state ≠ .handshaking)
    (session : state = .ready → c.sessionID ≠ []) :
    ({c.resetConnectionTransient with state := state, generation := generation} : Client).WellFormed where
  session := fun reached => session (by tauto)
  handshake := fun reached => absurd reached steady.2.2
  fresh := formed.fresh
  ping := by simp [Client.resetConnectionTransient]
  suspect := fun reached => absurd reached steady.2.1
  queries := by simp [Client.resetConnectionTransient]
  cleared := fun _ => resetConnectionTransient_cleared c
  replay := fun reached => absurd reached steady.1
  outbox := formed.outbox

theorem Client.WellFormed.drop : c.drop.WellFormed :=
  formed.reset .disconnected c.generation (by decide) (by simp)

/-- A state outside recovery whose session data changed while the connection stays. -/
theorem Client.WellFormed.steady (next : Client) (state : next.state = c.state) (generation : next.generation = c.generation)
    (session : next.sessionID = c.sessionID) (ready : c.state = .ready ∨ c.state = .suspect)
    (ping : next.pendingPing = c.pendingPing) (cleared : next.RecoveryCleared)
    (outbox : ∀ id frame, next.outbox.lookup id = some frame → frame.id = id ∧ frame.sessionID = c.sessionID) :
    next.WellFormed where
  session := fun _ => session ▸ formed.session (by tauto)
  handshake := fun reached => by rw [state] at reached; rcases ready with ready | ready <;> simp [ready] at reached
  fresh := fun empty => absurd (session ▸ empty) (formed.session (by tauto))
  ping := by
    intro pending found
    rw [ping] at found
    rw [state,generation]
    exact formed.ping pending found
  suspect := fun reached => ping ▸ formed.suspect (state ▸ reached)
  queries := fun _ => state ▸ ready
  cleared := fun _ => cleared
  replay := fun reached => by rw [state] at reached; rcases ready with ready | ready <;> simp [ready] at reached
  outbox := fun id frame found => by rw [session]; exact outbox id frame found

omit formed in
private theorem recovery_starts (formed : c.WellFormed) (session : c.sessionID ≠ []) (bytes : 0 ≤ c.config.maxReplayBytes)
    (namespaces : List Bytes) (gap : Bool) : (c.beginRecovery namespaces gap).WellFormed where
  session := fun _ => session
  handshake := by simp [Client.beginRecovery]
  fresh := fun empty => absurd empty session
  ping := by simp [Client.beginRecovery,Client.resetConnectionTransient]
  suspect := by simp [Client.beginRecovery]
  queries := by simp [Client.beginRecovery,Client.resetConnectionTransient]
  cleared := by simp [Client.beginRecovery]
  replay := fun _ => ⟨by simp [Client.beginRecovery,Client.resetConnectionTransient],rfl,bytes,Nat.zero_le _,
    by simp [Client.beginRecovery,Client.resetConnectionTransient]⟩
  outbox := formed.outbox

/-- A RESUMING client stays well formed when only its replay changes in order. -/
theorem Client.WellFormed.replaying (resuming : c.state = .resuming) (replayTo : UInt64) (replayBuffer : List Envelope)
    (replayBytes : Int) (complete gap : Bool)
    (ordered : ({c with replayTo := replayTo, replayBuffer := replayBuffer, replayBytes := replayBytes,
                        resumeEventsComplete := complete, gapResume := gap} : Client).ReplayOrdered) :
    ({c with replayTo := replayTo, replayBuffer := replayBuffer, replayBytes := replayBytes,
             resumeEventsComplete := complete, gapResume := gap} : Client).WellFormed where
  session := formed.session
  handshake := formed.handshake
  fresh := formed.fresh
  ping := formed.ping
  suspect := formed.suspect
  queries := formed.queries
  cleared := fun steady => absurd resuming steady
  replay := fun _ => ordered
  outbox := formed.outbox

end Preservation

section Replay
variable {c : Client} (ordered : c.ReplayOrdered)
include ordered

theorem Client.ReplayOrdered.room : c.lastSeq.toNat + c.replayBuffer.length < 2^64 := by
  cases length : c.replayBuffer.length with
  | zero => exact c.lastSeq.toNat_lt
  | succ n =>
    have inside : n < c.replayBuffer.length := by omega
    have last := (ordered.seqs n inside).1
    have bound := c.replayBuffer[n].seq.toNat_lt
    omega

theorem Client.Continues.seq {frame : Envelope} (continues : c.Continues frame) :
    frame.seq.toNat = c.lastSeq.toNat + c.replayBuffer.length + 1 := by
  have room := ordered.room
  have later : c.lastSeq.toNat < frame.seq.toNat := UInt64.lt_iff_toNat_lt.mp continues.later
  have next := congrArg UInt64.toNat continues.next
  have small : c.replayBuffer.length % 2^64 = c.replayBuffer.length := Nat.mod_eq_of_lt (by omega)
  simp only [UInt64.toNat_add,UInt64.toNat_ofNat',small,UInt64.toNat_one] at next
  omega

/-- A buffered EVENT keeps the replay ordered; a completed replay takes no more. -/
theorem Client.Continues.keeps {frame : Envelope} (continues : c.Continues frame) :
    (c.bufferEvent frame).ReplayOrdered ∧ c.resumeEventsComplete = false := by
  have seq := continues.seq ordered
  have inside : frame.seq.toNat ≤ c.replayTo.toNat := UInt64.le_iff_toNat_le.mp continues.inside
  have unfinished : c.resumeEventsComplete = false := by
    by_contra complete
    have level := ordered.complete (by simpa using complete)
    omega
  refine ⟨⟨?_,?_,?_,?_,?_⟩,unfinished⟩
  · intro i bound
    simp only [Client.bufferEvent,List.length_append,List.length_singleton] at bound ⊢
    by_cases old : i < c.replayBuffer.length
    · rw [List.getElem_append_left old]
      exact ordered.seqs i old
    · obtain rfl : i = c.replayBuffer.length := by omega
      rw [List.getElem_append_right (le_refl _)]
      simp only [Nat.sub_self,List.getElem_cons_zero]
      exact ⟨by omega,continues.inside⟩
  · simp [Client.bufferEvent,ordered.bytes]
  · have size := continues.size
    change c.replayBytes + replayEventBytes frame ≤ c.config.maxReplayBytes
    omega
  · have count := UInt64.le_iff_toNat_le.mp continues.count
    have room := ordered.room
    have small : c.replayBuffer.length % 2^64 = c.replayBuffer.length := Nat.mod_eq_of_lt (by omega)
    have bound := c.replayTo.toNat_lt
    simp only [UInt64.toNat_add,UInt64.toNat_ofNat',small,UInt64.toNat_one] at count
    simp only [Client.bufferEvent,List.length_append,List.length_singleton]
    omega
  · intro complete
    exact absurd complete (by simp [Client.bufferEvent,unfinished])

end Replay

theorem Transition.wellFormed {c next : Client} {now : Int} {call : Call} {result : Except Err (List Action)}
    (transition : Transition c now call next result) (formed : c.WellFormed) (bytes : 0 ≤ c.config.maxReplayBytes) :
    next.WellFormed := by
  have steadyReady (ready : c.state = .ready) : c.RecoveryCleared := formed.cleared (by simp [ready])
  cases transition with
  | refused | silent | retried => exact formed
  | connecting => exact formed.reset .connecting _ (by decide) (by simp)
  | connected starts =>
    have cleared := formed.cleared (by simp [starts])
    exact {session := by simp, handshake := by simp, fresh := formed.fresh,
           ping := fun ping found => by simpa [starts] using formed.ping ping found,
           suspect := by simp, queries := fun some => by simpa [starts] using formed.queries some,
           cleared := fun _ => cleared, replay := by simp, outbox := formed.outbox}
  | handshaking clientName frame starts fresh hello =>
    have cleared := formed.cleared (by simp [starts])
    exact {session := by simp, handshake := fun _ => fresh, fresh := formed.fresh,
           ping := fun ping found => by simpa [starts] using formed.ping ping found,
           suspect := by simp, queries := fun some => by simpa [starts] using formed.queries some,
           cleared := fun _ => cleared, replay := by simp, outbox := formed.outbox}
  | resumed _ namespaces _ session => exact recovery_starts formed session bytes namespaces false
  | disconnected => exact formed.drop
  | queried _ _ _ _ _ ready =>
    exact formed.steady _ rfl rfl rfl (Or.inl ready) rfl (steadyReady ready) formed.outbox
  | enqueued messageID content payload frame ready session fresh encoded built valid =>
    refine formed.steady _ rfl rfl rfl (Or.inl ready) rfl (steadyReady ready) (fun id entry found => ?_)
    by_cases same : id = messageID
    · subst same
      simp only [AList.lookup_insert,Option.some.injEq] at found
      rw [← found,built]
      exact ⟨rfl,rfl⟩
    · rw [AList.lookup_insert_ne same] at found
      exact formed.outbox id entry found
  | pinged pingID frame ready idle ping =>
    exact {session := formed.session, handshake := formed.handshake, fresh := formed.fresh,
           ping := fun pending found => by
             obtain rfl := Option.mem_some.mp found
             exact ⟨Or.inl ready,rfl⟩
           suspect := fun reached => by simp [ready] at reached
           queries := formed.queries, cleared := formed.cleared
           replay := fun reached => by simp [ready] at reached
           outbox := formed.outbox}
  | suspected ping ready pending =>
    exact {session := fun _ => formed.session (Or.inl ready), handshake := by simp, fresh := formed.fresh,
           ping := fun other found => ⟨Or.inr rfl,(formed.ping other found).2⟩
           suspect := fun _ => by simp [pending]
           queries := fun _ => Or.inr rfl, cleared := fun _ => steadyReady ready, replay := by simp,
           outbox := formed.outbox}
  | timedOut => exact formed.drop
  | established generation frame payload capabilities accepts welcome starts decoded mode session =>
    have cleared := formed.cleared (by simp [starts])
    have empty := formed.fresh (formed.handshake starts)
    exact {session := fun _ => session, handshake := by simp, fresh := fun none => absurd none session
           ping := fun ping found => by simpa [starts] using formed.ping ping found,
           suspect := by simp, queries := fun _ => Or.inl rfl, cleared := fun _ => cleared, replay := by simp
           outbox := fun id entry found => by simp [empty.2.2.1] at found}
  | welcomed generation frame payload accepts welcome acknowledges count unfinished =>
    refine formed.replaying acknowledges.resuming _ _ _ _ _ ⟨by simp,by simp,bytes,Nat.zero_le _,?_⟩
    intro complete
    simp only [beq_iff_eq] at complete
    simp [complete]
  | caughtUp generation frame payload accepts welcome acknowledges =>
    exact formed.reset .ready _ (by decide) (fun _ => formed.session (by simp [acknowledges.resuming]))
  | ponged generation frame payload ping accepts pong starts =>
    have cleared := formed.cleared (by rcases starts with starts | starts <;> simp [starts])
    have ready : (if c.state = .suspect then .ready else c.state) = ConnectionState.ready := by
      rcases starts with starts | starts <;> simp [starts]
    exact {session := fun _ => formed.session (by tauto), handshake := by simp [ready], fresh := formed.fresh,
           ping := by simp, suspect := by simp [ready], queries := fun _ => Or.inl ready,
           cleared := fun _ => cleared, replay := by simp [ready], outbox := formed.outbox}
  | acked generation frame payload entry accepts ack starts =>
    have cleared := formed.cleared (by rcases starts with starts | starts <;> simp [starts])
    refine formed.steady _ rfl rfl rfl starts rfl cleared (fun id other found => ?_)
    by_cases same : id = payload.refID
    · subst same
      simp at found
    · rw [AList.lookup_erase_ne same] at found
      exact formed.outbox id other found
  | delivered generation frame accepts event ready =>
    exact formed.steady _ rfl rfl rfl (Or.inl ready) rfl (steadyReady ready) formed.outbox
  | gapped generation frame accepts event ready =>
    exact recovery_starts formed (formed.session (Or.inl ready)) bytes [] true
  | buffered generation frame accepts continues =>
    exact formed.replaying continues.resuming _ _ _ _ _ (continues.keeps (formed.replay continues.resuming)).1
  | replayedForState generation frame accepts continues last =>
    have ordered := formed.replay continues.resuming
    have kept := (continues.keeps ordered).1
    refine formed.replaying continues.resuming _ _ _ _ _ ⟨kept.seqs,kept.bytes,kept.size,kept.count,fun _ => ?_⟩
    have seq := continues.seq ordered
    rw [last] at seq
    simp only [Client.bufferEvent,List.length_append,List.length_singleton]
    omega
  | replayed generation frame accepts continues =>
    obtain ⟨lastSeq,eventIDs,same⟩ := commitEvents_frame (c.bufferEvent frame) (c.bufferEvent frame).replayBuffer
    have session := formed.session (by simp [continues.resuming])
    rw [Client.completeRecovery,Client.commitReplay,same]
    exact recovery_ends session formed.outbox
  | snapshotCompleted generation frame payload merged actions accepts completes applied =>
    obtain ⟨objects,size,rfl⟩ := applyStateObjects_frame c _ _ _ applied
    obtain ⟨lastSeq,eventIDs,same⟩ := commitEvents_frame
      {c with stateObjects := objects, stateBytes := size} c.replayBuffer
    have session := formed.session (by simp [completes.resuming])
    rw [Client.completeRecovery,Client.commitReplay,same]
    exact recovery_ends session formed.outbox
  | snapshotApplied generation frame payload merged actions accepts snapshot ready applied =>
    obtain ⟨objects,size,rfl⟩ := applyStateObjects_frame c _ _ _ applied
    exact formed.steady _ rfl rfl rfl (Or.inl ready) rfl (steadyReady ready) formed.outbox
  | updated generation frame payload merged actions accepts update ready applied =>
    obtain ⟨objects,size,rfl⟩ := applyStateObjects_frame c _ _ _ applied
    exact formed.steady _ rfl rfl rfl (Or.inl ready) rfl (steadyReady ready) formed.outbox
  | stopped | invalidError | errorDropped => exact formed.drop
  | errorKept generation frame payload accepts error steady =>
    unfold Client.forgetQuery
    split
    · exact formed
    · exact {session := formed.session, handshake := formed.handshake, fresh := formed.fresh, ping := formed.ping,
             suspect := formed.suspect
             queries := fun some => formed.queries (fun none => some (by rw [none]; rfl))
             cleared := formed.cleared, replay := fun reached => absurd reached steady, outbox := formed.outbox}
  | errorAbandoned =>
    exact {session := by simp [Client.abandonSession], handshake := by simp [Client.abandonSession]
           fresh := fun _ => ⟨rfl,rfl,rfl,rfl,rfl,rfl⟩
           ping := by simp [Client.abandonSession,Client.resetConnectionTransient]
           suspect := by simp [Client.abandonSession]
           queries := by simp [Client.abandonSession,Client.resetConnectionTransient]
           cleared := fun _ => resetConnectionTransient_cleared c
           replay := by simp [Client.abandonSession]
           outbox := by simp [Client.abandonSession]}

theorem Transition.config {c next : Client} {now : Int} {call : Call} {result : Except Err (List Action)}
    (transition : Transition c now call next result) : next.config = c.config := by
  cases transition with
  | replayed generation frame =>
    obtain ⟨lastSeq,eventIDs,same⟩ := commitEvents_frame (c.bufferEvent frame) (c.bufferEvent frame).replayBuffer
    rw [Client.completeRecovery,Client.commitReplay,same]
    rfl
  | snapshotCompleted generation frame payload merged actions accepts completes applied =>
    obtain ⟨objects,size,rfl⟩ := applyStateObjects_frame c _ _ _ applied
    obtain ⟨lastSeq,eventIDs,same⟩ := commitEvents_frame
      {c with stateObjects := objects, stateBytes := size} c.replayBuffer
    rw [Client.completeRecovery,Client.commitReplay,same]
    rfl
  | snapshotApplied generation frame payload merged actions accepts snapshot ready applied =>
    obtain ⟨objects,size,rfl⟩ := applyStateObjects_frame c _ _ _ applied
    rfl
  | updated generation frame payload merged actions accepts update ready applied =>
    obtain ⟨objects,size,rfl⟩ := applyStateObjects_frame c _ _ _ applied
    rfl
  | errorKept generation frame payload =>
    unfold Client.forgetQuery
    split <;> rfl
  | _ => rfl

theorem newClientProtocol_fresh (config : ClientConfig) (initial : Client)
    (created : newClientProtocol config = .ok initial) :
    initial = {config := initial.config} ∧ 0 ≤ initial.config.maxReplayBytes ∧
      0 ≤ initial.config.maxStateObjects ∧ 0 ≤ initial.config.maxStateBytes := by
  unfold newClientProtocol at created
  obtain ⟨_,_,created⟩ := bind_ok created
  obtain ⟨_,_,created⟩ := bind_ok created
  obtain ⟨_,_,created⟩ := bind_ok created
  simp only [] at created
  split at created
  · cases created
  split at created
  · cases created
  · rename_i positive
    cases created
    simp only [not_or,Int.not_lt] at positive
    exact ⟨rfl,positive⟩

theorem newClientProtocol_wellFormed (config : ClientConfig) (initial : Client)
    (created : newClientProtocol config = .ok initial) : initial.WellFormed := by
  obtain ⟨same,_⟩ := newClientProtocol_fresh config initial created
  rw [same]
  exact {session := by simp, handshake := by simp, fresh := fun _ => ⟨rfl,rfl,rfl,rfl,rfl,rfl⟩, ping := by simp
         suspect := by simp, queries := by simp, cleared := fun _ => ⟨rfl,rfl,rfl,rfl,rfl,rfl⟩
         replay := by simp, outbox := by simp}

/-- What every transition keeps holds after any run. -/
theorem Client.run_induction (Holds : Client → Prop)
    (step : ∀ c next now call result, Holds c → Transition c now call next result → Holds next)
    (c : Client) (calls : List (Int × Call)) (start : Holds c) : Holds (c.run calls) := by
  induction calls generalizing c with
  | nil => exact start
  | cons call calls ih => exact ih _ (step c _ call.1 call.2 _ start (c.step_transition call.1 call.2))

theorem Client.WellFormed.run {c : Client} (formed : c.WellFormed) (bytes : 0 ≤ c.config.maxReplayBytes)
    (calls : List (Int × Call)) : (c.run calls).WellFormed := by
  refine (Client.run_induction (fun c => c.WellFormed ∧ 0 ≤ c.config.maxReplayBytes) ?_ c calls ⟨formed,bytes⟩).1
  intro c next now call result held transition
  exact ⟨transition.wellFormed held.1 held.2,by rw [transition.config]; exact held.2⟩

/-- Every state any sequence of calls and incoming frames reaches is well formed. -/
theorem Client.run_wellFormed (config : ClientConfig) (initial : Client) (calls : List (Int × Call))
    (created : newClientProtocol config = .ok initial) : (initial.run calls).WellFormed := by
  obtain ⟨_,bytes,_⟩ := newClientProtocol_fresh config initial created
  exact (newClientProtocol_wellFormed config initial created).run bytes calls

def gapCalls : List (Int × Call) :=
  let session := lit "s"
  let event (id : Bytes) (seq : UInt64) : Envelope :=
    {type := .event, id := id, sessionID := session, seq := seq, payload := lit "\x7b\"content\":1\x7d"}
  [(0,.beginConnect),(0,.transportConnected 1),(0,.startSession 1 (lit "app")),
   (0,.handleIncoming 1 {type := .welcome, sessionID := session, payload := WelcomePayload.marshal {mode := welcomeModeNew}}),
   (0,.handleIncoming 1 (event (lit "e3") 3)),
   (0,.handleIncoming 1 {type := .welcome, sessionID := session,
                         payload := WelcomePayload.marshal {mode := welcomeModeResumed, resumeFrom := 1, replayTo := 3}}),
   (0,.handleIncoming 1 (event (lit "e1") 1))]

theorem Client.run_wellFormed_gap :
    newClientProtocol {} = .ok {config := {}} ∧
      (Client.run {config := {}} gapCalls).state = .resuming ∧
      (Client.run {config := {}} gapCalls).replayBuffer.length = 1 ∧
      (Client.run {config := {}} gapCalls).WellFormed := by
  refine ⟨by rfl,by decide +kernel,by decide +kernel,?_⟩
  exact Client.run_wellFormed {} _ gapCalls rfl

end Kmtproto
