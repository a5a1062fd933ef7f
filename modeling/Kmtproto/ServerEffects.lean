import Kmtproto.ServerWorld

/-! What one request changes of the shared world, one lemma for each part of it. Every
invariant of the server is proved from these, without going back to the requests. -/
namespace Kmtproto
open Json Interaction

/-- The requests that may change what calls share beyond flights and lanes. -/
def Op.writes : Op → Bool
  | .create _ | .claim _ _ _ _ | .complete _ _ _ _ | .append _ _ _ _ _ | .pruneBefore _ _ | .enqueueBatch _ _
  | .closeQueue _ | .replaceConnection | .admitFrame _ _ _ | .applyResult _ _ _ => true
  | _ => false

section Perform
variable {world next : World} {op : Op} {offered answer : Answer op}

private theorem acquireFlight_frame (world : World) (key : Bytes) (fingerprint : SendFingerprint) :
    ∃ flights table, (world.acquireFlight key fingerprint).2 =
      {world with flights := flights, flightTable := table} := by
  unfold World.acquireFlight
  split
  · split <;> exact ⟨_,_,rfl⟩
  · exact ⟨_,_,rfl⟩

private theorem beginSendCallback_frame (world : World) (key : Bytes) (flight : Nat) :
    ∃ table, (world.beginSendCallback key flight).2 = {world with flightTable := table} := by
  unfold World.beginSendCallback
  split
  · split <;> exact ⟨_,rfl⟩
  · exact ⟨_,rfl⟩

private theorem finishFlight_frame (world : World) (key : Bytes) (flight : Nat) :
    ∃ flights table, world.finishFlight key flight = {world with flights := flights, flightTable := table} := by
  unfold World.finishFlight
  split <;> exact ⟨_,_,rfl⟩

private theorem joinLane_frame (world : World) (sessionID : Bytes) :
    ∃ lanes, (world.joinLane sessionID).2 = {world with lanes := lanes} := by
  unfold World.joinLane
  simp only []
  split <;> exact ⟨_,rfl⟩

private theorem beginLaneCallback_frame (world : World) (sessionID : Bytes) :
    ∃ lanes, (world.beginLaneCallback sessionID).2 = {world with lanes := lanes} := by
  unfold World.beginLaneCallback
  simp only []
  split <;> exact ⟨_,rfl⟩

theorem World.perform_reads (performed : world.perform op offered = some (answer,next)) (reads : op.writes = false) :
    ∃ flights table lanes, next = {world with flights := flights, flightTable := table, lanes := lanes} := by
  cases op with
  | create | claim | complete | append | pruneBefore | enqueueBatch | closeQueue | replaceConnection | admitFrame
  | applyResult => cases reads
  | lookup sessionID now =>
    simp only [World.perform] at performed
    split at performed <;> (cases performed; exact ⟨_,_,_,rfl⟩)
  | acquireFlight key fingerprint =>
    obtain ⟨flights,table,same⟩ := acquireFlight_frame world key fingerprint
    have moved := congrArg Prod.snd (Option.some.inj performed)
    exact ⟨flights,table,_,moved.symm.trans same⟩
  | beginSendCallback key flight =>
    obtain ⟨table,same⟩ := beginSendCallback_frame world key flight
    have moved := congrArg Prod.snd (Option.some.inj performed)
    exact ⟨_,table,_,moved.symm.trans same⟩
  | finishFlight key flight =>
    obtain ⟨flights,table,same⟩ := finishFlight_frame world key flight
    have moved := congrArg Prod.snd (Option.some.inj performed)
    exact ⟨flights,table,_,moved.symm.trans same⟩
  | joinLane sessionID =>
    obtain ⟨lanes,same⟩ := joinLane_frame world sessionID
    have moved := congrArg Prod.snd (Option.some.inj performed)
    exact ⟨_,_,lanes,moved.symm.trans same⟩
  | beginLaneCallback sessionID =>
    obtain ⟨lanes,same⟩ := beginLaneCallback_frame world sessionID
    have moved := congrArg Prod.snd (Option.some.inj performed)
    exact ⟨_,_,lanes,moved.symm.trans same⟩
  | awaitFlight flight =>
    simp only [World.perform] at performed
    split at performed
    · cases performed; exact ⟨_,_,_,rfl⟩
    · cases performed
  | awaitLane sessionID ticket =>
    simp only [World.perform] at performed
    split at performed
    · cases performed; exact ⟨_,_,_,rfl⟩
    · cases performed
  | _ => cases performed; exact ⟨_,_,_,rfl⟩

end Perform

section Machine
variable {config : ServerConfig} {reference : Op → Bool} {world next : World} {op : Op} {offered answer : Answer op}

/-- An answer is either one the world gives or one from outside that changes nothing. -/
theorem serverMachine_perform (performed : (serverMachine config reference).perform op offered world = some (answer,next)) :
    (op.external = true ∧ reference op = false ∧ next = world) ∨ world.perform op offered = some (answer,next) := by
  simp only [serverMachine] at performed
  split at performed
  · rename_i outside
    simp only [Bool.and_eq_true,Bool.not_eq_true'] at outside
    cases performed
    exact .inl ⟨outside.1,outside.2,rfl⟩
  · exact .inr performed

/-- A part of the world that only some requests write stays as it is under the others. -/
theorem perform_part {Part : Type} (part : World → Part)
    (frame : ∀ (world : World) flights table lanes,
      part {world with flights := flights, flightTable := table, lanes := lanes} = part world)
    (performed : (serverMachine config reference).perform op offered world = some (answer,next))
    (writes : op.writes = true → world.perform op offered = some (answer,next) → part next = part world) :
    part next = part world := by
  rcases serverMachine_perform performed with ⟨_,_,rfl⟩ | performed
  · rfl
  · cases kind : op.writes with
    | true => exact writes kind performed
    | false =>
      obtain ⟨flights,table,lanes,rfl⟩ := World.perform_reads performed kind
      exact frame world flights table lanes

end Machine

section Queues
variable {config : ServerConfig} {reference : Op → Bool} {world next : World} {op : Op} {offered answer : Answer op}

/-- Everything ever enqueued on a queue. -/
def World.log (world : World) (outbound : Nat) : List Envelope :=
  ((world.queues[outbound]?).map OutboundQueue.log).getD []

def appended (outbound : Nat) : (op : Op) → Answer op → List Envelope
  | .enqueueBatch target frames, .ok () => if target = outbound then frames else []
  | _, _ => []

theorem mem_appended {target outbound : Nat} {frames : List Envelope} {answer : Answer (.enqueueBatch target frames)}
    {frame : Envelope} (member : frame ∈ appended outbound (.enqueueBatch target frames) answer) : frame ∈ frames := by
  cases answer with
  | error error => cases member
  | ok done =>
    simp only [appended] at member
    split at member
    · exact member
    · cases member

def enqueued (trace : List (Nat × Event Op Answer)) (outbound : Nat) : List Envelope :=
  trace.flatMap (fun entry => appended outbound entry.2.1 entry.2.2)

private theorem closed_log (queues : List OutboundQueue) (target outbound : Nat) :
    (((queues.modify target (fun queue => {queue with closed := true}))[outbound]?).map OutboundQueue.log).getD [] =
      ((queues[outbound]?).map OutboundQueue.log).getD [] := by
  rw [List.getElem?_modify]
  cases queues[outbound]? with
  | none => rfl
  | some queue => by_cases same : target = outbound <;> simp [same]

private theorem opened_log (queues : List OutboundQueue) (outbound : Nat) :
    (((queues++[({} : OutboundQueue)])[outbound]?).map OutboundQueue.log).getD [] =
      ((queues[outbound]?).map OutboundQueue.log).getD [] := by
  rcases lt_trichotomy outbound queues.length with below | rfl | above
  · rw [List.getElem?_append_left below]
  · simp
  · rw [List.getElem?_eq_none (by simp; omega),List.getElem?_eq_none (by omega)]

def World.queuesAfter (world : World) : (op : Op) → Answer op → List OutboundQueue
  | .enqueueBatch target frames, .ok () =>
    world.queues.modify target (fun queue => {queue with log := queue.log++frames})
  | .closeQueue target, _ => world.queues.modify target (fun queue => {queue with closed := true})
  | .replaceConnection, _ => world.replaceConnection.2.queues
  | _, _ => world.queues

/-- What enqueueing does: a queue that is not closed takes the whole batch. -/
theorem perform_enqueue {target : Nat} {frames : List Envelope} {offered answer : Answer (.enqueueBatch target frames)}
    (performed : (serverMachine config reference).perform (.enqueueBatch target frames) offered world =
      some (answer,next)) :
    (∃ error, answer = .error error ∧ next = world) ∨
    ∃ queue, answer = .ok () ∧ world.queues[target]? = some queue ∧ queue.closed = false ∧
      next = {world with queues := world.queues.set target {queue with log := queue.log++frames}} := by
  rcases serverMachine_perform performed with ⟨external,_⟩ | performed
  · cases external
  simp only [World.perform] at performed
  split at performed
  · cases performed
  rename_i queue found
  unfold OutboundQueue.enqueueBatch at performed
  split at performed
  · cases performed
    exact .inl ⟨_,rfl,rfl⟩
  · rename_i accepted
    split at accepted <;> cases accepted
    rename_i unclosed
    cases performed
    exact .inr ⟨queue,rfl,found,by simpa using unclosed,rfl⟩

theorem perform_queues (performed : (serverMachine config reference).perform op offered world = some (answer,next)) :
    next.queues = world.queuesAfter op answer := by
  cases op with
  | enqueueBatch target frames =>
    rcases perform_enqueue performed with ⟨error,rfl,rfl⟩ | ⟨queue,rfl,found,_,rfl⟩
    · rfl
    · apply List.ext_getElem?
      intro place
      have bound := (List.getElem?_eq_some_iff.mp found).1
      simp only [World.queuesAfter,List.getElem?_modify]
      by_cases same : target = place
      · subst same
        rw [List.getElem?_set_self bound,found]
        simp
      · rw [List.getElem?_set_ne same]
        simp [same]
  | closeQueue | replaceConnection =>
    rcases serverMachine_perform performed with ⟨external,_⟩ | performed
    · cases external
    cases performed
    rfl
  | create state | claim sessionID msgID fingerprint now | complete sessionID msgID ack now
  | append sessionID eventID eventType content timestamp =>
    refine perform_part World.queues (fun _ _ _ _ => rfl) performed (fun _ performed => ?_)
    simp only [World.perform] at performed
    repeat' split at performed
    all_goals cases performed; rfl
  | _ =>
    refine perform_part World.queues (fun _ _ _ _ => rfl) performed (fun writes performed => ?_)
    first
      | cases writes; done
      | cases performed; rfl

theorem perform_log (performed : (serverMachine config reference).perform op offered world = some (answer,next))
    (outbound : Nat) : next.log outbound = world.log outbound ++ appended outbound op answer := by
  have queues := perform_queues performed
  unfold World.log
  rw [queues]
  cases op with
  | enqueueBatch target frames =>
    rcases perform_enqueue performed with ⟨error,rfl,rfl⟩ | ⟨queue,rfl,found,_,_⟩
    · exact (List.append_nil _).symm
    · simp only [World.queuesAfter,appended,List.getElem?_modify]
      by_cases same : target = outbound
      · subst same
        simp [found]
      · simp [same]
  | closeQueue target =>
    refine Eq.trans ?_ (List.append_nil _).symm
    exact closed_log world.queues target outbound
  | replaceConnection =>
    refine Eq.trans ?_ (List.append_nil _).symm
    simp only [World.queuesAfter,World.replaceConnection]
    rw [opened_log]
    split
    · exact closed_log world.queues _ outbound
    · rfl
  | _ => exact (List.append_nil _).symm

end Queues

section Gate
variable {config : ServerConfig} {reference : Op → Bool} {world next : World} {op : Op} {offered answer : Answer op}

def World.gateAfter (world : World) : Op → ServerAdmission
  | .replaceConnection => world.replaceConnection.2.gate
  | .admitFrame generation frame valid => (world.gate.admitFrame generation frame valid).2
  | .applyResult generation outbound result => world.gate.applyResult generation outbound result
  | _ => world.gate

theorem perform_gate (performed : (serverMachine config reference).perform op offered world = some (answer,next)) :
    next.gate = world.gateAfter op := by
  cases op with
  | replaceConnection | admitFrame | applyResult =>
    rcases serverMachine_perform performed with ⟨external,_⟩ | performed
    · cases external
    cases performed
    rfl
  | create state | claim sessionID msgID fingerprint now | complete sessionID msgID ack now
  | append sessionID eventID eventType content timestamp | enqueueBatch outbound frames =>
    refine perform_part World.gate (fun _ _ _ _ => rfl) performed (fun _ performed => ?_)
    simp only [World.perform] at performed
    repeat' split at performed
    all_goals cases performed; try rfl
  | _ =>
    refine perform_part World.gate (fun _ _ _ _ => rfl) performed (fun writes performed => ?_)
    first
      | cases writes; done
      | cases performed; rfl

theorem perform_admitFrame {generation : ConnectionGeneration} {frame : Envelope} {valid : Bool}
    {offered answer : Answer (.admitFrame generation frame valid)}
    (performed : (serverMachine config reference).perform (.admitFrame generation frame valid) offered world =
      some (answer,next)) : answer = (world.gate.admitFrame generation frame valid).1 := by
  cases performed
  rfl

inductive Admits (gate : ServerAdmission) (generation : ConnectionGeneration) (frame : Envelope) (valid : Bool) :
    Admission → ServerAdmission → Prop
  | stale : Admits gate generation frame valid .stale gate
  | invalidState (closed : gate.state = .closed) : Admits gate generation frame valid .invalidState gate
  | unvalidated (outbound : Nat) (current : gate.outbound = some outbound) (same : generation = gate.generation)
      (invalid : valid = false) : Admits gate generation frame valid (.unvalidated outbound) gate
  | rejected (outbound : Nat) (current : gate.outbound = some outbound) (same : generation = gate.generation) :
      Admits gate generation frame valid (.rejected outbound)
        {gate with state := .closed, capabilities := .empty, handshake := false}
  | admitted (outbound : Nat) (current : gate.outbound = some outbound) (same : generation = gate.generation)
      (live : gate.state ≠ .closed) (allowed : allowedFrame gate.state frame.type = true)
      (session : gate.state = .ready → frame.sessionID = gate.sessionID)
      (alone : gate.state = .awaitingHandshake → gate.handshake = false) :
      Admits gate generation frame valid (.admitted outbound gate.state) {gate with
        handshake := gate.handshake || (gate.state == .awaitingHandshake && frame.type != .error)
        state := if gate.state = .ready ∧ frame.type = .resume then .resuming else gate.state}

theorem admitFrame_cases (gate : ServerAdmission) (generation : ConnectionGeneration) (frame : Envelope) (valid : Bool) :
    Admits gate generation frame valid (gate.admitFrame generation frame valid).1 (gate.admitFrame generation frame valid).2 := by
  unfold ServerAdmission.admitFrame
  split
  · exact .stale
  rename_i outbound current
  split
  · exact .stale
  rename_i same
  split
  · exact .invalidState (by assumption)
  rename_i live
  split
  · rename_i invalid
    exact .unvalidated outbound current (not_not.mp same) (by simpa using invalid)
  split
  · exact .rejected outbound current (not_not.mp same)
  rename_i passes
  simp only [Bool.or_eq_true,not_or,Bool.not_eq_true,Bool.not_eq_false',Bool.and_eq_false_iff,bne_eq_false_iff_eq,
    beq_eq_false_iff_ne] at passes
  obtain ⟨⟨allowed,session⟩,alone⟩ := passes
  exact .admitted outbound current (not_not.mp same) live allowed (fun ready => session.resolve_left (not_not.mpr ready))
    (fun waiting => alone.resolve_left (not_not.mpr waiting))

inductive Applies (gate : ServerAdmission) (generation : ConnectionGeneration) (outbound : Nat) (result : HandleResult) :
    ServerAdmission → Prop
  | stale (other : generation ≠ gate.generation ∨ some outbound ≠ gate.outbound) :
      Applies gate generation outbound result gate
  | closed (state : gate.state = .closed) : Applies gate generation outbound result {gate with handshake := false}
  | close (current : gate.outbound = some outbound) (same : generation = gate.generation) (asked : result.close = true) :
      Applies gate generation outbound result {gate with handshake := false, state := .closed, capabilities := .empty}
  | abandon (current : gate.outbound = some outbound) (same : generation = gate.generation)
      (asked : result.abandonSession = true) :
      Applies gate generation outbound result
        {gate with handshake := false, state := .awaitingHandshake, sessionID := [], capabilities := .empty}
  | ready (current : gate.outbound = some outbound) (same : generation = gate.generation) (live : gate.state ≠ .closed)
      (named : result.readySessionID ≠ []) :
      Applies gate generation outbound result
        {gate with handshake := false, state := .ready, sessionID := result.readySessionID,
                   capabilities := result.capabilities}
  | lost (current : gate.outbound = some outbound) (same : generation = gate.generation)
      (resuming : gate.state = .resuming) (unnamed : result.readySessionID = []) :
      Applies gate generation outbound result {gate with handshake := false, state := .closed, capabilities := .empty}
  | kept (live : gate.state ≠ .closed) (settled : gate.state ≠ .resuming) :
      Applies gate generation outbound result {gate with handshake := false}

theorem applyResult_cases (gate : ServerAdmission) (generation : ConnectionGeneration) (outbound : Nat)
    (result : HandleResult) :
    Applies gate generation outbound result (gate.applyResult generation outbound result) := by
  unfold ServerAdmission.applyResult
  split
  · exact .stale (by assumption)
  rename_i current
  simp only [ne_eq,not_or,not_not] at current
  split
  · exact .closed (by assumption)
  rename_i live
  split
  · exact .close current.2.symm current.1 (by assumption)
  split
  · exact .abandon current.2.symm current.1 (by assumption)
  split
  · exact .ready current.2.symm current.1 live (by assumption)
  rename_i unnamed
  split
  · exact .lost current.2.symm current.1 (by assumption) (not_not.mp unnamed)
  · exact .kept live (by assumption)

end Gate

section Sessions
variable {config : ServerConfig} {reference : Op → Bool} {world next : World} {op : Op} {offered answer : Answer op}

/-- A stored session is never replaced. -/
theorem perform_sessions (performed : (serverMachine config reference).perform op offered world = some (answer,next))
    {sessionID : Bytes} {state : SessionState} (found : world.sessions.lookup sessionID = some state) :
    next.sessions.lookup sessionID = some state := by
  cases op with
  | create created =>
    rcases serverMachine_perform performed with ⟨_,_,rfl⟩ | performed
    · exact found
    simp only [World.perform,MemorySessionRepository.create] at performed
    split at performed
    · cases performed; exact found
    · rename_i sessions accepted
      cases performed
      split at accepted
      · cases accepted
      split at accepted
      · cases accepted
      rename_i fresh
      cases accepted
      have other : sessionID ≠ created.sessionID := by
        rintro rfl
        simp [found] at fresh
      rw [AList.lookup_insert_ne other]
      exact found
  | claim sessionID msgID fingerprint now | complete sessionID msgID ack now
  | append sessionID eventID eventType content timestamp | enqueueBatch outbound frames =>
    rw [perform_part World.sessions (fun _ _ _ _ => rfl) performed (fun _ performed => ?_)]
    · exact found
    simp only [World.perform] at performed
    repeat' split at performed
    all_goals cases performed; try rfl
  | _ =>
    rw [perform_part World.sessions (fun _ _ _ _ => rfl) performed (fun writes performed => ?_)]
    · exact found
    first
      | cases writes; done
      | cases performed; rfl

theorem perform_create {state : SessionState} {offered : Answer (.create state)}
    (performed : (serverMachine config reference).perform (.create state) offered world = some (.ok (),next))
    (stored : reference (.create state) = true) : next.sessions.lookup state.sessionID = some state := by
  rcases serverMachine_perform performed with ⟨_,other,_⟩ | performed
  · simp [stored] at other
  simp only [World.perform,MemorySessionRepository.create] at performed
  split at performed
  · cases performed
  · rename_i sessions accepted
    cases performed
    split at accepted
    · cases accepted
    split at accepted
    · cases accepted
    cases accepted
    exact AList.lookup_insert _

theorem perform_lookup {sessionID : Bytes} {now : Int} {state : SessionState} {offered : Answer (.lookup sessionID now)}
    (performed : (serverMachine config reference).perform (.lookup sessionID now) offered world =
      some (.ok (some state),next)) (stored : reference (.lookup sessionID now) = true) :
    next.sessions.lookup sessionID = some state ∧ now < state.expiresAt := by
  rcases serverMachine_perform performed with ⟨_,other,_⟩ | performed
  · simp [stored] at other
  simp only [World.perform] at performed
  split at performed
  · cases performed
  · simp only [Option.some.injEq,Prod.mk.injEq,Except.ok.injEq] at performed
    obtain ⟨found,rfl⟩ := performed
    simpa [MemorySessionRepository.live,Option.filter_eq_some_iff] using found

end Sessions

section Dedup
variable {config : ServerConfig} {reference : Op → Bool} {world next : World} {op : Op} {offered answer : Answer op}

def Op.dedup : Op → Bool
  | .claim _ _ _ _ | .complete _ _ _ _ => true
  | _ => false

theorem perform_dedup (performed : (serverMachine config reference).perform op offered world = some (answer,next))
    (other : op.dedup = false) : next.dedup = world.dedup := by
  cases op with
  | claim | complete => cases other
  | create state | append sessionID eventID eventType content timestamp | enqueueBatch outbound frames =>
    refine perform_part World.dedup (fun _ _ _ _ => rfl) performed (fun _ performed => ?_)
    simp only [World.perform] at performed
    repeat' split at performed
    all_goals cases performed; try rfl
  | _ =>
    refine perform_part World.dedup (fun _ _ _ _ => rfl) performed (fun writes performed => ?_)
    first
      | cases writes; done
      | cases performed; rfl

variable {sessionID msgID : Bytes}

theorem perform_claim {fingerprint : SendFingerprint} {now : Int}
    {offered answer : Answer (.claim sessionID msgID fingerprint now)}
    (performed : (serverMachine config reference).perform (.claim sessionID msgID fingerprint now) offered world =
      some (answer,next)) (stored : reference (.claim sessionID msgID fingerprint now) = true) :
    (∃ error, answer = .error error ∧ next.dedup = world.dedup) ∨
    (answer = .ok (world.dedup.claim sessionID msgID fingerprint now).1 ∧
      next.dedup = (world.dedup.claim sessionID msgID fingerprint now).2) := by
  rcases serverMachine_perform performed with ⟨_,other,_⟩ | performed
  · simp [stored] at other
  simp only [World.perform] at performed
  split at performed
  · cases performed; exact .inl ⟨_,rfl,rfl⟩
  · cases performed; exact .inr ⟨rfl,rfl⟩

theorem perform_complete {ack : Envelope} {now : Int} {offered answer : Answer (.complete sessionID msgID ack now)}
    (performed : (serverMachine config reference).perform (.complete sessionID msgID ack now) offered world =
      some (answer,next)) (stored : reference (.complete sessionID msgID ack now) = true) :
    (∃ error, answer = .error error ∧ next.dedup = world.dedup) ∨
    (answer = .ok () ∧ world.dedup.complete sessionID msgID ack now = .ok next.dedup) := by
  rcases serverMachine_perform performed with ⟨_,other,_⟩ | performed
  · simp [stored] at other
  simp only [World.perform] at performed
  split at performed
  · cases performed; exact .inl ⟨_,rfl,rfl⟩
  · split at performed
    · cases performed; exact .inl ⟨_,rfl,rfl⟩
    · rename_i completed
      cases performed
      exact .inr ⟨rfl,completed⟩

end Dedup

section Replay
variable {config : ServerConfig} {reference : Op → Bool} {world next : World} {op : Op} {offered answer : Answer op}

def Op.replays : Op → Bool
  | .currentSeq _ | .replay _ _ _ _ | .append _ _ _ _ _ | .pruneBefore _ _ => true
  | _ => false

theorem perform_replay (performed : (serverMachine config reference).perform op offered world = some (answer,next))
    (reads : ∀ sessionID eventID eventType content timestamp, op ≠ .append sessionID eventID eventType content timestamp)
    (keeps : ∀ sessionID first, op ≠ .pruneBefore sessionID first) : next.replay = world.replay := by
  cases op with
  | append sessionID eventID eventType content timestamp => exact (reads _ _ _ _ _ rfl).elim
  | pruneBefore sessionID first => exact (keeps _ _ rfl).elim
  | create state | claim sessionID msgID fingerprint now | complete sessionID msgID ack now
  | enqueueBatch outbound frames =>
    refine perform_part World.replay (fun _ _ _ _ => rfl) performed (fun _ performed => ?_)
    simp only [World.perform] at performed
    repeat' split at performed
    all_goals cases performed; try rfl
  | _ =>
    refine perform_part World.replay (fun _ _ _ _ => rfl) performed (fun writes performed => ?_)
    first
      | cases writes; done
      | cases performed; rfl

variable {sessionID : Bytes}

theorem perform_append {eventID eventType content : Bytes} {timestamp : Int64}
    {offered answer : Answer (.append sessionID eventID eventType content timestamp)}
    (performed : (serverMachine config reference).perform (.append sessionID eventID eventType content timestamp) offered
      world = some (answer,next)) (stored : reference (.append sessionID eventID eventType content timestamp) = true) :
    (∃ error, answer = .error error ∧ next.replay = world.replay) ∨
    ∃ event, answer = .ok event ∧
      world.replay.append sessionID eventID eventType content timestamp = (.ok event,next.replay) := by
  rcases serverMachine_perform performed with ⟨_,other,_⟩ | performed
  · simp [stored] at other
  simp only [World.perform,Option.some.injEq,Prod.mk.injEq] at performed
  obtain ⟨answered,rfl⟩ := performed
  cases answer with
  | error error => exact .inl ⟨error,rfl,MemoryReplayStore.append_failed answered⟩
  | ok event => exact .inr ⟨event,rfl,Prod.ext answered rfl⟩

theorem perform_replayed {afterSeq throughSeq : UInt64} {limits : ReplayLimits}
    {offered answer : Answer (.replay sessionID afterSeq throughSeq limits)}
    (performed : (serverMachine config reference).perform (.replay sessionID afterSeq throughSeq limits) offered world =
      some (answer,next)) (stored : reference (.replay sessionID afterSeq throughSeq limits) = true) :
    answer = world.replay.replay sessionID afterSeq throughSeq limits := by
  rcases serverMachine_perform performed with ⟨_,other,_⟩ | performed
  · simp [stored] at other
  cases performed
  rfl

theorem perform_currentSeq {boundary : UInt64} {offered : Answer (.currentSeq sessionID)}
    (performed : (serverMachine config reference).perform (.currentSeq sessionID) offered world =
      some (.ok boundary,next)) (stored : reference (.currentSeq sessionID) = true) :
    boundary = world.replay.currentSeq sessionID := by
  rcases serverMachine_perform performed with ⟨_,other,_⟩ | performed
  · simp [stored] at other
  cases performed
  rfl

theorem perform_prune {first : UInt64} {offered answer : Answer (.pruneBefore sessionID first)}
    (performed : (serverMachine config reference).perform (.pruneBefore sessionID first) offered world =
      some (answer,next)) (stored : reference (.pruneBefore sessionID first) = true) :
    next.replay = world.replay.pruneBefore sessionID first := by
  rcases serverMachine_perform performed with ⟨_,other,_⟩ | performed
  · simp [stored] at other
  cases performed
  rfl

end Replay

section Lanes
variable {config : ServerConfig} {reference : Op → Bool} {world next : World} {op : Op} {offered answer : Answer op}

def Op.lanes : Op → Bool
  | .joinLane _ | .leaveLane _ _ | .beginLaneCallback _ | .endLaneCallback _ => true
  | _ => false

theorem perform_lanes (performed : (serverMachine config reference).perform op offered world = some (answer,next))
    (other : op.lanes = false) : next.lanes = world.lanes := by
  rcases serverMachine_perform performed with ⟨_,_,rfl⟩ | performed
  · rfl
  cases op with
  | joinLane | leaveLane | beginLaneCallback | endLaneCallback => cases other
  | acquireFlight key fingerprint =>
    obtain ⟨flights,table,same⟩ := acquireFlight_frame world key fingerprint
    have moved := congrArg Prod.snd (Option.some.inj performed)
    obtain rfl : next = _ := moved.symm.trans same
    rfl
  | beginSendCallback key flight =>
    obtain ⟨table,same⟩ := beginSendCallback_frame world key flight
    have moved := congrArg Prod.snd (Option.some.inj performed)
    obtain rfl : next = _ := moved.symm.trans same
    rfl
  | finishFlight key flight =>
    obtain ⟨flights,table,same⟩ := finishFlight_frame world key flight
    have moved := congrArg Prod.snd (Option.some.inj performed)
    obtain rfl : next = _ := moved.symm.trans same
    rfl
  | _ =>
    simp only [World.perform] at performed
    repeat' split at performed
    all_goals cases performed; try rfl

theorem World.lane_setLane (world : World) (sessionID other : Bytes) (lane : Lane) :
    (world.setLane sessionID lane).lane other = if other = sessionID then lane else world.lane other := by
  unfold World.lane World.setLane
  by_cases same : other = sessionID
  · subst same
    simp
  · rw [if_neg same,AList.lookup_insert_ne same]

def World.ticketsAfter (world : World) (sessionID : Bytes) : (op : Op) → Answer op → List Nat × Nat
  | .joinLane other, some ticket =>
    if sessionID = other then ((world.lane sessionID).queue++[ticket],(world.lane sessionID).issued+1)
    else ((world.lane sessionID).queue,(world.lane sessionID).issued)
  | .leaveLane other ticket, _ =>
    if sessionID = other then ((world.lane sessionID).queue.erase ticket,(world.lane sessionID).issued)
    else ((world.lane sessionID).queue,(world.lane sessionID).issued)
  | _, _ => ((world.lane sessionID).queue,(world.lane sessionID).issued)

theorem perform_tickets (performed : (serverMachine config reference).perform op offered world = some (answer,next))
    (sessionID : Bytes) :
    ((next.lane sessionID).queue,(next.lane sessionID).issued) = world.ticketsAfter sessionID op answer := by
  have kept (other : op.lanes = false) : next.lane sessionID = world.lane sessionID := by
    unfold World.lane
    rw [perform_lanes performed other]
  cases op with
  | joinLane other =>
    rcases serverMachine_perform performed with ⟨external,_⟩ | performed
    · cases external
    simp only [World.perform,World.joinLane] at performed
    split at performed
    · cases performed
      rfl
    · cases performed
      simp only [World.lane_setLane,World.ticketsAfter]
      split
      · rename_i same
        rw [same]
      · rfl
  | leaveLane other ticket =>
    rcases serverMachine_perform performed with ⟨external,_⟩ | performed
    · cases external
    cases performed
    simp only [World.leaveLane,World.lane_setLane,World.ticketsAfter]
    split
    · rename_i same
      rw [same]
    · rfl
  | beginLaneCallback other =>
    rcases serverMachine_perform performed with ⟨external,_⟩ | performed
    · cases external
    simp only [World.perform,World.beginLaneCallback] at performed
    split at performed
    · cases performed
      rfl
    · cases performed
      simp only [World.lane_setLane,World.ticketsAfter]
      split
      · rename_i same
        rw [same]
      · rfl
  | endLaneCallback other =>
    rcases serverMachine_perform performed with ⟨external,_⟩ | performed
    · cases external
    cases performed
    simp only [World.endLaneCallback,World.lane_setLane,World.ticketsAfter]
    split
    · rename_i same
      rw [same]
    · rfl
  | _ =>
    rw [kept rfl]
    rfl

theorem perform_join {sessionID : Bytes} {ticket : Nat} {offered : Answer (.joinLane sessionID)}
    (performed : (serverMachine config reference).perform (.joinLane sessionID) offered world = some (some ticket,next)) :
    ticket = (world.lane sessionID).issued := by
  rcases serverMachine_perform performed with ⟨external,_⟩ | performed
  · cases external
  simp only [World.perform,World.joinLane] at performed
  split at performed
  · cases performed
  · cases performed
    rfl

/-- The turn of a request comes when its ticket is the first. -/
theorem perform_await {sessionID : Bytes} {ticket : Nat} {offered answer : Answer (.awaitLane sessionID ticket)}
    (performed : (serverMachine config reference).perform (.awaitLane sessionID ticket) offered world =
      some (answer,next)) : (world.lane sessionID).queue.head? = some ticket := by
  rcases serverMachine_perform performed with ⟨external,_⟩ | performed
  · cases external
  simp only [World.perform] at performed
  split at performed
  · assumption
  · cases performed

end Lanes

end Kmtproto
