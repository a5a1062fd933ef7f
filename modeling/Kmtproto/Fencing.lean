import Kmtproto.Connection
import Kmtproto.Handshake
import Kmtproto.ResumeGate

/-! Replacing a connection fences off the calls of the one before. A Handle call keeps to
the queue the gate gave it and to the generation it was started with, so a late call
reaches only a queue that is closed and a gate that ignores it. -/
namespace Kmtproto
open Json Interaction

/-- A frame the gate let through to the handlers: on which queue and from which state of the
gate, none for a frame that does not validate. -/
structure PendingFrame where
  outbound : Nat
  frame : Envelope
  state : Option ServerAdmissionState
  deriving DecidableEq

/-- Where a call stands with the gate and its queue. A call that does not go through the gate
has no generation, and may use any queue if it is `ungated`. -/
structure Place where
  call : Option (ConnectionGeneration × Envelope) := none
  ungated : Bool := false
  queue : Option Nat := none
  closed : Bool := false
  flight : Option PendingFrame := none

namespace Place
variable (place : Place)

def allowed : Op → Prop
  | .replaceConnection => place.call = none
  | .admitFrame generation frame _ => place.call = some (generation,frame) ∧ place.queue = none ∧
      place.flight = none ∧ place.closed = false
  | .applyResult generation outbound result => ∃ frame state, place.call = some (generation,frame) ∧
      place.queue = some outbound ∧ place.flight = some ⟨outbound,frame,state⟩ ∧
      (place.closed = true → result.close = true)
  | .enqueueBatch outbound _ | .closeQueue outbound | .handled outbound _ =>
      (place.call = none ∧ place.ungated = true) ∨ place.queue = some outbound
  | _ => True

def next : (op : Op) → Answer op → Place
  | .admitFrame _ frame _, .unvalidated outbound =>
    {place with queue := some outbound, flight := some ⟨outbound,frame,none⟩}
  | .admitFrame _ frame _, .admitted outbound state =>
    {place with queue := some outbound, flight := some ⟨outbound,frame,some state⟩}
  | .admitFrame _ _ _, .rejected outbound => {place with queue := some outbound}
  | .closeQueue _, _ => {place with closed := true}
  | .applyResult _ _ _, _ => {place with queue := none, flight := none}
  | _, _ => place

@[simp] theorem next_call (op : Op) (answer : Answer op) : (place.next op answer).call = place.call := by
  unfold next
  split <;> rfl

@[simp] theorem next_ungated (op : Op) (answer : Answer op) : (place.next op answer).ungated = place.ungated := by
  unfold next
  split <;> rfl

end Place

def placeRules : Monitor Op Answer Place where
  allowed := Place.allowed
  next := Place.next

theorem placeRules_call (place : Place) (events : List (Event Op Answer)) :
    (placeRules.after place events).call = place.call := by
  induction events generalizing place with
  | nil => rfl
  | cons event events ih => exact (ih _).trans (place.next_call event.1 event.2)

def ServerCall.place : ServerCall → Place
  | .handle generation frame => {call := some (generation,frame)}
  | .replaceConnection => {}
  | _ => {ungated := true}

section Compliance
variable {config : ServerConfig} {outbound : Nat} {α : Type}

theorem meets_place {post : Bool → α → Prop} {program : Server α} {place : Place} (queue : place.queue = some outbound)
    (unclosed : place.closed = false) (meets : Meets (queueRules outbound) post false program) :
    Meets placeRules (fun after value => after = {place with closed := after.closed} ∧ post after.closed value) place
      program := by
  let Same (closed : Bool) (after : Place) : Prop := after = {place with closed := closed}
  have follows : ∀ closed after op, Same closed after → (queueRules outbound).allowed closed op →
      placeRules.allowed after op ∧
        ∀ answer, Same ((queueRules outbound).next closed op answer) (placeRules.next after op answer) := by
    rintro closed after op rfl allowed
    cases op with
    | enqueueBatch target _ | handled target _ =>
      obtain rfl : target = outbound := allowed
      exact ⟨.inr queue,fun _ => rfl⟩
    | closeQueue target =>
      obtain rfl : target = outbound := allowed
      exact ⟨.inr queue,fun _ => rfl⟩
    | replaceConnection | admitFrame _ _ _ | applyResult _ _ _ => exact allowed.elim
    | _ => exact ⟨trivial,fun _ => rfl⟩
  have start : Same false place := by rw [← unclosed]
  refine (meets.simulate follows start).mono (fun after value ended => ?_)
  obtain ⟨closed,rfl,ended⟩ := ended
  exact ⟨rfl,ended⟩

theorem place_handleAdmitted {generation : ConnectionGeneration} {frame : Envelope} {state : Option ServerAdmissionState} :
    Meets placeRules (fun place _ => place.flight = none)
      {call := some (generation,frame), queue := some outbound, flight := some ⟨outbound,frame,state⟩}
      (handleAdmitted config generation frame outbound) := by
  unfold handleAdmitted
  rw [meets_bind]
  refine (meets_place rfl rfl shuts_invokeServerProcess).mono (fun place reply ended => ?_)
  obtain ⟨same,shuts⟩ := ended
  rw [same]
  exact ⟨⟨frame,state,rfl,rfl,rfl,shuts⟩,fun _ => rfl⟩

theorem place_handle {generation : ConnectionGeneration} {frame : Envelope} :
    Meets placeRules (fun place _ => place.flight = none) {call := some (generation,frame)}
      (handle config generation frame) := by
  refine ⟨⟨rfl,rfl,rfl,rfl⟩,fun answer => ?_⟩
  cases answer with
  | stale | invalidState => exact rfl
  | rejected outbound =>
    have answer : Meets (queueRules outbound) (fun _ _ => True) false
        (enqueueError config outbound frame.sessionID frame.id .protocolViolation
          (lit "frame is invalid for server connection state") false) :=
      ⟨trivial,fun _ => meets_errorAt.mono (fun _ _ _ => trivial)⟩
    refine (meets_place rfl rfl answer).mono (fun place _ ended => ?_)
    rw [ended.1]
    rfl
  | unvalidated outbound => exact place_handleAdmitted
  | admitted outbound state => exact place_handleAdmitted

theorem place_ungated {strict : Bool} {post : Knowledge → α → Prop} {program : Server α} {known : Knowledge}
    (gated : known.gated = false) (owes : known.owes = none) (meets : Meets (callRules strict) post known program) :
    Meets placeRules (fun place _ => place.flight = none) {ungated := true} program := by
  let Outside (known : Knowledge) (place : Place) : Prop :=
    known.gated = false ∧ known.owes = none ∧ (place.call = none ∧ place.ungated = true) ∧ place.flight = none
  have follows : ∀ known place op, Outside known place → (callRules strict).allowed known op →
      placeRules.allowed place op ∧
        ∀ answer, Outside ((callRules strict).next known op answer) (placeRules.next place op answer) := by
    rintro known place op ⟨gated,owes,outside,idle⟩ allowed
    have still (answer : Answer op) : ((callRules strict).next known op answer).gated = false :=
      (Knowledge.next_gated op answer).trans gated
    rcases Knowledge.callAllowed_other allowed with rfl | ⟨_,_,_,rfl⟩ | ⟨_,_,_,rfl⟩ | ⟨inner,_⟩
    · exact ⟨outside.1,fun answer => ⟨still answer,owes,outside,idle⟩⟩
    · exact absurd allowed.1 (by simp [gated])
    · exact absurd allowed.1 (by simp [owes])
    · have nothing (answer : Answer op) : ((callRules strict).next known op answer).owes = none :=
        (Knowledge.next_owes inner answer).trans owes
      cases op with
      | replaceConnection | admitFrame _ _ _ | applyResult _ _ _ => exact inner.elim
      | enqueueBatch _ _ | closeQueue _ | handled _ _ =>
        exact ⟨.inl outside,fun answer => ⟨still answer,nothing answer,outside,idle⟩⟩
      | _ => exact ⟨trivial,fun answer => ⟨still answer,nothing answer,outside,idle⟩⟩
  refine (meets.simulate follows ⟨gated,owes,⟨rfl,rfl⟩,rfl⟩).mono (fun place _ ended => ?_)
  obtain ⟨_,outside,_⟩ := ended
  exact outside.2.2.2

/-- Every call keeps to its place, and has nothing in flight when it ends. -/
theorem ServerCall.keepsPlace (config : ServerConfig) (call : ServerCall) :
    Meets placeRules (fun place _ => place.flight = none) call.place (call.program config) := by
  cases call with
  | handle generation frame => exact place_handle
  | replaceConnection => exact ⟨rfl,fun _ => rfl⟩
  | processFrame frame outbound => exact place_ungated rfl rfl (ServerCall.complies config (.processFrame frame outbound))
  | publishEvent sessionID eventID eventType content outbound =>
    exact place_ungated rfl rfl (ServerCall.complies config (.publishEvent sessionID eventID eventType content outbound))
  | publishStateUpdate sessionID updateID object outbound =>
    exact place_ungated rfl rfl (ServerCall.complies config (.publishStateUpdate sessionID updateID object outbound))
  | pruneBefore sessionID first => exact place_ungated rfl rfl (ServerCall.complies config (.pruneBefore sessionID first))

end Compliance

def connections (trace : List (Nat × Event Op Answer)) : List (ConnectionGeneration × Nat) :=
  trace.filterMap (fun entry => match entry.2 with
    | ⟨.replaceConnection,answer⟩ => some answer
    | _ => none)

theorem mem_connections {trace : List (Nat × Event Op Answer)} {thread : Nat} {connection : ConnectionGeneration × Nat}
    (member : (thread,⟨.replaceConnection,connection⟩) ∈ trace) : connection ∈ connections trace :=
  List.mem_filterMap.mpr ⟨_,member,rfl⟩

/-- What holds of connections in every run: queues are numbered as they were opened, all but
the last are closed, and a call is on a queue of its own generation. -/
structure Fenced (world : World) (trace : List (Nat × Event Op Answer)) (places : List Place) : Prop where
  numbered : (connections trace).map Prod.snd = List.range world.queues.length
  current : (connections trace).getLast? = world.gate.outbound.map (fun outbound => (world.gate.generation,outbound))
  closed : ∀ outbound queue, world.queues[outbound]? = some queue → world.gate.outbound ≠ some outbound → queue.closed = true
  placed : ∀ place ∈ places, ∀ generation frame outbound, place.call = some (generation,frame) →
    place.queue = some outbound → (generation,outbound) ∈ connections trace

section Fenced
variable {config : ServerConfig} {reference : Op → Bool} {world next : World} {trace : List (Nat × Event Op Answer)}
  {places : List Place} {index : Nat} {place : Place} {op : Op} {offered answer : Answer op}

theorem Fenced.unique (holds : Fenced world trace places) {generation other : ConnectionGeneration} {outbound : Nat}
    (one : (generation,outbound) ∈ connections trace) (two : (other,outbound) ∈ connections trace) :
    generation = other := by
  have distinct : ((connections trace).map Prod.snd).Nodup := by
    rw [holds.numbered]
    exact List.nodup_range
  exact congrArg Prod.fst (List.inj_on_of_nodup_map distinct one two rfl)

/-- The gate's queue is the last one. -/
theorem Fenced.last (holds : Fenced world trace places) {outbound : Nat} (current : world.gate.outbound = some outbound) :
    (world.gate.generation,outbound) ∈ connections trace ∧ outbound+1 = world.queues.length := by
  have last := holds.current
  rw [current,Option.map_some] at last
  refine ⟨List.mem_of_getLast? last,?_⟩
  have numbered : ((connections trace).map Prod.snd).getLast? = some outbound := by
    rw [List.getLast?_map,last]
    rfl
  rw [holds.numbered,List.getLast?_range] at numbered
  split at numbered
  · cases numbered
  · cases numbered
    omega

/-- A queue that still takes frames is the gate's. -/
theorem Fenced.taking (holds : Fenced world trace places) {outbound : Nat} {queue : OutboundQueue}
    (found : world.queues[outbound]? = some queue) (unclosed : queue.closed = false) : world.gate.outbound = some outbound := by
  by_contra other
  rw [holds.closed outbound queue found other] at unclosed
  cases unclosed

theorem Fenced.request (holds : Fenced world trace places) (found : places[index]? = some place)
    (other : connections [(index,(⟨op,answer⟩ : Event Op Answer))] = [])
    (length : next.queues.length = world.queues.length) (generation : next.gate.generation = world.gate.generation)
    (outbound : next.gate.outbound = world.gate.outbound)
    (closed : ∀ (outbound : Nat) (queue : OutboundQueue), next.queues[outbound]? = some queue →
      ∃ old, world.queues[outbound]? = some old ∧ (old.closed = true → queue.closed = true))
    (placed : ∀ target, (place.next op answer).queue = some target →
      place.queue = some target ∨ (world.gate.outbound = some target ∧ ∀ generation frame,
        place.call = some (generation,frame) → generation = world.gate.generation)) :
    Fenced next (trace++[(index,⟨op,answer⟩)]) (places.set index (place.next op answer)) := by
  have same : connections (trace++[(index,⟨op,answer⟩)]) = connections trace := by
    rw [connections,List.filterMap_append]
    exact (congrArg _ other).trans (List.append_nil _)
  refine ⟨?_,?_,?_,?_⟩
  · rw [same,length,holds.numbered]
  · rw [same,generation,outbound,holds.current]
  · intro target queue listed old
    rw [outbound] at old
    obtain ⟨before,was,keeps⟩ := closed target queue listed
    exact keeps (holds.closed target before was old)
  · intro later member called frame target call queue
    rw [same]
    rcases List.mem_or_eq_of_mem_set member with earlier | rfl
    · exact holds.placed later earlier called frame target call queue
    · rw [Place.next_call] at call
      rcases placed target queue with old | ⟨current,mine⟩
      · exact holds.placed place (List.mem_of_getElem? found) called frame target call old
      · rw [mine called frame call]
        exact (holds.last current).1

theorem perform_outbound (performed : (serverMachine config reference).perform op offered world = some (answer,next))
    (other : op ≠ .replaceConnection) :
    next.gate.outbound = world.gate.outbound ∧ next.gate.generation = world.gate.generation := by
  rw [perform_gate performed]
  cases op with
  | replaceConnection => exact absurd rfl other
  | admitFrame generation frame valid =>
    have decided := admitFrame_cases world.gate generation frame valid
    simp only [World.gateAfter]
    generalize world.gate.admitFrame generation frame valid = decision at decided ⊢
    obtain ⟨answer,after⟩ := decision
    cases decided <;> exact ⟨rfl,rfl⟩
  | applyResult generation outbound result =>
    have effect := applyResult_cases world.gate generation outbound result
    simp only [World.gateAfter]
    generalize world.gate.applyResult generation outbound result = after at effect ⊢
    cases effect <;> exact ⟨rfl,rfl⟩
  | _ => exact ⟨rfl,rfl⟩

theorem perform_closed (performed : (serverMachine config reference).perform op offered world = some (answer,next))
    (other : op ≠ .replaceConnection) :
    next.queues.length = world.queues.length ∧ ∀ (outbound : Nat) (queue : OutboundQueue),
      next.queues[outbound]? = some queue →
      ∃ old, world.queues[outbound]? = some old ∧ (old.closed = true → queue.closed = true) := by
  rw [perform_queues performed]
  have modified (target : Nat) (edit : OutboundQueue → OutboundQueue)
      (keeps : ∀ queue, queue.closed = true → (edit queue).closed = true) :
      (world.queues.modify target edit).length = world.queues.length ∧ ∀ (outbound : Nat) (queue : OutboundQueue),
        (world.queues.modify target edit)[outbound]? = some queue →
        ∃ old, world.queues[outbound]? = some old ∧ (old.closed = true → queue.closed = true) := by
    refine ⟨List.length_modify ..,fun outbound queue found => ?_⟩
    simp only [List.getElem?_modify,Option.map_eq_map,Option.map_eq_some_iff] at found
    obtain ⟨old,placed,rfl⟩ := found
    refine ⟨old,placed,fun shut => ?_⟩
    split
    · exact keeps old shut
    · exact shut
  unfold World.queuesAfter
  split
  · exact modified _ _ (fun _ shut => shut)
  · exact modified _ _ (fun _ _ => rfl)
  · exact absurd rfl other
  · exact ⟨rfl,fun outbound queue found => ⟨queue,found,id⟩⟩

theorem Fenced.admitFrame {generation : ConnectionGeneration} {frame : Envelope} {valid : Bool}
    {offered answer : Answer (.admitFrame generation frame valid)} (holds : Fenced world trace places)
    (found : places[index]? = some place) (allowed : place.allowed (.admitFrame generation frame valid))
    (performed : (serverMachine config reference).perform (.admitFrame generation frame valid) offered world =
      some (answer,next)) :
    Fenced next (trace++[(index,⟨.admitFrame generation frame valid,answer⟩)])
      (places.set index (place.next (.admitFrame generation frame valid) answer)) := by
  obtain ⟨outbound,same⟩ := perform_outbound performed (by simp)
  obtain ⟨length,closed⟩ := perform_closed performed (by simp)
  refine holds.request found rfl length same outbound closed (fun target queue => ?_)
  have decided := admitFrame_cases world.gate generation frame valid
  rw [← perform_admitFrame performed] at decided
  have mine (current : generation = world.gate.generation) (called : ConnectionGeneration) (sent : Envelope)
      (call : place.call = some (called,sent)) : called = world.gate.generation := by
    cases allowed.1.symm.trans call
    exact current
  generalize (world.gate.admitFrame generation frame valid).2 = after at decided
  cases decided with
  | stale | invalidState => exact .inl queue
  | unvalidated _ current same | rejected _ current same | admitted _ current same =>
    cases queue
    exact .inr ⟨current,mine same⟩

theorem replaceConnection_opens (world : World) : ∃ queues : List OutboundQueue,
    world.replaceConnection = ((world.gate.generation+1,world.queues.length),{world with
      queues := queues++[{}]
      gate := {generation := world.gate.generation+1, outbound := some world.queues.length, state := .awaitingHandshake}}) ∧
    queues.length = world.queues.length ∧ ∀ (outbound : Nat) (queue : OutboundQueue), queues[outbound]? = some queue →
      queue.closed = true ∨ (world.gate.outbound ≠ some outbound ∧ world.queues[outbound]? = some queue) := by
  unfold World.replaceConnection
  cases current : world.gate.outbound with
  | none => exact ⟨world.queues,rfl,rfl,fun outbound queue found => .inr ⟨by simp,found⟩⟩
  | some old =>
    refine ⟨world.queues.modify old (fun queue => {queue with closed := true}),by simp,by simp,?_⟩
    intro outbound queue found
    simp only [List.getElem?_modify,Option.map_eq_map,Option.map_eq_some_iff] at found
    obtain ⟨before,placed,rfl⟩ := found
    by_cases same : old = outbound
    · exact .inl (by simp [same])
    · exact .inr ⟨by simpa using same,by simpa [same] using placed⟩

/-- Replacing the connection: a new queue is the last, the one before is closed. -/
theorem Fenced.reopened {offered answer : Answer .replaceConnection} (holds : Fenced world trace places)
    (found : places[index]? = some place)
    (performed : (serverMachine config reference).perform .replaceConnection offered world = some (answer,next)) :
    Fenced next (trace++[(index,⟨.replaceConnection,answer⟩)]) (places.set index place) := by
  obtain ⟨queues,same,length,closed⟩ := replaceConnection_opens world
  have moved : some world.replaceConnection = some (answer,next) := performed
  rw [same] at moved
  cases moved
  have grown : connections (trace++[(index,⟨.replaceConnection,(world.gate.generation+1,world.queues.length)⟩)]) =
      connections trace ++ [(world.gate.generation+1,world.queues.length)] := by
    rw [connections,List.filterMap_append]
    rfl
  refine ⟨?_,?_,?_,?_⟩
  · rw [grown,List.map_append,holds.numbered,List.length_append,length,List.length_singleton,List.range_succ]
    rfl
  · rw [grown,List.getLast?_concat]
    rfl
  · intro outbound queue listed other
    have below : outbound < queues.length := by
      have bound := (List.getElem?_eq_some_iff.mp listed).1
      rw [List.length_append,List.length_singleton] at bound
      have differs : outbound ≠ world.queues.length := fun same => other (by rw [same])
      omega
    rw [List.getElem?_append_left below] at listed
    rcases closed outbound queue listed with shut | ⟨old,before⟩
    · exact shut
    · exact holds.closed outbound queue before old
  · intro later member generation frame outbound call queue
    rw [grown]
    have earlier : later ∈ places := by
      rcases List.mem_or_eq_of_mem_set member with old | rfl
      · exact old
      · exact List.mem_of_getElem? found
    exact List.mem_append_left _ (holds.placed later earlier generation frame outbound call queue)

theorem fenced_keeps (config : ServerConfig) (reference : Op → Bool) :
    Keeps (serverMachine config reference) placeRules (fun place _ => place.flight = none)
      ServerCall.place (fun _ => True) Fenced where
  programs call _ := call.keepsPlace config
  spawn call world trace places _ holds := by
    refine {holds with placed := ?_}
    intro place member generation frame outbound called queue
    rcases List.mem_append.mp member with old | new
    · exact holds.placed place old generation frame outbound called queue
    · cases List.mem_singleton.mp new
      cases call <;> cases queue
  env elapsed world next trace places holds moved := by
    change World.tick elapsed world = some next at moved
    unfold World.tick at moved
    split at moved
    · cases moved
      exact {holds with}
    · cases moved
  request world next trace places index place op offered answer holds found allowed performed := by
    by_cases opens : op = .replaceConnection
    · subst opens
      exact holds.reopened found performed
    · obtain ⟨outbound,same⟩ := perform_outbound performed opens
      obtain ⟨length,closed⟩ := perform_closed performed opens
      cases op with
      | admitFrame generation frame valid => exact holds.admitFrame found allowed performed
      | replaceConnection => exact absurd rfl opens
      | applyResult generation target result =>
        exact holds.request found rfl length same outbound closed (fun target queue => by cases queue)
      | _ => exact holds.request found rfl length same outbound closed (fun target queue => .inl queue)

theorem fenced_start (fresh : world.Fresh) : Fenced world [] [] := by
  refine ⟨?_,?_,?_,by simp⟩
  · simp [connections,fresh.queues]
  · simp [connections,fresh.gate]
  · simp [fresh.queues]

/-- While the connection is not replaced again the gate is on the queue and generation Replace gave. -/
theorem Fenced.current_until (holds : Fenced world trace places) {before after : List (Nat × Event Op Answer)}
    {thread outbound : Nat} {generation : ConnectionGeneration}
    (split : trace = before ++ (thread,⟨.replaceConnection,(generation,outbound)⟩)::after)
    (stays : replaced after = false) :
    world.gate.outbound = some outbound ∧ world.gate.generation = generation := by
  have quiet : connections after = [] := by
    refine List.filterMap_eq_nil_iff.mpr (fun entry member => ?_)
    have other := List.any_eq_false.mp stays entry member
    obtain ⟨thread,op,answer⟩ := entry
    cases op with
    | replaceConnection => exact absurd rfl other
    | _ => rfl
  have last : (connections trace).getLast? = some (generation,outbound) := by
    rw [split,connections,List.filterMap_append]
    change (connections before ++ (generation,outbound)::connections after).getLast? = _
    rw [quiet]
    exact List.getLast?_concat
  rw [holds.current] at last
  cases current : world.gate.outbound with
  | none => simp [current] at last
  | some target =>
    simp only [current,Option.map_some,Option.some.injEq,Prod.mk.injEq] at last
    exact ⟨congrArg some last.2,last.1⟩

theorem Fenced.opened_before (holds : Fenced world trace places) {generation : ConnectionGeneration} {outbound : Nat}
    (opened : (generation,outbound) ∈ connections trace) : outbound < world.queues.length := by
  have member : outbound ∈ (connections trace).map Prod.snd := List.mem_map.mpr ⟨_,opened,rfl⟩
  rw [holds.numbered] at member
  exact List.mem_range.mp member

theorem Fenced.log_kept (holds : Fenced world trace places) {generation : ConnectionGeneration} {outbound earlier : Nat}
    (opened : (generation,outbound) ∈ connections trace) (before : earlier < outbound)
    (performed : (serverMachine config reference).perform op offered world = some (answer,next)) :
    next.log earlier = world.log earlier := by
  rw [perform_log performed]
  cases op with
  | enqueueBatch target frames =>
    rcases perform_enqueue performed with ⟨error,rfl,_⟩ | ⟨queue,rfl,found,unclosed,_⟩
    · exact List.append_nil _
    · have last := (holds.last (holds.taking found unclosed)).2
      have bound := holds.opened_before opened
      have other : target ≠ earlier := by omega
      simp [appended,other]
  | _ => exact List.append_nil _

/-- A call of another generation leaves the queue of a connection as it is. -/
theorem Fenced.queue_kept (holds : Fenced world trace places) (member : place ∈ places)
    {generation other : ConnectionGeneration} {outbound : Nat} {frame : Envelope}
    (opened : (generation,outbound) ∈ connections trace) (call : place.call = some (other,frame))
    (differs : other ≠ generation) (allowed : place.allowed op)
    (performed : (serverMachine config reference).perform op offered world = some (answer,next)) :
    next.queues[outbound]? = world.queues[outbound]? := by
  have elsewhere {target : Nat} (on : (place.call = none ∧ place.ungated = true) ∨ place.queue = some target) :
      target ≠ outbound := by
    rintro rfl
    rcases on with ⟨outside,_⟩ | queue
    · cases call.symm.trans outside
    · exact differs (holds.unique (holds.placed place member other frame target call queue) opened)
  rw [perform_queues performed]
  cases op with
  | enqueueBatch target frames =>
    have away := elsewhere allowed
    cases answer with
    | error error => rfl
    | ok done => simp [World.queuesAfter,away]
  | closeQueue target =>
    have away := elsewhere allowed
    simp [World.queuesAfter,away]
  | replaceConnection => cases call.symm.trans allowed
  | _ => rfl

theorem admitFrame_stale {gate : ServerAdmission} {generation : ConnectionGeneration} (other : generation ≠ gate.generation)
    (frame : Envelope) (valid : Bool) : gate.admitFrame generation frame valid = (.stale,gate) := by
  unfold ServerAdmission.admitFrame
  split
  · rfl
  · rw [if_pos other]

/-- A call of another generation leaves the gate as it is. -/
theorem Place.gate_kept {generation : ConnectionGeneration} {frame : Envelope} (call : place.call = some (generation,frame))
    (differs : generation ≠ world.gate.generation) (allowed : place.allowed op)
    (performed : (serverMachine config reference).perform op offered world = some (answer,next)) :
    next.gate = world.gate := by
  rw [perform_gate performed]
  cases op with
  | replaceConnection => cases call.symm.trans allowed
  | admitFrame called sent valid =>
    cases allowed.1.symm.trans call
    simp only [World.gateAfter,admitFrame_stale differs]
  | applyResult called outbound result =>
    obtain ⟨sent,state,mine,_⟩ := allowed
    cases mine.symm.trans call
    exact if_pos (.inl differs)
  | _ => rfl

end Fenced

/-- Generation fencing: after a Replace that returned a generation and a queue, no queue
opened before takes another frame, and a step of a call started with another generation
leaves the new queue as it is, and the gate too until the connection is replaced again. -/
theorem generation_fenced (config : ServerConfig) (reference : Op → Bool) {world : World} (fresh : world.Fresh)
    {moves : List ServerMove} {move : ServerMove} {pool next : ServerPool}
    (ran : (serverMachine config reference).run {world := world} moves = some pool)
    (stepped : (serverMachine config reference).step pool move = some next)
    {before after : List (Nat × Event Op Answer)} {thread outbound : Nat} {generation : ConnectionGeneration}
    (opened : pool.trace = before ++ (thread,⟨.replaceConnection,(generation,outbound)⟩)::after) :
    (∀ earlier < outbound, next.world.log earlier = pool.world.log earlier) ∧
    ∀ index offered other frame, move = .thread index offered →
      (started moves)[index]? = some (.handle other frame) → other ≠ generation →
      (replaced after = false → next.world.gate = pool.world.gate) ∧
      next.world.queues[outbound]? = pool.world.queues[outbound]? := by
  obtain ⟨places,aligned,holds,followed⟩ :=
    (fenced_keeps config reference).run_followed (fenced_start fresh) (fun _ _ => trivial) ran
  obtain ⟨later,_,still,progress⟩ := (fenced_keeps config reference).step aligned holds (fun _ _ => trivial) stepped
  have known : (generation,outbound) ∈ connections pool.trace := by
    apply mem_connections
    rw [opened]
    exact List.mem_append_right _ (List.mem_cons_self ..)
  cases progress with
  | spawn task same recorded =>
    refine ⟨fun earlier _ => by rw [same],fun index offered other frame same => ?_⟩
    cases same
  | env elapsed moved recorded =>
    change World.tick elapsed pool.world = some next.world at moved
    unfold World.tick at moved
    split at moved
    · refine ⟨fun earlier _ => ?_,fun index offered other frame same => ?_⟩
      · rw [← Option.some.inj moved]
        rfl
      · cases same
    · cases moved
  | thread index offered place op answer found allowed performed recorded =>
    refine ⟨fun earlier before => holds.log_kept known before performed,fun _ _ other frame same task differs => ?_⟩
    cases same
    have call : place.call = some (other,frame) := by
      cases (followed.get task).symm.trans found
      exact placeRules_call _ _
    refine ⟨fun stays => ?_,holds.queue_kept (List.mem_of_getElem? found) known call differs allowed performed⟩
    obtain ⟨_,current⟩ := holds.current_until opened stays
    exact Place.gate_kept call (fun same => differs (same.trans current)) allowed performed

def lateHelloMoves : List ServerMove :=
  .spawn .replaceConnection::turns 0 1 (working (lit "s") (lit "f")) ++
  .spawn (.handle 1 helloFrame)::turns 1 1 (working (lit "s") (lit "f")) ++
  .spawn .replaceConnection::turns 2 1 (working (lit "s") (lit "f")) ++
  turns 1 7 (working (lit "s") (lit "f"))

/-- The late result of that HELLO is no matter to the new connection. -/
theorem generation_fenced_late_hello :
    ∃ pool ∈ (serverMachine {} (fun _ => true)).run {world := {dedup := {ttl := 1}}} lateHelloMoves,
    ∃ next ∈ (serverMachine {} (fun _ => true)).step pool (.thread 1 (working (lit "s") (lit "f"))),
      (next.trace.getLast?).map (fun entry => entry.2.1) = some (.applyResult 1 0 {}) ∧
      next.world.gate = pool.world.gate ∧ next.world.queues[1]? = pool.world.queues[1]? := by
  have facts : ∃ pool ∈ (serverMachine {} (fun _ => true)).run {world := {dedup := {ttl := 1}}} lateHelloMoves,
      ∃ next ∈ (serverMachine {} (fun _ => true)).step pool (.thread 1 (working (lit "s") (lit "f"))),
        (next.trace.getLast?).map (fun entry => entry.2.1) = some (.applyResult 1 0 {}) ∧
        pool.trace = pool.trace.take 2 ++ (2,⟨.replaceConnection,(2,1)⟩)::pool.trace.drop 3 ∧
        replaced (pool.trace.drop 3) = false := by decide +kernel
  obtain ⟨pool,ran,next,stepped,last,opened,stays⟩ := facts
  have fenced := (generation_fenced {} _ ⟨rfl,rfl⟩ ran stepped opened).2 1 _ 1 helloFrame rfl rfl (by decide)
  exact ⟨pool,ran,next,stepped,last,fenced.1 stays,fenced.2⟩

end Kmtproto
