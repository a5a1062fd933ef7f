import Kmtproto.Admission

/-! The admission gate and its queue agree. An open gate has a session with the capabilities
stored for it, one that awaits its handshake has none, a closed gate stays closed until
Replace, and a queue that the server closed has its gate closed once no call is in flight. -/
namespace Kmtproto
open Json Interaction

structure ServerAdmission.Shaped (gate : ServerAdmission) : Prop where
  opened : gate.state = .ready ∨ gate.state = .resuming → gate.sessionID ≠ []
  awaiting : gate.state = .awaitingHandshake → gate.sessionID = [] ∧ gate.capabilities = .empty
  closed : gate.state = .closed → gate.capabilities = .empty

theorem ServerAdmission.Shaped.step {gate : ServerAdmission} (shaped : gate.Shaped) (event : Event Op Answer) :
    (gateStep gate event).Shaped := by
  obtain ⟨op,answer⟩ := event
  cases op with
  | replaceConnection => exact ⟨by simp [gateStep],fun _ => ⟨rfl,rfl⟩,by simp [gateStep]⟩
  | admitFrame generation frame valid =>
    have decided := admitFrame_cases gate generation frame valid
    change (gate.admitFrame generation frame valid).2.Shaped
    generalize gate.admitFrame generation frame valid = decision at decided ⊢
    obtain ⟨answer,after⟩ := decision
    cases decided with
    | stale | invalidState | unvalidated => exact shaped
    | rejected => exact ⟨by simp,by simp,fun _ => rfl⟩
    | admitted target current same live allowed session alone =>
      by_cases resumes : gate.state = .ready ∧ frame.type = .resume
      · exact ⟨fun _ => shaped.opened (.inl resumes.1),by simp [resumes],by simp [resumes]⟩
      · simp only [resumes,if_false]
        exact ⟨shaped.opened,shaped.awaiting,shaped.closed⟩
  | applyResult generation outbound result =>
    have effect := applyResult_cases gate generation outbound result
    change (gate.applyResult generation outbound result).Shaped
    generalize gate.applyResult generation outbound result = after at effect ⊢
    cases effect with
    | stale => exact shaped
    | closed | kept => exact ⟨shaped.opened,shaped.awaiting,shaped.closed⟩
    | close | lost => exact ⟨by simp,by simp,fun _ => rfl⟩
    | abandon => exact ⟨by simp,fun _ => ⟨rfl,rfl⟩,by simp⟩
    | ready current same live named => exact ⟨fun _ => named,by simp,by simp⟩
  | _ => exact shaped

theorem gateOf_shaped (trace : List (Nat × Event Op Answer)) : (gateOf trace).Shaped := by
  induction trace using List.reverseRecOn with
  | nil => exact ⟨by simp,by simp,fun _ => rfl⟩
  | append_singleton trace entry ih =>
    rw [gateOf_snoc]
    exact ih.step entry.2

/-- Only Replace opens a closed gate. -/
theorem gateStep_closed {gate : ServerAdmission} (shut : gate.state = .closed) {op : Op} (other : op ≠ .replaceConnection)
    (answer : Answer op) : (gateStep gate ⟨op,answer⟩).state = .closed := by
  cases op with
  | replaceConnection => exact absurd rfl other
  | admitFrame generation frame valid =>
    have decided := admitFrame_cases gate generation frame valid
    change (gate.admitFrame generation frame valid).2.state = .closed
    generalize gate.admitFrame generation frame valid = decision at decided ⊢
    obtain ⟨answer,after⟩ := decision
    cases decided with
    | stale | invalidState | unvalidated => exact shut
    | rejected => rfl
    | admitted target current same live => exact absurd shut live
  | applyResult generation outbound result => exact applyResult_closed shut generation outbound result
  | _ => exact shut

def Place.shuts (place : Place) (outbound : Nat) : Prop :=
  place.closed = true ∧ ∃ frame state, place.flight = some ⟨outbound,frame,state⟩

/-- What holds of a connection's queue while only calls of connections run. -/
structure Guarded (world : World) (trace : List (Nat × Event Op Answer)) (places : List Place) : Prop where
  fenced : Fenced world trace places
  gated : ∀ place ∈ places, place.ungated = false
  called : ∀ place ∈ places, place.queue ≠ none → place.call ≠ none
  flying : ∀ place ∈ places, ∀ outbound, place.queue = some outbound → world.gate.outbound = some outbound →
    world.gate.state = .closed ∨ ∃ frame state, place.flight = some ⟨outbound,frame,state⟩
  shut : ∀ outbound queue, world.gate.outbound = some outbound → world.queues[outbound]? = some queue →
    queue.closed = true → world.gate.state = .closed ∨ ∃ place ∈ places, place.shuts outbound

section Guarded
variable {config : ServerConfig} {reference : Op → Bool} {world next : World} {trace : List (Nat × Event Op Answer)}
  {places : List Place} {index : Nat} {place : Place} {op : Op} {offered answer : Answer op}

/-- A request of a call keeps the invariant if it keeps what the call itself is held to. -/
theorem Guarded.request (holds : Guarded world trace places) (found : places[index]? = some place)
    (fenced : Fenced next (trace++[(index,⟨op,answer⟩)]) (places.set index (place.next op answer)))
    (performed : (serverMachine config reference).perform op offered world = some (answer,next))
    (other : op ≠ .replaceConnection) (called : (place.next op answer).queue ≠ none → place.call ≠ none)
    (flying : ∀ outbound, (place.next op answer).queue = some outbound → world.gate.outbound = some outbound →
      next.gate.state = .closed ∨ ∃ frame state, (place.next op answer).flight = some ⟨outbound,frame,state⟩)
    (shuts : ∀ outbound, world.gate.outbound = some outbound → place.shuts outbound →
      next.gate.state = .closed ∨ (place.next op answer).shuts outbound)
    (closes : ∀ (outbound : Nat) (old queue : OutboundQueue), world.gate.outbound = some outbound →
      world.queues[outbound]? = some old → next.queues[outbound]? = some queue → queue.closed = true →
      old.closed = true ∨ next.gate.state = .closed ∨ (place.next op answer).shuts outbound) :
    Guarded next (trace++[(index,⟨op,answer⟩)]) (places.set index (place.next op answer)) := by
  have member := List.mem_of_getElem? found
  have bound := (List.getElem?_eq_some_iff.mp found).1
  have outbounds := (perform_outbound performed other).1
  have ended (before : world.gate.state = .closed) : next.gate.state = .closed := by
    rw [perform_gateStep performed]
    exact gateStep_closed before other answer
  refine ⟨fenced,?_,?_,?_,?_⟩
  · intro later inside
    rcases List.mem_or_eq_of_mem_set inside with old | rfl
    · exact holds.gated later old
    · rw [Place.next_ungated]
      exact holds.gated place member
  · intro later inside
    rcases List.mem_or_eq_of_mem_set inside with old | rfl
    · exact holds.called later old
    · rw [Place.next_call]
      exact called
  · rw [outbounds]
    intro later inside outbound queue on
    rcases List.mem_or_eq_of_mem_set inside with old | rfl
    · exact (holds.flying later old outbound queue on).imp_left ended
    · exact flying outbound queue on
  · rw [outbounds]
    intro outbound queue on placed shut
    obtain ⟨old,before,_⟩ := (perform_closed performed other).2 outbound queue placed
    rcases closes outbound old queue on before placed shut with already | stopped | mine
    · rcases holds.shut outbound old on before already with stopped | flies
      · exact .inl (ended stopped)
      · by_cases stopped : next.gate.state = .closed
        · exact .inl stopped
        · exact .inr (exists_mem_set found flies (fun mine => (shuts outbound on mine).resolve_left stopped))
    · exact .inl stopped
    · exact .inr ⟨_,List.mem_set bound _,mine⟩

theorem Guarded.quiet (holds : Guarded world trace places) (found : places[index]? = some place)
    (fenced : Fenced next (trace++[(index,⟨op,answer⟩)]) (places.set index (place.next op answer)))
    (performed : (serverMachine config reference).perform op offered world = some (answer,next))
    (other : op ≠ .replaceConnection) (stays : place.next op answer = place) (same : next.gate = world.gate)
    (closes : ∀ (outbound : Nat) (old queue : OutboundQueue), world.queues[outbound]? = some old →
      next.queues[outbound]? = some queue → queue.closed = old.closed) :
    Guarded next (trace++[(index,⟨op,answer⟩)]) (places.set index (place.next op answer)) := by
  have member := List.mem_of_getElem? found
  refine holds.request found fenced performed other ?_ ?_ ?_ ?_
  · rw [stays]
    exact holds.called place member
  · rw [stays,same]
    exact holds.flying place member
  · rw [stays]
    exact fun outbound _ mine => .inr mine
  · intro outbound old queue _ before placed shut
    exact .inl ((closes outbound old queue before placed).symm.trans shut)

theorem Guarded.closeQueue {target : Nat} {offered answer : Answer (.closeQueue target)} (holds : Guarded world trace places)
    (found : places[index]? = some place)
    (fenced : Fenced next (trace++[(index,⟨.closeQueue target,answer⟩)]) (places.set index (place.next (.closeQueue target) answer)))
    (allowed : place.allowed (.closeQueue target))
    (performed : (serverMachine config reference).perform (.closeQueue target) offered world = some (answer,next)) :
    Guarded next (trace++[(index,⟨.closeQueue target,answer⟩)]) (places.set index (place.next (.closeQueue target) answer)) := by
  have member := List.mem_of_getElem? found
  have same : next.gate = world.gate := perform_gate performed
  have queues : next.queues = world.queues.modify target (fun queue => {queue with closed := true}) :=
    perform_queues performed
  have queue : place.queue = some target := by
    rcases allowed with ⟨_,ungated⟩ | queue
    · rw [holds.gated place member] at ungated
      cases ungated
    · exact queue
  refine holds.request found fenced performed (by simp) (holds.called place member) ?_ ?_ ?_
  · rw [same]
    exact holds.flying place member
  · exact fun outbound _ mine => .inr ⟨rfl,mine.2⟩
  · intro outbound old closed on before placed shut
    by_cases here : target = outbound
    · -- the call closes the queue of its own frame, or one whose gate is closed
      subst here
      rw [same]
      exact .inr ((holds.flying place member target queue on).imp_right (fun flies => ⟨rfl,flies⟩))
    · rw [queues] at placed
      simp only [List.getElem?_modify,here,if_false,before] at placed
      cases placed
      exact .inl shut

theorem Guarded.admitFrame {generation : ConnectionGeneration} {frame : Envelope} {valid : Bool}
    {offered answer : Answer (.admitFrame generation frame valid)} (holds : Guarded world trace places)
    (found : places[index]? = some place)
    (fenced : Fenced next (trace++[(index,⟨.admitFrame generation frame valid,answer⟩)])
      (places.set index (place.next (.admitFrame generation frame valid) answer)))
    (allowed : place.allowed (.admitFrame generation frame valid))
    (performed : (serverMachine config reference).perform (.admitFrame generation frame valid) offered world =
      some (answer,next)) :
    Guarded next (trace++[(index,⟨.admitFrame generation frame valid,answer⟩)])
      (places.set index (place.next (.admitFrame generation frame valid) answer)) := by
  obtain ⟨call,idle,grounded,silent⟩ := allowed
  have decided : Admits world.gate generation frame valid answer next.gate := by
    rw [perform_admitFrame performed,show next.gate = _ from perform_gate performed]
    exact admitFrame_cases world.gate generation frame valid
  have queues : next.queues = world.queues := perform_queues performed
  refine holds.request found fenced performed (by simp) (fun _ => by simp [call]) ?_ ?_ ?_
  · intro outbound queue on
    generalize next.gate = after at decided
    cases decided with
    | stale | invalidState => cases idle.symm.trans queue
    | rejected => exact .inl rfl
    | unvalidated target | admitted target =>
      cases queue
      exact .inr ⟨frame,_,rfl⟩
  · intro outbound on mine
    cases silent.symm.trans mine.1
  · intro outbound old queue on before placed shut
    rw [queues] at placed
    cases before.symm.trans placed
    exact .inl shut

theorem Guarded.applied {generation : ConnectionGeneration} {outbound : Nat} {result : HandleResult}
    {offered answer : Answer (.applyResult generation outbound result)} (holds : Guarded world trace places)
    (found : places[index]? = some place)
    (fenced : Fenced next (trace++[(index,⟨.applyResult generation outbound result,answer⟩)])
      (places.set index (place.next (.applyResult generation outbound result) answer)))
    (allowed : place.allowed (.applyResult generation outbound result))
    (performed : (serverMachine config reference).perform (.applyResult generation outbound result) offered world =
      some (answer,next)) :
    Guarded next (trace++[(index,⟨.applyResult generation outbound result,answer⟩)])
      (places.set index (place.next (.applyResult generation outbound result) answer)) := by
  obtain ⟨frame,state,call,queue,flies,closes⟩ := allowed
  have member := List.mem_of_getElem? found
  have queues : next.queues = world.queues := perform_queues performed
  have gate : next.gate = world.gate.applyResult generation outbound result := perform_gate performed
  refine holds.request found fenced performed (by simp) (fun given => absurd rfl given) ?_ ?_ ?_
  · intro target none
    cases none
  · -- the call closed the queue of the gate: its result closes the gate
    rintro target on ⟨closed,sent,starts,flight⟩
    cases flies.symm.trans flight
    have opened := holds.fenced.placed place member generation frame outbound call queue
    have current := holds.fenced.unique opened (holds.fenced.last on).1
    refine .inl ?_
    rw [gate]
    by_cases shut : world.gate.state = .closed
    · exact applyResult_closed shut generation outbound result
    · simp [ServerAdmission.applyResult,current,on,shut,closes closed]
  · intro target old shut on before listed closed
    rw [queues] at listed
    cases before.symm.trans listed
    exact .inl closed

theorem Guarded.replaced {offered answer : Answer .replaceConnection} (holds : Guarded world trace places)
    (found : places[index]? = some place)
    (fenced : Fenced next (trace++[(index,⟨.replaceConnection,answer⟩)]) (places.set index (place.next .replaceConnection answer)))
    (performed : (serverMachine config reference).perform .replaceConnection offered world = some (answer,next)) :
    Guarded next (trace++[(index,⟨.replaceConnection,answer⟩)]) (places.set index (place.next .replaceConnection answer)) := by
  have member := List.mem_of_getElem? found
  have inside (later : Place) (inside : later ∈ places.set index (place.next .replaceConnection answer)) :
      later ∈ places := by
    rcases List.mem_or_eq_of_mem_set inside with old | rfl
    · exact old
    · exact member
  have gate : next.gate = world.replaceConnection.2.gate := perform_gate performed
  have queues : next.queues = world.replaceConnection.2.queues := perform_queues performed
  obtain ⟨before,same,length,_⟩ := replaceConnection_opens world
  rw [same] at gate queues
  refine ⟨fenced,fun later member => holds.gated later (inside later member),
    fun later member => holds.called later (inside later member),?_,?_⟩
  · -- no call is on the new queue yet
    intro later member outbound queue on
    rw [gate] at on
    cases on
    obtain ⟨⟨generation,frame⟩,call⟩ :=
      Option.ne_none_iff_exists'.mp (holds.called later (inside later member) (by simp [queue]))
    have old := holds.fenced.opened_before (holds.fenced.placed later (inside later member) generation frame _ call queue)
    exact (Nat.lt_irrefl _ old).elim
  · intro outbound queue on listed shut
    rw [gate] at on
    cases on
    rw [queues,← length,List.getElem?_concat_length] at listed
    cases listed
    cases shut

end Guarded

theorem guarded_keeps (config : ServerConfig) (reference : Op → Bool) :
    Keeps (serverMachine config reference) placeRules (fun place _ => place.flight = none)
      ServerCall.place ServerCall.connection Guarded where
  programs call _ := call.keepsPlace config
  spawn call world trace places connection holds := by
    have start : call.place.ungated = false ∧ call.place.queue = none := by
      cases call <;> first
        | exact ⟨rfl,rfl⟩
        | exact connection.elim
    refine ⟨(fenced_keeps config reference).spawn call world trace places trivial holds.fenced,?_,?_,?_,?_⟩
    · intro place member
      rcases List.mem_append.mp member with old | new
      · exact holds.gated place old
      · cases List.mem_singleton.mp new
        exact start.1
    · intro place member
      rcases List.mem_append.mp member with old | new
      · exact holds.called place old
      · cases List.mem_singleton.mp new
        exact fun queue => absurd start.2 queue
    · intro place member outbound queue
      rcases List.mem_append.mp member with old | new
      · exact holds.flying place old outbound queue
      · cases List.mem_singleton.mp new
        cases start.2.symm.trans queue
    · intro outbound queue on placed shut
      rcases holds.shut outbound queue on placed shut with ended | ⟨place,member,mine⟩
      · exact .inl ended
      · exact .inr ⟨place,List.mem_append_left _ member,mine⟩
  env elapsed world next trace places holds moved := by
    have fenced := (fenced_keeps config reference).env elapsed world next trace places holds.fenced moved
    change World.tick elapsed world = some next at moved
    unfold World.tick at moved
    split at moved
    · cases moved
      exact {holds with fenced := fenced}
    · cases moved
  request world next trace places index place op offered answer holds found allowed performed := by
    have fenced := (fenced_keeps config reference).request world next trace places index place op offered answer
      holds.fenced found allowed performed
    have queues := perform_queues performed
    cases op with
    | replaceConnection => exact holds.replaced found fenced performed
    | admitFrame generation frame valid => exact holds.admitFrame found fenced allowed performed
    | applyResult generation outbound result => exact holds.applied found fenced allowed performed
    | closeQueue target => exact holds.closeQueue found fenced allowed performed
    | enqueueBatch target frames =>
      refine holds.quiet found fenced performed (by simp) rfl (perform_gate performed) ?_
      intro outbound old queue before placed
      rcases perform_enqueue performed with ⟨error,rfl,rfl⟩ | ⟨sent,rfl,_,_,_⟩
      · cases before.symm.trans placed
        rfl
      · rw [queues] at placed
        simp only [World.queuesAfter,List.getElem?_modify,before] at placed
        cases placed
        split <;> rfl
    | _ =>
      refine holds.quiet found fenced performed (by simp) rfl (perform_gate performed) ?_
      intro outbound old queue before placed
      rw [queues] at placed
      cases before.symm.trans placed
      rfl

/-- The admission gate in every state reachable by the calls of a connection, over the
reference session repository and whatever the other dependencies answer. -/
theorem gate_invariant (config : ServerConfig) (reference : Op → Bool)
    (repository : ∀ op, op.session = true → reference op = true) {world : World} (fresh : world.Fresh)
    {moves : List ServerMove} {pool : ServerPool} (calls : ∀ call, .spawn call ∈ moves → call.connection)
    (ran : (serverMachine config reference).run {world := world} moves = some pool) :
    (pool.world.gate.state = .ready ∨ pool.world.gate.state = .resuming →
      pool.world.gate.sessionID ≠ [] ∧ pool.world.stores pool.world.gate.sessionID pool.world.gate.capabilities) ∧
    (pool.world.gate.state = .awaitingHandshake →
      pool.world.gate.sessionID = [] ∧ pool.world.gate.capabilities = .empty) ∧
    (pool.world.gate.state = .closed → pool.world.gate.capabilities = .empty ∧
      ∀ move next, (serverMachine config reference).step pool move = some next → next.world.gate.state ≠ .closed →
        ∃ index answer, next.trace = pool.trace++[(index,⟨.replaceConnection,answer⟩)]) ∧
    (∀ outbound queue, pool.world.gate.outbound = some outbound → pool.world.queues[outbound]? = some queue →
      queue.closed = true →
      (∀ thread flight, inFlight pool.trace thread = some flight → flight.outbound ≠ outbound) →
      pool.world.gate.state = .closed) := by
  have initial : Gated world [] [] := by
    refine ⟨fresh.gate,by simp,by simp,?_,?_⟩ <;> simp [fresh.gate]
  have start : Guarded world [] [] := by
    refine ⟨fenced_start fresh,by simp,by simp,by simp,?_⟩
    simp [fresh.gate]
  obtain ⟨_,_,gated⟩ := (gated_keeps config reference repository).run_empty initial (fun _ _ => trivial) ran
  obtain ⟨places,aligned,guarded,followed⟩ := (guarded_keeps config reference).run_followed start calls ran
  have shaped : pool.world.gate.Shaped := gated.gate ▸ gateOf_shaped pool.trace
  refine ⟨fun opened => ⟨shaped.opened opened,gated.capabilities opened⟩,shaped.awaiting,fun shut => ⟨shaped.closed shut,?_⟩,?_⟩
  · intro move next stepped opens
    obtain ⟨later,_,progress⟩ := aligned.step (fun task _ => task.keepsPlace config) stepped
    cases progress with
    | spawn task same recorded => exact absurd (same ▸ shut) opens
    | env elapsed moved recorded =>
      change World.tick elapsed pool.world = some next.world at moved
      unfold World.tick at moved
      split at moved
      · rw [← Option.some.inj moved] at opens
        exact absurd shut opens
      · cases moved
    | thread index offered place op answer found allowed performed recorded =>
      by_cases replaces : op = .replaceConnection
      · subst replaces
        exact ⟨index,answer,recorded⟩
      · rw [perform_gateStep performed] at opens
        exact absurd (gateStep_closed shut replaces answer) opens
  · intro outbound queue on placed shut grounded
    rcases guarded.shut outbound queue on placed shut with ended | ⟨place,member,_,frame,state,flies⟩
    · exact ended
    · obtain ⟨thread,found⟩ := List.mem_iff_getElem?.mp member
      exact absurd rfl (grounded thread _ ((followed_flight followed found).symm.trans flies))

def panicking : (op : Op) → Answer op
  | .lookup _ _ => .error .panic
  | op => working (lit "s") (lit "f") op

def panickingPingMoves : List ServerMove :=
  connectMoves ++ .spawn (.handle 1 pingFrame)::turns 2 6 panicking

theorem gate_invariant_panicked :
    ∃ pool ∈ (serverMachine {} (fun _ => true)).run {world := {dedup := {ttl := 1}}} panickingPingMoves,
    ∃ queue ∈ pool.world.queues[0]?, queue.closed = true ∧ pool.world.gate.state = .closed := by
  have facts : ∃ pool ∈ (serverMachine {} (fun _ => true)).run {world := {dedup := {ttl := 1}}} panickingPingMoves,
      ∃ queue ∈ pool.world.queues[0]?, queue.closed = true ∧ pool.world.gate.outbound = some 0 ∧
        ∀ thread ∈ pool.trace.map Prod.fst, inFlight pool.trace thread = none := by decide +kernel
  have calls : ∀ call, .spawn call ∈ panickingPingMoves → call.connection := by
    simp [panickingPingMoves,connectMoves,ServerCall.connection]
  obtain ⟨pool,ran,queue,placed,closed,on,grounded⟩ := facts
  obtain ⟨_,_,_,agrees⟩ := gate_invariant {} (fun _ => true) (fun _ _ => rfl) ⟨rfl,rfl⟩ calls ran
  refine ⟨pool,ran,queue,placed,closed,agrees 0 queue on placed closed (fun thread flight flies => ?_)⟩
  rw [grounded thread (inFlight_recorded flies)] at flies
  cases flies

end Kmtproto
