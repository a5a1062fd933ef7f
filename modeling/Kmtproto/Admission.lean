import Kmtproto.Fencing

/-! What the calls in flight on a connection may do to its gate. The gate tells them apart
by generation and queue only, so the result of any of them ends the handshake in progress
and speaks for the session the gate has at that time. -/
namespace Kmtproto
open Json Interaction

def flightStep (flight : Option PendingFrame) : Event Op Answer → Option PendingFrame
  | ⟨.admitFrame _ frame _,.unvalidated outbound⟩ => some ⟨outbound,frame,none⟩
  | ⟨.admitFrame _ frame _,.admitted outbound state⟩ => some ⟨outbound,frame,some state⟩
  | ⟨.applyResult _ _ _,_⟩ => none
  | _ => flight

/-- The frame a call has in flight, from the gate's decision to the application of its result. -/
def inFlight (trace : List (Nat × Event Op Answer)) (thread : Nat) : Option PendingFrame :=
  (answered trace thread).foldl flightStep none

def PendingFrame.shakes (flight : PendingFrame) : Option Nat :=
  if flight.state = some .awaitingHandshake ∧ flight.frame.type ≠ .error then some flight.outbound else none

def handshaking (trace : List (Nat × Event Op Answer)) (thread : Nat) : Option Nat :=
  (inFlight trace thread).bind PendingFrame.shakes

section PendingFrame
variable {trace : List (Nat × Event Op Answer)} {thread : Nat}

theorem inFlight_snoc (index : Nat) (event : Event Op Answer) :
    inFlight (trace++[(index,event)]) thread =
      if index = thread then flightStep (inFlight trace thread) event else inFlight trace thread := by
  unfold inFlight
  rw [answered_snoc]
  split
  · rw [List.foldl_append]
    rfl
  · rw [List.append_nil]

theorem handshaking_snoc (index : Nat) (event : Event Op Answer) :
    handshaking (trace++[(index,event)]) thread =
      if index = thread then (flightStep (inFlight trace thread) event).bind PendingFrame.shakes
      else handshaking trace thread := by
  unfold handshaking
  rw [inFlight_snoc]
  split <;> rfl

theorem Place.next_flight (place : Place) (op : Op) (answer : Answer op) :
    (place.next op answer).flight = flightStep place.flight ⟨op,answer⟩ := by
  cases op with
  | admitFrame generation frame valid => cases answer <;> rfl
  | _ => rfl

theorem placeRules_flight (place : Place) (events : List (Event Op Answer)) :
    (placeRules.after place events).flight = events.foldl flightStep place.flight := by
  induction events generalizing place with
  | nil => rfl
  | cons event events ih =>
    rw [List.foldl_cons,← place.next_flight]
    exact ih _

theorem followed_flight {calls : List ServerCall} {places : List Place} {place : Place}
    (followed : Followed placeRules ServerCall.place calls trace places) (found : places[thread]? = some place) :
    place.flight = inFlight trace thread := by
  obtain ⟨call,placed,rfl⟩ : ∃ call, calls[thread]? = some call ∧
      placeRules.after call.place (answered trace thread) = place := by
    simpa [followed.states,List.getElem?_mapIdx] using found
  rw [placeRules_flight]
  have start : call.place.flight = none := by cases call <;> rfl
  rw [start]
  rfl

theorem inFlight_recorded {flight : PendingFrame} (flies : inFlight trace thread = some flight) :
    thread ∈ trace.map Prod.fst := by
  by_contra absent
  have quiet : answered trace thread = [] := by
    refine List.filterMap_eq_nil_iff.mpr (fun entry member => if_neg (fun same => absent ?_))
    exact List.mem_map.mpr ⟨entry,member,same⟩
  simp [inFlight,quiet] at flies

end PendingFrame

/-- No other call on the connection completes while a handshake on it is being processed. -/
def HandshakeUndisturbed (before : List (Nat × Event Op Answer)) (entry : Nat × Event Op Answer) : Prop :=
  match entry.2 with
  | ⟨.applyResult _ outbound _,_⟩ => (gateOf before).outbound = some outbound → (gateOf before).state ≠ .closed →
    ∀ other ∈ before.map Prod.fst, other ≠ entry.1 → handshaking before other ≠ some outbound
  | _ => True

instance (before : List (Nat × Event Op Answer)) (entry : Nat × Event Op Answer) :
    Decidable (HandshakeUndisturbed before entry) := by
  unfold HandshakeUndisturbed
  split <;> infer_instance

/-- One handshake at a time: the gate's flag is up while it is being processed. -/
structure Lone (gate : ServerAdmission) (trace : List (Nat × Event Op Answer)) : Prop where
  flagged : ∀ thread outbound, handshaking trace thread = some outbound → gate.outbound = some outbound →
    gate.handshake = true ∨ gate.state = .closed
  unique : ∀ one two outbound, handshaking trace one = some outbound → handshaking trace two = some outbound → one = two

section Lone
variable {gate : ServerAdmission} {trace : List (Nat × Event Op Answer)} {index : Nat}

theorem handshaking_fewer {event : Event Op Answer}
    (ends : (flightStep (inFlight trace index) event).bind PendingFrame.shakes = none ∨
      flightStep (inFlight trace index) event = inFlight trace index)
    (thread outbound : Nat) (shakes : handshaking (trace++[(index,event)]) thread = some outbound) :
    handshaking trace thread = some outbound := by
  rw [handshaking_snoc] at shakes
  split at shakes
  · rename_i same
    subst same
    rcases ends with none | same
    · rw [none] at shakes
      cases shakes
    · rw [same] at shakes
      exact shakes
  · exact shakes

theorem Lone.event {event : Event Op Answer} {next : ServerAdmission} (lone : Lone gate trace)
    (ends : (flightStep (inFlight trace index) event).bind PendingFrame.shakes = none ∨
      flightStep (inFlight trace index) event = inFlight trace index)
    (flagged : ∀ thread outbound, handshaking (trace++[(index,event)]) thread = some outbound →
      next.outbound = some outbound → next.handshake = true ∨ next.state = .closed) :
    Lone next (trace++[(index,event)]) := by
  refine ⟨flagged,fun one two outbound first second => lone.unique one two outbound ?_ ?_⟩
  · exact handshaking_fewer ends one outbound first
  · exact handshaking_fewer ends two outbound second

/-- A handshake is let through only while none is being processed. -/
theorem Lone.admitFrame {generation : ConnectionGeneration} {frame : Envelope} {valid : Bool} {answer : Admission}
    {after : ServerAdmission} (lone : Lone gate trace) (decided : Admits gate generation frame valid answer after) :
    Lone after (trace++[(index,⟨.admitFrame generation frame valid,answer⟩)]) := by
  cases decided with
  | stale | invalidState =>
    refine lone.event (.inr rfl) (fun thread outbound shakes => lone.flagged thread outbound ?_)
    exact handshaking_fewer (.inr rfl) thread outbound shakes
  | unvalidated target current same invalid =>
    refine lone.event (.inl rfl) (fun thread outbound shakes => lone.flagged thread outbound ?_)
    exact handshaking_fewer (.inl rfl) thread outbound shakes
  | rejected => exact lone.event (.inr rfl) (fun _ _ _ _ => .inr rfl)
  | admitted target current same live allowed session alone =>
    by_cases shakes : gate.state = .awaitingHandshake ∧ frame.type ≠ .error
    · -- the flag was down, so the new handshake is the only one on its queue
      have others (thread outbound : Nat) (other : handshaking trace thread = some outbound)
          (on : gate.outbound = some outbound) : False := by
        rcases lone.flagged thread outbound other on with up | closed
        · rw [alone shakes.1] at up
          cases up
        · exact live closed
      have mine (flight : Option PendingFrame) : (flightStep flight
          ⟨.admitFrame generation frame valid,.admitted target gate.state⟩).bind PendingFrame.shakes = some target := by
        simp [flightStep,PendingFrame.shakes,shakes]
      refine ⟨fun _ _ _ _ => .inl (by simp [shakes]),fun one two outbound first second => ?_⟩
      rw [handshaking_snoc,mine] at first second
      split at first <;> split at second
      · rename_i here there
        exact here.symm.trans there
      · cases first
        exact (others two target second current).elim
      · cases second
        exact (others one target first current).elim
      · exact lone.unique one two outbound first second
    · have ends : (flightStep (inFlight trace index)
          ⟨.admitFrame generation frame valid,.admitted target gate.state⟩).bind PendingFrame.shakes = none := by
        simpa [flightStep,PendingFrame.shakes] using shakes
      refine lone.event (.inl ends) (fun thread outbound other on => ?_)
      rcases lone.flagged thread outbound (handshaking_fewer (.inl ends) thread outbound other) on with up | closed
      · exact .inl (by simp [up])
      · exact absurd closed live

theorem applyResult_closed (shut : gate.state = .closed) (generation : ConnectionGeneration) (outbound : Nat)
    (result : HandleResult) : (gate.applyResult generation outbound result).state = .closed := by
  unfold ServerAdmission.applyResult
  split <;> exact shut

theorem applyResult_outbound (generation : ConnectionGeneration) (outbound : Nat) (result : HandleResult) :
    (gate.applyResult generation outbound result).outbound = gate.outbound := by
  have effect := applyResult_cases gate generation outbound result
  generalize gate.applyResult generation outbound result = after at effect
  cases effect <;> rfl

/-- A result ends the handshake it belongs to, and finds no other one on its queue. -/
theorem Lone.applied {generation : ConnectionGeneration} {outbound : Nat} {result : HandleResult}
    (lone : Lone gate trace) (gated : gate = gateOf trace)
    (undisturbed : HandshakeUndisturbed trace (index,⟨.applyResult generation outbound result,()⟩)) :
    Lone (gate.applyResult generation outbound result)
      (trace++[(index,⟨.applyResult generation outbound result,()⟩)]) := by
  refine lone.event (.inl rfl) (fun thread target shakes on => ?_)
  have before := handshaking_fewer (.inl rfl) thread target shakes
  have other : thread ≠ index := by
    rintro rfl
    rw [handshaking_snoc,if_pos rfl] at shakes
    cases shakes
  rw [applyResult_outbound] at on
  by_cases shut : gate.state = .closed
  · exact .inr (applyResult_closed shut generation outbound result)
  by_cases here : outbound = target
  · subst here
    have recorded : thread ∈ trace.map Prod.fst := by
      obtain ⟨flight,flies,_⟩ := Option.bind_eq_some_iff.mp before
      exact inFlight_recorded flies
    exact absurd before (undisturbed (gated ▸ on) (gated ▸ shut) thread recorded other)
  · have stale : gate.applyResult generation outbound result = gate := by
      refine if_pos (.inr (fun same => here ?_))
      exact Option.some.inj (same.trans on)
    rw [stale]
    exact lone.flagged thread target before on

end Lone

/-- When a step makes the gate READY for a session, the valid frames that other calls have in
flight on the connection name that session. -/
def HandshakeSettled (before : List (Nat × Event Op Answer)) (entry : Nat × Event Op Answer) : Prop :=
  let gate := gateOf before
  let next := gateStep gate entry.2
  next.state = .ready → ¬(gate.state = .ready ∧ gate.sessionID = next.sessionID) →
    ∀ other ∈ before.map Prod.fst, other ≠ entry.1 → ∀ flight ∈ inFlight before other,
      next.outbound = some flight.outbound → flight.state ≠ none → flight.frame.sessionID = next.sessionID

instance (before : List (Nat × Event Op Answer)) (entry : Nat × Event Op Answer) :
    Decidable (HandshakeSettled before entry) := by
  unfold HandshakeSettled
  infer_instance

/-- While the gate is READY, the valid frames in flight on its connection name its session. -/
def Settled (gate : ServerAdmission) (trace : List (Nat × Event Op Answer)) : Prop :=
  gate.state = .ready → ∀ thread flight, inFlight trace thread = some flight → gate.outbound = some flight.outbound →
    flight.state ≠ none → flight.frame.sessionID = gate.sessionID

section Settled
variable {gate : ServerAdmission} {trace : List (Nat × Event Op Answer)} {index : Nat}

theorem Settled.admitFrame {generation : ConnectionGeneration} {frame : Envelope} {valid : Bool} {answer : Admission}
    {after : ServerAdmission} (settled : Settled gate trace) (decided : Admits gate generation frame valid answer after) :
    Settled after (trace++[(index,⟨.admitFrame generation frame valid,answer⟩)]) := by
  intro ready thread flight flies on named
  rw [inFlight_snoc] at flies
  cases decided with
  | stale | invalidState =>
    refine settled ready thread flight ?_ on named
    split at flies <;> exact flies
  | rejected => cases ready
  | unvalidated target current same invalid =>
    split at flies
    · cases flies
      exact absurd rfl named
    · exact settled ready thread flight flies on named
  | admitted target current same live allowed session alone =>
    have before : gate.state = .ready := by
      simp only [] at ready
      split at ready
      · cases ready
      · exact ready
    split at flies
    · cases flies
      exact session before
    · exact settled before thread flight flies on named

theorem Settled.applied {generation : ConnectionGeneration} {outbound : Nat} {result : HandleResult}
    (settled : Settled (gateOf trace) trace)
    (condition : HandshakeSettled trace (index,⟨.applyResult generation outbound result,()⟩)) :
    Settled ((gateOf trace).applyResult generation outbound result)
      (trace++[(index,⟨.applyResult generation outbound result,()⟩)]) := by
  intro ready thread flight flies on named
  rw [inFlight_snoc] at flies
  split at flies
  · cases flies
  rename_i other
  by_cases kept : (gateOf trace).state = .ready ∧
      (gateOf trace).sessionID = ((gateOf trace).applyResult generation outbound result).sessionID
  · rw [applyResult_outbound] at on
    rw [← kept.2]
    exact settled kept.1 thread flight flies on named
  · exact condition ready kept thread (inFlight_recorded flies) (Ne.symm other) flight flies on named

end Settled

structure Flying (world : World) (trace : List (Nat × Event Op Answer)) (places : List Place) : Prop where
  fenced : Fenced world trace places
  gate : world.gate = gateOf trace
  opened : ∀ thread flight, inFlight trace thread = some flight → flight.outbound < world.queues.length
  lone : Throughout HandshakeUndisturbed [] trace → Lone world.gate trace
  settled : Throughout HandshakeSettled [] trace → Settled world.gate trace

section Flying
variable {config : ServerConfig} {reference : Op → Bool} {world next : World} {trace : List (Nat × Event Op Answer)}
  {places : List Place} {index : Nat} {place : Place} {op : Op} {offered answer : Answer op}

theorem perform_longer (performed : (serverMachine config reference).perform op offered world = some (answer,next)) :
    world.queues.length ≤ next.queues.length := by
  by_cases opens : op = .replaceConnection
  · subst opens
    obtain ⟨queues,same,length,_⟩ := replaceConnection_opens world
    have moved : next.queues = world.replaceConnection.2.queues := perform_queues performed
    rw [moved,same,← length]
    simp
  · rw [(perform_closed performed opens).1]

theorem Flying.request (holds : Flying world trace places)
    (fenced : Fenced next (trace++[(index,⟨op,answer⟩)]) (places.set index (place.next op answer)))
    (performed : (serverMachine config reference).perform op offered world = some (answer,next))
    (opened : ∀ thread flight, inFlight (trace++[(index,⟨op,answer⟩)]) thread = some flight →
      inFlight trace thread = some flight ∨ world.gate.outbound = some flight.outbound)
    (lone : HandshakeUndisturbed trace (index,⟨op,answer⟩) → Lone world.gate trace →
      Lone next.gate (trace++[(index,⟨op,answer⟩)]))
    (settled : HandshakeSettled trace (index,⟨op,answer⟩) → Settled world.gate trace →
      Settled next.gate (trace++[(index,⟨op,answer⟩)])) :
    Flying next (trace++[(index,⟨op,answer⟩)]) (places.set index (place.next op answer)) := by
  have gate : next.gate = gateOf (trace++[(index,⟨op,answer⟩)]) := by
    rw [gateOf_snoc,← holds.gate]
    exact perform_gateStep performed
  refine ⟨fenced,gate,fun thread flight flies => ?_,fun condition => ?_,fun condition => ?_⟩
  · rcases opened thread flight flies with old | current
    · exact (holds.opened thread flight old).trans_le (perform_longer performed)
    · have last := (holds.fenced.last current).2
      have longer := perform_longer performed
      omega
  · obtain ⟨before,last⟩ := throughout_snoc.mp condition
    exact lone last (holds.lone before)
  · obtain ⟨before,last⟩ := throughout_snoc.mp condition
    exact settled last (holds.settled before)

theorem Flying.quiet (holds : Flying world trace places)
    (fenced : Fenced next (trace++[(index,⟨op,answer⟩)]) (places.set index (place.next op answer)))
    (performed : (serverMachine config reference).perform op offered world = some (answer,next))
    (quiet : ∀ flight, flightStep flight ⟨op,answer⟩ = flight) (same : next.gate = world.gate) :
    Flying next (trace++[(index,⟨op,answer⟩)]) (places.set index (place.next op answer)) := by
  have flights (thread : Nat) : inFlight (trace++[(index,⟨op,answer⟩)]) thread = inFlight trace thread := by
    rw [inFlight_snoc,quiet,ite_self]
  refine holds.request fenced performed (fun thread flight flies => .inl ?_) (fun _ lone => ?_) (fun _ settled => ?_)
  · rwa [flights] at flies
  · rw [same]
    refine lone.event (.inr (quiet _)) (fun thread outbound shakes => lone.flagged thread outbound ?_)
    exact handshaking_fewer (.inr (quiet _)) thread outbound shakes
  · rw [same]
    intro ready thread flight flies
    rw [flights] at flies
    exact settled ready thread flight flies

theorem Flying.admitFrame {generation : ConnectionGeneration} {frame : Envelope} {valid : Bool}
    {offered answer : Answer (.admitFrame generation frame valid)} (holds : Flying world trace places)
    (fenced : Fenced next (trace++[(index,⟨.admitFrame generation frame valid,answer⟩)])
      (places.set index (place.next (.admitFrame generation frame valid) answer)))
    (performed : (serverMachine config reference).perform (.admitFrame generation frame valid) offered world =
      some (answer,next)) :
    Flying next (trace++[(index,⟨.admitFrame generation frame valid,answer⟩)])
      (places.set index (place.next (.admitFrame generation frame valid) answer)) := by
  have decided : Admits world.gate generation frame valid answer next.gate := by
    rw [perform_admitFrame performed,show next.gate = _ from perform_gate performed]
    exact admitFrame_cases world.gate generation frame valid
  refine holds.request fenced performed (fun thread flight flies => ?_) (fun _ lone => lone.admitFrame decided)
    (fun _ settled => settled.admitFrame decided)
  rw [inFlight_snoc] at flies
  generalize next.gate = after at decided
  cases decided with
  | stale | invalidState | rejected => split at flies <;> exact .inl flies
  | unvalidated target current | admitted target current =>
    split at flies
    · cases flies
      exact .inr current
    · exact .inl flies

theorem Flying.replaced {offered answer : Answer .replaceConnection} (holds : Flying world trace places)
    (fenced : Fenced next (trace++[(index,⟨.replaceConnection,answer⟩)]) (places.set index (place.next .replaceConnection answer)))
    (performed : (serverMachine config reference).perform .replaceConnection offered world = some (answer,next)) :
    Flying next (trace++[(index,⟨.replaceConnection,answer⟩)]) (places.set index (place.next .replaceConnection answer)) := by
  have flights (thread : Nat) : inFlight (trace++[(index,⟨.replaceConnection,answer⟩)]) thread = inFlight trace thread := by
    rw [inFlight_snoc]
    exact ite_self _
  have gate : next.gate = world.replaceConnection.2.gate := perform_gate performed
  obtain ⟨queues,same,_⟩ := replaceConnection_opens world
  rw [same] at gate
  refine holds.request fenced performed (fun thread flight flies => .inl ?_) (fun _ lone => ?_) (fun _ _ => ?_)
  · rwa [flights] at flies
  · -- nothing is in flight on a queue that was not there before
    refine lone.event (.inr rfl) (fun thread outbound shakes on => ?_)
    have before := handshaking_fewer (.inr rfl) thread outbound shakes
    obtain ⟨flight,flies,queue⟩ := Option.bind_eq_some_iff.mp before
    have old := holds.opened thread flight flies
    rw [gate] at on
    cases on
    unfold PendingFrame.shakes at queue
    split at queue
    · have same := Option.some.inj queue
      omega
    · cases queue
  · intro ready
    rw [gate] at ready
    cases ready

end Flying

theorem flying_keeps (config : ServerConfig) (reference : Op → Bool) :
    Keeps (serverMachine config reference) placeRules (fun place _ => place.flight = none)
      ServerCall.place (fun _ => True) Flying where
  programs call _ := call.keepsPlace config
  spawn call world trace places admitted holds :=
    {holds with fenced := (fenced_keeps config reference).spawn call world trace places admitted holds.fenced}
  env elapsed world next trace places holds moved := by
    have fenced := (fenced_keeps config reference).env elapsed world next trace places holds.fenced moved
    change World.tick elapsed world = some next at moved
    unfold World.tick at moved
    split at moved
    · cases moved
      exact {holds with fenced := fenced}
    · cases moved
  request world next trace places index place op offered answer holds found allowed performed := by
    have fenced := (fenced_keeps config reference).request world next trace places index place op offered answer
      holds.fenced found allowed performed
    cases op with
    | replaceConnection => exact holds.replaced fenced performed
    | admitFrame generation frame valid => exact holds.admitFrame fenced performed
    | applyResult generation outbound result =>
      have gate : next.gate = world.gate.applyResult generation outbound result := perform_gate performed
      refine holds.request fenced performed (fun thread flight flies => .inl ?_) (fun condition lone => ?_)
        (fun condition settled => ?_)
      · rw [inFlight_snoc] at flies
        split at flies
        · cases flies
        · exact flies
      · rw [gate]
        exact lone.applied holds.gate condition
      · rw [gate,holds.gate]
        exact Settled.applied (holds.gate ▸ settled) condition
    | _ => exact holds.quiet fenced performed (fun _ => rfl) (perform_gate performed)

theorem flying_start {world : World} (fresh : world.Fresh) : Flying world [] [] := by
  refine ⟨fenced_start fresh,fresh.gate,?_,fun _ => ⟨?_,?_⟩,fun _ ready => ?_⟩
  · intro thread flight flies
    cases flies
  · intro thread outbound shakes
    cases shakes
  · intro one two outbound first
    cases first
  · rw [fresh.gate] at ready
    cases ready

/-- While no other call on a connection completes during its handshake, at most one HELLO or
RESUME that the awaiting gate let through is being processed on it. -/
theorem one_handshake (config : ServerConfig) (reference : Op → Bool) {world : World} (fresh : world.Fresh)
    {moves : List ServerMove} {pool : ServerPool}
    (ran : (serverMachine config reference).run {world := world} moves = some pool)
    (undisturbed : Throughout HandshakeUndisturbed [] pool.trace) {one two outbound : Nat}
    (first : handshaking pool.trace one = some outbound) (second : handshaking pool.trace two = some outbound) :
    one = two := by
  obtain ⟨places,_,holds⟩ := (flying_keeps config reference).run_empty (flying_start fresh) (fun _ _ => trivial) ran
  exact (holds.lone undisturbed).unique one two outbound first second

def oneHelloMoves : List ServerMove :=
  .spawn .replaceConnection::turns 0 1 (working (lit "s") (lit "f")) ++
  .spawn (.handle 1 {type := .hello, payload := lit "[]"})::turns 1 4 (working (lit "s") (lit "f")) ++
  .spawn (.handle 1 helloFrame)::turns 2 3 (working (lit "s") (lit "f"))

theorem one_handshake_hello :
    ∃ pool ∈ (serverMachine {} (fun _ => true)).run {world := {dedup := {ttl := 1}}} oneHelloMoves,
      handshaking pool.trace 2 = some 0 ∧ ∀ other, handshaking pool.trace other = some 0 → other = 2 := by
  have facts : ∃ pool ∈ (serverMachine {} (fun _ => true)).run {world := {dedup := {ttl := 1}}} oneHelloMoves,
      handshaking pool.trace 2 = some 0 ∧ Throughout HandshakeUndisturbed [] pool.trace := by decide +kernel
  obtain ⟨pool,ran,shakes,undisturbed⟩ := facts
  exact ⟨pool,ran,shakes,fun other also => one_handshake {} _ ⟨rfl,rfl⟩ ran undisturbed also shakes⟩

/-- A HELLO whose payload is no JSON object: answered with BAD_REQUEST, which closes nothing. -/
def malformedFrame : Envelope := {type := .hello, payload := lit "[]"}

def twoHelloMoves : List ServerMove :=
  .spawn .replaceConnection::turns 0 1 (working (lit "s") (lit "f")) ++
  .spawn (.handle 1 helloFrame)::turns 1 3 (working (lit "s") (lit "f")) ++
  .spawn (.handle 1 malformedFrame)::turns 2 4 (working (lit "s") (lit "f")) ++
  .spawn (.handle 1 helloFrame)::turns 3 2 (working (lit "t") (lit "f"))

/-- The answer to a malformed frame takes the flag of the handshake down: two HELLOs are
processed at once, and each welcomes a session on the one connection. -/
theorem two_handshakes_processed :
    ∃ pool ∈ (serverMachine {} (fun _ => true)).run {world := {dedup := {ttl := 1}}} twoHelloMoves,
      handshaking pool.trace 1 = some 0 ∧ handshaking pool.trace 3 = some 0 ∧
      ∃ later ∈ (serverMachine {} (fun _ => true)).run pool
          (turns 1 6 (working (lit "s") (lit "f")) ++ turns 3 7 (working (lit "t") (lit "f"))),
        (later.world.log 0).map (fun frame => (frame.type,frame.sessionID)) =
          [(.error,[]),(.welcome,lit "s"),(.welcome,lit "t")] := by
  decide +kernel

/-- What may take a session from a READY gate: a replaced connection, a rejected frame, a
RESUME of the session, a result that closes, or the result of a frame of the session or of
one that does not validate. -/
inductive Departs (sessionID : Bytes) (flight : Option PendingFrame) : Event Op Answer → Prop
  | replaced (answer : Answer .replaceConnection) : Departs sessionID flight ⟨.replaceConnection,answer⟩
  | rejected (generation : ConnectionGeneration) (frame : Envelope) (valid : Bool) (outbound : Nat) :
      Departs sessionID flight ⟨.admitFrame generation frame valid,.rejected outbound⟩
  | resumes (generation : ConnectionGeneration) (frame : Envelope) (valid : Bool) (outbound : Nat)
      (state : ServerAdmissionState) (about : frame.sessionID = sessionID) :
      Departs sessionID flight ⟨.admitFrame generation frame valid,.admitted outbound state⟩
  | closes (generation : ConnectionGeneration) (outbound : Nat) (result : HandleResult) (asked : result.close = true) :
      Departs sessionID flight ⟨.applyResult generation outbound result,()⟩
  | invalid (generation : ConnectionGeneration) (outbound : Nat) (result : HandleResult) (frame : Envelope)
      (flies : flight = some ⟨outbound,frame,none⟩) :
      Departs sessionID flight ⟨.applyResult generation outbound result,()⟩
  | about (generation : ConnectionGeneration) (outbound : Nat) (result : HandleResult) (frame : Envelope)
      (state : Option ServerAdmissionState) (flies : flight = some ⟨outbound,frame,state⟩)
      (about : frame.sessionID = sessionID) : Departs sessionID flight ⟨.applyResult generation outbound result,()⟩

section Departs
variable {gate : ServerAdmission} {trace : List (Nat × Event Op Answer)} {index : Nat}

theorem Admits.departs {generation : ConnectionGeneration} {frame : Envelope} {valid : Bool} {answer : Admission}
    {after : ServerAdmission} (decided : Admits gate generation frame valid answer after) (ready : gate.state = .ready)
    (leaves : ¬(after.state = .ready ∧ after.sessionID = gate.sessionID)) (flight : Option PendingFrame) :
    Departs gate.sessionID flight ⟨.admitFrame generation frame valid,answer⟩ := by
  cases decided with
  | stale | invalidState | unvalidated => exact absurd ⟨ready,rfl⟩ leaves
  | rejected target => exact .rejected generation frame valid target
  | admitted target current same live allowed session alone =>
    exact .resumes generation frame valid target _ (session ready)

theorem Applies.departs {generation : ConnectionGeneration} {outbound : Nat} {result : HandleResult} {after : ServerAdmission}
    {frame : Envelope} {state : Option ServerAdmissionState} (effect : Applies gate generation outbound result after)
    (ready : gate.state = .ready) (leaves : ¬(after.state = .ready ∧ after.sessionID = gate.sessionID))
    (settled : Settled gate trace) (flies : inFlight trace index = some ⟨outbound,frame,state⟩) :
    Departs gate.sessionID (inFlight trace index) ⟨.applyResult generation outbound result,()⟩ := by
  have mine (current : gate.outbound = some outbound) :
      Departs gate.sessionID (inFlight trace index) ⟨.applyResult generation outbound result,()⟩ := by
    cases state with
    | none => exact .invalid generation outbound result frame flies
    | some state =>
      exact .about generation outbound result frame _ flies (settled ready index _ flies current (by simp))
  cases effect with
  | stale | kept => exact absurd ⟨ready,rfl⟩ leaves
  | closed shut => cases ready.symm.trans shut
  | close current same asked => exact .closes generation outbound result asked
  | abandon current | ready current => exact mine current
  | lost current same resuming => cases ready.symm.trans resuming

end Departs

/-- While a handshake makes the gate READY only when the connection has no valid frame of
another session in flight, a READY gate loses its session only to a frame of that session, a
rejected or invalid frame, a result that closes, or Replace. -/
theorem ready_session_kept (config : ServerConfig) (reference : Op → Bool) {world : World} (fresh : world.Fresh)
    {moves : List ServerMove} {move : ServerMove} {pool next : ServerPool}
    (ran : (serverMachine config reference).run {world := world} moves = some pool)
    (settled : Throughout HandshakeSettled [] pool.trace)
    (stepped : (serverMachine config reference).step pool move = some next) (ready : pool.world.gate.state = .ready)
    (leaves : ¬(next.world.gate.state = .ready ∧ next.world.gate.sessionID = pool.world.gate.sessionID)) :
    ∃ index event, next.trace = pool.trace++[(index,event)] ∧
      Departs pool.world.gate.sessionID (inFlight pool.trace index) event := by
  obtain ⟨places,aligned,holds,followed⟩ :=
    (flying_keeps config reference).run_followed (flying_start fresh) (fun _ _ => trivial) ran
  obtain ⟨later,_,_,progress⟩ := (flying_keeps config reference).step aligned holds (fun _ _ => trivial) stepped
  cases progress with
  | spawn task same recorded =>
    rw [same] at leaves
    exact absurd ⟨ready,rfl⟩ leaves
  | env elapsed moved recorded =>
    change World.tick elapsed pool.world = some next.world at moved
    unfold World.tick at moved
    split at moved
    · rw [← Option.some.inj moved] at leaves
      exact absurd ⟨ready,rfl⟩ leaves
    · cases moved
  | thread index offered place op answer found allowed performed recorded =>
    refine ⟨index,⟨op,answer⟩,recorded,?_⟩
    have gate := perform_gate performed
    cases op with
    | replaceConnection => exact .replaced answer
    | admitFrame generation frame valid =>
      have decided : Admits pool.world.gate generation frame valid answer next.world.gate := by
        rw [perform_admitFrame performed,gate]
        exact admitFrame_cases pool.world.gate generation frame valid
      exact decided.departs ready leaves _
    | applyResult generation outbound result =>
      obtain ⟨frame,state,_,_,flies,_⟩ := allowed
      have effect := applyResult_cases pool.world.gate generation outbound result
      rw [show pool.world.gate.applyResult generation outbound result = next.world.gate from gate.symm] at effect
      exact effect.departs ready leaves (holds.settled settled) ((followed_flight followed found).symm.trans flies)
    | _ =>
      rw [gate] at leaves
      exact absurd ⟨ready,rfl⟩ leaves

def expiredPingMoves : List ServerMove :=
  connectMoves ++ .spawn (.handle 1 pingFrame)::turns 2 1 (working (lit "s") (lit "f")) ++
  .env 86400000000001::turns 2 5 (working (lit "s") (lit "f"))

theorem ready_session_kept_expired :
    ∃ pool ∈ (serverMachine {} (fun _ => true)).run {world := {dedup := {ttl := 1}}} expiredPingMoves,
    ∃ next ∈ (serverMachine {} (fun _ => true)).step pool (.thread 2 (working (lit "s") (lit "f"))),
      pool.world.gate.state = .ready ∧ next.world.gate.state = .awaitingHandshake ∧
      ∃ index event, next.trace = pool.trace++[(index,event)] ∧
        Departs pool.world.gate.sessionID (inFlight pool.trace index) event := by
  have facts : ∃ pool ∈ (serverMachine {} (fun _ => true)).run {world := {dedup := {ttl := 1}}} expiredPingMoves,
      ∃ next ∈ (serverMachine {} (fun _ => true)).step pool (.thread 2 (working (lit "s") (lit "f"))),
        pool.world.gate.state = .ready ∧ next.world.gate.state = .awaitingHandshake ∧
        Throughout HandshakeSettled [] pool.trace := by decide +kernel
  obtain ⟨pool,ran,next,stepped,ready,awaits,settled⟩ := facts
  exact ⟨pool,ran,next,stepped,ready,awaits,
    ready_session_kept {} _ ⟨rfl,rfl⟩ ran settled stepped ready (by simp [awaits])⟩

/-- Two PINGs find their session expired; the first ends it, a HELLO brings a new session, and
the second has still to apply its result. -/
def lateAbandonMoves : List ServerMove :=
  connectMoves ++ .spawn (.handle 1 pingFrame)::turns 2 1 (working (lit "s") (lit "f")) ++
  .spawn (.handle 1 pingFrame)::turns 3 1 (working (lit "s") (lit "f")) ++
  .env 86400000000001::turns 2 6 (working (lit "s") (lit "f")) ++ turns 3 5 (working (lit "s") (lit "f")) ++
  .spawn (.handle 1 helloFrame)::turns 4 9 (working (lit "t") (lit "f"))

/-- The late result of a PING of the old session takes the new one from the gate. -/
theorem late_abandon_takes_session :
    ∃ pool ∈ (serverMachine {} (fun _ => true)).run {world := {dedup := {ttl := 1}}} lateAbandonMoves,
    ∃ next ∈ (serverMachine {} (fun _ => true)).step pool (.thread 3 (working (lit "s") (lit "f"))),
      pool.world.gate.state = .ready ∧ pool.world.gate.sessionID = lit "t" ∧
      next.world.gate.state = .awaitingHandshake ∧ next.world.gate.sessionID = [] ∧
      inFlight pool.trace 3 = some ⟨0,pingFrame,some .ready⟩ ∧ pingFrame.sessionID = lit "s" ∧
      next.trace = pool.trace++[(3,⟨.applyResult 1 0 {abandonSession := true},()⟩)] := by
  decide +kernel

end Kmtproto
