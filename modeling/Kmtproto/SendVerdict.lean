import Kmtproto.FlightRegistry

/-! When a SEND is refused for its content. The record it found stays bound to the
identity until the SEND is done, since nobody else claims under its flight; only a
flight led by a SEND of other content refuses it without a record. -/
namespace Kmtproto
open Json Interaction

/-- A SEND of the identity with other content leads a flight. -/
def contested (before : List (Nat × Event Op Answer)) (key : Bytes) (fingerprint : SendFingerprint) : Bool :=
  before.any (fun entry => match entry.2 with
    | ⟨.acquireFlight other print,ticket⟩ =>
      decide (other = key) && decide (print ≠ fingerprint) && ticket.leader && !before.any (closes ticket.flight)
    | _ => false)

/-- No SEND asks for a flight that a SEND of the same identity and other content leads. -/
def Uncontested (trace : List (Nat × Event Op Answer)) : Prop :=
  Throughout (fun before entry => match entry.2 with
    | ⟨.acquireFlight key fingerprint,_⟩ => contested before key fingerprint = false
    | _ => True) [] trace

instance (before : List (Nat × Event Op Answer)) (entry : Nat × Event Op Answer) : Decidable (match entry.2 with
    | ⟨.acquireFlight key fingerprint,_⟩ => contested before key fingerprint = false
    | _ => True) :=
  decidable_of_iff ((match entry.2 with
    | ⟨.acquireFlight key fingerprint,_⟩ => contested before key fingerprint
    | _ => false) = false) (by split <;> simp)

instance (trace : List (Nat × Event Op Answer)) : Decidable (Uncontested trace) :=
  inferInstanceAs (Decidable (Throughout _ _ _))

structure RecordsHeld (world : World) (trace : List (Nat × Event Op Answer)) (states : List SendState) : Prop where
  flights : FlightsHeld world trace states
  acquired : ∀ (index : Nat) (state : SendState) key flight fingerprint, states[index]? = some state →
    state.phase.lead = some (key,flight,fingerprint) →
    ∃ ticket, (index,⟨.acquireFlight key fingerprint,ticket⟩) ∈ trace ∧ ticket.leader = true ∧ ticket.flight = flight
  peaceful : Uncontested trace → ∀ (index : Nat) (state : SendState), states[index]? = some state → state.conflict = false
  bound : ∀ (index : Nat) (state : SendState) key flight fingerprint other, states[index]? = some state →
    state.phase.lead = some (key,flight,fingerprint) → state.found = some other →
    ∃ entry, world.dedup.records.lookup key = some entry ∧ entry.record.fingerprint = other

section Steps
variable {config : ServerConfig} {reference : Op → Bool} {world next : World} {trace : List (Nat × Event Op Answer)}
  {states : List SendState} {index : Nat} {state new : SendState} {event : Event Op Answer}

theorem Uncontested.init {entry : Nat × Event Op Answer} (held : Uncontested (trace++[entry])) : Uncontested trace :=
  (throughout_snoc.mp held).1

theorem FlightsHeld.unclosed (holds : FlightsHeld world trace states) (found : states[index]? = some state) {key : Bytes}
    {flight : Nat} {fingerprint : SendFingerprint} (leads : state.phase.lead = some (key,flight,fingerprint)) :
    trace.any (closes flight) = false := by
  obtain ⟨_,_,entry,stored,_,unfinished,_⟩ := holds.own index state key flight fingerprint found leads
  have count := holds.closed flight
  rw [stored,Option.any_some,unfinished] at count
  simpa [List.countP_eq_zero] using count

/-- A call leads what it led, or the flight it was just given. -/
theorem SendState.next_lead {op : Op} {answer : Answer op} {led : Bytes × Nat × SendFingerprint}
    (leads : (state.next op answer).phase.lead = some led) :
    state.phase.lead = some led ∨ ∃ key fingerprint ticket, (⟨op,answer⟩ : Event Op Answer) = ⟨.acquireFlight key fingerprint,ticket⟩ ∧
      ticket.leader = true ∧ led = (key,ticket.flight,fingerprint) := by
  rw [state.next_phase] at leads
  unfold FlightPhase.next at leads
  split at leads
  · split at leads
    · rename_i given
      cases leads
      exact .inr ⟨_,_,_,rfl,given.2,rfl⟩
    · exact .inl leads
  · exact .inl ((FlightPhase.lead_entered _).symm.trans leads)
  · exact .inl ((FlightPhase.lead_left _).symm.trans leads)
  · cases leads
  · exact .inl leads

theorem FlightsHeld.apart (holds : FlightsHeld world trace states) {place : Nat} {there : SendState} {key other : Bytes}
    {flight flight' : Nat} {print print' : SendFingerprint} (found : states[index]? = some state)
    (leads : state.phase.lead = some (key,flight,print)) (placed : states[place]? = some there) (different : place ≠ index)
    (leads' : there.phase.lead = some (other,flight',print')) : other ≠ key := by
  rintro rfl
  have led := leading_some.mpr ⟨state,found,leads⟩
  have led' := leading_some.mpr ⟨there,placed,leads'⟩
  cases (holds.registered led).symm.trans (holds.registered led')
  exact different (holds.unique place index other other flight print' print led' led)

/-- A SEND meets a conflict only when its flight is contested. -/
theorem RecordsHeld.contested (holds : RecordsHeld world trace states) {key : Bytes} {fingerprint : SendFingerprint}
    (conflict : (world.acquireFlight key fingerprint).1.conflict = true) : contested trace key fingerprint = true := by
  unfold World.acquireFlight at conflict
  cases registered : world.flights.lookup key with
  | none =>
    simp only [registered] at conflict
    cases conflict
  | some flight =>
    obtain ⟨place,print,led⟩ := holds.flights.led key flight registered
    obtain ⟨there,placed,leads⟩ := leading_some.mp led
    obtain ⟨_,_,entry,stored,same,_⟩ := holds.flights.own place there key flight print placed leads
    obtain ⟨ticket,asked,leader,given⟩ := holds.acquired place there key flight print placed leads
    have unclosed := holds.flights.unclosed placed leads
    simp only [registered,stored,same,bne_iff_ne,ne_eq] at conflict
    refine List.any_eq_true.mpr ⟨_,asked,?_⟩
    simp [conflict,leader,given,unclosed]

theorem RecordsHeld.step (holds : RecordsHeld world trace states) {op : Op} {answer : Answer op}
    (found : states[index]? = some state)
    (flights : FlightsHeld next (trace++[(index,⟨op,answer⟩)]) (states.set index (state.next op answer)))
    (peaceful : Uncontested (trace++[(index,⟨op,answer⟩)]) → (state.next op answer).conflict = false)
    (own : ∀ key flight fingerprint other, (state.next op answer).phase.lead = some (key,flight,fingerprint) →
      (state.next op answer).found = some other →
      ∃ entry, next.dedup.records.lookup key = some entry ∧ entry.record.fingerprint = other)
    (others : ∀ (place : Nat) (there : SendState) key flight fingerprint, place ≠ index → states[place]? = some there →
      there.phase.lead = some (key,flight,fingerprint) →
      next.dedup.records.lookup key = world.dedup.records.lookup key) :
    RecordsHeld next (trace++[(index,⟨op,answer⟩)]) (states.set index (state.next op answer)) := by
  refine ⟨flights,?_,?_,?_⟩
  · intro place there key flight fingerprint placed leads
    have earlier (old : SendState) (was : states[place]? = some old) (led : old.phase.lead = some (key,flight,fingerprint)) :
        ∃ ticket, (place,⟨.acquireFlight key fingerprint,ticket⟩) ∈ trace++[(index,⟨op,answer⟩)] ∧ ticket.leader = true ∧
          ticket.flight = flight := by
      obtain ⟨ticket,asked,rest⟩ := holds.acquired place old key flight fingerprint was led
      exact ⟨ticket,List.mem_append_left _ asked,rest⟩
    rcases set_cases placed with ⟨rfl,rfl⟩ | ⟨_,was⟩
    · rcases SendState.next_lead leads with led | ⟨_,_,ticket,same,leader,led⟩
      · exact earlier state found led
      · cases led
        exact ⟨ticket,by rw [← same]; simp,leader,rfl⟩
    · exact earlier there was leads
  · intro held place there placed
    rcases set_cases placed with ⟨rfl,rfl⟩ | ⟨_,was⟩
    · exact peaceful held
    · exact holds.peaceful held.init place there was
  · intro place there key flight fingerprint other placed leads seen
    rcases set_cases placed with ⟨rfl,rfl⟩ | ⟨different,was⟩
    · exact own key flight fingerprint other leads seen
    · rw [others place there key flight fingerprint different was leads]
      exact holds.bound place there key flight fingerprint other was leads seen

end Steps

theorem records_keeps (config : ServerConfig) (reference : Op → Bool)
    (store : ∀ op, op.dedup = true → reference op = true) :
    Keeps (serverMachine config reference) (sendRules config.strictValidation) (fun state _ => state.phase = .idle)
      (ServerCall.send config) (fun _ => True) RecordsHeld where
  programs call _ := call.sendsByRules config
  spawn call world trace states _ holds := by
    have flights := (flights_keeps config reference).spawn call world trace states trivial holds.flights
    refine ⟨flights,?_,?_,?_⟩
    · intro place there key flight fingerprint placed leads
      rcases snoc_cases placed with was | ⟨_,rfl⟩
      · exact holds.acquired place there key flight fingerprint was leads
      · cases leads
    · intro held place there placed
      rcases snoc_cases placed with was | ⟨_,rfl⟩
      · exact holds.peaceful held place there was
      · rfl
    · intro place there key flight fingerprint other placed leads seen
      rcases snoc_cases placed with was | ⟨_,rfl⟩
      · exact holds.bound place there key flight fingerprint other was leads seen
      · cases leads
  env elapsed world next trace states holds moved := by
    have flights := (flights_keeps config reference).env elapsed world next trace states holds.flights moved
    change World.tick elapsed world = some next at moved
    unfold World.tick at moved
    split at moved
    · cases moved
      exact {holds with flights := flights}
    · cases moved
  request world next trace states index state op offered answer holds found allowed performed := by
    have flights := (flights_keeps config reference).request world next trace states index state op offered answer
      holds.flights found allowed performed
    change RecordsHeld next _ (states.set index (state.next op answer))
    have kept (same : next.dedup = world.dedup) (sameFound : (state.next op answer).found = state.found)
        (old : ∀ led, (state.next op answer).phase.lead = some led → state.phase.lead = some led)
        (calm : (state.next op answer).conflict = state.conflict) :
        RecordsHeld next (trace++[(index,⟨op,answer⟩)]) (states.set index (state.next op answer)) := by
      refine holds.step found flights (fun held => calm.trans (holds.peaceful held.init index state found)) ?_ (by simp [same])
      intro key flight fingerprint other leads seen
      rw [same]
      exact holds.bound index state key flight fingerprint other found (old _ leads) (sameFound.symm.trans seen)
    cases op with
    | acquireFlight key fingerprint =>
      have same := perform_dedup performed rfl
      rcases serverMachine_perform performed with ⟨external,_⟩ | performed
      · cases external
      refine holds.step found flights (fun held => ?_) (fun _ _ _ _ _ seen => by cases seen) (by simp [same])
      change answer.conflict = false
      rw [← Bool.not_eq_true]
      intro conflict
      have given : (world.acquireFlight key fingerprint).1 = answer := congrArg Prod.fst (Option.some.inj performed)
      have free := (throughout_snoc.mp held).2
      rw [List.nil_append] at free
      simp only [holds.contested (by rw [given]; exact conflict)] at free
      cases free
    | claim sessionID msgID fingerprint now =>
      obtain ⟨flight,calling⟩ := allowed
      have led : state.phase.lead = some (dedupKey sessionID msgID,flight,fingerprint) := by rw [calling]; rfl
      rcases perform_claim performed (store _ rfl) with ⟨error,rfl,same⟩ | ⟨rfl,same⟩
      · exact kept same rfl (fun _ leads => leads) rfl
      · rcases world.dedup.claim_cases sessionID msgID fingerprint now with ⟨claimed,_⟩ | ⟨entry,stored,busy⟩
        · rw [claimed] at same flights ⊢
          refine holds.step found flights (fun held => holds.peaceful held.init index state found) (fun _ _ _ _ _ seen => by cases seen) ?_
          intro place there key flight' print different placed leads
          rw [same,AList.lookup_insert_ne (holds.flights.apart found led placed different leads)]
        · rw [busy] at same flights ⊢
          refine holds.step found flights (fun held => holds.peaceful held.init index state found) ?_ (by simp [same])
          intro key flight' print other leads seen
          cases led.symm.trans leads
          cases seen
          exact ⟨entry,by rw [same]; exact stored,rfl⟩
    | complete sessionID msgID ack now =>
      obtain ⟨flight,fingerprint,calling⟩ := allowed
      have led : state.phase.lead = some (dedupKey sessionID msgID,flight,fingerprint) := by rw [calling]; rfl
      rcases perform_complete performed (store _ rfl) with ⟨error,rfl,same⟩ | ⟨rfl,completed⟩
      · exact kept same rfl (fun _ leads => leads) rfl
      · obtain ⟨entry,stored,_,inserted⟩ := MemoryDedupStore.complete_cases completed
        refine holds.step found flights (fun held => holds.peaceful held.init index state found) ?_ ?_
        · intro key flight' print other leads seen
          cases led.symm.trans leads
          obtain ⟨entry',stored',same⟩ := holds.bound index state _ _ _ other found led seen
          cases stored.symm.trans stored'
          refine ⟨⟨{state := .completed, fingerprint := entry.record.fingerprint, ack := some ack},now + world.dedup.ttl⟩,?_,same⟩
          rw [inserted,AList.lookup_insert]
        · intro place there key flight' print different placed leads
          rw [inserted,AList.lookup_insert_ne (holds.flights.apart found led placed different leads)]
    | _ =>
      refine kept (perform_dedup performed rfl) rfl (fun led leads => ?_) rfl
      rcases SendState.next_lead leads with old | ⟨_,_,_,same,_⟩
      · exact old
      · cases same

/-- A SEND is refused for its content only while a record of other content is bound to its identity, as long
as no SEND asks for a flight that one of other content leads. -/
theorem conflict_verdict (config : ServerConfig) (reference : Op → Bool)
    (store : ∀ op, op.dedup = true → reference op = true) {world : World} (empty : world.flights = ∅)
    (unused : world.flightTable = []) {moves : List ServerMove} {pool : ServerPool}
    (ran : (serverMachine config reference).run {world := world} moves = some pool) (uncontested : Uncontested pool.trace)
    {index : Nat} {call : ServerCall} {key : Bytes} {fingerprint : SendFingerprint}
    (called : (started moves)[index]? = some call) (sending : call.sending config = some (key,fingerprint))
    {outbound : Nat} {frames : List Envelope} {following : Except Err Unit → Server (Except Err Unit)}
    (turn : pool.threads[index]? = some (.call (.enqueueBatch outbound frames) following)) {frame : Envelope}
    (member : frame ∈ frames) (refused : frame.BadRequest config.strictValidation) :
    ∃ entry, pool.world.dedup.records.lookup key = some entry ∧ entry.record.fingerprint ≠ fingerprint := by
  have start : RecordsHeld world [] [] := by
    exact ⟨.empty empty unused,by simp,by simp,by simp⟩
  obtain ⟨states,aligned,holds,followed⟩ :=
    (records_keeps config reference store).run_followed start (fun _ _ => trivial) ran
  obtain ⟨state,found,meets⟩ := aligned.state turn
  have own : state.sends = some (key,fingerprint) := by
    have current := followed.get called
    cases found.symm.trans current
    rw [sendRules_sends]
    exact sending
  rcases meets.1 (by simp [own]) frame member refused with conflict | ⟨ownKey,flight,print,other,phase,seen,different⟩
  · rw [holds.peaceful uncontested index state found] at conflict
    cases conflict
  · have led : state.phase.lead = some (ownKey,flight,print) := by rw [phase]; rfl
    cases own.symm.trans (holds.flights.own index state ownKey flight print found led).1
    obtain ⟨entry,bound,same⟩ := holds.bound index state key flight fingerprint other found led seen
    exact ⟨entry,bound,by rw [same]; exact different⟩

section Scenario

instance (strict : Bool) (frame : Envelope) : Decidable (frame.BadRequest strict) :=
  match decoded : decodePayload readError {} frame.payload strict with
  | .error _ => .isFalse (by simp [Envelope.BadRequest,decoded])
  | .ok payload => decidable_of_iff (frame.type = .error ∧ payload.code = ErrorCode.badRequest.name)
      (by simp [Envelope.BadRequest,decoded])

def refusing (strict : Bool) : Server (Except Err Unit) → Bool
  | .call (.enqueueBatch _ frames) _ => frames.any (fun frame => frame.BadRequest strict)
  | _ => false

private theorem refusing_turn {strict : Bool} {program : Server (Except Err Unit)} (refuses : refusing strict program = true) :
    ∃ outbound frames following, program = .call (.enqueueBatch outbound frames) following ∧
      ∃ frame ∈ frames, frame.BadRequest strict := by
  unfold refusing at refuses
  split at refuses
  · exact ⟨_,_,_,rfl,by simpa using refuses⟩
  · cases refuses

/-- The SEND of `sendFrame` again, with other content. -/
def reusedFrame : Envelope := {sendFrame with payload := encodeObject [(lit "content",lit "2")]}

def reuseMoves (reached : Nat) : List ServerMove :=
  connectMoves ++ .spawn (.handle 1 sendFrame)::turns 2 32 (working (lit "s") (lit "f")) ++
  .spawn (.handle 1 reusedFrame)::turns 3 reached (working (lit "s") (lit "f"))

/-- The reused id is refused, and the record is bound to the other content. -/
theorem conflict_verdict_reused : ∃ pool : ServerPool,
    (serverMachine {} (fun _ => true)).run {world := {dedup := {ttl := day}}} (reuseMoves 11) = some pool ∧
    Uncontested pool.trace ∧ (pool.threads[3]?).map (refusing true) = some true ∧
    ∃ entry, pool.world.dedup.records.lookup (dedupKey (lit "s") (lit "m")) = some entry ∧
      entry.record.fingerprint ≠ Sha256.sum256 (lit "2") := by
  have facts : ∃ pool ∈ (serverMachine {} (fun _ => true)).run {world := {dedup := {ttl := day}}} (reuseMoves 11),
      Uncontested pool.trace ∧ (pool.threads[3]?).map (refusing true) = some true := by decide +kernel
  obtain ⟨pool,ran,uncontested,refuses⟩ := facts
  obtain ⟨program,turn,refusal⟩ := Option.map_eq_some_iff.mp refuses
  obtain ⟨outbound,frames,following,rfl,frame,member,refused⟩ := refusing_turn refusal
  have sending : (ServerCall.handle 1 reusedFrame).sending {} =
      some (dedupKey (lit "s") (lit "m"),Sha256.sum256 (lit "2")) := by decide +kernel
  exact ⟨pool,ran,uncontested,refuses,
    conflict_verdict {} _ (fun _ _ => rfl) rfl rfl ran uncontested rfl sending turn member refused⟩

/-- While the reused id is in flight, a retry of the SEND that was acknowledged is refused for its content. -/
theorem retry_refused_by_conflict : ∃ pool : ServerPool,
    (serverMachine {} (fun _ => true)).run {world := {dedup := {ttl := day}}}
      (reuseMoves 4 ++ .spawn (.handle 1 sendFrame)::turns 4 4 (working (lit "s") (lit "f"))) = some pool ∧
    (pool.threads[4]?).map (refusing true) = some true ∧
    (pool.world.dedup.records.lookup (dedupKey (lit "s") (lit "m"))).map (fun entry =>
      (entry.record.state,entry.record.fingerprint,decide (pool.world.clock < entry.expiresAt))) =
        some (.completed,Sha256.sum256 (lit "1"),true) := by
  have facts : ∃ pool ∈ (serverMachine {} (fun _ => true)).run {world := {dedup := {ttl := day}}}
        (reuseMoves 4 ++ .spawn (.handle 1 sendFrame)::turns 4 4 (working (lit "s") (lit "f"))),
      (pool.threads[4]?).map (refusing true) = some true ∧
      (pool.world.dedup.records.lookup (dedupKey (lit "s") (lit "m"))).map (fun entry =>
        (entry.record.state,entry.record.fingerprint,decide (pool.world.clock < entry.expiresAt))) =
          some (.completed,Sha256.sum256 (lit "1"),true) := by decide +kernel
  exact facts

end Scenario

end Kmtproto
