import Kmtproto.Flights
import Kmtproto.SendOnce

/-! What the registry of flights shows along every run: each registered flight is led by
exactly one call, its channel is closed once and when that call is done, and its
callbacks run one at a time. -/
namespace Kmtproto
open Json Interaction

def closes (flight : Nat) (entry : Nat × Event Op Answer) : Bool :=
  match entry.2 with
  | ⟨.finishFlight _ finished,_⟩ => finished = flight
  | _ => false
def leading (states : List SendState) (place : Nat) : Option (Bytes × Nat × SendFingerprint) :=
  states[place]?.bind (fun state => state.phase.lead)

section Leading
variable {states : List SendState} {index place : Nat} {state new : SendState} {led : Bytes × Nat × SendFingerprint}

theorem leading_some : leading states place = some led ↔ ∃ state, states[place]? = some state ∧ state.phase.lead = some led :=
  Option.bind_eq_some_iff

theorem leading_set_self (found : states[index]? = some state) : leading (states.set index new) index = new.phase.lead := by
  rw [leading,List.getElem?_set_self (List.getElem?_eq_some_iff.mp found).1]
  rfl

theorem leading_set_ne (apart : place ≠ index) : leading (states.set index new) place = leading states place := by
  rw [leading,List.getElem?_set_ne (Ne.symm apart)]
  rfl

theorem leading_cases (found : states[index]? = some state) (leads : leading (states.set index new) place = some led) :
    place = index ∧ new.phase.lead = some led ∨ place ≠ index ∧ leading states place = some led := by
  by_cases same : place = index
  · subst same
    rw [leading_set_self found] at leads
    exact .inl ⟨rfl,leads⟩
  · rw [leading_set_ne same] at leads
    exact .inr ⟨same,leads⟩

theorem leading_set (found : states[index]? = some state) (same : new.phase.lead = state.phase.lead) :
    leading (states.set index new) = leading states := by
  funext place
  by_cases here : place = index
  · subst here
    rw [leading_set_self found,same,leading,found]
    rfl
  · exact leading_set_ne here

theorem leading_spawn (idle : new.phase.lead = none) : leading (states++[new]) = leading states := by
  funext place
  unfold leading
  rw [List.getElem?_append]
  split
  · rfl
  · rename_i past
    rw [List.getElem?_eq_none_iff.mpr (Nat.le_of_not_lt past),List.getElem?_singleton]
    split
    · exact idle
    · rfl

end Leading

/-- A call that leads a flight finds it registered and unfinished, under the identity of its
SEND, and a callback of it running when the call makes one. -/
structure LeadHeld (world : World) (state : SendState) (key : Bytes) (flight : Nat) (fingerprint : SendFingerprint) : Prop where
  sends : state.sends = some (key,fingerprint)
  registered : world.flights.lookup key = some flight
  stored : ∃ entry, world.flightTable[flight]? = some entry ∧ entry.fingerprint = fingerprint ∧ entry.finished = false ∧
    entry.callbackActive = state.phase.active

/-- The registry as the calls have it: a call that leads a flight finds it registered, and
whatever is registered is led. -/
structure FlightsHeld (world : World) (trace : List (Nat × Event Op Answer)) (states : List SendState) : Prop where
  own : ∀ (index : Nat) (state : SendState) key flight fingerprint, states[index]? = some state →
    state.phase.lead = some (key,flight,fingerprint) → LeadHeld world state key flight fingerprint
  led : ∀ key flight, world.flights.lookup key = some flight →
    ∃ index fingerprint, leading states index = some (key,flight,fingerprint)
  unique : ∀ index other key key' flight fingerprint fingerprint', leading states index = some (key,flight,fingerprint) →
    leading states other = some (key',flight,fingerprint') → index = other
  closed : ∀ flight, trace.countP (closes flight) = if (world.flightTable[flight]?).any Flight.finished then 1 else 0
  unfinished : ∀ flight entry, world.flightTable[flight]? = some entry → entry.finished = false →
    ∃ key, world.flights.lookup key = some flight
  begun : ∀ index key flight answer, (index,⟨.beginSendCallback key flight,answer⟩) ∈ trace → answer = true

section Steps
variable {config : ServerConfig} {reference : Op → Bool} {world next : World} {trace : List (Nat × Event Op Answer)}
  {states : List SendState} {index : Nat} {state new : SendState} {event : Event Op Answer}

theorem FlightsHeld.empty (empty : world.flights = ∅) (unused : world.flightTable = []) : FlightsHeld world [] [] := by
  refine ⟨?_,?_,?_,?_,?_,?_⟩ <;> simp [leading,empty,unused]

def Op.registers : Op → Bool
  | .acquireFlight _ _ | .finishFlight _ _ | .beginSendCallback _ _ | .endSendCallback _ | .setFlightACK _ _ => true
  | _ => false

theorem perform_registry {op : Op} {offered answer : Answer op}
    (performed : (serverMachine config reference).perform op offered world = some (answer,next))
    (other : op.registers = false) : next.flights = world.flights ∧ next.flightTable = world.flightTable := by
  rcases serverMachine_perform performed with ⟨_,_,rfl⟩ | performed
  · exact ⟨rfl,rfl⟩
  cases op with
  | acquireFlight | finishFlight | beginSendCallback | endSendCallback | setFlightACK => cases other
  | joinLane sessionID =>
    simp only [World.perform,World.joinLane] at performed
    split at performed <;> cases performed <;> exact ⟨rfl,rfl⟩
  | beginLaneCallback sessionID =>
    simp only [World.perform,World.beginLaneCallback] at performed
    split at performed <;> cases performed <;> exact ⟨rfl,rfl⟩
  | _ =>
    simp only [World.perform] at performed
    repeat' split at performed
    all_goals cases performed; try exact ⟨rfl,rfl⟩

theorem FlightsHeld.registered (holds : FlightsHeld world trace states) {place : Nat} {key : Bytes} {flight : Nat}
    {fingerprint : SendFingerprint} (leads : leading states place = some (key,flight,fingerprint)) :
    world.flights.lookup key = some flight := by
  obtain ⟨there,placed,lead⟩ := leading_some.mp leads
  exact (holds.own place there key flight fingerprint placed lead).registered

theorem FlightsHeld.countP_silent (holds : FlightsHeld world trace states) (flight : Nat)
    (silent : closes flight (index,event) = false) :
    (trace++[(index,event)]).countP (closes flight) = if (world.flightTable[flight]?).any Flight.finished then 1 else 0 := by
  rw [List.countP_append,List.countP_singleton,silent,holds.closed flight]
  rfl

theorem FlightsHeld.begun_snoc (holds : FlightsHeld world trace states)
    (begins : ∀ key flight answer, event = ⟨.beginSendCallback key flight,answer⟩ → answer = true) {place : Nat} {key : Bytes}
    {flight : Nat} {answer : Answer (.beginSendCallback key flight)}
    (member : (place,⟨.beginSendCallback key flight,answer⟩) ∈ trace++[(index,event)]) : answer = true := by
  rcases List.mem_append.mp member with old | last
  · exact holds.begun place key flight answer old
  · exact begins key flight answer (Prod.mk.inj (List.mem_singleton.mp last)).2.symm

section Edit
variable (holds : FlightsHeld world trace states) {target : Nat} {change : Flight → Flight}
  (flights : next.flights = world.flights)
  (table : next.flightTable = world.flightTable.modify target change)
  (keeps : ∀ entry, (change entry).fingerprint = entry.fingerprint ∧ (change entry).finished = entry.finished)
include table

private theorem edited (flight : Nat) : next.flightTable[flight]? =
    (world.flightTable[flight]?).map (fun entry => if target = flight then change entry else entry) := by
  rw [table,List.getElem?_modify]
  split <;> simp

include keeps

private theorem edited_finished (flight : Nat) :
    (next.flightTable[flight]?).any Flight.finished = (world.flightTable[flight]?).any Flight.finished := by
  rw [edited table]
  cases world.flightTable[flight]? with
  | none => rfl
  | some entry =>
    by_cases same : target = flight
    · simp [same,(keeps entry).2]
    · simp [same]

include flights

private theorem LeadHeld.edit {key : Bytes} {flight : Nat} {fingerprint : SendFingerprint}
    (held : LeadHeld world state key flight fingerprint) (sends : new.sends = state.sends)
    (active : ∀ entry, entry.callbackActive = state.phase.active →
      (if target = flight then change entry else entry).callbackActive = new.phase.active) :
    LeadHeld next new key flight fingerprint := by
  obtain ⟨entry,stored,print,unfinished,calling⟩ := held.stored
  refine ⟨sends.trans held.sends,by rw [flights]; exact held.registered,_,by rw [edited table,stored]; rfl,?_,?_,
    active entry calling⟩
  · split
    · exact (keeps entry).1.trans print
    · exact print
  · split
    · exact (keeps entry).2.trans unfinished
    · exact unfinished

include holds

/-- A step that leaves the keys alone and edits at most one flight, of which it keeps the
fingerprint and whether it is finished. -/
theorem FlightsHeld.edit (found : states[index]? = some state)
    (lead : new.phase.lead = state.phase.lead) (sends : new.sends = state.sends)
    (active : (∃ key fingerprint, state.phase.lead = some (key,target,fingerprint) ∧
        ∀ entry, (change entry).callbackActive = new.phase.active) ∨
      ((∀ entry, (change entry).callbackActive = entry.callbackActive) ∧ new.phase.active = state.phase.active))
    (silent : ∀ flight, closes flight (index,event) = false)
    (begins : ∀ key flight answer, event = ⟨.beginSendCallback key flight,answer⟩ → answer = true) :
    FlightsHeld next (trace++[(index,event)]) (states.set index new) where
  own place there key flight fingerprint placed leads := by
    rcases set_cases placed with ⟨rfl,rfl⟩ | ⟨apart,before⟩
    · refine (holds.own place state key flight fingerprint found (lead.symm.trans leads)).edit flights table keeps sends
        (fun entry was => ?_)
      rcases active with ⟨_,_,ownLead,now⟩ | ⟨still,same⟩
      · cases (lead.trans ownLead).symm.trans leads
        rw [if_pos rfl]
        exact now entry
      · rw [same,← was]
        split
        · exact still entry
        · rfl
    · refine (holds.own place there key flight fingerprint before leads).edit flights table keeps rfl (fun entry was => ?_)
      rw [← was]
      rcases active with ⟨ownKey,ownPrint,ownLead,_⟩ | ⟨still,_⟩
      -- the flight of another call is another one
      · rw [if_neg]
        rintro rfl
        exact apart (holds.unique place index key ownKey target fingerprint ownPrint
          (leading_some.mpr ⟨there,before,leads⟩) (leading_some.mpr ⟨state,found,ownLead⟩))
      · split
        · exact still entry
        · rfl
  led key flight registered := by
    rw [flights] at registered
    rw [leading_set found lead]
    exact holds.led key flight registered
  unique := by
    rw [leading_set found lead]
    exact holds.unique
  closed flight := by rw [holds.countP_silent flight (silent flight),edited_finished table keeps]
  unfinished flight entry stored running := by
    rw [edited table] at stored
    obtain ⟨old,was,rfl⟩ := Option.map_eq_some_iff.mp stored
    rw [flights]
    refine holds.unfinished flight old was ?_
    split at running
    · rw [← (keeps old).2]
      exact running
    · exact running
  begun _ _ _ _ := holds.begun_snoc begins

end Edit

theorem FlightsHeld.quiet (holds : FlightsHeld world trace states) (found : states[index]? = some state)
    (same : next.flights = world.flights ∧ next.flightTable = world.flightTable) (phase : new.phase = state.phase)
    (sends : new.sends = state.sends) (silent : ∀ flight, closes flight (index,event) = false)
    (begins : ∀ key flight answer, event = ⟨.beginSendCallback key flight,answer⟩ → answer = true) :
    FlightsHeld next (trace++[(index,event)]) (states.set index new) := by
  have table : next.flightTable = world.flightTable.modify 0 id := by
    rw [List.modify_id]
    exact same.2
  exact holds.edit same.1 table (fun _ => ⟨rfl,rfl⟩) found (by rw [phase]) sends (.inr ⟨fun _ => rfl,by rw [phase]⟩) silent
    begins

section Register
variable (holds : FlightsHeld world trace states) {key : Bytes} {fingerprint : SendFingerprint}
  (absent : world.flights.lookup key = none) (flights : next.flights = world.flights.insert key world.flightTable.length)
  (table : next.flightTable = world.flightTable++[{fingerprint := fingerprint}])

include table in
private theorem older {flight : Nat} {entry : Flight} (stored : world.flightTable[flight]? = some entry) :
    next.flightTable[flight]? = some entry := by
  rw [table,List.getElem?_append_left (List.getElem?_eq_some_iff.mp stored).1]
  exact stored

include table in
private theorem newest : next.flightTable[world.flightTable.length]? = some {fingerprint := fingerprint} := by
  rw [table,List.getElem?_concat_length]

include table in
private theorem registered_finished (flight : Nat) :
    (next.flightTable[flight]?).any Flight.finished = (world.flightTable[flight]?).any Flight.finished := by
  cases stored : world.flightTable[flight]? with
  | some entry => rw [older table stored]
  | none =>
    have past := List.getElem?_eq_none_iff.mp stored
    by_cases last : flight = world.flightTable.length
    · rw [last,newest table]
      rfl
    · rw [table,List.getElem?_eq_none_iff.mpr (by simp; omega)]

include absent flights in
private theorem registered_before {other : Bytes} {flight : Nat} (registered : world.flights.lookup other = some flight) :
    next.flights.lookup other = some flight := by
  rw [flights,AList.lookup_insert_ne]
  · exact registered
  · rintro rfl
    cases registered.symm.trans absent

include holds absent in
private theorem FlightsHeld.earlier {place : Nat} {other : Bytes} {flight : Nat} {print : SendFingerprint}
    (leads : leading states place = some (other,flight,print)) : other ≠ key ∧ flight ≠ world.flightTable.length := by
  obtain ⟨there,placed,lead⟩ := leading_some.mp leads
  obtain ⟨_,registered,entry,stored,_⟩ := holds.own place there other flight print placed lead
  refine ⟨?_,(List.getElem?_eq_some_iff.mp stored).1.ne⟩
  rintro rfl
  cases registered.symm.trans absent

include holds absent flights table

theorem FlightsHeld.register (found : states[index]? = some state) (idle : state.phase = .idle)
    (phase : new.phase = .leading key world.flightTable.length fingerprint) (sends : new.sends = some (key,fingerprint))
    (silent : ∀ flight, closes flight (index,event) = false)
    (begins : ∀ key flight answer, event ≠ ⟨.beginSendCallback key flight,answer⟩) :
    FlightsHeld next (trace++[(index,event)]) (states.set index new) := by
  have lead : new.phase.lead = some (key,world.flightTable.length,fingerprint) := by rw [phase]; rfl
  refine ⟨?_,?_,?_,?_,?_,?_⟩
  · intro place there other flight print placed leads
    rcases set_cases placed with ⟨rfl,rfl⟩ | ⟨_,before⟩
    · cases lead.symm.trans leads
      exact ⟨sends,by rw [flights,AList.lookup_insert],_,newest table,rfl,rfl,by rw [phase]; rfl⟩
    · obtain ⟨named,registered,entry,stored,rest⟩ := holds.own place there other flight print before leads
      exact ⟨named,registered_before absent flights registered,entry,older table stored,rest⟩
  · intro other flight registered
    rw [flights] at registered
    by_cases same : other = key
    · subst same
      rw [AList.lookup_insert] at registered
      cases registered
      exact ⟨index,fingerprint,(leading_set_self found).trans lead⟩
    · rw [AList.lookup_insert_ne same] at registered
      obtain ⟨place,print,leads⟩ := holds.led other flight registered
      refine ⟨place,print,(leading_set_ne ?_).trans leads⟩
      rintro rfl
      rw [leading,found,Option.bind_some,idle] at leads
      cases leads
  · intro place other k k' flight print print' leads leads'
    rcases leading_cases found leads with ⟨rfl,own⟩ | ⟨_,old⟩ <;> rcases leading_cases found leads' with ⟨rfl,own'⟩ | ⟨_,old'⟩
    · rfl
    · cases lead.symm.trans own
      exact absurd rfl (holds.earlier absent old').2
    · cases lead.symm.trans own'
      exact absurd rfl (holds.earlier absent old).2
    · exact holds.unique place other k k' flight print print' old old'
  · exact fun flight => by rw [holds.countP_silent flight (silent flight),registered_finished table]
  · intro flight entry stored running
    by_cases last : flight = world.flightTable.length
    · exact ⟨key,by rw [flights,AList.lookup_insert,last]⟩
    · have inside : flight < world.flightTable.length := by
        have := (List.getElem?_eq_some_iff.mp stored).1
        simp only [table,List.length_append,List.length_singleton] at this
        omega
      rw [table,List.getElem?_append_left inside] at stored
      obtain ⟨other,registered⟩ := holds.unfinished flight entry stored running
      exact ⟨other,registered_before absent flights registered⟩
  · exact fun _ _ _ _ => holds.begun_snoc (fun key flight answer same => absurd same (begins key flight answer))

end Register

section Finish
variable (holds : FlightsHeld world trace states) (found : states[index]? = some state) {key : Bytes} {flight : Nat}
  {fingerprint : SendFingerprint} (leads : state.phase.lead = some (key,flight,fingerprint))
  (finished : next = world.finishFlight key flight)
include holds found leads finished

private theorem FlightsHeld.erased : next.flights = world.flights.erase key := by
  rw [finished,World.finishFlight,if_pos (holds.own index state key flight fingerprint found leads).registered]
  rfl

private theorem FlightsHeld.entries (other : Nat) : next.flightTable[other]? =
    (world.flightTable[other]?).map (fun entry => if flight = other then {entry with finished := true} else entry) := by
  rw [finished,World.finishFlight,if_pos (holds.own index state key flight fingerprint found leads).registered]
  simp only [World.editFlight]
  rw [List.getElem?_modify]
  split <;> simp

omit finished in
private theorem FlightsHeld.others {place : Nat} {other : Bytes} {led : Nat} {print : SendFingerprint} (apart : place ≠ index)
    (leads' : leading states place = some (other,led,print)) : led ≠ flight ∧ other ≠ key := by
  have mine := leading_some.mpr ⟨state,found,leads⟩
  have different : led ≠ flight := by
    rintro rfl
    exact apart (holds.unique place index other key led print fingerprint leads' mine)
  refine ⟨different,?_⟩
  rintro rfl
  cases (holds.registered leads').symm.trans (holds.registered mine)
  exact different rfl

private theorem FlightsHeld.closed_finish {answer : Answer (.finishFlight key flight)} (other : Nat) :
    (trace++[(index,(⟨.finishFlight key flight,answer⟩ : Event Op Answer))]).countP (closes other) =
      if (next.flightTable[other]?).any Flight.finished then 1 else 0 := by
  obtain ⟨_,_,entry,stored,_,unfinished,_⟩ := holds.own index state key flight fingerprint found leads
  rw [List.countP_append,List.countP_singleton,holds.closed other,holds.entries found leads finished]
  by_cases same : flight = other
  · subst same
    rw [stored]
    simp [unfinished,closes]
  · cases world.flightTable[other]? with
    | none => simp [closes,same]
    | some entry => simp [closes,same]

/-- The leader takes its flight out of the registry and closes its channel. -/
theorem FlightsHeld.finish {answer : Answer (.finishFlight key flight)} (idle : new.phase = .idle) :
    FlightsHeld next (trace++[(index,⟨.finishFlight key flight,answer⟩)]) (states.set index new) := by
  have erased := holds.erased found leads finished
  have entries := holds.entries found leads finished
  have before {place : Nat} {led : Bytes × Nat × SendFingerprint} (now : leading (states.set index new) place = some led) :
      place ≠ index ∧ leading states place = some led := by
    rcases leading_cases found now with ⟨_,own⟩ | old
    · rw [idle] at own
      cases own
    · exact old
  refine ⟨?_,?_,?_,?_,?_,?_⟩
  · intro place there other led print placed leads'
    obtain ⟨apart,old⟩ := before (leading_some.mpr ⟨there,placed,leads'⟩)
    obtain ⟨different,keyed⟩ := holds.others found leads apart old
    rw [List.getElem?_set_ne (Ne.symm apart)] at placed
    obtain ⟨named,registered,entry,stored,rest⟩ := holds.own place there other led print placed leads'
    refine ⟨named,?_,entry,?_,rest⟩
    · rw [erased,AList.lookup_erase_ne keyed]
      exact registered
    · rw [entries,stored,Option.map_some,if_neg (Ne.symm different)]
  · intro other led registered
    rw [erased] at registered
    by_cases same : other = key
    · subst same
      rw [AList.lookup_erase] at registered
      cases registered
    · rw [AList.lookup_erase_ne same] at registered
      obtain ⟨place,print,leads'⟩ := holds.led other led registered
      refine ⟨place,print,(leading_set_ne ?_).trans leads'⟩
      rintro rfl
      cases leads'.symm.trans (leading_some.mpr ⟨state,found,leads⟩)
      exact same rfl
  · intro place other k k' led print print' now now'
    exact holds.unique place other k k' led print print' (before now).2 (before now').2
  · exact holds.closed_finish found leads finished
  · intro other entry stored running
    rw [entries] at stored
    obtain ⟨old,was,rfl⟩ := Option.map_eq_some_iff.mp stored
    by_cases same : flight = other
    · rw [if_pos same] at running
      cases running
    · rw [if_neg same] at running
      obtain ⟨k,registered⟩ := holds.unfinished other old was running
      refine ⟨k,?_⟩
      rw [erased,AList.lookup_erase_ne]
      · exact registered
      · rintro rfl
        cases registered.symm.trans (holds.registered (leading_some.mpr ⟨state,found,leads⟩))
        exact same rfl
  · exact fun _ _ _ _ => holds.begun_snoc (fun _ _ _ same => by cases same)

end Finish

end Steps

theorem flights_keeps (config : ServerConfig) (reference : Op → Bool) :
    Keeps (serverMachine config reference) (sendRules config.strictValidation) (fun state _ => state.phase = .idle)
      (ServerCall.send config) (fun _ => True) FlightsHeld where
  programs call _ := call.sendsByRules config
  spawn call world trace states _ holds := by
    have same : leading (states++[call.send config]) = leading states := leading_spawn rfl
    refine {holds with own := ?_, led := by rw [same]; exact holds.led, unique := by rw [same]; exact holds.unique}
    intro place there key flight fingerprint placed leads
    rcases snoc_cases placed with before | ⟨_,rfl⟩
    · exact holds.own place there key flight fingerprint before leads
    · cases leads
  env elapsed world next trace states holds moved := by
    change World.tick elapsed world = some next at moved
    unfold World.tick at moved
    split at moved
    · cases moved
      refine {holds with own := fun index state key flight fingerprint found leads => ?_}
      exact {holds.own index state key flight fingerprint found leads with}
    · cases moved
  request world next trace states index state op offered answer holds found allowed performed := by
    change FlightsHeld next _ (states.set index (state.next op answer))
    have sends := state.next_sends op answer
    have phase := state.next_phase op answer
    cases op with
    | acquireFlight key fingerprint =>
      obtain ⟨named,idle⟩ := allowed
      rcases serverMachine_perform performed with ⟨external,_⟩ | performed
      · cases external
      simp only [World.perform,World.acquireFlight] at performed
      cases registered : world.flights.lookup key with
      | some flight =>
        obtain ⟨place,print,leads⟩ := holds.led key flight registered
        obtain ⟨there,placed,lead⟩ := leading_some.mp leads
        obtain ⟨_,_,entry,stored,_⟩ := holds.own place there key flight print placed lead
        simp only [registered,stored] at performed
        cases performed
        refine holds.quiet found ⟨rfl,rfl⟩ ?_ sends (fun _ => rfl) (by simp)
        rw [phase]
        simp [FlightPhase.next]
      | none =>
        simp only [registered] at performed
        cases performed
        exact holds.register registered rfl rfl found idle (by rw [phase]; rfl) (sends.trans named) (fun _ => rfl) (by simp)
    | finishFlight key flight =>
      obtain ⟨fingerprint,leads⟩ := allowed
      rcases serverMachine_perform performed with ⟨external,_⟩ | performed
      · cases external
      cases performed
      exact holds.finish found (by rw [leads]; rfl) rfl (by rw [phase]; rfl)
    | beginSendCallback key flight =>
      obtain ⟨fingerprint,leads⟩ := allowed
      have led : state.phase.lead = some (key,flight,fingerprint) := by rw [leads]; rfl
      obtain ⟨_,registered,entry,stored,_,_,quiet⟩ := holds.own index state key flight fingerprint found led
      rw [leads] at quiet
      rcases serverMachine_perform performed with ⟨external,_⟩ | performed
      · cases external
      simp only [World.perform,World.beginSendCallback,stored,registered,ne_eq,not_true_eq_false,quiet,FlightPhase.active,
        Bool.false_eq_true,or_self,if_false] at performed
      cases performed
      refine holds.edit rfl rfl (fun _ => ⟨rfl,rfl⟩) found ?_ sends (.inl ⟨key,fingerprint,led,fun _ => ?_⟩) (fun _ => rfl)
        (fun _ _ _ same => by cases same; rfl)
      · rw [phase]
        exact FlightPhase.lead_entered _
      · rw [phase,leads]
        rfl
    | endSendCallback flight =>
      obtain ⟨key,fingerprint,leads⟩ := allowed
      have led : state.phase.lead = some (key,flight,fingerprint) := by rw [leads]; rfl
      rcases serverMachine_perform performed with ⟨external,_⟩ | performed
      · cases external
      cases performed
      refine holds.edit rfl rfl (fun _ => ⟨rfl,rfl⟩) found ?_ sends (.inl ⟨key,fingerprint,led,fun _ => ?_⟩) (fun _ => rfl)
        (by simp)
      · rw [phase]
        exact FlightPhase.lead_left _
      · rw [phase,leads]
        rfl
    | setFlightACK flight ack =>
      rcases serverMachine_perform performed with ⟨external,_⟩ | performed
      · cases external
      cases performed
      exact holds.edit rfl rfl (fun _ => ⟨rfl,rfl⟩) found (by rw [phase]; rfl) sends (.inr ⟨fun _ => rfl,by rw [phase]; rfl⟩)
        (fun _ => rfl) (by simp)
    | _ => exact holds.quiet found (perform_registry performed rfl) phase sends (fun _ => rfl) (by simp)

/-- Where a call stands with its flight after what it asked and was answered. -/
def flightPhase (trace : List (Nat × Event Op Answer)) (index : Nat) : FlightPhase :=
  (answered trace index).foldl (fun phase event => phase.next event.1 event.2) .idle

theorem sendRules_phase {strict : Bool} (state : SendState) (events : List (Event Op Answer)) :
    ((sendRules strict).after state events).phase =
      events.foldl (fun phase event => phase.next event.1 event.2) state.phase := by
  induction events generalizing state with
  | nil => rfl
  | cons event events ih =>
    rw [List.foldl_cons,← state.next_phase event.1 event.2]
    exact ih (state.next event.1 event.2)

theorem sendRules_sends {strict : Bool} (state : SendState) (events : List (Event Op Answer)) :
    ((sendRules strict).after state events).sends = state.sends := by
  induction events generalizing state with
  | nil => rfl
  | cons event events ih => exact (ih _).trans (state.next_sends event.1 event.2)

/-- The callbacks of a SEND. A call that handles no SEND looks sessions up for itself. -/
def ServerCall.callsBack (config : ServerConfig) (call : ServerCall) : Op → Bool
  | .claim _ _ _ _ | .complete _ _ _ _ | .handleSend _ _ _ | .handleSendReturn _ _ _ | .inject _ => true
  | .lookup _ _ => (call.sending config).isSome
  | _ => false

/-- The request is made for the SEND of the identity. -/
def Op.sentAs (key : Bytes) : Op → Prop
  | .claim sessionID msgID _ _ | .complete sessionID msgID _ _ | .handleSend sessionID msgID _
  | .handleSendReturn sessionID msgID _ => key = dedupKey sessionID msgID
  | .lookup sessionID _ => ∃ msgID, key = dedupKey sessionID msgID
  | _ => True

structure FlightRegistry (config : ServerConfig) (moves : List ServerMove) (pool : ServerPool) : Prop where
  leader : ∀ index other key flight flight' fingerprint fingerprint',
    (flightPhase pool.trace index).lead = some (key,flight,fingerprint) →
    (flightPhase pool.trace other).lead = some (key,flight',fingerprint') → index = other
  callback : ∀ (index : Nat) call op following, (started moves)[index]? = some call →
    pool.threads[index]? = some (.call op following) → call.callsBack config op = true →
    ∃ key flight fingerprint, call.sending config = some (key,fingerprint) ∧ op.sentAs key ∧
      flightPhase pool.trace index = .calling key flight fingerprint
  registered : ∀ key flight, pool.world.flights.lookup key = some flight ↔
    ∃ index fingerprint, (flightPhase pool.trace index).lead = some (key,flight,fingerprint)
  exits : ∀ (index : Nat) result, pool.threads[index]? = some (.done result) → flightPhase pool.trace index = .idle
  closed : ∀ flight < pool.world.flightTable.length, pool.trace.countP (closes flight) = 1 ∨
    pool.trace.countP (closes flight) = 0 ∧
      ∃ index key fingerprint, (flightPhase pool.trace index).lead = some (key,flight,fingerprint)
  begun : ∀ index key flight answer, (index,⟨.beginSendCallback key flight,answer⟩) ∈ pool.trace → answer = true
  empty : (∀ (index : Nat) call, (started moves)[index]? = some call → call.sending config ≠ none →
    ∃ result, pool.threads[index]? = some (.done result)) → pool.world.flights = ∅

/-- A callback is allowed only while the flight of its SEND is being called back. -/
theorem callsBack_calling {config : ServerConfig} {call : ServerCall} {op : Op} {state : SendState}
    (sends : state.sends = call.sending config) (allowed : state.allowed config.strictValidation op)
    (called : call.callsBack config op = true) :
    ∃ key flight fingerprint, op.sentAs key ∧ state.phase = .calling key flight fingerprint := by
  cases op with
  | claim sessionID msgID fingerprint now =>
    obtain ⟨flight,calling⟩ := allowed
    exact ⟨_,flight,fingerprint,rfl,calling⟩
  | complete | handleSend | handleSendReturn =>
    obtain ⟨flight,fingerprint,calling⟩ := allowed
    exact ⟨_,flight,fingerprint,rfl,calling⟩
  | lookup sessionID now =>
    have handles : state.sends ≠ none := by
      rw [sends]
      exact Option.isSome_iff_ne_none.mp called
    obtain ⟨msgID,flight,fingerprint,calling⟩ := allowed handles
    exact ⟨_,flight,fingerprint,⟨msgID,rfl⟩,calling⟩
  | inject point =>
    have active : state.phase.active = true := allowed
    cases calling : state.phase with
    | calling key flight fingerprint => exact ⟨key,flight,fingerprint,trivial,rfl⟩
    | _ =>
      rw [calling] at active
      cases active
  | _ => cases called

/-- The registry of flights, whatever the calls are answered and however they interleave. -/
theorem flight_registry (config : ServerConfig) (reference : Op → Bool) {world : World} (empty : world.flights = ∅)
    (unused : world.flightTable = []) {moves : List ServerMove} {pool : ServerPool}
    (ran : (serverMachine config reference).run {world := world} moves = some pool) : FlightRegistry config moves pool := by
  have start : FlightsHeld world [] [] := .empty empty unused
  obtain ⟨states,aligned,holds,followed⟩ := (flights_keeps config reference).run_followed start (fun _ _ => trivial) ran
  -- what the calls have asked and were answered says where they stand
  have stands {index : Nat} {state : SendState} (found : states[index]? = some state) :
      state.phase = flightPhase pool.trace index ∧
        ∃ call, (started moves)[index]? = some call ∧ state.sends = call.sending config := by
    rw [followed.states,List.getElem?_mapIdx] at found
    obtain ⟨call,listed,rfl⟩ := Option.map_eq_some_iff.mp found
    exact ⟨sendRules_phase _ _,call,listed,sendRules_sends _ _⟩
  have leads (index : Nat) : leading states index = (flightPhase pool.trace index).lead := by
    cases found : states[index]? with
    | some state => rw [leading,found,Option.bind_some,(stands found).1]
    | none =>
      have past : (started moves).length ≤ index := by
        have := List.getElem?_eq_none_iff.mp found
        simpa [followed.states] using this
      have silent : answered pool.trace index = [] := by
        refine List.filterMap_eq_nil_iff.mpr (fun entry member => if_neg ?_)
        have := followed.within entry member
        omega
      rw [leading,found,flightPhase,silent]
      rfl
  refine ⟨?_,?_,?_,?_,?_,holds.begun,?_⟩
  · intro index other key flight flight' print print' lead lead'
    rw [← leads] at lead lead'
    cases (holds.registered lead).symm.trans (holds.registered lead')
    exact holds.unique index other key key flight print print' lead lead'
  · intro index call op following listed turn called
    obtain ⟨state,found,meets⟩ := aligned.state turn
    obtain ⟨phase,call',listed',sends⟩ := stands found
    cases listed.symm.trans listed'
    obtain ⟨key,flight,print,about,calling⟩ := callsBack_calling sends meets.1 called
    have held := holds.own index state key flight print found (by rw [calling]; rfl)
    exact ⟨key,flight,print,sends.symm.trans held.sends,about,phase.symm.trans calling⟩
  · intro key flight
    simp only [← leads]
    exact ⟨holds.led key flight,fun ⟨_,_,lead⟩ => holds.registered lead⟩
  · intro index result ended
    obtain ⟨state,found,meets⟩ := aligned.state ended
    exact (stands found).1.symm.trans meets
  · intro flight bound
    have stored := List.getElem?_eq_getElem bound
    have count := holds.closed flight
    rw [stored,Option.any_some] at count
    cases finished : pool.world.flightTable[flight].finished with
    | true =>
      rw [finished] at count
      exact .inl count
    | false =>
      rw [finished] at count
      obtain ⟨key,registered⟩ := holds.unfinished flight _ stored finished
      obtain ⟨index,print,led⟩ := holds.led key flight registered
      exact .inr ⟨count,index,key,print,(leads index).symm.trans led⟩
  · intro done
    refine AList.ext (List.eq_nil_iff_forall_not_mem.mpr (fun entry member => ?_))
    obtain ⟨index,print,led⟩ := holds.led entry.1 entry.2 (AList.mem_lookup_iff.mpr member)
    obtain ⟨state,found,lead⟩ := leading_some.mp led
    obtain ⟨_,call,listed,sends⟩ := stands found
    have named := sends.symm.trans (holds.own index state entry.1 entry.2 print found lead).sends
    obtain ⟨result,ended⟩ := done index call listed (by rw [named]; simp)
    obtain ⟨_,found',idle⟩ := aligned.state ended
    cases found.symm.trans found'
    rw [show state.phase = .idle from idle] at lead
    cases lead

def panickingApplication : (op : Op) → Answer op
  | .handleSendReturn _ _ _ => .error .panic
  | op => working (lit "s") (lit "f") op

def panickingSendMoves : List ServerMove :=
  connectMoves ++ .spawn (.handle 1 sendFrame)::turns 2 21 panickingApplication

/-- A SEND whose Application panicked has released its flight. -/
theorem flight_registry_panicked : ∃ pool : ServerPool,
    (serverMachine {} (fun _ => true)).run {world := {dedup := {ttl := day}}} panickingSendMoves = some pool ∧
    FlightRegistry {} panickingSendMoves pool ∧ sendCalls (lit "s") (lit "m") pool.trace = 1 ∧
    pool.world.flightTable.length = 1 ∧ pool.trace.countP (closes 0) = 1 ∧ pool.world.flights.keys = [] := by
  have facts : ∃ pool ∈ (serverMachine {} (fun _ => true)).run {world := {dedup := {ttl := day}}} panickingSendMoves,
      sendCalls (lit "s") (lit "m") pool.trace = 1 ∧ pool.world.flightTable.length = 1 ∧
      pool.trace.countP (closes 0) = 1 ∧ pool.world.flights.keys = [] := by decide +kernel
  obtain ⟨pool,ran,rest⟩ := facts
  exact ⟨pool,ran,flight_registry {} _ rfl rfl ran,rest⟩

end Kmtproto
