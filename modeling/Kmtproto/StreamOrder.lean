import Kmtproto.QueueOrder
import Kmtproto.ServerEffects

/-! The order of events on a queue. A lane lets one request of a session run at a time,
so a number is allocated, a boundary is read and a frame is enqueued with nothing of the
same stream in between. -/
namespace Kmtproto
open Json Interaction

def LaneTurn.ticket : LaneTurn → Option Nat
  | .queued ticket | .running ticket => some ticket
  | _ => none

/-- Every call in a lane has a ticket of its own there, and a call whose turn it is has the
first. -/
structure LanesHeld (world : World) (states : List StreamState) : Prop where
  issued : ∀ sessionID, ∀ ticket ∈ (world.lane sessionID).queue, ticket < (world.lane sessionID).issued
  held : ∀ (index : Nat) (state : StreamState) (ticket : Nat), states[index]? = some state →
    state.turn.ticket = some ticket → ticket ∈ (world.lane state.lane).queue
  first : ∀ (index : Nat) (state : StreamState) (ticket : Nat), states[index]? = some state →
    state.turn = .running ticket → (world.lane state.lane).queue.head? = some ticket
  unique : ∀ (index other : Nat) (state another : StreamState) (ticket : Nat), states[index]? = some state →
    states[other]? = some another → state.lane = another.lane → state.turn.ticket = some ticket →
    another.turn.ticket = some ticket → index = other

section Lanes
variable {config : ServerConfig} {reference : Op → Bool} {world next : World} {states : List StreamState} {index : Nat}
  {state : StreamState} {op : Op} {offered answer : Answer op}

/-- Two calls never have their turn in one lane. -/
theorem LanesHeld.alone (lanes : LanesHeld world states) {other : Nat} {another : StreamState}
    (found : states[index]? = some state) (found' : states[other]? = some another) (same : state.lane = another.lane)
    (running : state.turn.isRunning = true) (running' : another.turn.isRunning = true) : index = other := by
  cases turn : state.turn with
  | running ticket =>
    cases turn' : another.turn with
    | running ticket' =>
      have one := lanes.first index state ticket found turn
      have two := lanes.first other another ticket' found' turn'
      rw [same,two] at one
      cases one
      exact lanes.unique index other state another ticket found found' same (by rw [turn]; rfl) (by rw [turn']; rfl)
    | _ => rw [turn'] at running'; cases running'
  | _ => rw [turn] at running; cases running

theorem LanesHeld.keep (lanes : LanesHeld world states) (found : states[index]? = some state) {after : StreamState}
    (tickets : ∀ sessionID, (next.lane sessionID).queue = (world.lane sessionID).queue ∧
      (next.lane sessionID).issued = (world.lane sessionID).issued)
    (lane : after.lane = state.lane) (ticket : after.turn.ticket = state.turn.ticket)
    (head : ∀ ticket, after.turn = .running ticket → (world.lane state.lane).queue.head? = some ticket) :
    LanesHeld next (states.set index after) := by
  have old {place : Nat} {entry : StreamState} (placed : (states.set index after)[place]? = some entry) :
      ∃ before, states[place]? = some before ∧ before.lane = entry.lane ∧ before.turn.ticket = entry.turn.ticket := by
    rcases set_cases placed with ⟨rfl,rfl⟩ | ⟨_,before⟩
    · exact ⟨state,found,lane.symm,ticket.symm⟩
    · exact ⟨entry,before,rfl,rfl⟩
  refine ⟨fun sessionID => ?_,?_,?_,?_⟩
  · rw [(tickets sessionID).1,(tickets sessionID).2]
    exact lanes.issued sessionID
  · intro place entry held placed has
    obtain ⟨before,was,lane,ticket⟩ := old placed
    rw [(tickets _).1,← lane]
    exact lanes.held place before held was (ticket.trans has)
  · intro place entry held placed has
    rw [(tickets _).1]
    rcases set_cases placed with ⟨rfl,rfl⟩ | ⟨_,before⟩
    · rw [lane]
      exact head held has
    · exact lanes.first place entry held before has
  · intro place other entry another held placed placed' same has has'
    obtain ⟨before,was,lane,ticket⟩ := old placed
    obtain ⟨before',was',lane',ticket'⟩ := old placed'
    exact lanes.unique place other before before' held was was' (by rw [lane,lane',same]) (ticket.trans has)
      (ticket'.trans has')

theorem LanesHeld.join (lanes : LanesHeld world states) (found : states[index]? = some state) {sessionID : Bytes}
    {ticket : Nat} (fresh : ticket = (world.lane sessionID).issued)
    (tickets : ∀ other, ((next.lane other).queue,(next.lane other).issued) =
      world.ticketsAfter other (.joinLane sessionID) (some ticket)) :
    LanesHeld next (states.set index {state with lane := sessionID, turn := .queued ticket}) := by
  have own : (next.lane sessionID).queue = (world.lane sessionID).queue++[ticket] ∧
      (next.lane sessionID).issued = (world.lane sessionID).issued+1 := by
    simpa [World.ticketsAfter] using tickets sessionID
  have others (other : Bytes) (ne : other ≠ sessionID) : (next.lane other).queue = (world.lane other).queue ∧
      (next.lane other).issued = (world.lane other).issued := by
    simpa [World.ticketsAfter,ne] using tickets other
  have grows (other : Bytes) : ∃ more, (next.lane other).queue = (world.lane other).queue++more := by
    by_cases same : other = sessionID
    · subst same
      exact ⟨_,own.1⟩
    · exact ⟨[],by simp [(others other same).1]⟩
  -- a ticket that is already held was issued before the new one
  have apart (place : Nat) (entry : StreamState) (placed : states[place]? = some entry) (lane : entry.lane = sessionID)
      (has : entry.turn.ticket = some ticket) : False := by
    have inside := lanes.issued sessionID ticket (lane ▸ lanes.held place entry ticket placed has)
    omega
  refine ⟨fun other => ?_,?_,?_,?_⟩
  · by_cases same : other = sessionID
    · subst same
      rw [own.1,own.2]
      intro held member
      rcases List.mem_append.mp member with old | new
      · exact Nat.lt_succ_of_lt (lanes.issued other held old)
      · rw [List.mem_singleton.mp new,fresh]
        exact Nat.lt_succ_self _
    · rw [(others other same).1,(others other same).2]
      exact lanes.issued other
  · intro place entry held placed has
    rcases set_cases placed with ⟨rfl,rfl⟩ | ⟨_,placed⟩
    · cases has
      simp [own.1]
    · obtain ⟨more,queue⟩ := grows entry.lane
      rw [queue]
      exact List.mem_append_left _ (lanes.held place entry held placed has)
  · intro place entry held placed has
    rcases set_cases placed with ⟨rfl,rfl⟩ | ⟨_,placed⟩
    · cases has
    · obtain ⟨more,queue⟩ := grows entry.lane
      rw [queue,List.head?_append,lanes.first place entry held placed has]
      rfl
  · intro place other entry another held placed placed' same has has'
    rcases set_cases placed with ⟨rfl,rfl⟩ | ⟨_,here⟩
    · rcases set_cases placed' with ⟨rfl,_⟩ | ⟨_,there⟩
      · rfl
      · cases has
        exact (apart other another there same.symm has').elim
    · rcases set_cases placed' with ⟨rfl,rfl⟩ | ⟨_,there⟩
      · cases has'
        exact (apart place entry here same has).elim
      · exact lanes.unique place other entry another held here there same has has'

theorem LanesHeld.leave (lanes : LanesHeld world states) (found : states[index]? = some state) {ticket : Nat}
    (running : state.turn = .running ticket)
    (tickets : ∀ other, ((next.lane other).queue,(next.lane other).issued) =
      world.ticketsAfter other (.leaveLane state.lane ticket) ()) :
    LanesHeld next (states.set index {state with turn := .left}) := by
  have head := lanes.first index state ticket found running
  have own : (next.lane state.lane).queue = (world.lane state.lane).queue.erase ticket ∧
      (next.lane state.lane).issued = (world.lane state.lane).issued := by
    simpa [World.ticketsAfter] using tickets state.lane
  have others (other : Bytes) (ne : other ≠ state.lane) : (next.lane other).queue = (world.lane other).queue ∧
      (next.lane other).issued = (world.lane other).issued := by
    simpa [World.ticketsAfter,ne] using tickets other
  -- another call in this lane has another ticket
  have apart (place : Nat) (entry : StreamState) (held : Nat) (ne : place ≠ index) (placed : states[place]? = some entry)
      (lane : entry.lane = state.lane) (has : entry.turn.ticket = some held) : held ≠ ticket := by
    rintro rfl
    exact ne (lanes.unique place index entry state held placed found lane has (by rw [running]; rfl))
  refine ⟨fun other => ?_,?_,?_,?_⟩
  · by_cases same : other = state.lane
    · subst same
      rw [own.1,own.2]
      exact fun held member => lanes.issued _ held (List.mem_of_mem_erase member)
    · rw [(others other same).1,(others other same).2]
      exact lanes.issued other
  · intro place entry held placed has
    rcases set_cases placed with ⟨rfl,rfl⟩ | ⟨ne,placed⟩
    · cases has
    · have inside := lanes.held place entry held placed has
      by_cases same : entry.lane = state.lane
      · rw [same] at inside ⊢
        rw [own.1]
        exact (List.mem_erase_of_ne (apart place entry held ne placed same has)).mpr inside
      · rw [(others _ same).1]
        exact inside
  · intro place entry held placed has
    rcases set_cases placed with ⟨rfl,rfl⟩ | ⟨ne,placed⟩
    · cases has
    · have first := lanes.first place entry held placed has
      by_cases same : entry.lane = state.lane
      · rw [same,head] at first
        exact (apart place entry held ne placed same (by rw [has]; rfl) (Option.some.inj first).symm).elim
      · rw [(others _ same).1]
        exact first
  · intro place other entry another held placed placed' same has has'
    rcases set_cases placed with ⟨rfl,rfl⟩ | ⟨_,placed⟩
    · cases has
    rcases set_cases placed' with ⟨rfl,rfl⟩ | ⟨_,placed'⟩
    · cases has'
    exact lanes.unique place other entry another held placed placed' same has has'

/-- A request keeps the calls in their lanes. -/
theorem LanesHeld.request (lanes : LanesHeld world states) (found : states[index]? = some state)
    (allowed : state.allowed config op)
    (performed : (serverMachine config reference).perform op offered world = some (answer,next)) :
    LanesHeld next (states.set index (state.next op answer)) := by
  have tickets := perform_tickets performed
  have kept (same : ∀ sessionID, world.ticketsAfter sessionID op answer =
      ((world.lane sessionID).queue,(world.lane sessionID).issued)) (sessionID : Bytes) :
      (next.lane sessionID).queue = (world.lane sessionID).queue ∧
        (next.lane sessionID).issued = (world.lane sessionID).issued := by
    have both := (tickets sessionID).trans (same sessionID)
    exact ⟨congrArg Prod.fst both,congrArg Prod.snd both⟩
  -- a request that leaves the lanes to themselves
  have still {after : StreamState} (same : ∀ sessionID, world.ticketsAfter sessionID op answer =
      ((world.lane sessionID).queue,(world.lane sessionID).issued)) (lane : after.lane = state.lane)
      (turn : after.turn = state.turn) : LanesHeld next (states.set index after) :=
    lanes.keep found (kept same) lane (by rw [turn])
      (fun ticket runs => lanes.first index state ticket found (turn.symm.trans runs))
  cases op with
  | joinLane sessionID =>
    cases answer with
    | none => exact still (fun _ => rfl) rfl rfl
    | some ticket => exact lanes.join found (perform_join performed) tickets
  | awaitLane sessionID ticket =>
    obtain ⟨rfl,queued⟩ := allowed
    refine lanes.keep found (kept (fun _ => rfl)) rfl (by rw [queued]; rfl) (fun ticket runs => ?_)
    cases runs
    exact perform_await performed
  | leaveLane sessionID ticket =>
    obtain ⟨rfl,running⟩ := allowed
    exact lanes.leave found running tickets
  | currentSeq sessionID => cases answer <;> exact still (fun _ => rfl) rfl rfl
  | append sessionID eventID eventType content timestamp =>
    cases answer <;> exact still (fun _ => rfl) rfl rfl
  | enqueueBatch outbound frames => cases answer <;> exact still (fun _ => rfl) rfl rfl
  | _ => exact still (fun _ => rfl) rfl rfl

end Lanes


def Published (trace : List (Nat × Event Op Answer)) (index : Nat) (sessionID : Bytes) (event : Envelope) : Prop :=
  ∃ eventID eventType content timestamp, (index,⟨.append sessionID eventID eventType content timestamp,.ok event⟩) ∈ trace

/-- The number belongs to an event whose publication is for another queue or kept it back. -/
def Absent (trace : List (Nat × Event Op Answer)) (states : List StreamState) (outbound : Nat) (sessionID : Bytes)
    (number : Nat) : Prop :=
  ∃ index event state target, Published trace index sessionID event ∧ event.seq.toNat = number ∧
    states[index]? = some state ∧ state.publishes = some (sessionID,target) ∧
    (target ≠ outbound ∨ state.unsent = some event)

/-- The number belongs to an event that never reaches the queue. -/
def Gone (trace : List (Nat × Event Op Answer)) (states : List StreamState) (outbound : Nat) (sessionID : Bytes)
    (number : Nat) : Prop :=
  ∃ index event state target, Published trace index sessionID event ∧ event.seq.toNat = number ∧
    states[index]? = some state ∧ state.publishes = some (sessionID,target) ∧
    (target ≠ outbound ∨ (state.unsent = some event ∧ state.turn = .left))

def World.highWater (world : World) (sessionID : Bytes) : Nat := (world.replay.currentSeq sessionID).toNat

structure Owed (config : ServerConfig) (world : World) (state : StreamState) (event : Envelope) : Prop where
  running : state.turn.isRunning = true
  call : ∃ outbound, state.publishes = some (state.lane,outbound)
  kind : event.type = .event
  own : event.sessionID = state.lane
  top : event.seq.toNat = world.highWater state.lane
  ahead : ∀ outbound, Ahead config.strictValidation state.lane (world.highWater state.lane) (world.log outbound)

structure Streamed (config : ServerConfig) (world : World) (trace : List (Nat × Event Op Answer))
    (states : List StreamState) : Prop where
  unsent : ∀ (index : Nat) (state : StreamState) (event : Envelope), states[index]? = some state →
    state.unsent = some event → state.turn = .left ∨ Owed config world state event
  boundary : ∀ (index : Nat) (state : StreamState) (replayTo : UInt64), states[index]? = some state →
    state.turn.isRunning = true → state.boundary = some replayTo → replayTo.toNat = world.highWater state.lane
  ordered : ∀ outbound sessionID, Ordered config sessionID (world.highWater sessionID)
    (Absent trace states outbound sessionID) (Gone trace states outbound sessionID) (world.log outbound)

section Steps
variable {config : ServerConfig} {reference : Op → Bool} {world next : World} {trace more : List (Nat × Event Op Answer)}
  {states : List StreamState} {index outbound : Nat} {state after : StreamState} {sessionID : Bytes} {number : Nat}

theorem Published.mono {place : Nat} {event : Envelope} (published : Published trace place sessionID event) :
    Published (trace++more) place sessionID event := by
  obtain ⟨eventID,eventType,content,timestamp,member⟩ := published
  exact ⟨eventID,eventType,content,timestamp,List.mem_append_left _ member⟩

/-- An absent event stays absent as long as its call keeps it back. -/
theorem Absent.step (absent : Absent trace states outbound sessionID number) (found : states[index]? = some state)
    (publishes : after.publishes = state.publishes)
    (keeps : ∀ target event, state.publishes = some (sessionID,target) → state.unsent = some event →
      event.seq.toNat = number → target ≠ outbound ∨ after.unsent = some event) :
    Absent (trace++more) (states.set index after) outbound sessionID number := by
  obtain ⟨place,event,holder,target,published,numbered,placed,call,why⟩ := absent
  by_cases same : index = place
  · subst same
    cases found.symm.trans placed
    have bound := (List.getElem?_eq_some_iff.mp found).1
    refine ⟨index,event,after,target,published.mono,numbered,List.getElem?_set_self bound,publishes.trans call,?_⟩
    exact why.elim .inl (fun unsent => keeps target event call unsent numbered)
  · exact ⟨place,event,holder,target,published.mono,numbered,by rw [List.getElem?_set_ne same]; exact placed,call,why⟩

theorem Gone.step (gone : Gone trace states outbound sessionID number) (found : states[index]? = some state)
    (publishes : after.publishes = state.publishes)
    (keeps : state.turn = .left → state.unsent ≠ none → after.unsent = state.unsent ∧ after.turn = .left) :
    Gone (trace++more) (states.set index after) outbound sessionID number := by
  obtain ⟨place,event,holder,target,published,numbered,placed,call,why⟩ := gone
  by_cases same : index = place
  · subst same
    cases found.symm.trans placed
    have bound := (List.getElem?_eq_some_iff.mp found).1
    refine ⟨index,event,after,target,published.mono,numbered,List.getElem?_set_self bound,publishes.trans call,?_⟩
    refine why.imp_right (fun lost => ?_)
    obtain ⟨unsent,left⟩ := keeps lost.2 (by rw [lost.1]; simp)
    exact ⟨unsent.trans lost.1,left⟩
  · exact ⟨place,event,holder,target,published.mono,numbered,by rw [List.getElem?_set_ne same]; exact placed,call,why⟩

theorem Owed.step {event : Envelope} (owed : Owed config world state event)
    (water : next.highWater state.lane = world.highWater state.lane) {frames : Nat → List Envelope}
    (logs : ∀ queue, next.log queue = world.log queue ++ frames queue)
    (foreign : ∀ queue, Foreign config.strictValidation state.lane (frames queue)) : Owed config next state event :=
  {owed with
    top := by rw [water]; exact owed.top
    ahead := fun queue => by rw [water,logs]; exact (owed.ahead queue).foreign (foreign queue)}

theorem Foreign.given {strict : Bool} {queue : Nat} {frames : List Envelope}
    (foreign : outbound = queue → Foreign strict sessionID frames) :
    Foreign strict sessionID (if outbound = queue then frames else []) := by
  split
  · exact foreign (by assumption)
  · exact List.forall_mem_nil _

theorem Streamed.quiet (holds : Streamed config world trace states) (found : states[index]? = some state)
    (water : ∀ sessionID, next.highWater sessionID = world.highWater sessionID) {frames : Nat → List Envelope}
    (logs : ∀ outbound, next.log outbound = world.log outbound ++ frames outbound)
    (plain : ∀ outbound, ∀ frame ∈ frames outbound, frame.Unstreamed config.strictValidation)
    (publishes : after.publishes = state.publishes) (unsent : after.unsent = state.unsent)
    (left : state.turn = .left → after.turn = .left)
    (owed : after.unsent ≠ none → after.turn = .left ∨ (after.turn = state.turn ∧ after.lane = state.lane))
    (boundary : ∀ replayTo, after.turn.isRunning = true → after.boundary = some replayTo →
      replayTo.toNat = world.highWater after.lane) :
    Streamed config next (trace++more) (states.set index after) where
  unsent place holder event placed has := by
    have stays {entry : StreamState} (waits : Owed config world entry event) : Owed config next entry event :=
      waits.step (water _) logs (fun queue => Envelope.Unstreamed.foreign (plain queue) _)
    rcases set_cases placed with ⟨rfl,rfl⟩ | ⟨_,before⟩
    · rcases owed (by rw [has]; simp) with gone | ⟨turn,lane⟩
      · exact .inl gone
      rcases holds.unsent place state event found (unsent.symm.trans has) with gone | waits
      · exact .inl (turn.trans gone)
      · obtain ⟨running,call,kind,own,top,ahead⟩ := stays waits
        rw [← lane] at call own top ahead
        rw [← turn] at running
        rw [← publishes] at call
        exact .inr ⟨running,call,kind,own,top,ahead⟩
    · exact (holds.unsent place holder event before has).imp_right stays
  boundary place holder replayTo placed running read := by
    rw [water]
    rcases set_cases placed with ⟨rfl,rfl⟩ | ⟨_,before⟩
    · exact boundary replayTo running read
    · exact holds.boundary place holder replayTo before running read
  ordered outbound sessionID := by
    rw [water,logs]
    refine ((holds.ordered outbound sessionID).foreign (Envelope.Unstreamed.foreign (plain outbound) _)).mono
      (fun number absent => ?_) (fun number gone => ?_)
    · exact absent.step found publishes (fun _ event _ has _ => .inr (unsent.trans has))
    · exact gone.step found publishes (fun gone _ => ⟨unsent,left gone⟩)

theorem Streamed.ordered_set (holds : Streamed config world trace states) (found : states[index]? = some state)
    (empty : state.unsent = none) (more : List (Nat × Event Op Answer)) (after : StreamState)
    (publishes : after.publishes = state.publishes) (queue : Nat) (sessionID : Bytes) :
    Ordered config sessionID (world.highWater sessionID) (Absent (trace++more) (states.set index after) queue sessionID)
      (Gone (trace++more) (states.set index after) queue sessionID) (world.log queue) := by
  refine (holds.ordered queue sessionID).mono (fun number absent => ?_) (fun number gone => ?_)
  · exact absent.step found publishes (fun _ _ _ has _ => by rw [empty] at has; cases has)
  · exact gone.step found publishes (fun _ unsent => absurd empty unsent)

theorem LanesHeld.elsewhere (lanes : LanesHeld world states) (found : states[index]? = some state)
    (running : state.turn.isRunning = true) {place : Nat} {holder : StreamState} (apart : place ≠ index)
    (placed : states[place]? = some holder) (running' : holder.turn.isRunning = true) : holder.lane ≠ state.lane :=
  fun same => apart (lanes.alone placed found same running' running)

theorem Streamed.append (holds : Streamed config world trace states) (lanes : LanesHeld world states)
    (found : states[index]? = some state) (running : state.turn.isRunning = true) (empty : state.unsent = none)
    (call : state.publishes = some (state.lane,outbound)) {event : Envelope} (kind : event.type = .event)
    (own : event.sessionID = state.lane) (top : event.seq.toNat = world.highWater state.lane + 1)
    (water : next.highWater state.lane = world.highWater state.lane + 1)
    (others : ∀ sessionID, sessionID ≠ state.lane → next.highWater sessionID = world.highWater sessionID)
    (logs : ∀ outbound, next.log outbound = world.log outbound)
    (published : Published (trace++more) index state.lane event) :
    Streamed config next (trace++more) (states.set index {state with boundary := none, unsent := some event}) where
  unsent place holder other placed has := by
    rcases set_cases placed with ⟨rfl,rfl⟩ | ⟨apart,before⟩
    · cases has
      refine .inr ⟨running,⟨outbound,call⟩,kind,own,top.trans water.symm,fun queue => ?_⟩
      rw [water,logs]
      exact (holds.ordered queue state.lane).ahead
    · refine (holds.unsent place holder other before has).imp_right (fun waits => ?_)
      have away := lanes.elsewhere found running apart before waits.running
      exact waits.step (others _ away) (fun queue => (logs queue).trans (List.append_nil _).symm)
        (fun _ => List.forall_mem_nil _)
  boundary place holder replayTo placed running' read := by
    rcases set_cases placed with ⟨rfl,rfl⟩ | ⟨apart,before⟩
    · cases read
    · rw [others _ (lanes.elsewhere found running apart before running')]
      exact holds.boundary place holder replayTo before running' read
  ordered queue sessionID := by
    rw [logs]
    have kept := holds.ordered_set found empty more {state with boundary := none, unsent := some event} rfl queue sessionID
    by_cases same : sessionID = state.lane
    · subst same
      rw [water]
      have bound := (List.getElem?_eq_some_iff.mp found).1
      exact kept.raise ⟨index,event,_,outbound,published,top,List.getElem?_set_self bound,call,.inr rfl⟩
    · rw [others _ same]
      exact kept

/-- An event below the last number that was kept back is lost: the turn of its call is over. -/
theorem Streamed.lost (holds : Streamed config world trace states) (less : number < world.highWater sessionID)
    (absent : Absent trace states outbound sessionID number) : Gone trace states outbound sessionID number := by
  obtain ⟨place,event,holder,target,published,numbered,placed,call,why⟩ := absent
  refine ⟨place,event,holder,target,published,numbered,placed,call,why.imp_right (fun has => ⟨has,?_⟩)⟩
  rcases holds.unsent place holder event placed has with gone | waits
  · exact gone
  · obtain ⟨_,lane⟩ := waits.call
    rw [call] at lane
    obtain ⟨same,_⟩ := Prod.mk.inj (Option.some.inj lane)
    have top := waits.top
    rw [← same] at top
    omega

theorem Streamed.others_sent (holds : Streamed config world trace states) (lanes : LanesHeld world states)
    (found : states[index]? = some state) (running : state.turn.isRunning = true)
    (water : ∀ sessionID, next.highWater sessionID = world.highWater sessionID) {frames : List Envelope}
    (logs : ∀ queue, next.log queue = world.log queue ++ if outbound = queue then frames else [])
    (foreign : ∀ sessionID, sessionID ≠ state.lane → Foreign config.strictValidation sessionID frames)
    {place : Nat} {holder : StreamState} {event : Envelope}
    (placed : (states.set index {state with unsent := none})[place]? = some holder) (has : holder.unsent = some event) :
    holder.turn = .left ∨ Owed config next holder event := by
  rcases set_cases placed with ⟨rfl,rfl⟩ | ⟨apart,before⟩
  · cases has
  · refine (holds.unsent place holder event before has).imp_right (fun waits => ?_)
    have away := lanes.elsewhere found running apart before waits.running
    exact waits.step (water _) logs (fun _ => Foreign.given (fun _ => foreign _ away))

theorem Streamed.boundary_sent (holds : Streamed config world trace states) (found : states[index]? = some state)
    (water : ∀ sessionID, next.highWater sessionID = world.highWater sessionID) {place : Nat} {holder : StreamState}
    {replayTo : UInt64} (placed : (states.set index {state with unsent := none})[place]? = some holder)
    (running : holder.turn.isRunning = true) (read : holder.boundary = some replayTo) :
    replayTo.toNat = next.highWater holder.lane := by
  rw [water]
  rcases set_cases placed with ⟨rfl,rfl⟩ | ⟨_,before⟩
  · exact holds.boundary place state replayTo found running read
  · exact holds.boundary place holder replayTo before running read

/-- The call whose turn it is sends the event it appended. -/
theorem Streamed.live (holds : Streamed config world trace states) (lanes : LanesHeld world states)
    (found : states[index]? = some state) (running : state.turn.isRunning = true) {event : Envelope}
    (unsent : state.unsent = some event) (call : state.publishes = some (state.lane,outbound))
    (water : ∀ sessionID, next.highWater sessionID = world.highWater sessionID)
    (logs : ∀ queue, next.log queue = world.log queue ++ if outbound = queue then [event] else []) :
    Streamed config next (trace++more) (states.set index {state with unsent := none}) := by
  have inside : state.turn ≠ .left := by
    intro left
    rw [left] at running
    cases running
  have owed := (holds.unsent index state event found unsent).resolve_left inside
  have silent (sessionID : Bytes) : resumption config.strictValidation sessionID event = none :=
    resumption_other (by rw [owed.kind]; simp)
  have foreign (sessionID : Bytes) (other : sessionID ≠ state.lane) :
      Foreign config.strictValidation sessionID [event] := by
    intro frame member
    rw [List.mem_singleton.mp member]
    exact ⟨silent sessionID,if_neg (fun both => other (both.2.symm.trans owed.own))⟩
  have stays (number : Nat) (queue : Nat) (sessionID : Bytes) (gone : Gone trace states queue sessionID number) :
      Gone (trace++more) (states.set index {state with unsent := none}) queue sessionID number :=
    gone.step found rfl (fun left _ => absurd left inside)
  refine ⟨fun _ _ _ => holds.others_sent lanes found running water logs foreign,
    fun _ _ _ => holds.boundary_sent found water,fun queue sessionID => ?_⟩
  rw [water,logs]
  by_cases here : sessionID = state.lane ∧ outbound = queue
  · obtain ⟨rfl,rfl⟩ := here
    have numbered : eventNumber state.lane event = some (world.highWater state.lane) := by
      rw [eventNumber,if_pos ⟨owed.kind,owed.own⟩,owed.top]
    rw [if_pos rfl]
    refine ((holds.ordered outbound state.lane).sent numbered (silent _) (owed.ahead outbound)
      (fun _ => holds.lost)).mono (fun number absent => ?_) (fun number => stays number outbound state.lane)
    refine absent.1.step found rfl (fun target other _ has equal => absurd ?_ absent.2)
    cases unsent.symm.trans has
    exact equal.symm.trans owed.top
  · refine ((holds.ordered queue sessionID).foreign (Foreign.given (fun same => foreign _ (fun own => here ⟨own,same⟩)))).mono
      (fun number absent => ?_) (fun number => stays number queue sessionID)
    -- the call keeps its event back for no other queue and no other session
    refine absent.step found rfl (fun target other call' _ _ => .inl (fun same => here ?_))
    obtain ⟨lane,queue'⟩ := Prod.mk.inj (Option.some.inj (call.symm.trans call'))
    exact ⟨lane.symm,queue'.trans same⟩

/-- The call whose turn it is sends the batch that resumes its session. -/
theorem Streamed.resume (holds : Streamed config world trace states) (found : states[index]? = some state)
    (running : state.turn.isRunning = true) (empty : state.unsent = none) {frame : Envelope} {replayTo : UInt64}
    (own : frame.sessionID = state.lane) (read : state.boundary = some replayTo) {frames : List Envelope}
    (whole : IsResumeBatch config frame replayTo frames) (lanes : LanesHeld world states)
    (water : ∀ sessionID, next.highWater sessionID = world.highWater sessionID)
    (logs : ∀ queue, next.log queue = world.log queue ++ if outbound = queue then frames else []) :
    Streamed config next (trace++more) (states.set index {state with unsent := none}) := by
  obtain ⟨asked,welcome,events,snapshot,rfl,batch⟩ := whole
  have foreign (sessionID : Bytes) (other : sessionID ≠ state.lane) :
      Foreign config.strictValidation sessionID (welcome::(events++snapshot.toList)) :=
    batch.foreign (fun same => other (same.symm.trans own))
  refine ⟨fun _ _ _ => holds.others_sent lanes found running water logs foreign,
    fun _ _ _ => holds.boundary_sent found water,fun queue sessionID => ?_⟩
  rw [water,logs]
  have kept := holds.ordered_set found empty more {state with unsent := none} rfl queue sessionID
  by_cases here : sessionID = state.lane ∧ outbound = queue
  · obtain ⟨rfl,rfl⟩ := here
    rw [if_pos rfl]
    exact kept.resumed batch own (holds.boundary index state replayTo found running read)
  · exact kept.foreign (Foreign.given (fun same => foreign _ (fun own => here ⟨own,same⟩)))

theorem Streamed.same (holds : Streamed config world trace states)
    (water : ∀ sessionID, next.highWater sessionID = world.highWater sessionID)
    (logs : ∀ outbound, next.log outbound = world.log outbound) : Streamed config next trace states where
  unsent place holder event placed has :=
    (holds.unsent place holder event placed has).imp_right (fun waits => waits.step (water _)
      (fun queue => (logs queue).trans (List.append_nil _).symm) (fun _ => List.forall_mem_nil _))
  boundary := by
    simp only [water]
    exact holds.boundary
  ordered := by
    simp only [water,logs]
    exact holds.ordered

theorem LanesHeld.spawn (lanes : LanesHeld world states) (outside : after.turn = .outside) :
    LanesHeld world (states++[after]) := by
  have old {place : Nat} {entry : StreamState} (ticket : Nat) (placed : (states++[after])[place]? = some entry)
      (has : entry.turn.ticket = some ticket) : states[place]? = some entry := by
    rcases snoc_cases placed with before | ⟨_,rfl⟩
    · exact before
    · rw [outside] at has
      cases has
  refine ⟨lanes.issued,?_,?_,?_⟩
  · intro place entry ticket placed has
    exact lanes.held place entry ticket (old ticket placed has) has
  · intro place entry ticket placed has
    exact lanes.first place entry ticket (old ticket placed (by rw [has]; rfl)) has
  · intro place other entry another ticket placed placed' lane has has'
    exact lanes.unique place other entry another ticket (old ticket placed has) (old ticket placed' has') lane has has'

theorem Streamed.spawn (holds : Streamed config world trace states) (empty : after.unsent = none)
    (waits : after.turn.isRunning = false) : Streamed config world trace (states++[after]) where
  unsent place holder event placed has := by
    rcases snoc_cases placed with before | ⟨_,rfl⟩
    · exact holds.unsent place holder event before has
    · rw [empty] at has
      cases has
  boundary place holder replayTo placed running read := by
    rcases snoc_cases placed with before | ⟨_,rfl⟩
    · exact holds.boundary place holder replayTo before running read
    · rw [waits] at running
      cases running
  ordered outbound sessionID := by
    have earlier {place : Nat} {holder : StreamState} (placed : states[place]? = some holder) :
        (states++[after])[place]? = some holder := by
      rw [List.getElem?_append_left (List.getElem?_eq_some_iff.mp placed).1]
      exact placed
    refine (holds.ordered outbound sessionID).mono (fun number absent => ?_) (fun number gone => ?_)
    · obtain ⟨place,event,holder,target,published,numbered,placed,why⟩ := absent
      exact ⟨place,event,holder,target,published,numbered,earlier placed,why⟩
    · obtain ⟨place,event,holder,target,published,numbered,placed,why⟩ := gone
      exact ⟨place,event,holder,target,published,numbered,earlier placed,why⟩

def StreamState.Fresh (state : StreamState) : Prop :=
  state.turn.isRunning = false → state.turn ≠ .left → state.boundary = none ∧ state.unsent = none

theorem StreamState.Fresh.step {op : Op} (fresh : state.Fresh) (allowed : state.allowed config op) (answer : Answer op) :
    (state.next op answer).Fresh := by
  cases op with
  | joinLane sessionID =>
    have outside : state.turn = .outside := allowed
    cases answer with
    | none => exact fresh
    | some ticket => exact fun _ _ => fresh (by rw [outside]; rfl) (by rw [outside]; simp)
  | awaitLane => exact fun waits => by cases waits
  | leaveLane => exact fun _ stays => absurd rfl stays
  | currentSeq sessionID =>
    cases answer with
    | error error => exact fresh
    | ok boundary => exact fun waits => by rw [StreamState.next,allowed.2] at waits; cases waits
  | append sessionID eventID eventType content timestamp =>
    cases answer with
    | error error => exact fresh
    | ok event => exact fun waits => by rw [StreamState.next,allowed.2.1] at waits; cases waits
  | enqueueBatch target frames =>
    cases answer with
    | error error => exact fresh
    | ok done => exact fun waits stays => ⟨(fresh waits stays).1,rfl⟩
  | _ => exact fresh

theorem Streamed.request (holds : Streamed config world trace states) (lanes : LanesHeld world states)
    (fresh : state.Fresh) (store : ∀ op, op.replays = true → reference op = true) (found : states[index]? = some state)
    {op : Op} {offered answer : Answer op} (allowed : state.allowed config op)
    (performed : (serverMachine config reference).perform op offered world = some (answer,next)) :
    Streamed config next (trace++[(index,⟨op,answer⟩)]) (states.set index (state.next op answer)) := by
  have logs := perform_log performed
  have steady (same : next.replay = world.replay) (sessionID : Bytes) :
      next.highWater sessionID = world.highWater sessionID := by
    unfold World.highWater
    rw [same]
  -- a request that leaves the state of its call and the numbers alone
  have still (water : ∀ sessionID, next.highWater sessionID = world.highWater sessionID)
      (plain : ∀ outbound, ∀ frame ∈ appended outbound op answer, frame.Unstreamed config.strictValidation)
      (same : state.next op answer = state) :
      Streamed config next (trace++[(index,⟨op,answer⟩)]) (states.set index (state.next op answer)) := by
    rw [same]
    exact holds.quiet found water logs plain rfl rfl id (fun _ => .inr ⟨rfl,rfl⟩)
      (fun replayTo => holds.boundary index state replayTo found)
  cases op with
  | joinLane sessionID =>
    have water := steady (perform_replay performed (by simp) (by simp))
    have outside : state.turn = .outside := allowed
    have empty := fresh (by rw [outside]; rfl) (by rw [outside]; simp)
    cases answer with
    | none => exact still water (fun _ _ inside => by cases inside) rfl
    | some ticket =>
      refine holds.quiet found water logs (fun _ _ inside => by cases inside) rfl rfl ?_ ?_ ?_
      · exact fun left => by rw [outside] at left; cases left
      · exact fun unsent => absurd empty.2 unsent
      · exact fun _ running => by cases running
  | awaitLane sessionID ticket =>
    have water := steady (perform_replay performed (by simp) (by simp))
    have empty := fresh (by rw [allowed.2]; rfl) (by rw [allowed.2]; simp)
    refine holds.quiet found water logs (fun _ _ inside => by cases inside) rfl rfl ?_ ?_ ?_
    · exact fun left => by rw [allowed.2] at left; cases left
    · exact fun unsent => absurd empty.2 unsent
    · exact fun _ _ read => by rw [StreamState.next,empty.1] at read; cases read
  | leaveLane sessionID ticket =>
    have water := steady (perform_replay performed (by simp) (by simp))
    exact holds.quiet found water logs (fun _ _ inside => by cases inside) rfl rfl (fun _ => rfl) (fun _ => .inl rfl)
      (fun _ running => by cases running)
  | currentSeq sessionID =>
    have water := steady (perform_replay performed (by simp) (by simp))
    cases answer with
    | error error => exact still water (fun _ _ inside => by cases inside) rfl
    | ok boundary =>
      refine holds.quiet found water logs (fun _ _ inside => by cases inside) rfl rfl id (fun _ => .inr ⟨rfl,rfl⟩) ?_
      intro replayTo _ read
      cases read
      change boundary.toNat = world.highWater state.lane
      rw [allowed.1,perform_currentSeq performed (store _ rfl)]
      rfl
  | append sessionID eventID eventType content timestamp =>
    obtain ⟨rfl,running,empty,outbound,call⟩ := allowed
    rcases perform_append performed (store _ rfl) with ⟨error,rfl,same⟩ | ⟨event,rfl,appended⟩
    · exact still (steady same) (fun _ _ inside => by cases inside) rfl
    · obtain ⟨room,payload,_,built,stored⟩ := MemoryReplayStore.append_cases appended
      have numbered : ((world.replay.stream state.lane).current + 1).toNat = world.highWater state.lane + 1 := by
        have bound := (world.replay.stream state.lane).current.toNat_lt
        have below : (world.replay.stream state.lane).current.toNat ≠ 18446744073709551615 :=
          fun top => room (UInt64.toNat_inj.mp top)
        rw [UInt64.toNat_add]
        exact Nat.mod_eq_of_lt (by simp; omega)
      refine holds.append lanes found running empty call ?_ ?_ ?_ ?_ ?_ ?_ ?_
      · rw [built]
      · rw [built]
      · rw [built]
        exact numbered
      · rw [World.highWater,stored,MemoryReplayStore.currentSeq,MemoryReplayStore.stream_insert]
        exact numbered
      · intro other different
        rw [World.highWater,stored,MemoryReplayStore.currentSeq,MemoryReplayStore.stream_insert_ne _ _ different]
        rfl
      · exact fun outbound => (logs outbound).trans (List.append_nil _)
      · exact ⟨eventID,eventType,content,timestamp,List.mem_append_right _ (List.mem_singleton.mpr rfl)⟩
  | pruneBefore sessionID first =>
    refine still (fun other => ?_) (fun _ _ inside => by cases inside) rfl
    rw [World.highWater,perform_prune performed (store _ rfl),MemoryReplayStore.currentSeq,
      (MemoryReplayStore.prune_stream ..).1]
    rfl
  | enqueueBatch target frames =>
    have water := steady (perform_replay performed (by simp) (by simp))
    cases answer with
    | error error => exact still water (fun _ _ inside => by cases inside) rfl
    | ok done =>
      rcases allowed with ⟨empty,plain⟩ | ⟨running,event,rfl,unsent,call⟩ | ⟨running,empty,frame,replayTo,own,read,batch⟩
      · refine holds.quiet found water logs (fun _ frame inside => plain frame (mem_appended inside)) rfl empty.symm id
          (fun _ => .inr ⟨rfl,rfl⟩) (fun replayTo => holds.boundary index state replayTo found)
      · exact holds.live lanes found running unsent call water logs
      · exact holds.resume found running empty own read batch lanes water logs
  | _ =>
    exact still (steady (perform_replay performed (by simp) (by simp))) (fun _ _ inside => by cases inside) rfl

end Steps

theorem streamed_keeps (config : ServerConfig) (reference : Op → Bool)
    (store : ∀ op, op.replays = true → reference op = true) :
    Keeps (serverMachine config reference) (streamRules config) StreamState.Reports ServerCall.stream (fun _ => True)
      (fun world trace states => LanesHeld world states ∧ Streamed config world trace states ∧
        ∀ state ∈ states, state.Fresh) where
  programs call _ := ServerCall.streams config call
  spawn call world trace states _ holds := by
    obtain ⟨lanes,streamed,fresh⟩ := holds
    have outside : call.stream.turn = .outside ∧ call.stream.boundary = none ∧ call.stream.unsent = none := by
      cases call <;> exact ⟨rfl,rfl,rfl⟩
    refine ⟨lanes.spawn outside.1,streamed.spawn outside.2.2 (by rw [outside.1]; rfl),?_⟩
    intro state member
    rcases List.mem_append.mp member with old | new
    · exact fresh state old
    · rw [List.mem_singleton.mp new]
      exact fun _ _ => outside.2
  env elapsed world next trace states holds moved := by
    change World.tick elapsed world = some next at moved
    unfold World.tick at moved
    split at moved
    · cases moved
      obtain ⟨lanes,streamed,fresh⟩ := holds
      exact ⟨⟨lanes.issued,lanes.held,lanes.first,lanes.unique⟩,streamed.same (fun _ => rfl) (fun _ => rfl),fresh⟩
    · cases moved
  request world next trace states index state op offered answer holds found allowed performed := by
    obtain ⟨lanes,streamed,fresh⟩ := holds
    have own := fresh state (List.mem_of_getElem? found)
    refine ⟨lanes.request found allowed performed,streamed.request lanes own store found allowed performed,?_⟩
    intro after member
    rcases List.mem_or_eq_of_mem_set member with old | rfl
    · exact fresh after old
    · exact own.step allowed answer

/-- The number is the one of an event published for another queue, or one whose publication
returned an error. -/
def Skipped (moves : List ServerMove) (pool : ServerPool) (outbound : Nat) (sessionID : Bytes) (number : Nat) : Prop :=
  ∃ index eventID eventType content target event,
    (started moves)[index]? = some (.publishEvent sessionID eventID eventType content target) ∧
    Published pool.trace index sessionID event ∧ event.seq.toNat = number ∧
    (target ≠ outbound ∨ ∃ error, pool.threads[index]? = some (.done (.error error)))

theorem ServerCall.publishes {call : ServerCall} {sessionID : Bytes} {target : Nat}
    (publishes : call.stream.publishes = some (sessionID,target)) :
    ∃ eventID eventType content, call = .publishEvent sessionID eventID eventType content target := by
  cases call with
  | publishEvent session eventID eventType content outbound =>
    cases publishes
    exact ⟨eventID,eventType,content,rfl⟩
  | _ => cases publishes

/-- A call that left its lane with an event it did not send has ended, with an error. -/
theorem lost_reported {config : ServerConfig} {state : StreamState} {program : Server (Except Err Unit)}
    (meets : Meets (streamRules config) StreamState.Reports state program) (left : state.turn = .left)
    (unsent : state.unsent ≠ none) : ∃ error, program = .done (.error error) := by
  cases program with
  | done result =>
    obtain ⟨error,rfl⟩ := meets unsent
    exact ⟨error,rfl⟩
  | call op next =>
    have allowed : state.allowed config op := meets.1
    have idle : state.turn.isRunning ≠ true := by
      rw [left]
      simp [LaneTurn.isRunning]
    cases op with
    | joinLane => cases left.symm.trans allowed
    | awaitLane | leaveLane => cases left.symm.trans allowed.2
    | currentSeq => exact absurd allowed.2 idle
    | append => exact absurd allowed.2.1 idle
    | enqueueBatch =>
      rcases allowed with ⟨empty,_⟩ | ⟨running,_⟩ | ⟨running,_⟩
      · exact absurd empty unsent
      · exact absurd running idle
      · exact absurd running idle
    | _ => exact absurd (allowed left) unsent

/-- On every queue each RESUMED WELCOME is followed by the rest of its batch. From one to the
next the EVENTs of its session rise from `resume_from`, and an event that is not among them
was published for another queue or its publication failed. -/
theorem stream_order (config : ServerConfig) (reference : Op → Bool)
    (store : ∀ op, op.replays = true → reference op = true) {world : World} (lanes : world.lanes = ∅)
    (queues : ∀ outbound, world.log outbound = []) {moves : List ServerMove} {pool : ServerPool}
    (ran : (serverMachine config reference).run {world := world} moves = some pool) {outbound : Nat} {sessionID : Bytes}
    {before rest : List Envelope} {welcome : Envelope} {payload : WelcomePayload}
    (sent : pool.world.log outbound = before ++ welcome::rest)
    (resumed : resumption config.strictValidation sessionID welcome = some payload) :
    (∃ frame resume events snapshot after, rest = events ++ snapshot.toList ++ after ∧
      ResumeBatch config frame payload.replayTo resume welcome events snapshot) ∧
    ∀ middle after, rest = middle++after →
      (∀ frame ∈ middle, resumption config.strictValidation sessionID frame = none) →
      Rising payload.resumeFrom.toNat (eventNumbers sessionID middle) (Skipped moves pool outbound sessionID) := by
  have start : LanesHeld world [] ∧ Streamed config world [] [] ∧ ∀ state ∈ [], StreamState.Fresh state := by
    refine ⟨⟨?_,by simp,by simp,by simp⟩,⟨by simp,by simp,fun outbound sessionID => ?_⟩,by simp⟩
    · intro sessionID
      simp [World.lane,lanes]
    · rw [queues]
      exact .empty ..
  obtain ⟨states,aligned,⟨_,streamed,_⟩,followed⟩ :=
    (streamed_keeps config reference store).run_followed start (fun _ _ => trivial) ran
  have ordered := streamed.ordered outbound sessionID
  refine ⟨ordered.batches before welcome rest payload sent resumed,?_⟩
  intro middle after parts plain
  have front : before ++ welcome::middle <+: pool.world.log outbound := by
    rw [sent,parts]
    exact ⟨after,by simp⟩
  refine (ordered.settled _ payload _ front (segment_resumed resumed plain)).mono (fun number gone => ?_)
  obtain ⟨index,event,state,target,published,numbered,found,publishes,why⟩ := gone
  obtain ⟨call,begun,rfl⟩ : ∃ call, (started moves)[index]? = some call ∧
      (streamRules config).after call.stream (answered pool.trace index) = state := by
    simpa [followed.states,List.getElem?_mapIdx] using found
  rw [streamRules_publishes] at publishes
  obtain ⟨eventID,eventType,content,rfl⟩ := ServerCall.publishes publishes
  refine ⟨index,eventID,eventType,content,target,event,begun,published,numbered,why.imp_right (fun lost => ?_)⟩
  obtain ⟨program,ended,meets⟩ := aligned.get found
  obtain ⟨error,rfl⟩ := lost_reported meets lost.2 (by rw [lost.1]; simp)
  exact ⟨error,ended⟩

/-- A session is resumed on a second connection, and of two events the first is published for
the queue of the closed one. -/
def missedEventMoves : List ServerMove :=
  connectMoves ++ .spawn .replaceConnection::turns 2 1 (working (lit "s") (lit "f")) ++
  .spawn (.handle 2 resumeFrame)::turns 3 15 (working (lit "s") (lit "f")) ++
  .spawn (.publishEvent (lit "s") (lit "e") [] (lit "1") 0)::turns 4 11 (working (lit "s") (lit "f")) ++
  .spawn (.publishEvent (lit "s") (lit "g") [] (lit "1") 1)::turns 5 11 (working (lit "s") (lit "f"))

theorem stream_order_missed_event :
    ∃ pool ∈ (serverMachine {} (fun _ => true)).run {world := {dedup := {ttl := 1}}} missedEventMoves,
    eventNumbers (lit "s") (pool.world.log 1) = [2] ∧
      ∃ payload : WelcomePayload, Rising payload.resumeFrom.toNat [2] (Skipped missedEventMoves pool 1 (lit "s")) := by
  have facts : ∃ pool ∈ (serverMachine {} (fun _ => true)).run {world := {dedup := {ttl := 1}}} missedEventMoves,
      ∃ welcome ∈ (pool.world.log 1).head?, ∃ payload ∈ resumption true (lit "s") welcome,
        eventNumbers (lit "s") (pool.world.log 1).tail = [2] ∧ eventNumbers (lit "s") (pool.world.log 1) = [2] ∧
        ∀ frame ∈ (pool.world.log 1).tail, resumption true (lit "s") frame = none := by decide +kernel
  obtain ⟨pool,ran,welcome,first,payload,resumed,numbers,all,plain⟩ := facts
  refine ⟨pool,ran,all,payload,?_⟩
  have form : pool.world.log 1 = []++welcome::(pool.world.log 1).tail := (List.cons_head?_tail first).symm
  obtain ⟨_,rising⟩ := stream_order {} (fun _ => true) (fun _ _ => rfl) rfl (fun _ => rfl) ran form resumed
  rw [← numbers]
  exact rising _ [] (List.append_nil _).symm plain

end Kmtproto
