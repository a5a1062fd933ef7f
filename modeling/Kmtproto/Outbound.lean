import Kmtproto.Store
import Kmtproto.Interaction.Pool
import Kmtproto.Interaction.System

/-! `OutboundQueue` at the granularity of its mutex. A producer leaves the locked section
before it signals, and the consumer waits for one token in a channel of one slot; the
frames still leave in the order of the locked sections, and no wake-up is lost. -/
namespace Kmtproto
open Json Interaction

/-- A call of `EnqueueBatch` or of `Close`. -/
inductive OutboundTask
  | enqueueBatch (frames : List Envelope)
  | close

def OutboundTask.enqueue (frame : Envelope) : OutboundTask := .enqueueBatch [frame]

/-- Where a call is: before its locked section, between that and its signal, or back. -/
inductive OutboundPoint
  | locking
  | signalling
  | returned (result : Except Err Unit)

structure OutboundCall where
  task : OutboundTask
  point : OutboundPoint := .locking

/-- Where the consumer is: outside of `Next`, before its locked section, or in its select. -/
inductive ConsumerPoint
  | away
  | locking
  | waiting

/-- The queue with the calls on it. The batches accepted, each with its call, and the
results of `Next` are recorded. -/
structure Outbound where
  frames : List Envelope := []
  closed : Bool := false
  wake : Bool := false
  calls : List OutboundCall := []
  consumer : ConsumerPoint := .away
  accepted : List (Nat × List Envelope) := []
  results : List (Except Err Envelope) := []

inductive OutboundMove
  | call (task : OutboundTask)
  | produce (index : Nat)
  | next
  | consume
  | wake
  | cancel

namespace Outbound

def produce (queue : Outbound) (index : Nat) : Option Outbound :=
  match queue.calls[index]? with
  | some ⟨.enqueueBatch frames,.locking⟩ =>
    if queue.closed then
      some {queue with calls := queue.calls.set index ⟨.enqueueBatch frames,.returned (.error (.sentinel .outboundClosed))⟩}
    else
      some {queue with
        frames := queue.frames++frames
        calls := queue.calls.set index ⟨.enqueueBatch frames,.signalling⟩
        accepted := queue.accepted++[(index,frames)]}
  | some ⟨.close,.locking⟩ => some {queue with closed := true, calls := queue.calls.set index ⟨.close,.signalling⟩}
  | some ⟨task,.signalling⟩ =>
    -- a token that is there already is enough
    some {queue with wake := true, calls := queue.calls.set index ⟨task,.returned (.ok ())⟩}
  | _ => none

/-- The locked section of `Next`. -/
def consume (queue : Outbound) : Option Outbound :=
  match queue.consumer with
  | .locking =>
    match queue.frames with
    | frame::frames => some {queue with frames := frames, consumer := .away, results := queue.results++[.ok frame]}
    | [] =>
      if queue.closed then
        some {queue with consumer := .away, results := queue.results++[.error (.sentinel .outboundClosed)]}
      else some {queue with consumer := .waiting}
  | _ => none

def step (queue : Outbound) : OutboundMove → Option Outbound
  | .call task => some {queue with calls := queue.calls++[⟨task,.locking⟩]}
  | .produce index => queue.produce index
  | .next =>
    match queue.consumer with
    | .away => some {queue with consumer := .locking}
    | _ => none
  | .consume => queue.consume
  | .wake =>
    match queue.consumer with
    | .waiting => if queue.wake then some {queue with consumer := .locking, wake := false} else none
    | _ => none
  | .cancel =>
    match queue.consumer with
    | .waiting =>
      some {queue with consumer := .away, results := queue.results++[.error (.plain (lit "context canceled"))]}
    | _ => none

def system : System Outbound OutboundMove := ⟨step⟩

/-- The frames `Next` has returned. -/
def taken (queue : Outbound) : List Envelope := queue.results.filterMap Except.toOption

def log (queue : Outbound) : List Envelope := (queue.accepted.map Prod.snd).flatten

inductive Steps (queue : Outbound) : OutboundMove → Outbound → Prop
  | call (task : OutboundTask) : Steps queue (.call task) {queue with calls := queue.calls++[⟨task,.locking⟩]}
  | refuses (index : Nat) (frames : List Envelope) (found : queue.calls[index]? = some ⟨.enqueueBatch frames,.locking⟩)
      (shut : queue.closed = true) : Steps queue (.produce index)
        {queue with calls := queue.calls.set index ⟨.enqueueBatch frames,.returned (.error (.sentinel .outboundClosed))⟩}
  | accepts (index : Nat) (frames : List Envelope) (found : queue.calls[index]? = some ⟨.enqueueBatch frames,.locking⟩)
      (unshut : queue.closed = false) : Steps queue (.produce index)
        {queue with
          frames := queue.frames++frames
          calls := queue.calls.set index ⟨.enqueueBatch frames,.signalling⟩
          accepted := queue.accepted++[(index,frames)]}
  | closes (index : Nat) (found : queue.calls[index]? = some ⟨.close,.locking⟩) : Steps queue (.produce index)
      {queue with closed := true, calls := queue.calls.set index ⟨.close,.signalling⟩}
  | signals (index : Nat) (task : OutboundTask) (found : queue.calls[index]? = some ⟨task,.signalling⟩) :
      Steps queue (.produce index) {queue with wake := true, calls := queue.calls.set index ⟨task,.returned (.ok ())⟩}
  | next (free : queue.consumer = .away) : Steps queue .next {queue with consumer := .locking}
  | takes (frame : Envelope) (frames : List Envelope) (inside : queue.consumer = .locking)
      (front : queue.frames = frame::frames) : Steps queue .consume
        {queue with frames := frames, consumer := .away, results := queue.results++[.ok frame]}
  | ends (inside : queue.consumer = .locking) (empty : queue.frames = []) (shut : queue.closed = true) :
      Steps queue .consume
        {queue with consumer := .away, results := queue.results++[.error (.sentinel .outboundClosed)]}
  | waits (inside : queue.consumer = .locking) (empty : queue.frames = []) (unshut : queue.closed = false) :
      Steps queue .consume {queue with consumer := .waiting}
  | wakes (waiting : queue.consumer = .waiting) (token : queue.wake = true) : Steps queue .wake
      {queue with consumer := .locking, wake := false}
  | cancels (waiting : queue.consumer = .waiting) : Steps queue .cancel
      {queue with consumer := .away, results := queue.results++[.error (.plain (lit "context canceled"))]}

section Steps
variable {queue next : Outbound} {move : OutboundMove}

private theorem produce_steps {index : Nat} (stepped : queue.produce index = some next) :
    Steps queue (.produce index) next := by
  unfold produce at stepped
  split at stepped
  · rename_i frames found
    split at stepped
    · rename_i shut
      cases stepped
      exact .refuses index frames found shut
    · rename_i unshut
      cases stepped
      exact .accepts index frames found (by simpa using unshut)
  · rename_i found
    cases stepped
    exact .closes index found
  · rename_i task found
    cases stepped
    exact .signals index task found
  · cases stepped

private theorem consume_steps (stepped : queue.consume = some next) : Steps queue .consume next := by
  unfold consume at stepped
  split at stepped
  · rename_i inside
    split at stepped
    · rename_i frame frames front
      cases stepped
      exact .takes frame frames inside front
    · rename_i empty
      split at stepped
      · rename_i shut
        cases stepped
        exact .ends inside empty shut
      · rename_i unshut
        cases stepped
        exact .waits inside empty (by simpa using unshut)
  · cases stepped

theorem step_steps (stepped : system.step queue move = some next) : Steps queue move next := by
  change queue.step move = some next at stepped
  cases move with
  | call task =>
    cases stepped
    exact .call task
  | produce index => exact produce_steps stepped
  | next =>
    simp only [step] at stepped
    split at stepped
    · rename_i free
      cases stepped
      exact .next free
    · cases stepped
  | consume => exact consume_steps stepped
  | wake =>
    simp only [step] at stepped
    split at stepped
    · rename_i waiting
      split at stepped
      · rename_i token
        cases stepped
        exact .wakes waiting token
      · cases stepped
    · cases stepped
  | cancel =>
    simp only [step] at stepped
    split at stepped
    · rename_i waiting
      cases stepped
      exact .cancels waiting
    · cases stepped

end Steps

def Passed (queue : Outbound) (index : Nat) (frames : List Envelope) : Prop :=
  queue.calls[index]? = some ⟨.enqueueBatch frames,.signalling⟩ ∨
    queue.calls[index]? = some ⟨.enqueueBatch frames,.returned (.ok ())⟩

structure Sound (queue : Outbound) : Prop where
  order : queue.taken++queue.frames = queue.log
  once : (queue.accepted.map Prod.fst).Nodup
  passed : ∀ index frames, (index,frames) ∈ queue.accepted ↔ queue.Passed index frames
  drained : .error (.sentinel .outboundClosed) ∈ queue.results → queue.closed = true ∧ queue.frames = []
  awake : queue.consumer = .waiting → queue.frames ≠ [] ∨ queue.closed = true →
    queue.wake = true ∨ ∃ call ∈ queue.calls, call.point = .signalling

section Sound
variable {queue next : Outbound} {move : OutboundMove} {index : Nat}

private theorem passed_set {old new : OutboundCall} (found : queue.calls[index]? = some old) {place : Nat}
    {frames : List Envelope} (same : place = index → ((old = ⟨.enqueueBatch frames,.signalling⟩ ∨
      old = ⟨.enqueueBatch frames,.returned (.ok ())⟩) ↔ (new = ⟨.enqueueBatch frames,.signalling⟩ ∨
      new = ⟨.enqueueBatch frames,.returned (.ok ())⟩))) :
    Passed {queue with calls := queue.calls.set index new} place frames ↔ queue.Passed place frames := by
  have bound := (List.getElem?_eq_some_iff.mp found).1
  unfold Passed
  by_cases here : place = index
  · subst here
    simp only [List.getElem?_set_self bound,found,Option.some.injEq]
    exact (same rfl).symm
  · simp only [List.getElem?_set_ne (Ne.symm here)]

private theorem passed_snoc {task : OutboundTask} {place : Nat} {frames : List Envelope} :
    Passed {queue with calls := queue.calls++[⟨task,.locking⟩]} place frames ↔ queue.Passed place frames := by
  have settled (point : OutboundPoint) (other : point ≠ .locking) :
      (queue.calls++[⟨task,.locking⟩])[place]? = some ⟨.enqueueBatch frames,point⟩ ↔
        queue.calls[place]? = some ⟨.enqueueBatch frames,point⟩ := by
    constructor
    · intro found
      rcases snoc_cases found with before | ⟨_,same⟩
      · exact before
      · cases same
        exact absurd rfl other
    · intro found
      rw [List.getElem?_append_left (List.getElem?_eq_some_iff.mp found).1]
      exact found
  unfold Passed
  rw [settled _ (by simp),settled _ (by simp)]

private theorem taken_ok {frame : Envelope} : taken {queue with results := queue.results++[.ok frame]} = queue.taken++[frame] := by
  simp [taken,Except.toOption]

private theorem taken_error {error : Err} : taken {queue with results := queue.results++[.error error]} = queue.taken := by
  simp [taken,Except.toOption]

private theorem Sound.fresh (sound : queue.Sound) {frames : List Envelope}
    (found : queue.calls[index]? = some ⟨.enqueueBatch frames,.locking⟩) : index ∉ queue.accepted.map Prod.fst := by
  intro member
  obtain ⟨entry,inside,rfl⟩ := List.mem_map.mp member
  have passed := (sound.passed entry.1 entry.2).mp inside
  unfold Passed at passed
  rw [found] at passed
  rcases passed with same | same <;> cases same

section Step
variable (sound : queue.Sound) (steps : Steps queue move next)
include sound steps

private theorem Sound.order_step : next.taken++next.frames = next.log := by
  have order := sound.order
  cases steps with
  | accepts index frames found unshut =>
    change queue.taken++(queue.frames++frames) = ((queue.accepted++[(index,frames)]).map Prod.snd).flatten
    rw [← List.append_assoc,order]
    simp [log]
  | takes frame frames inside front =>
    rw [front] at order
    change taken {queue with results := queue.results++[.ok frame]}++frames = _
    rw [taken_ok,List.append_assoc]
    exact order
  | ends inside empty shut =>
    change taken {queue with results := queue.results++[.error (.sentinel .outboundClosed)]}++_ = _
    rw [taken_error]
    exact order
  | cancels waiting =>
    change taken {queue with results := queue.results++[.error (.plain (lit "context canceled"))]}++_ = _
    rw [taken_error]
    exact order
  | _ => exact order

private theorem Sound.once_step : (next.accepted.map Prod.fst).Nodup := by
  cases steps with
  | accepts index frames found unshut =>
    rw [List.map_append]
    exact List.Nodup.append sound.once (List.nodup_singleton _) (by simpa using sound.fresh found)
  | _ => exact sound.once

private theorem Sound.passed_step (place : Nat) (batch : List Envelope) :
    (place,batch) ∈ next.accepted ↔ next.Passed place batch := by
  have passed := sound.passed place batch
  cases steps with
  | call task => exact passed.trans passed_snoc.symm
  | refuses index frames found shut => exact passed.trans (passed_set found (fun _ => by simp)).symm
  | accepts index frames found unshut =>
    have bound := (List.getElem?_eq_some_iff.mp found).1
    rw [List.mem_append,passed]
    by_cases here : place = index
    · subst here
      simp only [Passed,found,List.getElem?_set_self bound]
      simp [eq_comm]
    · simp only [Passed,List.getElem?_set_ne (Ne.symm here)]
      simp [here]
  | closes index found => exact passed.trans (passed_set found (fun _ => by simp)).symm
  | signals index task found => exact passed.trans (passed_set found (fun _ => by simp)).symm
  | _ => exact passed

private theorem Sound.drained_step (reported : .error (.sentinel .outboundClosed) ∈ next.results) :
    next.closed = true ∧ next.frames = [] := by
  cases steps with
  | accepts index frames found unshut => exact absurd (sound.drained reported).1 (by simp [unshut])
  | closes index found => exact ⟨rfl,(sound.drained reported).2⟩
  | takes frame frames inside front =>
    rcases List.mem_append.mp reported with before | last
    · rw [(sound.drained before).2] at front
      cases front
    · cases List.mem_singleton.mp last
  | ends inside empty shut => exact ⟨shut,empty⟩
  | cancels waiting =>
    rcases List.mem_append.mp reported with before | last
    · exact sound.drained before
    · cases List.mem_singleton.mp last
  | _ => exact sound.drained reported

private theorem Sound.awake_step (waiting : next.consumer = .waiting) (due : next.frames ≠ [] ∨ next.closed = true) :
    next.wake = true ∨ ∃ call ∈ next.calls, call.point = .signalling := by
  cases steps with
  | call task =>
    rcases sound.awake waiting due with token | ⟨call,member,point⟩
    · exact Or.inl token
    · exact Or.inr ⟨call,List.mem_append_left _ member,point⟩
  | refuses index frames found shut =>
    apply (sound.awake waiting due).imp_right
    intro signalling
    apply exists_mem_set found signalling
    intro point
    cases point
  -- whoever leaves a locked section that gives the consumer something to do signals next
  | accepts index frames found unshut => exact Or.inr ⟨_,List.mem_set (List.getElem?_eq_some_iff.mp found).1 _,rfl⟩
  | closes index found => exact Or.inr ⟨_,List.mem_set (List.getElem?_eq_some_iff.mp found).1 _,rfl⟩
  | signals index task found => exact Or.inl rfl
  | waits inside empty unshut =>
    rcases due with nonempty | shut
    · exact absurd empty nonempty
    · rw [unshut] at shut
      cases shut
  | _ => cases waiting

theorem Sound.step : next.Sound :=
  ⟨sound.order_step steps,sound.once_step steps,sound.passed_step steps,sound.drained_step steps,sound.awake_step steps⟩

end Step

theorem sound_empty : Sound {} := ⟨rfl,List.nodup_nil,by simp [Passed],by simp,by simp⟩

theorem sound_run {moves : List OutboundMove} (ran : system.run {} moves = some queue) : queue.Sound := by
  exact System.run_keeps (fun _ _ _ sound stepped => Sound.step sound (step_steps stepped)) sound_empty ran

private theorem shut_run {moves : List OutboundMove} (shut : queue.closed = true) (ran : system.run queue moves = some next) :
    next.accepted = queue.accepted ∧ next.closed = true := by
  apply @System.run_keeps _ _ system (fun later => later.accepted = queue.accepted ∧ later.closed = true) ?_ _ _ _ ⟨rfl,shut⟩ ran
  rintro state move later ⟨same,closed⟩ stepped
  cases step_steps stepped with
  | accepts index frames found unshut =>
    rw [closed] at unshut
    cases unshut
  | closes index found => exact ⟨same,rfl⟩
  | _ => exact ⟨same,closed⟩

end Sound

end Outbound

inductive QueueMove
  | enqueueBatch (frames : List Envelope)
  | take
  | close

def OutboundQueue.move (queue : OutboundQueue) : QueueMove → Option OutboundQueue
  | .enqueueBatch frames => (queue.enqueueBatch frames).toOption
  | .take => if queue.taken < queue.log.length then some {queue with taken := queue.taken+1} else none
  | .close => some {queue with closed := true}

def OutboundQueue.system : System OutboundQueue QueueMove := ⟨OutboundQueue.move⟩

namespace Outbound

/-- The operation a move stands for: a locked section that changes the queue. -/
def operation (queue : Outbound) : OutboundMove → List QueueMove
  | .produce index =>
    match queue.calls[index]? with
    | some ⟨.enqueueBatch frames,.locking⟩ => if queue.closed then [] else [.enqueueBatch frames]
    | some ⟨.close,.locking⟩ => [.close]
    | _ => []
  | .consume => if queue.frames.isEmpty then [] else [.take]
  | _ => []

/-- The queue as the atomic one sees it. -/
def abstraction (queue : Outbound) : OutboundQueue := ⟨queue.log,queue.taken.length,queue.closed⟩

section Refinement
variable {queue next : Outbound} {move : OutboundMove}

private theorem abstraction_error {error : Err} {consumer : ConsumerPoint} :
    abstraction {queue with consumer := consumer, results := queue.results++[.error error]} = queue.abstraction := by
  change (⟨queue.log,(taken {queue with results := queue.results++[.error error]}).length,queue.closed⟩ : OutboundQueue) = _
  rw [taken_error]
  rfl

private theorem simulates : Simulates system OutboundQueue.system (fun queue spec => queue.Sound ∧ spec = queue.abstraction)
    operation := by
  rintro queue spec move next ⟨sound,rfl⟩ stepped
  have steps := step_steps stepped
  refine ⟨next.abstraction,?_,sound.step steps,rfl⟩
  cases steps with
  | call task => rfl
  | refuses index frames found shut =>
    have nothing : queue.operation (.produce index) = [] := by
      rw [operation,found]
      exact if_pos shut
    rw [nothing]
    rfl
  | accepts index frames found unshut =>
    have one : queue.operation (.produce index) = [.enqueueBatch frames] := by
      rw [operation,found]
      exact if_neg (by simp [unshut])
    rw [one,System.run_cons]
    refine ⟨_,?_,rfl⟩
    change (queue.abstraction.enqueueBatch frames).toOption = _
    rw [OutboundQueue.enqueueBatch,if_neg (by simp [abstraction,unshut])]
    simp [abstraction,log,taken,Except.toOption]
  | closes index found =>
    have one : queue.operation (.produce index) = [.close] := by rw [operation,found]
    rw [one]
    rfl
  | signals index task found =>
    have nothing : queue.operation (.produce index) = [] := by
      rw [operation,found]
      cases task <;> rfl
    rw [nothing]
    rfl
  | next free => rfl
  | takes frame frames inside front =>
    have one : queue.operation .consume = [.take] := by
      rw [operation,front]
      rfl
    have more : queue.taken.length < queue.log.length := by
      rw [← sound.order,front,List.length_append,List.length_cons]
      omega
    rw [one,System.run_cons]
    refine ⟨_,if_pos more,?_⟩
    change _ = some (⟨queue.log,(taken {queue with results := queue.results++[.ok frame]}).length,queue.closed⟩ : OutboundQueue)
    rw [taken_ok,List.length_append]
    rfl
  | ends inside empty shut =>
    have nothing : queue.operation .consume = [] := by
      rw [operation,empty]
      rfl
    rw [nothing,abstraction_error]
    rfl
  | waits inside empty unshut =>
    have nothing : queue.operation .consume = [] := by
      rw [operation,empty]
      rfl
    rw [nothing]
    rfl
  | wakes waiting token => rfl
  | cancels waiting =>
    rw [abstraction_error]
    rfl

end Refinement

/-- What `Next` returns when there is something to return. -/
def due (queue : Outbound) : Except Err Envelope :=
  match queue.frames with
  | frame::_ => .ok frame
  | [] => .error (.sentinel .outboundClosed)

def Pending (queue : Outbound) : Prop := queue.frames ≠ [] ∨ queue.closed = true

section Progress
variable {queue : Outbound}

private theorem locking_returns (inside : queue.consumer = .locking) (pending : queue.Pending) :
    ∃ later, system.run queue [.consume] = some later ∧ later.consumer = .away ∧ later.results = queue.results++[queue.due] := by
  unfold due
  cases front : queue.frames with
  | cons frame frames =>
    refine ⟨{queue with frames := frames, consumer := .away, results := queue.results++[.ok frame]},?_,rfl,rfl⟩
    refine System.run_cons.mpr ⟨_,?_,rfl⟩
    simp only [system,step,consume,inside,front]
  | nil =>
    have shut : queue.closed = true := pending.resolve_left (fun nonempty => nonempty front)
    refine ⟨{queue with consumer := .away, results := queue.results++[.error (.sentinel .outboundClosed)]},?_,rfl,rfl⟩
    refine System.run_cons.mpr ⟨_,?_,rfl⟩
    simp only [system,step,consume,inside,front,shut,if_true]

private theorem waiting_returns (waiting : queue.consumer = .waiting) (token : queue.wake = true) (pending : queue.Pending) :
    ∃ later, system.run queue [.wake,.consume] = some later ∧ later.consumer = .away ∧
      later.results = queue.results++[queue.due] := by
  obtain ⟨later,ran,free,results⟩ := @locking_returns {queue with consumer := .locking, wake := false} rfl pending
  refine ⟨later,System.run_cons.mpr ⟨_,?_,ran⟩,free,results⟩
  simp only [system,step,waiting,token,if_true]

private theorem signalled_returns (waiting : queue.consumer = .waiting) {call : OutboundCall} (member : call ∈ queue.calls)
    (point : call.point = .signalling) (pending : queue.Pending) :
    ∃ index later, system.run queue [.produce index,.wake,.consume] = some later ∧ later.consumer = .away ∧
      later.results = queue.results++[queue.due] := by
  obtain ⟨index,found⟩ := List.mem_iff_getElem?.mp member
  obtain ⟨task,_⟩ := call
  cases point
  obtain ⟨later,ran,free,results⟩ :=
    @waiting_returns {queue with wake := true, calls := queue.calls.set index ⟨task,.returned (.ok ())⟩} waiting rfl pending
  refine ⟨index,later,System.run_cons.mpr ⟨_,?_,ran⟩,free,results⟩
  change queue.produce index = _
  rw [produce,found]
  cases task <;> rfl

/-- A consumer inside `Next` comes back when there is something to return: at most three steps
of the calls there are bring it there. -/
private theorem Sound.returns (sound : queue.Sound) (inside : queue.consumer ≠ .away) (pending : queue.Pending) :
    ∃ more later, more.length ≤ 3 ∧ (∀ task, .call task ∉ more) ∧ .cancel ∉ more ∧ system.run queue more = some later ∧
      later.consumer = .away ∧ later.results = queue.results++[queue.due] := by
  cases point : queue.consumer with
  | away => exact absurd point inside
  | locking =>
    obtain ⟨later,ran,free,results⟩ := locking_returns point pending
    exact ⟨_,later,by simp,by simp,by simp,ran,free,results⟩
  | waiting =>
    rcases sound.awake point pending with token | ⟨call,member,signals⟩
    · obtain ⟨later,ran,free,results⟩ := waiting_returns point token pending
      exact ⟨_,later,by simp,by simp,by simp,ran,free,results⟩
    · obtain ⟨index,later,ran,free,results⟩ := signalled_returns point member signals pending
      exact ⟨_,later,by simp,by simp,by simp,ran,free,results⟩

end Progress

end Outbound

/-- The frames leave the queue in the order of the locked sections that accepted their
batches, each batch whole and once; a closed queue accepts nothing more and still returns
what it has. A consumer that waits while there is something to return has a token or a call
about to signal, and three steps of the calls there are bring it back. -/
theorem outbound_fifo {moves : List OutboundMove} {queue : Outbound} (ran : Outbound.system.run {} moves = some queue) :
    queue.taken++queue.frames = queue.log ∧
    (queue.accepted.map Prod.fst).Nodup ∧
    (∀ index frames, (index,frames) ∈ queue.accepted ↔ queue.Passed index frames) ∧
    (.error (.sentinel .outboundClosed) ∈ queue.results → queue.closed = true ∧ queue.taken = queue.log) ∧
    (queue.closed = true → ∀ more later, Outbound.system.run queue more = some later →
      later.accepted = queue.accepted ∧ later.closed = true) ∧
    (queue.consumer = .waiting → queue.Pending → queue.wake = true ∨ ∃ call ∈ queue.calls, call.point = .signalling) ∧
    (queue.consumer ≠ .away → queue.Pending → ∃ more later, more.length ≤ 3 ∧ (∀ task, .call task ∉ more) ∧
      .cancel ∉ more ∧ Outbound.system.run queue more = some later ∧ later.consumer = .away ∧
      later.results = queue.results++[queue.due]) := by
  have sound := Outbound.sound_run ran
  refine ⟨sound.order,sound.once,sound.passed,?_,fun shut more later follows => Outbound.shut_run shut follows,sound.awake,
    sound.returns⟩
  intro reported
  obtain ⟨shut,empty⟩ := sound.drained reported
  have order := sound.order
  rw [empty,List.append_nil] at order
  exact ⟨shut,order⟩

def earlyConsumer : List OutboundMove :=
  [.next,.consume,.call (.enqueueBatch [{type := .ping},{type := .pong}]),.call .close,.produce 0,.produce 1]

theorem outbound_fifo_early : ∃ queue later more, Outbound.system.run {} earlyConsumer = some queue ∧
    queue.taken++queue.frames = [{type := .ping},{type := .pong}] ∧
    Outbound.system.run queue more = some later ∧ later.results = [.ok {type := .ping}] := by
  obtain ⟨queue,ran⟩ : ∃ queue, Outbound.system.run {} earlyConsumer = some queue := ⟨_,rfl⟩
  obtain ⟨order,_,_,_,_,_,returns⟩ := outbound_fifo ran
  have inside : queue.consumer ≠ .away := by
    cases ran
    simp
  have pending : queue.Pending := by
    cases ran
    exact Or.inr rfl
  obtain ⟨more,later,_,_,_,back,_,results⟩ := returns inside pending
  refine ⟨queue,later,more,ran,order.trans ?_,back,results.trans ?_⟩
  · cases ran
    rfl
  · cases ran
    rfl

/-- Every run of the queue is one of the queue whose operations are atomic. -/
theorem outbound_refines {moves : List OutboundMove} {queue : Outbound} (ran : Outbound.system.run {} moves = some queue) :
    OutboundQueue.system.run {} (Outbound.system.answers Outbound.operation {} moves) = some queue.abstraction := by
  obtain ⟨spec,atomic,_,rfl⟩ := Outbound.simulates.run ⟨Outbound.sound_empty,rfl⟩ ran
  exact atomic

theorem outbound_refines_early : ∃ queue, Outbound.system.run {} earlyConsumer = some queue ∧
    OutboundQueue.system.run {} [.enqueueBatch [{type := .ping},{type := .pong}],.close] = some queue.abstraction := by
  obtain ⟨queue,ran⟩ : ∃ queue, Outbound.system.run {} earlyConsumer = some queue := ⟨_,rfl⟩
  exact ⟨queue,ran,outbound_refines ran⟩

end Kmtproto
