import Kmtproto.Interaction.Program
import Mathlib

/-! Programs that share a world. Any number of programs run in one pool; a move
lets one of them perform its next request, lets the environment change the world,
or starts a new program. The pool records who asked what and how it was answered.
An invariant that every allowed request keeps holds along every run. -/
namespace Interaction

/-- How requests act on a shared world. The answer offered from outside is used
by requests the world does not answer itself; a request that cannot proceed yet
has no result. -/
structure Machine (Op : Type) (Answer : Op → Type) (World Env Task Result : Type) where
  perform : (op : Op) → Answer op → World → Option (Answer op × World)
  move : Env → World → Option World
  program : Task → Program Op Answer Result

structure Pool (Op : Type) (Answer : Op → Type) (World Result : Type) where
  world : World
  threads : List (Program Op Answer Result) := []
  trace : List (Nat × Event Op Answer) := []

inductive Move (Op : Type) (Answer : Op → Type) (Env Task : Type)
  | thread (index : Nat) (offered : (op : Op) → Answer op)
  | env (move : Env)
  | spawn (task : Task)

variable {Op : Type} {Answer : Op → Type} {World Env Task Result State : Type}

/-- One move; `none` when the chosen program has ended or cannot proceed. -/
def Machine.step (machine : Machine Op Answer World Env Task Result) (pool : Pool Op Answer World Result) :
    Move Op Answer Env Task → Option (Pool Op Answer World Result)
  | .thread index offered =>
    match pool.threads[index]? with
    | some (.call op next) =>
      match machine.perform op (offered op) pool.world with
      | some (answer,world) =>
        some ⟨world,pool.threads.set index (next answer),pool.trace++[(index,⟨op,answer⟩)]⟩
      | none => none
    | _ => none
  | .env move => (machine.move move pool.world).map (fun world => {pool with world := world})
  | .spawn task => some {pool with threads := pool.threads++[machine.program task]}

def Machine.run (machine : Machine Op Answer World Env Task Result) (pool : Pool Op Answer World Result)
    (moves : List (Move Op Answer Env Task)) : Option (Pool Op Answer World Result) :=
  moves.foldlM machine.step pool

theorem Machine.step_trace {machine : Machine Op Answer World Env Task Result} {pool next : Pool Op Answer World Result}
    {move : Move Op Answer Env Task} (stepped : machine.step pool move = some next) :
    ∃ entries, next.trace = pool.trace ++ entries := by
  cases move with
  | spawn task =>
    cases stepped
    exact ⟨[],(List.append_nil _).symm⟩
  | env move =>
    simp only [Machine.step,Option.map_eq_some_iff] at stepped
    obtain ⟨world,_,rfl⟩ := stepped
    exact ⟨[],(List.append_nil _).symm⟩
  | thread index offered =>
    simp only [Machine.step] at stepped
    split at stepped
    · split at stepped <;> cases stepped
      exact ⟨_,rfl⟩
    · cases stepped

/-- A place in a record that grew by one entry is the new entry or a place of the old record. -/
theorem snoc_split {α : Type} {record before after : List α} {last entry : α}
    (same : record++[last] = before ++ entry::after) :
    (after = [] ∧ before = record ∧ entry = last) ∨ ∃ init, after = init++[last] ∧ record = before ++ entry::init := by
  rcases List.eq_nil_or_concat after with rfl | ⟨init,other,rfl⟩
  · obtain ⟨rfl,one⟩ := List.append_inj' same rfl
    cases one
    exact .inl ⟨rfl,rfl,rfl⟩
  · have split : record++[last] = (before ++ entry::init)++[other] := by simpa using same
    obtain ⟨rest,one⟩ := List.append_inj' split rfl
    cases one
    exact .inr ⟨init,by simp,rest⟩

/-- Every entry of a record relates to the entries before it. -/
def Throughout {α : Type} (P : List α → α → Prop) (before : List α) : List α → Prop
  | [] => True
  | entry::after => P before entry ∧ Throughout P (before++[entry]) after

instance Throughout.decidable {α : Type} (P : List α → α → Prop) [∀ before entry, Decidable (P before entry)]
    (before : List α) : (record : List α) → Decidable (Throughout P before record)
  | [] => .isTrue trivial
  | entry::after => @instDecidableAnd _ _ _ (Throughout.decidable P (before++[entry]) after)

theorem throughout_snoc {α : Type} {P : List α → α → Prop} {before record : List α} {last : α} :
    Throughout P before (record++[last]) ↔ Throughout P before record ∧ P (before++record) last := by
  induction record generalizing before with
  | nil => simp [Throughout]
  | cons entry after ih => simp [Throughout,ih,and_assoc]

theorem exists_mem_set {α : Type} {entries : List α} {index : Nat} {old new : α} (found : entries[index]? = some old)
    {P : α → Prop} (holder : ∃ entry ∈ entries, P entry) (moves : P old → P new) :
    ∃ entry ∈ entries.set index new, P entry := by
  obtain ⟨entry,member,holds⟩ := holder
  obtain ⟨place,placed⟩ := List.mem_iff_getElem?.mp member
  by_cases same : index = place
  · subst same
    cases found.symm.trans placed
    have bound := (List.getElem?_eq_some_iff.mp found).1
    exact ⟨new,List.mem_set bound new,moves holds⟩
  · refine ⟨entry,List.mem_iff_getElem?.mpr ⟨place,?_⟩,holds⟩
    rw [List.getElem?_set_ne same]
    exact placed

/-- An entry after one was replaced is the new one or was there before. -/
theorem set_cases {α : Type} {entries : List α} {index place : Nat} {new entry : α}
    (placed : (entries.set index new)[place]? = some entry) :
    (place = index ∧ entry = new) ∨ (place ≠ index ∧ entries[place]? = some entry) := by
  by_cases same : index = place
  · subst same
    rw [List.getElem?_set] at placed
    simp only [if_true] at placed
    split at placed
    · exact .inl ⟨rfl,(Option.some.inj placed).symm⟩
    · cases placed
  · rw [List.getElem?_set_ne same] at placed
    exact .inr ⟨Ne.symm same,placed⟩

theorem snoc_cases {α : Type} {entries : List α} {place : Nat} {new entry : α}
    (placed : (entries++[new])[place]? = some entry) :
    entries[place]? = some entry ∨ (place = entries.length ∧ entry = new) := by
  rw [List.getElem?_append] at placed
  split at placed
  · exact .inl placed
  · rw [List.getElem?_singleton] at placed
    split at placed
    · cases placed
      exact .inr ⟨by omega,rfl⟩
    · cases placed

/-- Every program in the pool still meets its monitor, in the states listed. -/
def Aligned (monitor : Monitor Op Answer State) (post : State → Result → Prop)
    (threads : List (Program Op Answer Result)) (states : List State) : Prop :=
  List.Forall₂ (fun program state => Meets monitor post state program) threads states

/-- What keeps `Holds` along every run that starts only admissible tasks. -/
structure Keeps (machine : Machine Op Answer World Env Task Result) (monitor : Monitor Op Answer State)
    (post : State → Result → Prop) (start : Task → State) (Admissible : Task → Prop)
    (Holds : World → List (Nat × Event Op Answer) → List State → Prop) : Prop where
  programs : ∀ task, Admissible task → Meets monitor post (start task) (machine.program task)
  spawn : ∀ task world trace states, Admissible task → Holds world trace states →
    Holds world trace (states++[start task])
  env : ∀ move world next trace states, Holds world trace states → machine.move move world = some next →
    Holds next trace states
  request : ∀ world next trace states index state op offered answer, Holds world trace states →
    states[index]? = some state → monitor.allowed state op → machine.perform op offered world = some (answer,next) →
    Holds next (trace++[(index,⟨op,answer⟩)]) (states.set index (monitor.next state op answer))

section Invariant
variable {machine : Machine Op Answer World Env Task Result} {monitor : Monitor Op Answer State}
  {post : State → Result → Prop} {start : Task → State} {Admissible : Task → Prop} {Holds : World → List (Nat × Event Op Answer) → List State → Prop}

theorem Aligned.state {threads : List (Program Op Answer Result)} {states : List State}
    (aligned : Aligned monitor post threads states) {index : Nat} {program : Program Op Answer Result}
    (found : threads[index]? = some program) :
    ∃ state, states[index]? = some state ∧ Meets monitor post state program := by
  induction aligned generalizing index with
  | nil => simp at found
  | cons head _ ih =>
    cases index with
    | zero => cases found; exact ⟨_,rfl,head⟩
    | succ index => exact ih found

private theorem aligned_set {threads : List (Program Op Answer Result)} {states : List State}
    (aligned : Aligned monitor post threads states) (index : Nat) {program : Program Op Answer Result} {state : State}
    (meets : Meets monitor post state program) :
    Aligned monitor post (threads.set index program) (states.set index state) := by
  induction aligned generalizing index with
  | nil => exact .nil
  | cons head tail ih =>
    cases index with
    | zero => exact .cons meets tail
    | succ index => exact .cons head (ih index)

theorem Aligned.get {threads : List (Program Op Answer Result)} {states : List State}
    (aligned : Aligned monitor post threads states) {index : Nat} {state : State} (found : states[index]? = some state) :
    ∃ program, threads[index]? = some program ∧ Meets monitor post state program := by
  induction aligned generalizing index with
  | nil => simp at found
  | cons head _ ih =>
    cases index with
    | zero => cases found; exact ⟨_,rfl,head⟩
    | succ index => exact ih found

/-- When every program has ended, each has done what it had to. -/
theorem Aligned.ended {threads : List (Program Op Answer Result)} {states : List State}
    (aligned : Aligned monitor post threads states) (ended : ∀ program ∈ threads, program.ended = true) :
    ∀ state ∈ states, ∃ value, post state value := by
  induction aligned with
  | nil => simp
  | @cons program state _ _ head _ ih =>
    intro other member
    rcases List.mem_cons.mp member with rfl | member
    · have last := ended program (List.mem_cons_self ..)
      cases program with
      | done value => exact ⟨value,head⟩
      | call op next => cases last
    · exact ih (fun program inside => ended program (List.mem_cons_of_mem _ inside)) other member

inductive Progress (machine : Machine Op Answer World Env Task Result) (monitor : Monitor Op Answer State)
    (start : Task → State) (pool next : Pool Op Answer World Result) (states : List State) :
    Move Op Answer Env Task → List State → Prop
  | thread (index : Nat) (offered : (op : Op) → Answer op) (state : State) (op : Op) (answer : Answer op)
      (found : states[index]? = some state) (allowed : monitor.allowed state op)
      (performed : machine.perform op (offered op) pool.world = some (answer,next.world))
      (recorded : next.trace = pool.trace++[(index,⟨op,answer⟩)]) :
      Progress machine monitor start pool next states (.thread index offered)
        (states.set index (monitor.next state op answer))
  | env (move : Env) (moved : machine.move move pool.world = some next.world) (recorded : next.trace = pool.trace) :
      Progress machine monitor start pool next states (.env move) states
  | spawn (task : Task) (same : next.world = pool.world) (recorded : next.trace = pool.trace) :
      Progress machine monitor start pool next states (.spawn task) (states++[start task])

theorem Aligned.step {pool next : Pool Op Answer World Result} {states : List State} {move : Move Op Answer Env Task}
    (aligned : Aligned monitor post pool.threads states)
    (programs : ∀ task, move = .spawn task → Meets monitor post (start task) (machine.program task))
    (stepped : machine.step pool move = some next) :
    ∃ later, Aligned monitor post next.threads later ∧ Progress machine monitor start pool next states move later := by
  cases move with
  | spawn task =>
    cases stepped
    exact ⟨_,List.rel_append aligned (.cons (programs task rfl) .nil),.spawn task rfl rfl⟩
  | env move =>
    simp only [Machine.step,Option.map_eq_some_iff] at stepped
    obtain ⟨world,moved,rfl⟩ := stepped
    exact ⟨states,aligned,.env move moved rfl⟩
  | thread index offered =>
    simp only [Machine.step] at stepped
    split at stepped
    · rename_i op following found
      split at stepped
      · rename_i answer world performed
        cases stepped
        obtain ⟨state,placed,meets⟩ := aligned.state found
        exact ⟨_,aligned_set aligned index (meets.2 answer),.thread index offered state op answer placed meets.1 performed rfl⟩
      · cases stepped
    · cases stepped

theorem Keeps.progress (keeps : Keeps machine monitor post start Admissible Holds) {pool next : Pool Op Answer World Result}
    {states later : List State} {move : Move Op Answer Env Task} (holds : Holds pool.world pool.trace states)
    (admissible : ∀ task, move = .spawn task → Admissible task)
    (progress : Progress machine monitor start pool next states move later) : Holds next.world next.trace later := by
  cases progress with
  | thread index offered state op answer found allowed performed recorded =>
    rw [recorded]
    exact keeps.request _ _ _ _ index state op _ answer holds found allowed performed
  | env move moved recorded =>
    rw [recorded]
    exact keeps.env move _ _ _ _ holds moved
  | spawn task same recorded =>
    rw [same,recorded]
    exact keeps.spawn task _ _ _ (admissible task rfl) holds

/-- One move keeps the programs within their monitors and the invariant. -/
theorem Keeps.step (keeps : Keeps machine monitor post start Admissible Holds) {pool next : Pool Op Answer World Result}
    {states : List State} {move : Move Op Answer Env Task} (aligned : Aligned monitor post pool.threads states)
    (holds : Holds pool.world pool.trace states) (admissible : ∀ task, move = .spawn task → Admissible task)
    (stepped : machine.step pool move = some next) :
    ∃ later, Aligned monitor post next.threads later ∧ Holds next.world next.trace later ∧
      Progress machine monitor start pool next states move later := by
  obtain ⟨later,kept,progress⟩ :=
    aligned.step (fun task same => keeps.programs task (admissible task same)) stepped
  exact ⟨later,kept,keeps.progress holds admissible progress,progress⟩

/-- The invariant holds after any run. -/
theorem Keeps.run (keeps : Keeps machine monitor post start Admissible Holds) {pool next : Pool Op Answer World Result}
    {states : List State} {moves : List (Move Op Answer Env Task)} (aligned : Aligned monitor post pool.threads states)
    (holds : Holds pool.world pool.trace states) (admissible : ∀ task, .spawn task ∈ moves → Admissible task)
    (ran : machine.run pool moves = some next) :
    ∃ states, Aligned monitor post next.threads states ∧ Holds next.world next.trace states := by
  induction moves generalizing pool states with
  | nil =>
    cases ran
    exact ⟨states,aligned,holds⟩
  | cons move moves ih =>
    simp only [Machine.run,List.foldlM_cons,Option.bind_eq_bind,Option.bind_eq_some_iff] at ran
    obtain ⟨middle,stepped,rest⟩ := ran
    obtain ⟨later,kept,still,_⟩ := keeps.step aligned holds (fun task same => admissible task (by simp [same])) stepped
    exact ih kept still (fun task member => admissible task (List.mem_cons_of_mem _ member)) rest

theorem Keeps.run_empty (keeps : Keeps machine monitor post start Admissible Holds) {world : World}
    {next : Pool Op Answer World Result} {moves : List (Move Op Answer Env Task)} (holds : Holds world [] [])
    (admissible : ∀ task, .spawn task ∈ moves → Admissible task)
    (ran : machine.run {world := world} moves = some next) :
    ∃ states, Aligned monitor post next.threads states ∧ Holds next.world next.trace states :=
  keeps.run (show Aligned monitor post [] [] from .nil) holds admissible ran

end Invariant

section Followed

def started (moves : List (Move Op Answer Env Task)) : List Task :=
  moves.filterMap (fun move => match move with
    | .spawn task => some task
    | _ => none)

def answered (trace : List (Nat × Event Op Answer)) (index : Nat) : List (Event Op Answer) :=
  trace.filterMap (fun entry => if entry.1 = index then some entry.2 else none)

/-- Every monitor is in the state its program's own requests lead to. -/
structure Followed (monitor : Monitor Op Answer State) (start : Task → State) (tasks : List Task)
    (trace : List (Nat × Event Op Answer)) (states : List State) : Prop where
  within : ∀ entry ∈ trace, entry.1 < tasks.length
  states : states = tasks.mapIdx (fun index task => monitor.after (start task) (answered trace index))

variable {machine : Machine Op Answer World Env Task Result} {monitor : Monitor Op Answer State}
  {post : State → Result → Prop} {start : Task → State} {Admissible : Task → Prop} {Holds : World → List (Nat × Event Op Answer) → List State → Prop}

theorem Followed.get {tasks : List Task} {trace : List (Nat × Event Op Answer)} {states : List State}
    (followed : Followed monitor start tasks trace states) {index : Nat} {task : Task} (found : tasks[index]? = some task) :
    states[index]? = some (monitor.after (start task) (answered trace index)) := by
  rw [followed.states,List.getElem?_mapIdx,found]
  rfl

theorem answered_snoc (trace : List (Nat × Event Op Answer)) (index other : Nat) (event : Event Op Answer) :
    answered (trace++[(index,event)]) other = answered trace other ++ if index = other then [event] else [] := by
  by_cases same : index = other <;> simp [answered,same]

theorem Followed.progress {pool next : Pool Op Answer World Result} {states later : List State} {tasks : List Task}
    {move : Move Op Answer Env Task} (followed : Followed monitor start tasks pool.trace states)
    (progress : Progress machine monitor start pool next states move later) :
    Followed monitor start (tasks ++ started [move]) next.trace later := by
  cases progress with
  | env move moved recorded =>
    rw [recorded]
    simpa [started] using followed
  | spawn task same recorded =>
    rw [recorded]
    refine ⟨fun entry member => ?_,?_⟩
    · simpa [started] using Nat.lt_succ_of_lt (followed.within entry member)
    · have fresh : answered pool.trace tasks.length = [] := by
        refine List.filterMap_eq_nil_iff.mpr (fun entry member => if_neg (followed.within entry member).ne)
      simp [started,followed.states,fresh,Monitor.after]
  | thread index offered state op answer found allowed performed recorded =>
    rw [recorded]
    change Followed monitor start (tasks++[]) _ _
    rw [List.append_nil]
    obtain ⟨task,placed,current⟩ : ∃ task, tasks[index]? = some task ∧
        monitor.after (start task) (answered pool.trace index) = state := by
      simpa [followed.states,List.getElem?_mapIdx] using found
    have bound := (List.getElem?_eq_some_iff.mp placed).1
    refine ⟨fun entry member => ?_,?_⟩
    · rcases List.mem_append.mp member with old | new
      · exact followed.within entry old
      · cases List.mem_singleton.mp new
        exact bound
    · apply List.ext_getElem?
      intro place
      rw [List.getElem?_mapIdx]
      by_cases here : index = place
      · subst here
        rw [List.getElem?_set_self (by simpa [followed.states] using bound),placed,Option.map_some,answered_snoc,if_pos rfl]
        simp [Monitor.after,← current]
      · rw [List.getElem?_set_ne here,followed.states,List.getElem?_mapIdx]
        simp [answered_snoc,here]

/-- After any run from an empty pool the invariant holds, of monitors that followed their programs. -/
theorem Keeps.run_followed (keeps : Keeps machine monitor post start Admissible Holds) {world : World}
    {next : Pool Op Answer World Result} {moves : List (Move Op Answer Env Task)} (holds : Holds world [] [])
    (admissible : ∀ task, .spawn task ∈ moves → Admissible task)
    (ran : machine.run {world := world} moves = some next) :
    ∃ states, Aligned monitor post next.threads states ∧ Holds next.world next.trace states ∧
      Followed monitor start (started moves) next.trace states := by
  induction moves using List.reverseRecOn generalizing next with
  | nil =>
    cases ran
    exact ⟨[],.nil,holds,by simp,rfl⟩
  | append_singleton moves move ih =>
    simp only [Machine.run,List.foldlM_append,Option.bind_eq_bind,Option.bind_eq_some_iff] at ran
    obtain ⟨pool,before,last⟩ := ran
    obtain ⟨states,aligned,holds,followed⟩ :=
      ih (fun task member => admissible task (List.mem_append_left _ member)) before
    simp only [List.foldlM_cons,List.foldlM_nil,bind_pure] at last
    obtain ⟨later,kept,still,progress⟩ := keeps.step aligned holds (fun task same => admissible task (by simp [same])) last
    refine ⟨later,kept,still,?_⟩
    have more := followed.progress progress
    rwa [started,List.filterMap_append]

end Followed

end Interaction
