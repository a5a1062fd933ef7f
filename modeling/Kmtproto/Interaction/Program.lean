import Mathlib

/-! Programs that work through requests. A program is a tree of requests and of
what it does with each answer. A monitor follows a program from request to
request, and `Meets` says that the program asks only for what its monitor allows
and ends as required, whatever it is answered. -/
namespace Interaction

/-- A program over requests `Op`, the answer to `op` being an `Answer op`. -/
inductive Program (Op : Type) (Answer : Op → Type) (α : Type) : Type
  | done (value : α)
  | call (op : Op) (next : Answer op → Program Op Answer α)

variable {Op : Type} {Answer : Op → Type} {α β : Type}

namespace Program

def andThen : Program Op Answer α → (α → Program Op Answer β) → Program Op Answer β
  | .done value, following => following value
  | .call op next, following => .call op (fun answer => (next answer).andThen following)

instance : Monad (Program Op Answer) where
  pure := .done
  bind := andThen

def ended : Program Op Answer α → Bool
  | .done _ => true
  | .call _ _ => false

def ask (op : Op) : Program Op Answer (Answer op) := .call op .done

end Program

/-- What may be asked and what is known after an answer. -/
structure Monitor (Op : Type) (Answer : Op → Type) (State : Type) where
  allowed : State → Op → Prop
  next : State → (op : Op) → Answer op → State

variable {State : Type} (monitor : Monitor Op Answer State)

/-- The program stays within the monitor and ends in `post`. -/
def Meets (post : State → α → Prop) : State → Program Op Answer α → Prop
  | state, .done value => post state value
  | state, .call op next => monitor.allowed state op ∧ ∀ answer, Meets post (monitor.next state op answer) (next answer)

section Rules
variable {monitor} {post : State → α → Prop} {state : State}

@[simp] theorem meets_pure (value : α) :
    Meets monitor post state (pure value : Program Op Answer α) ↔ post state value := Iff.rfl

theorem meets_ask_bind {op : Op} {following : Answer op → Program Op Answer α} :
    Meets monitor post state (Program.ask op >>= following) ↔
      monitor.allowed state op ∧ ∀ answer, Meets monitor post (monitor.next state op answer) (following answer) := Iff.rfl

theorem Meets.mono {program : Program Op Answer α} {weaker : State → α → Prop}
    (meets : Meets monitor post state program) (implies : ∀ state value, post state value → weaker state value) :
    Meets monitor weaker state program := by
  induction program generalizing state with
  | done value => exact implies state value meets
  | call op next ih => exact ⟨meets.1,fun answer => ih answer (meets.2 answer)⟩

/-- Sequencing: what the first part ends in is what the second starts from. -/
@[simp] theorem meets_bind (program : Program Op Answer α) (following : α → Program Op Answer β)
    (post : State → β → Prop) :
    Meets monitor post state (program >>= following) ↔
      Meets monitor (fun state value => Meets monitor post state (following value)) state program := by
  induction program generalizing state with
  | done value => exact Iff.rfl
  | call op next ih => exact and_congr_right' (forall_congr' (fun answer => ih answer))

/-- A program that meets one monitor meets another with the same states that allows as
much, and what the allowed requests keep still holds at its end. -/
theorem Meets.transfer {other : Monitor Op Answer State} {Kept : State → Prop} {program : Program Op Answer α}
    (same : other.next = monitor.next)
    (wider : ∀ state op, Kept state → monitor.allowed state op →
      other.allowed state op ∧ ∀ answer, Kept (monitor.next state op answer))
    (start : Kept state) (meets : Meets monitor post state program) :
    Meets other (fun state value => post state value ∧ Kept state) state program := by
  induction program generalizing state with
  | done value => exact ⟨meets,start⟩
  | call op next ih =>
    obtain ⟨allowed,kept⟩ := wider state op start meets.1
    refine ⟨allowed,fun answer => ?_⟩
    rw [same]
    exact ih answer (kept answer) (meets.2 answer)

/-- A program that meets one monitor meets another that follows it step by step. -/
theorem Meets.simulate {Other : Type} {other : Monitor Op Answer Other} {Follows : State → Other → Prop}
    {program : Program Op Answer α} {shadow : Other}
    (follows : ∀ state shadow op, Follows state shadow → monitor.allowed state op →
      other.allowed shadow op ∧ ∀ answer, Follows (monitor.next state op answer) (other.next shadow op answer))
    (start : Follows state shadow) (meets : Meets monitor post state program) :
    Meets other (fun shadow value => ∃ state, Follows state shadow ∧ post state value) shadow program := by
  induction program generalizing state shadow with
  | done value => exact ⟨state,start,meets⟩
  | call op next ih =>
    obtain ⟨allowed,kept⟩ := follows state shadow op start meets.1
    exact ⟨allowed,fun answer => ih answer (kept answer) (meets.2 answer)⟩

/-- Every request of the program is of a kind, whatever it is answered. -/
def Asks (P : Op → Prop) : Program Op Answer α → Prop
  | .done _ => True
  | .call op next => P op ∧ ∀ answer, Asks P (next answer)

theorem Asks.mono {P Q : Op → Prop} {program : Program Op Answer α} (asks : Asks P program)
    (wider : ∀ op, P op → Q op) : Asks Q program := by
  induction program with
  | done value => exact trivial
  | call op next ih => exact ⟨wider op asks.1,fun answer => ih answer (asks.2 answer)⟩

theorem asks_pure {P : Op → Prop} (value : α) : Asks P (pure value : Program Op Answer α) := trivial

theorem asks_ask {P : Op → Prop} {op : Op} (kind : P op) : Asks P (Program.ask op : Program Op Answer (Answer op)) :=
  ⟨kind,fun _ => trivial⟩

theorem Asks.bind {P : Op → Prop} {program : Program Op Answer α} {following : α → Program Op Answer β}
    (first : Asks P program) (rest : ∀ value, Asks P (following value)) : Asks P (program >>= following) := by
  induction program with
  | done value => exact rest value
  | call op next ih => exact ⟨first.1,fun answer => ih answer (first.2 answer)⟩

theorem Meets.asks {P : Op → Prop} {program : Program Op Answer α} (meets : Meets monitor post state program)
    (kinds : ∀ state op, monitor.allowed state op → P op) : Asks P program := by
  induction program generalizing state with
  | done value => exact trivial
  | call op next ih => exact ⟨kinds state op meets.1,fun answer => ih answer (meets.2 answer)⟩

/-- A program whose requests the monitor allows and does not follow. -/
theorem Asks.meets {P : Op → Prop} {program : Program Op Answer α} (asks : Asks P program)
    (quiet : ∀ op, P op → monitor.allowed state op ∧ ∀ answer, monitor.next state op answer = state) :
    Meets monitor (fun after _ => after = state) state program := by
  induction program with
  | done value => exact rfl
  | call op next ih =>
    obtain ⟨allowed,same⟩ := quiet op asks.1
    refine ⟨allowed,fun answer => ?_⟩
    rw [same answer]
    exact ih answer (asks.2 answer)

abbrev Event (Op : Type) (Answer : Op → Type) := (op : Op) × Answer op

inductive Runs : Program Op Answer α → List (Event Op Answer) → α → Prop
  | done (value : α) : Runs (.done value) [] value
  | call (op : Op) (next : Answer op → Program Op Answer α) (answer : Answer op) (trace : List (Event Op Answer))
      (value : α) (rest : Runs (next answer) trace value) : Runs (.call op next) (⟨op,answer⟩::trace) value

/-- The run in which every request gets the answer offered for it. -/
def Program.offered (answers : (op : Op) → Answer op) : Program Op Answer α → List (Event Op Answer) × α
  | .done value => ([],value)
  | .call op next =>
    let rest := (next (answers op)).offered answers
    (⟨op,answers op⟩::rest.1,rest.2)

theorem Program.runs_offered (program : Program Op Answer α) (answers : (op : Op) → Answer op) :
    Runs program (program.offered answers).1 (program.offered answers).2 := by
  induction program with
  | done value => exact .done value
  | call op next ih => exact .call op next (answers op) _ _ (ih (answers op))

theorem Program.mem_offered {program : Program Op Answer α} {answers : (op : Op) → Answer op} {event : Event Op Answer}
    (member : event ∈ (program.offered answers).1) : event = ⟨event.1,answers event.1⟩ := by
  induction program with
  | done value => cases member
  | call op next ih =>
    rcases List.mem_cons.mp member with rfl | later
    · rfl
    · exact ih (answers op) later

/-- A run of a sequence is a run of its first part and one of what follows. -/
theorem Runs.bind_split {program : Program Op Answer α} {following : α → Program Op Answer β}
    {trace : List (Event Op Answer)} {value : β} (runs : Runs (program >>= following) trace value) :
    ∃ middle first rest, trace = first++rest ∧ Runs program first middle ∧ Runs (following middle) rest value := by
  induction program generalizing trace with
  | done middle => exact ⟨middle,[],trace,rfl,.done middle,runs⟩
  | call op next ih =>
    cases runs with
    | call _ _ answer trace _ rest =>
      obtain ⟨middle,first,last,rfl,ran,after⟩ := ih answer rest
      exact ⟨middle,⟨op,answer⟩::first,last,rfl,.call op next answer first middle ran,after⟩

theorem Runs.ask_split {op : Op} {following : Answer op → Program Op Answer β} {trace : List (Event Op Answer)} {value : β}
    (runs : Runs (Program.ask op >>= following) trace value) :
    ∃ answer rest, trace = ⟨op,answer⟩::rest ∧ Runs (following answer) rest value := by
  cases runs with
  | call _ _ answer rest _ after => exact ⟨answer,rest,rfl,after⟩

theorem Runs.pure_inv {value other : α} {trace : List (Event Op Answer)}
    (runs : Runs (pure value : Program Op Answer α) trace other) : trace = [] ∧ other = value := by
  cases runs
  exact ⟨rfl,rfl⟩

def Monitor.after (monitor : Monitor Op Answer State) (state : State) (trace : List (Event Op Answer)) : State :=
  trace.foldl (fun state event => monitor.next state event.1 event.2) state

theorem Meets.runs {program : Program Op Answer α} {trace : List (Event Op Answer)} {value : α}
    (meets : Meets monitor post state program) (runs : Runs program trace value) :
    post (monitor.after state trace) value := by
  induction runs generalizing state with
  | done value => exact meets
  | call op next answer trace value rest ih => exact ih (meets.2 answer)

end Rules

end Interaction
