import Mathlib

/-! Systems that move from state to state. What every step keeps holds along every run,
and a system whose steps are answered by runs of another one has runs only that the other
one has too. -/
namespace Interaction

/-- How a system moves; a step that cannot be taken has no result. -/
structure System (State Label : Type) where
  step : State → Label → Option State

variable {State Label Abstract Move : Type} {system : System State Label} {abstract : System Abstract Move}

def System.run (system : System State Label) (state : State) (labels : List Label) : Option State :=
  labels.foldlM system.step state

theorem System.run_cons {state final : State} {label : Label} {labels : List Label} :
    system.run state (label::labels) = some final ↔
      ∃ next, system.step state label = some next ∧ system.run next labels = some final := by
  simp [System.run,Option.bind_eq_some_iff]

theorem System.run_append {state final : State} {first second : List Label} :
    system.run state (first++second) = some final ↔
      ∃ middle, system.run state first = some middle ∧ system.run middle second = some final := by
  simp [System.run,List.foldlM_append,Option.bind_eq_some_iff]

/-- What every step keeps, every run keeps. -/
theorem System.run_keeps {Holds : State → Prop} (keeps : ∀ state label next, Holds state →
    system.step state label = some next → Holds next) {state final : State} {labels : List Label} (holds : Holds state)
    (ran : system.run state labels = some final) : Holds final := by
  induction labels generalizing state with
  | nil =>
    cases ran
    exact holds
  | cons label labels ih =>
    obtain ⟨next,stepped,rest⟩ := System.run_cons.mp ran
    exact ih (keeps state label next holds stepped) rest

/-- Every step of the system is answered by moves of the abstract one, from related states
to related states. -/
def Simulates (system : System State Label) (abstract : System Abstract Move) (related : State → Abstract → Prop)
    (answer : State → Label → List Move) : Prop :=
  ∀ state spec label next, related state spec → system.step state label = some next →
    ∃ after, abstract.run spec (answer state label) = some after ∧ related next after

def System.answers (system : System State Label) (answer : State → Label → List Move) : State → List Label → List Move
  | _, [] => []
  | state, label::labels =>
    answer state label ++ ((system.step state label).map (fun next => system.answers answer next labels)).getD []

theorem Simulates.run {related : State → Abstract → Prop} {answer : State → Label → List Move}
    (simulates : Simulates system abstract related answer) {state final : State} {spec : Abstract} {labels : List Label}
    (start : related state spec) (ran : system.run state labels = some final) :
    ∃ after, abstract.run spec (system.answers answer state labels) = some after ∧ related final after := by
  induction labels generalizing state spec with
  | nil =>
    cases ran
    exact ⟨spec,rfl,start⟩
  | cons label labels ih =>
    obtain ⟨next,stepped,rest⟩ := System.run_cons.mp ran
    obtain ⟨middle,answered,related⟩ := simulates state spec label next start stepped
    obtain ⟨after,more,ended⟩ := ih related rest
    refine ⟨after,System.run_append.mpr ⟨middle,answered,?_⟩,ended⟩
    rw [stepped]
    exact more

end Interaction
