import Mathlib.Data.Option.Basic

/-! Runs of a deterministic step function whose labels carry every choice of the
environment, and the invariant rule for runs all of whose steps meet a guard. -/
namespace Transition

variable {State Label : Type}

variable {step : State → Label → Option State} {state : State} {labels : List Label}

def run (step : State → Label → Option State) : State → List Label → Option State
  | state,[] => some state
  | state,label::labels => (step state label).bind (fun next => run step next labels)

/-- Every step of the run starts in a state where the guard admits its label. -/
def Meets (step : State → Label → Option State) (guard : State → Label → Prop) :
    State → List Label → Prop
  | _,[] => True
  | state,label::labels => guard state label ∧
      ∀ next, step state label = some next → Meets step guard next labels

lemma run_cons {label : Label} (ok : run step state (label::labels) = some final) :
    ∃ next, step state label = some next ∧ run step next labels = some final :=
  Option.bind_eq_some_iff.mp ok

lemma reaches_of_any {reached : Option State} {P : State → Prop} [DecidablePred P]
    (holds : reached.any (fun final => decide (P final)) = true) : ∃ final, reached = some final ∧ P final := by
  obtain ⟨final,ok,here⟩ := Option.any_eq_true _ _ |>.mp holds
  exact ⟨final,ok,of_decide_eq_true here⟩

lemma reaches_then {P Q : State → Prop} [DecidablePred P]
    (holds : (run step state labels).any (fun final => decide (P final)) = true)
    (more : ∀ final, run step state labels = some final → P final → Q final) :
    ∃ final, run step state labels = some final ∧ Q final := by
  obtain ⟨final,ok,here⟩ := reaches_of_any holds
  exact ⟨final,ok,more final ok here⟩

variable {P Q : State → Prop}

/-- What is decided of the state reached, and what follows from it. -/
lemma reaches_and [DecidablePred P] (holds : (run step state labels).any (fun final => decide (P final)) = true)
    (more : ∀ final, run step state labels = some final → P final → Q final) :
    ∃ final, run step state labels = some final ∧ P final ∧ Q final :=
  reaches_then holds fun final ok here => ⟨here,more final ok here⟩

def check (step : State → Label → Option State) (guard : State → Label → Bool) :
    State → List Label → Bool
  | _,[] => true
  | state,label::labels => guard state label && (step state label).all (fun next => check step guard next labels)

lemma meets_of_check {guard : State → Label → Bool} (checked : check step guard state labels = true) :
    Meets step (fun state label => guard state label = true) state labels := by
  induction labels generalizing state with
  | nil => trivial
  | cons label labels ih =>
    simp only [check,Bool.and_eq_true] at checked
    refine ⟨checked.1,?_⟩
    intro next taken
    rw [taken] at checked
    exact ih checked.2

lemma meets_of_forall {guard : Label → Prop} (all : ∀ label ∈ labels, guard label) :
    Meets step (fun _ label => guard label) state labels := by
  induction labels generalizing state with
  | nil => trivial
  | cons label labels ih =>
    exact ⟨all label List.mem_cons_self,fun next _ => ih (fun other member => all other (List.mem_cons_of_mem _ member))⟩

/-- The invariant rule: what one guarded step preserves, a guarded run preserves. -/
lemma run_invariant {guard : State → Label → Prop} {P : State → Prop} {final : State}
    (preserved : ∀ {state label next}, P state → guard state label → step state label = some next → P next)
    (initial : P state) (meets : Meets step guard state labels) (ok : run step state labels = some final) :
    P final := by
  induction labels generalizing state with
  | nil =>
    cases ok
    exact initial
  | cons label labels ih =>
    obtain ⟨next,taken,rest⟩ := run_cons ok
    exact ih (preserved initial meets.1 taken) (meets.2 next taken) rest

lemma run_invariant_all
    (preserved : ∀ {state label next}, P state → step state label = some next → P next) (initial : P state)
    (ok : run step state labels = some final) : P final :=
  run_invariant (fun held _ => preserved held) initial (meets_of_forall fun _ _ => trivial) ok

end Transition
