import Ramqp.Library.Transition
import Mathlib.Order.WellFounded

/-! Endless runs and what must happen along them: a goal is reached if every step lets a rank stay or
fall and the steps that make it fall keep coming. -/
namespace Transition

variable {State Label : Type}

def Follows (step : State → Label → Option State) (states : Nat → State) (labels : Nat → Label) : Prop :=
  ∀ i, step (states i) (labels i) = some (states (i + 1))

/-- As long as the goal is not reached, a step that helps is still to come. -/
def Fair (helps : State → Label → Prop) (goal : State → Prop) (states : Nat → State) (labels : Nat → Label) : Prop :=
  ∀ i, goal (states i) ∨ ∃ j, i ≤ j ∧ helps (states j) (labels j)

lemma Follows.invariant {step : State → Label → Option State} {states : Nat → State} {labels : Nat → Label}
    (follows : Follows step states labels) {inv : State → Prop}
    (preserved : ∀ state label next, inv state → step state label = some next → inv next)
    (initial : inv (states 0)) (i : Nat) : inv (states i) := by
  induction i with
  | zero => exact initial
  | succ i ih => exact preserved _ _ _ ih (follows i)

section Rank

variable {Rank : Type} {below : Rank → Rank → Prop} {step : State → Label → Option State} {rank : State → Rank}
  {inv goal : State → Prop} {helps : State → Label → Prop} {states : Nat → State} {labels : Nat → Label}

lemma falls (stays : ∀ state label next, inv state → ¬ goal state → step state label = some next →
      goal next ∨ rank next = rank state ∨ below (rank next) (rank state))
    (helped : ∀ state label next, inv state → ¬ goal state → helps state label → step state label = some next →
      goal next ∨ below (rank next) (rank state))
    (follows : Follows step states labels) (always : ∀ i, inv (states i)) (never : ∀ i, ¬ goal (states i))
    (distance i : Nat) (help : helps (states (i + distance)) (labels (i + distance))) :
    ∃ j, below (rank (states j)) (rank (states i)) := by
  induction distance generalizing i with
  | zero => exact ⟨i + 1,(helped _ _ _ (always i) (never i) help (follows i)).resolve_left (never (i + 1))⟩
  | succ distance ih =>
    rcases (stays _ _ _ (always i) (never i) (follows i)).resolve_left (never (i + 1)) with same|lower
    · obtain ⟨j,falls⟩ := ih (i + 1) (by rwa [Nat.add_right_comm])
      exact ⟨j,same ▸ falls⟩
    · exact ⟨i + 1,lower⟩

lemma eventually (rank : State → Rank) (inv : State → Prop) (founded : WellFounded below)
    (preserved : ∀ state label next, inv state → step state label = some next → inv next)
    (stays : ∀ state label next, inv state → ¬ goal state → step state label = some next →
      goal next ∨ rank next = rank state ∨ below (rank next) (rank state))
    (helped : ∀ state label next, inv state → ¬ goal state → helps state label → step state label = some next →
      goal next ∨ below (rank next) (rank state))
    (follows : Follows step states labels) (fair : Fair helps goal states labels) (initial : inv (states 0)) :
    ∃ i, goal (states i) := by
  by_contra none
  rw [not_exists] at none
  have always := follows.invariant preserved initial
  have endless : ∀ value i, rank (states i) = value → False := by
    intro value
    induction value using founded.induction with
    | _ value ih =>
      rintro i rfl
      obtain ⟨_,later,help⟩ := (fair i).resolve_left (none i)
      obtain ⟨distance,rfl⟩ := Nat.exists_eq_add_of_le later
      obtain ⟨lower,falls⟩ := falls stays helped follows always none distance i help
      exact ih _ falls lower rfl
  exact endless _ 0 rfl

end Rank

end Transition
