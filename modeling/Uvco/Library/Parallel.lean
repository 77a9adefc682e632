import Mathlib.Data.Nat.Notation
import Uvco.Library.Transition

/-!
# Independent instances of a system

Any number of instances of a transition system that share nothing: a step starts another
instance, or is a step of one of them. What an instance reaches in any interleaving, it
reaches on its own.
-/

universe u v

namespace TransitionSystem

variable {State : Type u} {Action : Type v}

/-- The steps of a family of instances. -/
inductive ParallelAction (State : Type u) (Action : Type v) where
  | spawn (state : State)
  | step (index : ℕ) (action : Action)

/-- A growing family of instances. -/
def parallel (system : TransitionSystem State Action) :
    TransitionSystem (List State) (ParallelAction State Action) where
  Initial states := states = []
  Enabled states
    | .spawn state => system.Initial state
    | .step index action => ∃ state, states[index]? = some state ∧ system.Enabled state action
  perform states
    | .spawn state => states ++ [state]
    | .step index action =>
        match states[index]? with
        | some state => states.set index (system.perform state action)
        | none => states

/-- Every instance has a condition of its own. -/
def Each (Allowed : ℕ → State → Action → Prop) (states : List State) :
    ParallelAction State Action → Prop
  | .spawn _ => True
  | .step index action => ∀ state, states[index]? = some state → Allowed index state action

variable {system : TransitionSystem State Action} {Allowed : ℕ → State → Action → Prop}

theorem parallel_perform_step {states : List State} {index : ℕ} {state : State}
    (is_instance : states[index]? = some state) (action : Action) :
    system.parallel.perform states (.step index action) =
      states.set index (system.perform state action) := by
  simp only [parallel, is_instance]

/-- An instance does not notice the others. -/
theorem ReachableVia.instance_reachable {states : List State}
    (reached : system.parallel.ReachableVia (Each Allowed) states) {index : ℕ} {state : State}
    (is_instance : states[index]? = some state) :
    system.ReachableVia (Allowed index) state := by
  revert index state
  refine ReachableVia.invariant (fun states => ∀ {index : ℕ} {state : State},
    states[index]? = some state → system.ReachableVia (Allowed index) state) ?_ ?_ reached
  · rintro _ rfl
    simp
  · intro states action instances enabled allowed index state at_index
    cases action with
    | spawn initial =>
        simp only [parallel] at at_index enabled
        rcases Nat.lt_trichotomy index states.length with before | here | behind
        · rw [List.getElem?_append_left before] at at_index
          exact instances at_index
        · have state_eq : initial = state := by simpa [here] using at_index
          exact .start (state_eq ▸ enabled)
        · have absent : (states ++ [initial])[index]? = none :=
            List.getElem?_eq_none (by simp only [List.length_append, List.length_singleton]; omega)
          simp [absent] at at_index
    | step moved action =>
        rcases enabled with ⟨before, at_moved, enabled⟩
        rw [parallel_perform_step at_moved] at at_index
        by_cases same : moved = index
        · subst same
          have inside : moved < states.length := (List.getElem?_eq_some_iff.mp at_moved).1
          rw [List.getElem?_set_self inside, Option.some.injEq] at at_index
          subst at_index
          exact .step action (instances at_moved) enabled (allowed before at_moved)
        · rw [List.getElem?_set_ne same] at at_index
          exact instances at_index

end TransitionSystem
