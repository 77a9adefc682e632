import Mathlib.Logic.Relation

/-!
# Labelled transition systems

A transition system is given by its initial states, by the actions a state
enables, and by the function that performs an action. `ReachableVia` collects
the states reached by runs all of whose steps meet a side condition on the
state before the step and the action taken; `Reachable` imposes no condition.

The rules below are the only inductions over runs in this development: an
invariant is established by giving the initial case and the effect of one step.
-/

universe u v

/-- A labelled transition system with deterministic actions. -/
structure TransitionSystem (State : Type u) (Action : Type v) where
  /-- The states in which a run may start. -/
  Initial : State → Prop
  /-- The actions that may be taken in a state. -/
  Enabled : State → Action → Prop
  /-- The effect of an action. -/
  perform : State → Action → State

namespace TransitionSystem

variable {State : Type u} {Action : Type v} (system : TransitionSystem State Action)

/-- States reached by a run all of whose steps satisfy `Allowed`. -/
inductive ReachableVia (Allowed : State → Action → Prop) : State → Prop where
  | start {state : State} (initial : system.Initial state) : ReachableVia Allowed state
  | step {state : State} (action : Action) (reached : ReachableVia Allowed state)
      (enabled : system.Enabled state action) (allowed : Allowed state action) :
      ReachableVia Allowed (system.perform state action)

/-- States reached by an arbitrary run. -/
abbrev Reachable (state : State) : Prop :=
  system.ReachableVia (fun _ _ => True) state

/-- One step of the system that satisfies `Allowed`. -/
def StepVia (Allowed : State → Action → Prop) (before after : State) : Prop :=
  ∃ action, system.Enabled before action ∧ Allowed before action ∧
    after = system.perform before action

/-- A run from one state to another all of whose steps satisfy `Allowed`. -/
abbrev StepsVia (Allowed : State → Action → Prop) : State → State → Prop :=
  Relation.ReflTransGen (system.StepVia Allowed)

/-- A run from one state to another. -/
abbrev Steps : State → State → Prop :=
  system.StepsVia (fun _ _ => True)

variable {system}

/-- An invariant that every allowed step preserves holds along every allowed run. -/
theorem ReachableVia.invariant {Allowed : State → Action → Prop} (Invariant : State → Prop)
    (initially : ∀ state, system.Initial state → Invariant state)
    (preserved : ∀ state action, Invariant state → system.Enabled state action →
      Allowed state action → Invariant (system.perform state action))
    {state : State} (reached : system.ReachableVia Allowed state) : Invariant state := by
  induction reached with
  | start initial => exact initially _ initial
  | step _ _ enabled allowed ih => exact preserved _ _ ih enabled allowed

/-- An invariant that every step preserves holds along every run. -/
theorem Reachable.invariant (Invariant : State → Prop)
    (initially : ∀ state, system.Initial state → Invariant state)
    (preserved : ∀ state action, Invariant state → system.Enabled state action →
      Invariant (system.perform state action))
    {state : State} (reached : system.Reachable state) : Invariant state :=
  ReachableVia.invariant Invariant initially
    (fun state action invariant enabled _ => preserved state action invariant enabled) reached

theorem ReachableVia.mono {Allowed Allowed' : State → Action → Prop}
    (weaker : ∀ state action, Allowed state action → Allowed' state action) {state : State}
    (reached : system.ReachableVia Allowed state) : system.ReachableVia Allowed' state := by
  induction reached with
  | start initial => exact .start initial
  | step action _ enabled allowed ih => exact .step action ih enabled (weaker _ _ allowed)

theorem ReachableVia.reachable {Allowed : State → Action → Prop} {state : State}
    (reached : system.ReachableVia Allowed state) : system.Reachable state :=
  reached.mono fun _ _ _ => trivial

/-- What every reachable state is known to satisfy can be used to show that steps preserve an
invariant. -/
theorem ReachableVia.invariant_of_reachable {Allowed : State → Action → Prop}
    (Invariant : State → Prop)
    (initially : ∀ state, system.Initial state → Invariant state)
    (preserved : ∀ state action, system.Reachable state → Invariant state →
      system.Enabled state action → Allowed state action → Invariant (system.perform state action))
    {state : State} (reached : system.ReachableVia Allowed state) : Invariant state := by
  induction reached with
  | start initial => exact initially _ initial
  | step _ reached enabled allowed ih =>
      exact preserved _ _ reached.reachable ih enabled allowed

/-- A property that every allowed step preserves is kept along allowed runs. -/
theorem StepsVia.preserve {Allowed : State → Action → Prop} (Property : State → Prop)
    (preserved : ∀ state action, Property state → system.Enabled state action →
      Allowed state action → Property (system.perform state action))
    {before after : State} (steps : system.StepsVia Allowed before after)
    (holds : Property before) : Property after := by
  induction steps with
  | refl => exact holds
  | tail _ step ih =>
      rcases step with ⟨action, enabled, allowed, rfl⟩
      exact preserved _ action ih enabled allowed

/-- If every step of a run is matched by a step of another system, or by none, the other
system reaches the abstraction of every state of the run. -/
theorem ReachableVia.simulate {State' : Type*} {Action' : Type*}
    {abstract : TransitionSystem State' Action'} {Allowed : State → Action → Prop}
    (abstraction : State → State')
    (initially : ∀ state, system.Initial state → abstract.Initial (abstraction state))
    (matched : ∀ state action, system.ReachableVia Allowed state → system.Enabled state action →
      Allowed state action →
      abstraction (system.perform state action) = abstraction state ∨
        ∃ step, abstract.Enabled (abstraction state) step ∧
          abstraction (system.perform state action) = abstract.perform (abstraction state) step)
    {state : State} (reached : system.ReachableVia Allowed state) :
    abstract.Reachable (abstraction state) := by
  induction reached with
  | start initial => exact .start (initially _ initial)
  | step action reached enabled allowed ih =>
      rcases matched _ action reached enabled allowed with unchanged | ⟨step, possible, moved⟩
      · rw [unchanged]
        exact ih
      · rw [moved]
        exact .step step ih possible trivial

/-- Replays a list of actions, as far as they are enabled and allowed. -/
def replay (system : TransitionSystem State Action) (Allowed : State → Action → Prop)
    [∀ state action, Decidable (system.Enabled state action)]
    [∀ state action, Decidable (Allowed state action)] (state : State) :
    List Action → Option State
  | [] => some state
  | action :: rest =>
      if system.Enabled state action ∧ Allowed state action then
        replay system Allowed (system.perform state action) rest
      else
        none

/-- A replayed list of actions is a run. -/
theorem ReachableVia.replay {Allowed : State → Action → Prop}
    [∀ state action, Decidable (system.Enabled state action)]
    [∀ state action, Decidable (Allowed state action)] {before after : State}
    {actions : List Action} (reached : system.ReachableVia Allowed before)
    (replayed : system.replay Allowed before actions = some after) :
    system.ReachableVia Allowed after := by
  induction actions generalizing before with
  | nil =>
      simp only [TransitionSystem.replay, Option.some.injEq] at replayed
      exact replayed ▸ reached
  | cons action rest ih =>
      simp only [TransitionSystem.replay] at replayed
      split at replayed
      · rename_i permitted
        exact ih (.step action reached permitted.1 permitted.2) replayed
      · simp at replayed

variable (system) in
/-- A property that holds at the end of a replayed run holds in some reachable state. -/
theorem exists_reachableVia_of_replay (Allowed : State → Action → Prop)
    [∀ state action, Decidable (system.Enabled state action)]
    [∀ state action, Decidable (Allowed state action)] {before : State}
    (actions : List Action) (Property : State → Prop) [DecidablePred Property]
    (reached : system.ReachableVia Allowed before)
    (holds : (system.replay Allowed before actions).any (fun state => Property state) = true) :
    ∃ state, system.ReachableVia Allowed state ∧ Property state := by
  rcases Option.any_eq_true _ _ |>.mp holds with ⟨state, replayed, property⟩
  exact ⟨state, reached.replay replayed, by simpa using property⟩

end TransitionSystem
