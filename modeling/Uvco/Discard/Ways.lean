import Uvco.Discard.Invariant

/-!
# The ways to discard a `MultiPromise`

In a state in which a finished core means that the generator is not in the scheduler
queue, it does not matter how the `MultiPromise` is discarded.
-/

namespace Uvco.Discard.State

variable {T U E : Type} {state : State T U E}

/-- All ways to discard the `MultiPromise` leave the same state. The frame of the generator is
destroyed, and not again if a cancelled `MultiPromise` is destroyed or overwritten, and the
scheduler holds no entry for it. -/
structure DiscardsAlike (state : State T U E) : Prop where
  same : ∀ way other, state.discard way = state.discard other
  destroyed : ∀ way, (state.discard way).destroyed = [state.generator]
  once : ∀ way again, (state.discard way).discard again = state.discard way
  not_queued : ∀ way, (state.discard way).pending = 0

/-- What destroying and cancelling do. -/
theorem discard_of_ne_moveAssign (coroutine : state.core.coroutine = some state.generator)
    (held : state.held = true) {way : Way} (not_moved : way ≠ .moveAssign) :
    state.discard way = { ({ state with
      runtime := state.runtime.cancel state.generator } : State T U E).destroyFrame
        state.generator with held := false } := by
  cases way with
  | moveAssign => exact absurd rfl not_moved
  | destructor | cancel =>
      simp only [discard, held, if_true, cancelGenerator, coroutine]
      rfl

/-- A finished core keeps `destroyCoroutine` from cancelling. -/
theorem discard_moveAssign (coroutine : state.core.coroutine = some state.generator)
    (held : state.held = true) :
    state.discard .moveAssign = { ({ state with
      runtime := if state.core.state ≠ .finished then state.runtime.cancel state.generator
        else state.runtime } : State T U E).destroyFrame state.generator with held := false } := by
  simp only [discard, held, if_true, destroyCoroutine, coroutine]
  split <;> rfl

theorem discardsAlike_iff (coroutine : state.core.coroutine = some state.generator)
    (held : state.held = true) (none_destroyed : state.destroyed = []) :
    state.DiscardsAlike ↔ (state.core.state = .finished → state.pending = 0) := by
  constructor
  · intro alike finished
    have not_queued := alike.not_queued .moveAssign
    rw [discard_moveAssign coroutine held, if_neg (by simp [finished])] at not_queued
    exact not_queued
  · intro not_queued
    have cancels : (if state.core.state ≠ .finished then state.runtime.cancel state.generator
        else state.runtime) = state.runtime.cancel state.generator := by
      split
      · rfl
      · rename_i finished
        exact (Runtime.cancel_of_pending_eq_zero (not_queued (by simpa using finished))).symm
    have discarded : ∀ way, state.discard way = { ({ state with
        runtime := state.runtime.cancel state.generator } : State T U E).destroyFrame
          state.generator with held := false } := by
      intro way
      by_cases moved : way = .moveAssign
      · rw [moved, discard_moveAssign coroutine held, cancels]
      · exact discard_of_ne_moveAssign coroutine held moved
    constructor
    · intro way other
      rw [discarded way, discarded other]
    · intro way
      rw [discarded way]
      change state.destroyed ++ [state.generator] = _
      rw [none_destroyed]
      rfl
    · intro way again
      rw [discarded way]
      rfl
    · intro way
      rw [discarded way]
      exact Runtime.pending_cancel_self

/-- If the core of a suspended generator is finished, the generator is not in the scheduler
queue. -/
theorem Invariant.not_queued (invariant : state.Invariant) (off_stack : state.status ≠ .running)
    (finished : state.core.state = .finished) : state.pending = 0 := by
  cases invariant.phase with
  | running _ status => exact absurd status off_stack
  | elsewhere producing | selecting producing | awaitingMember producing | woken producing =>
      exact absurd finished producing.2
  | parked _ _ _ not_queued | ended _ _ _ not_queued => exact not_queued

theorem discardsAlike (reached : (system T U E).ReachableVia ResolvesAwaited state)
    (off_stack : state.status ≠ .running) : state.DiscardsAlike := by
  have invariant := invariant_of_reachableVia reached
  apply (discardsAlike_iff invariant.coroutine invariant.held invariant.none_destroyed).mpr
  exact invariant.not_queued off_stack

/-- A generator that has started to await promise 0, which resolves. -/
theorem discardsAlike_queued :
    (((({ generator := 0, core := { coroutine := some 0 }, members := fun _ => .typed {} } :
      State ℕ ℕ Unit).awaitMember 0).resolve 0 (.value 7))).DiscardsAlike := by
  have start : (system ℕ ℕ Unit).ReachableVia ResolvesAwaited
      { generator := 0, core := { coroutine := some 0 }, members := fun _ => .typed {} } :=
    .start ⟨0, _, fun _ => ⟨Member.valid_typed, by simp [Member.waitingHandle]⟩, rfl⟩
  have awaits : (system ℕ ℕ Unit).ReachableVia ResolvesAwaited _ :=
    .step (Action.awaitMember 0) start (by decide) trivial
  have resolved : (system ℕ ℕ Unit).ReachableVia ResolvesAwaited _ :=
    .step (Action.resolve 0 (.value 7)) awaits (by decide) (fun _ => .inl rfl)
  exact discardsAlike resolved (by decide)

/-- Where the condition is needed: an entry of a generator whose core is finished stays in the
scheduler. -/
theorem not_discardsAlike_of_resolve (invariant : state.Invariant) {index : ℕ}
    (outcome : Outcome U E) (unresolved : (state.members index).state ≠ .finished)
    (finished : state.core.state = .finished)
    (is_registered : (state.members index).waitingHandle = some state.generator) :
    ¬(state.resolve index outcome).DiscardsAlike := by
  intro alike
  rcases (invariant.registrations.valid index).resolve state.runtime.loop outcome unresolved with
    ⟨loop_eq, -⟩
  have queued : (state.resolve index outcome).pending = state.pending + 1 := by
    have runtime_eq : (state.resolve index outcome).runtime =
        state.runtime.enqueue state.generator := by
      simp only [State.resolve, loop_eq, is_registered]
      rfl
    rw [pending, runtime_eq]
    exact Runtime.pending_enqueue_self
  have coroutine : (state.resolve index outcome).core.coroutine =
      some (state.resolve index outcome).generator := invariant.coroutine
  have not_queued :=
    (discardsAlike_iff coroutine invariant.held invariant.none_destroyed).mp alike finished
  omega

/-- The generator awaits a set that refers to promise 5 twice, and catches the exception. Promise 5
resolves after the generator has yielded a value. -/
theorem moveAssign_leaves_entry : ∃ state : State ℕ ℕ Unit, (system ℕ ℕ Unit).Reachable state ∧
    (state.status = .waiting .atYield ∧ (state.discard .moveAssign).destroyed = [0] ∧
      (state.discard .moveAssign).pending = 1 ∧ (state.discard .destructor).pending = 0 ∧
      (state.discard .cancel).pending = 0) ∧ ¬state.DiscardsAlike := by
  have reached := (system ℕ ℕ Unit).exists_reachableVia_of_replay (fun _ _ => True)
    [.declare [5, 5], .select 0, .yield 1, .resolve 5 (.value 7)]
    (fun state : State ℕ ℕ Unit => state.status = .waiting .atYield ∧
      (state.discard .moveAssign).destroyed = [0] ∧ (state.discard .moveAssign).pending = 1 ∧
      (state.discard .destructor).pending = 0 ∧ (state.discard .cancel).pending = 0)
    (.start ⟨0, fun _ => .typed {},
      fun _ => ⟨Member.valid_typed, by simp [Member.waitingHandle]⟩, rfl⟩) (by decide)
  rcases reached with ⟨state, reached, discarded⟩
  refine ⟨state, reached, discarded, ?_⟩
  intro alike
  have not_queued := alike.not_queued .moveAssign
  rw [discarded.2.2.1] at not_queued
  simp at not_queued

end Uvco.Discard.State
