import Uvco.MultiPromise.Transport

/-!
# Bodies of generators

The components that hand out values through a `MultiPromise` have a generator of
their own: its body awaits something, yields, and starts over. Such a component
is modelled by the state of the `MultiPromise` together with what the body refers
to. Consumers, the scheduler and other coroutines take steps of the former; when
one of these steps resumes the generator, the body goes on.
-/

namespace Uvco.MultiPromise

variable {T E : Type}

/-- A step that the generator does not take itself. -/
def Action.IsForeign (generator : Handle) : Action T E → Prop
  | .coAwait _ | .resumeNext => True
  | .other action => action.subject ≠ generator
  | .yield _ | .finish _ => False

namespace State

/-- The generator is resumed by a step. -/
def Resumed (before after : State T E) : Prop :=
  before.runtime.status before.generator ≠ .running ∧
    after.runtime.status before.generator = .running

instance (before after : State T E) : Decidable (Resumed before after) :=
  inferInstanceAs (Decidable (_ ∧ _))

/-- What a foreign step can do: it resumes the generator, or leaves it where it is. -/
structure Foreign (before after : State T E) : Prop where
  generator_eq : after.generator = before.generator
  yielded_eq : after.yielded = before.yielded
  ended_eq : after.ended = before.ended
  stays : ¬Resumed before after →
    after.runtime.status before.generator = before.runtime.status before.generator
  was_suspended : Resumed before after →
    (before.runtime.status before.generator).isSuspended = true

theorem Foreign.of_unchanged {before after : State T E}
    (generator_eq : after.generator = before.generator)
    (yielded_eq : after.yielded = before.yielded) (ended_eq : after.ended = before.ended)
    (status_eq : after.runtime.status before.generator =
      before.runtime.status before.generator) : Foreign before after := by
  refine ⟨generator_eq, yielded_eq, ended_eq, fun _ => status_eq, ?_⟩
  rintro ⟨not_running, running⟩
  exact absurd (status_eq.symm.trans running) not_running

/-- The scheduler resumes whom it hands out, and nobody else. -/
theorem Invariant.resumeNext_eq {state : State T E} (invariant : state.Invariant) :
    state.resumeNext.generator = state.generator ∧ state.resumeNext.yielded = state.yielded ∧
      state.resumeNext.ended = state.ended ∧
      ∀ handle, state.resumeNext.runtime.status handle = state.runtime.status handle ∧
          state.resumeNext.runtime.pending handle = state.runtime.pending handle ∨
        state.resumeNext.runtime.status handle = .running ∧
          (state.runtime.status handle).isSuspended = true ∧
          0 < state.runtime.pending handle := by
  unfold State.resumeNext
  rcases popped : state.runtime.getNext with ⟨_ | next, runtime⟩
  · rcases invariant.consistent.resume_nothing popped with ⟨-, unchanged⟩
    exact ⟨rfl, rfl, rfl, fun handle => .inl (unchanged handle)⟩
  · rcases invariant.consistent.getNext_some popped with
      ⟨status_eq, suspended, next_pending, other_pending⟩
    have resumed : ∀ handle, (runtime.setStatus next .running).status handle =
          state.runtime.status handle ∧
          (runtime.setStatus next .running).pending handle = state.runtime.pending handle ∨
        (runtime.setStatus next .running).status handle = .running ∧
          (state.runtime.status handle).isSuspended = true ∧
          0 < state.runtime.pending handle := by
      intro handle
      by_cases same : handle = next
      · subst same
        exact .inr ⟨Runtime.setStatus_status_self _, suspended, by omega⟩
      · left
        rw [Runtime.setStatus_status_of_ne _ same, status_eq]
        exact ⟨rfl, other_pending handle same⟩
    simp only [State.resume, status_eq]
    cases next_status : state.runtime.status next with
    | running | done => simp [next_status, Status.isSuspended] at suspended
    | elsewhere => exact ⟨rfl, rfl, rfl, resumed⟩
    | waiting point =>
        cases point with
        | awaits => exact ⟨rfl, rfl, rfl, resumed⟩
        | atYield => exact ⟨rfl, rfl, rfl, resumed⟩

theorem Invariant.resumeNext_foreign {state : State T E} (invariant : state.Invariant) :
    Foreign state state.resumeNext := by
  rcases invariant.resumeNext_eq with ⟨generator_eq, yielded_eq, ended_eq, affected⟩
  rcases affected state.generator with ⟨status_eq, -⟩ | ⟨running, suspended, -⟩
  · exact .of_unchanged generator_eq yielded_eq ended_eq status_eq
  · refine ⟨generator_eq, yielded_eq, ended_eq, fun not_resumed => ?_, fun _ => suspended⟩
    refine absurd ⟨fun was_running => ?_, running⟩ not_resumed
    simp [was_running, Status.isSuspended] at suspended

theorem Invariant.foreign {state : State T E} (invariant : state.Invariant) {action : Action T E}
    (enabled : action.Enabled state) (foreign : action.IsForeign state.generator) :
    Foreign state (action.perform state) := by
  cases action with
  | resumeNext => exact invariant.resumeNext_foreign
  | yield value | finish ending => exact foreign.elim
  | coAwait handle =>
      change Foreign state (state.coAwait handle)
      rcases invariant.coAwait_cases enabled with ⟨-, after_eq⟩ |
        ⟨core, runtime, registered_invariant, -, -, status_eq, -, after_eq⟩
      · rw [after_eq]
        exact .of_unchanged rfl rfl rfl rfl
      · rw [after_eq]
        have foreign := registered_invariant.resumeNext_foreign
        have resumed_iff : Resumed state ({ state with core, runtime } : State T E).resumeNext ↔
            Resumed { state with core, runtime }
              ({ state with core, runtime } : State T E).resumeNext := by
          unfold Resumed
          dsimp only
          rw [status_eq]
        refine ⟨foreign.generator_eq, foreign.yielded_eq, foreign.ended_eq, ?_, ?_⟩
        · intro not_resumed
          exact (foreign.stays (resumed_iff.not.mp not_resumed)).trans status_eq
        · intro resumed
          rw [← status_eq]
          exact foreign.was_suspended (resumed_iff.mp resumed)
  | other action =>
      have unrelated := invariant.consistent.other enabled.1
      exact .of_unchanged rfl rfl rfl (unrelated.unchanged state.generator (Ne.symm foreign)).1

/-- A coroutine that is suspended in its own awaiter is resumed from the scheduler queue or stays
as it is. -/
theorem Invariant.undisturbed {state : State T E} (invariant : state.Invariant)
    {action : Action T E} (enabled : action.Enabled state) {handle : Handle}
    (foreign : action.IsForeign handle) (suspended : state.runtime.status handle = .elsewhere) :
    (action.perform state).runtime.status handle = .elsewhere ∧
        (action.perform state).runtime.pending handle = state.runtime.pending handle ∨
      (action.perform state).runtime.status handle = .running ∧
        0 < state.runtime.pending handle := by
  cases action with
  | yield value | finish ending => exact foreign.elim
  | resumeNext =>
      rcases invariant.resumeNext_eq.2.2.2 handle with
        ⟨status_eq, pending_eq⟩ | ⟨running, -, queued⟩
      · exact .inl ⟨status_eq.trans suspended, pending_eq⟩
      · exact .inr ⟨running, queued⟩
  | coAwait consumer =>
      change (state.coAwait consumer).runtime.status handle = _ ∧
        (state.coAwait consumer).runtime.pending handle = _ ∨ _
      rcases invariant.coAwait_cases enabled with ⟨-, after_eq⟩ |
        ⟨core, runtime, registered_invariant, -, -, -, others, after_eq⟩
      · rw [after_eq]
        exact .inl ⟨suspended, rfl⟩
      · rcases others handle suspended with ⟨registered_suspended, registered_pending⟩
        rcases registered_invariant.resumeNext_eq.2.2.2 handle with
          ⟨status_eq, pending_eq⟩ | ⟨running, -, queued⟩
        · rw [after_eq]
          exact .inl ⟨status_eq.trans registered_suspended, pending_eq.trans registered_pending⟩
        · right
          refine ⟨?_, registered_pending ▸ queued⟩
          change (state.coAwait consumer).runtime.status handle = _
          rw [after_eq]
          exact running
  | other action =>
      have unrelated := invariant.consistent.other enabled.1
      rcases unrelated.unchanged handle (Ne.symm foreign) with ⟨status_eq, pending_eq⟩
      exact .inl ⟨status_eq.trans suspended, pending_eq⟩

/-! ## The steps of the body -/

theorem Invariant.yield_spec {state : State T E} (invariant : state.Invariant) (value : T)
    (running : state.runtime.status state.generator = .running) :
    (state.yield value).Invariant ∧ (state.yield value).generator = state.generator ∧
      (state.yield value).yielded = state.yielded ++ [value] ∧ (state.yield value).ended = none ∧
      (state.yield value).runtime.status state.generator = .waiting .atYield := by
  rcases invariant.producing_of_running running with ⟨-, -, -, -, -, open_, -⟩
  rcases invariant.woken running (.waiting .atYield) (by simp) with ⟨-, status_eq, -⟩
  refine ⟨invariant.yield running, ?_⟩
  rw [invariant.yield_of_running value running]
  refine ⟨rfl, rfl, open_, ?_⟩
  rw [status_eq, Function.update_self]

theorem Invariant.finish_spec {state : State T E} (invariant : state.Invariant)
    (ending : Ending E) (running : state.runtime.status state.generator = .running) :
    (state.finish ending).Invariant ∧ (state.finish ending).generator = state.generator ∧
      (state.finish ending).yielded = state.yielded ∧
      (state.finish ending).ended = some ending ∧
      (state.finish ending).runtime.status state.generator = .done := by
  rcases invariant.woken running .done (by simp) with ⟨-, status_eq, -⟩
  refine ⟨invariant.finish running, ?_⟩
  rw [invariant.finish_of_running ending running]
  refine ⟨rfl, rfl, rfl, ?_⟩
  rw [status_eq, Function.update_self]

theorem Invariant.finish_awaits_iff {state : State T E} (invariant : state.Invariant)
    (ending : Ending E) (running : state.runtime.status state.generator = .running)
    (handle : Handle) : (state.finish ending).Awaits handle ↔ state.Awaits handle := by
  rcases invariant.woken running .done (by simp) with ⟨-, -, awaits_iff, -⟩
  rw [invariant.finish_of_running ending running]
  exact awaits_iff handle

theorem Invariant.done_of_ended {state : State T E} (invariant : state.Invariant)
    (ended : state.ended.isSome = true) : state.runtime.status state.generator = .done := by
  rcases invariant.phase with ⟨consumer, -, phase⟩
  cases phase with
  | producing _ _ _ open_ => simp [open_] at ended
  | parked _ _ _ _ open_ => simp [open_] at ended
  | ended _ _ _ _ _ _ _ done => exact done

/-- Another generator can be started after this one has ended. -/
theorem Invariant.restarted {state : State T E} (invariant : state.Invariant)
    (ended : state.ended.isSome = true) (nobody : ∀ handle, ¬state.Awaits handle)
    {generator : Handle} (running : state.runtime.status generator = .running) :
    (started state.runtime generator : State T E).Invariant := by
  refine started_invariant invariant.consistent ?_ running
  intro handle point waiting
  cases point with
  | awaits => exact nobody handle waiting
  | atYield =>
      have done := invariant.done_of_ended ended
      rw [invariant.generator_only handle waiting, done] at waiting
      simp at waiting

/-- Whoever awaits is registered or in the scheduler queue. -/
theorem Invariant.nobody_awaits {state : State T E} (invariant : state.Invariant)
    (unregistered : state.core.waitingHandle = none)
    (idle : state.runtime.loop.scheduler.resumable = []) (handle : Handle) :
    ¬state.Awaits handle := by
  have not_queued : state.runtime.pending handle = 0 := by
    rw [Runtime.pending, Scheduler.pending_eq_zero, idle]
    simp
  rcases invariant.phase with ⟨consumer, consumer_iff, phase⟩
  rw [consumer_iff]
  intro is_consumer
  cases phase with
  | producing _ _ _ _ registered =>
      rw [unregistered, is_consumer] at registered
      simp at registered
  | parked _ _ _ _ _ _ _ woken =>
      have queued := (woken handle is_consumer).1
      omega
  | ended _ _ _ _ _ _ woken =>
      have queued := woken handle is_consumer
      omega

/-- A generator that has not ended is on the stack, suspended in its body, or at `co_yield`. -/
theorem Invariant.open_of_not_done {state : State T E} (invariant : state.Invariant)
    (not_done : state.runtime.status state.generator ≠ .done) : state.ended = none := by
  rcases invariant.phase with ⟨consumer, -, phase⟩
  cases phase with
  | producing _ _ _ open_ => exact open_
  | parked _ _ _ _ open_ => exact open_
  | ended _ _ _ _ _ _ _ done => exact absurd done not_done

theorem Invariant.ready_iff_slot {state : State T E} (invariant : state.Invariant)
    (open_ : state.ended = none) :
    MultiPromiseAwaiter.awaitReady (some state.core) = state.core.slot.isSome := by
  rcases invariant.phase with ⟨consumer, -, phase⟩
  cases phase with
  | producing _ terminated | parked _ _ terminated =>
      simp [MultiPromiseAwaiter.awaitReady, MultiPromiseCore.isTerminated, terminated]
  | ended _ _ _ ended_eq => simp [open_] at ended_eq

/-- The generator waits until the value in the slot is consumed. -/
theorem Invariant.parked_of_slot {state : State T E} (invariant : state.Invariant)
    (open_ : state.ended = none) (filled : state.core.slot.isSome = true) :
    state.runtime.status state.generator = .waiting .atYield ∧
      state.runtime.pending state.generator = 0 := by
  rcases invariant.phase with ⟨consumer, -, phase⟩
  cases phase with
  | producing empty => simp [empty] at filled
  | parked _ _ _ _ _ _ _ _ generator unqueued => exact ⟨generator, unqueued⟩
  | ended _ _ _ ended_eq => simp [open_] at ended_eq

/-- Whoever awaits goes on at once, or is suspended and not enqueued. -/
theorem Invariant.coAwait_status {state : State T E} (invariant : state.Invariant) {handle : Handle}
    (enabled : (Action.coAwait handle).Enabled state) :
    MultiPromiseAwaiter.awaitReady (some state.core) = true ∧
        state.coAwait handle = state.finishAwait ∨
      (state.coAwait handle).Awaits handle ∧ (state.coAwait handle).runtime.pending handle = 0 := by
  rcases invariant.coAwait_cases enabled with ready |
    ⟨_, _, registered_invariant, not_queued, waiting, -, -, after_eq⟩
  · exact .inl ready
  · right
    rw [after_eq]
    rcases registered_invariant.resumeNext_eq.2.2.2 handle with
      ⟨status_eq, pending_eq⟩ | ⟨-, -, queued⟩
    · exact ⟨status_eq.trans waiting, pending_eq.trans not_queued⟩
    · dsimp only at queued
      omega

/-- Whoever is suspended stays so, or was enqueued and is resumed. -/
theorem Invariant.waiting_cases {state : State T E} (invariant : state.Invariant)
    {action : Action T E} (enabled : action.Enabled state)
    (is_foreign : action.IsForeign state.generator)
    (not_await : ∀ handle, action ≠ .coAwait handle) {handle : Handle} {point : Point}
    (waiting : state.runtime.status handle = .waiting point) :
    (action.perform state).runtime.status handle = .waiting point ∧
        (action.perform state).runtime.pending handle = state.runtime.pending handle ∨
      (action.perform state).runtime.status handle = .running ∧
        0 < state.runtime.pending handle := by
  cases action with
  | coAwait other => exact absurd rfl (not_await other)
  | yield value | finish ending => exact is_foreign.elim
  | resumeNext =>
      rcases invariant.resumeNext_eq.2.2.2 handle with
        ⟨status_eq, pending_eq⟩ | ⟨running, -, queued⟩
      · exact .inl ⟨status_eq.trans waiting, pending_eq⟩
      · exact .inr ⟨running, queued⟩
  | other action =>
      have unrelated := invariant.consistent.other enabled.1
      exact .inl ⟨(unrelated.waiting_iff handle _).mpr waiting, unrelated.pending_eq waiting⟩

/-- What a foreign step means for the generator: it stays where it is, or it is resumed where it was
suspended. -/
theorem Invariant.follow_cases {state : State T E} (invariant : state.Invariant)
    {action : Action T E} (enabled : action.Enabled state)
    (is_foreign : action.IsForeign state.generator) :
    let after := action.perform state
    after.Invariant ∧ after.generator = state.generator ∧ after.yielded = state.yielded ∧
      after.ended = state.ended ∧
      (¬Resumed state after ∧
          after.runtime.status state.generator = state.runtime.status state.generator ∧
          (state.runtime.status state.generator = .elsewhere →
            after.runtime.pending state.generator = state.runtime.pending state.generator) ∨
        Resumed state after ∧ state.ended = none ∧
          (state.runtime.status state.generator = .elsewhere ∧
              0 < state.runtime.pending state.generator ∨
            state.runtime.status state.generator = .waiting .atYield)) := by
  have foreign := invariant.foreign enabled is_foreign
  refine ⟨invariant.step enabled, foreign.generator_eq, foreign.yielded_eq, foreign.ended_eq, ?_⟩
  by_cases resumed : Resumed state (action.perform state)
  · have suspended := foreign.was_suspended resumed
    have open_ : state.ended = none := by
      refine invariant.open_of_not_done fun done => ?_
      simp [done, Status.isSuspended] at suspended
    refine .inr ⟨resumed, open_, ?_⟩
    cases status_eq : state.runtime.status state.generator with
    | running | done => simp [status_eq, Status.isSuspended] at suspended
    | elsewhere =>
        rcases invariant.undisturbed enabled is_foreign status_eq with ⟨still, -⟩ | ⟨-, queued⟩
        · simp [resumed.2] at still
        · exact .inl ⟨rfl, queued⟩
    | waiting point =>
        cases point with
        | awaits => exact absurd status_eq invariant.generator_not_awaiting
        | atYield => exact .inr rfl
  · refine .inl ⟨resumed, foreign.stays resumed, fun elsewhere => ?_⟩
    rcases invariant.undisturbed enabled is_foreign elsewhere with ⟨-, pending_eq⟩ | ⟨running, -⟩
    · exact pending_eq
    · exact absurd ⟨by simp [elsewhere], running⟩ resumed

/-- A consumer that waits is enqueued, or the generator is on its way to the next value. -/
theorem Invariant.of_awaits {state : State T E} (invariant : state.Invariant) {handle : Handle}
    (awaits : state.Awaits handle) :
    state.runtime.pending handle = 1 ∨
      state.ended = none ∧ (state.runtime.status state.generator = .running ∨
        state.runtime.status state.generator = .elsewhere ∨
        state.runtime.status state.generator = .waiting .atYield ∧
          state.runtime.pending state.generator = 1) := by
  rcases invariant.phase with ⟨consumer, consumer_iff, phase⟩
  have is_consumer := (consumer_iff handle).mp awaits
  cases phase with
  | producing _ _ _ open_ _ _ _ generator => exact .inr ⟨open_, generator⟩
  | parked _ _ _ _ _ _ _ woken => exact .inl (woken handle is_consumer).1
  | ended _ _ _ _ _ _ woken => exact .inl (woken handle is_consumer)

end State

end Uvco.MultiPromise
