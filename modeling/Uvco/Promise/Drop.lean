import Uvco.Library.Transition
import Uvco.MultiPromise.Transport
import Uvco.Promise.Member

/-!
# Coroutines destroyed while they await

A coroutine that awaits a promise owned by somebody else can be destroyed before
the promise resolves, for example the coroutine that `MultiPromise::next()`
creates. `Loop::cancel()` then takes it out of the scheduler queue, but the
awaiters of `Promise` and `MultiPromise` have trivial destructors, so its handle
stays in the core of the promise. `SelectSet` and the awaiter of `Channel` remove
theirs.

The first part follows a promise of either kind in every interleaving up to the
destruction; generators are taken from the runs of the previous file.
-/

namespace Uvco.Drop

variable {T E : Type}

/-- A promise with its producer and the coroutines around it. -/
structure State (T E : Type) where
  producer : Handle
  core : Member T E
  runtime : Runtime Unit := {}

namespace State

variable (state : State T E) (handle : Handle)

/-- The coroutine is suspended in `co_await promise`. -/
def Awaits : Prop :=
  state.runtime.status handle = .waiting ()

/-- A coroutine goes on where it was suspended. -/
def resume : State T E :=
  let running := { state with runtime := state.runtime.setStatus handle .running }
  match state.runtime.status handle with
  | .waiting () => { running with core := state.core.awaitResume }
  | .elsewhere => running
  | .running | .done => state

/-- The scheduler resumes the next coroutine, if there is one. -/
def resumeNext : State T E :=
  let (next, runtime) := state.runtime.getNext
  match next with
  | some handle => ({ state with runtime } : State T E).resume handle
  | none => { state with runtime }

/-- `co_await promise` in a running coroutine. -/
def coAwait : State T E :=
  if state.core.awaitReady then { state with core := state.core.awaitResume }
  else
    match state.core.awaitSuspend handle with
    | .ok core =>
        ({ state with
            core
            runtime := state.runtime.setStatus handle (.waiting ()) } : State T E).resumeNext
    | .error _ => state

/-- The producer ends. -/
def resolve (outcome : Outcome T E) : State T E :=
  let (core, loop) := state.core.resolve state.runtime.loop outcome
  { state with
    core
    runtime := ({ state.runtime with loop } : Runtime Unit).setStatus state.producer .done }

/-- The frame of a coroutine that awaits the promise is destroyed: it is cancelled, and its awaiter
is destroyed with it. -/
def destroy : State T E :=
  { state with
    core := state.core.destroyAwaiter
    runtime := (state.runtime.cancel handle).setStatus handle .done }

end State

/-- What the coroutine, those that await it and the scheduler can do next. -/
inductive Action (T E : Type) where
  | coAwait (handle : Handle)
  | resolve (outcome : Outcome T E)
  /-- A turn of `Scheduler::runAll`. -/
  | resumeNext
  /-- A coroutine does something that does not involve the promise. -/
  | other (action : Runtime.Action)

namespace Action

/-- The coroutine itself does not await its promise, and ends only by resolving it. -/
def Enabled (state : State T E) : Action T E → Prop
  | .coAwait handle => handle ≠ state.producer ∧ state.runtime.status handle = .running
  | .resolve _ => state.runtime.status state.producer = .running
  | .resumeNext => True
  | .other action => action.Enabled state.runtime ∧ action ≠ .finish state.producer

/-- The state after an action. -/
def perform (state : State T E) : Action T E → State T E
  | .coAwait handle => state.coAwait handle
  | .resolve outcome => state.resolve outcome
  | .resumeNext => state.resumeNext
  | .other action => { state with runtime := action.perform state.runtime }

end Action

/-- All programs around one promise of either kind, up to the destruction of a coroutine. -/
def system (T E : Type) : TransitionSystem (State T E) (Action T E) where
  Initial state := ∃ producer,
    state = { producer, core := .typed (({} : PromiseCore T E).setRunning producer) } ∨
      state = { producer, core := .void (({} : VoidCore E).setRunning producer) }
  Enabled state action := action.Enabled state
  perform state action := action.perform state

namespace State

/-- How core, scheduler queue and suspended coroutines fit together. -/
structure Invariant (state : State T E) : Prop where
  consistent : state.runtime.Consistent
  valid : state.core.Valid
  producer_not_waiting : ¬state.Awaits state.producer
  registered : ∀ handle, state.core.waitingHandle = some handle → state.Awaits handle
  unresolved : state.core.state ≠ .finished → ∀ handle, state.Awaits handle →
    state.core.waitingHandle = some handle ∧ state.runtime.pending handle = 0
  resolved : state.core.state = .finished → state.runtime.status state.producer = .done ∧
    ∀ handle, state.Awaits handle → state.runtime.pending handle = 1

theorem Invariant.setRuntime {state : State T E} (invariant : state.Invariant)
    {runtime : Runtime Unit} (consistent : runtime.Consistent)
    (status_iff : ∀ handle, runtime.status handle = .waiting () ↔ state.Awaits handle)
    (pending_eq : ∀ handle, state.Awaits handle →
      runtime.pending handle = state.runtime.pending handle)
    (producer_done : state.runtime.status state.producer = .done →
      runtime.status state.producer = .done) :
    ({ state with runtime } : State T E).Invariant where
  consistent := consistent
  valid := invariant.valid
  producer_not_waiting := fun waits => invariant.producer_not_waiting ((status_iff _).mp waits)
  registered := fun handle waiting => (status_iff handle).mpr (invariant.registered handle waiting)
  unresolved := by
    intro unfinished handle waits
    have awaits := (status_iff handle).mp waits
    rcases invariant.unresolved unfinished handle awaits with ⟨waiting, not_queued⟩
    exact ⟨waiting, (pending_eq handle awaits).trans not_queued⟩
  resolved := by
    intro finished
    rcases invariant.resolved finished with ⟨done, woken⟩
    refine ⟨producer_done done, fun handle waits => ?_⟩
    have awaits := (status_iff handle).mp waits
    exact (pending_eq handle awaits).trans (woken handle awaits)

theorem Invariant.unrelated {state : State T E} (invariant : state.Invariant)
    {runtime : Runtime Unit} {subject : Handle}
    (unrelated : Runtime.Unrelated state.runtime runtime subject)
    (not_done : state.runtime.status subject ≠ .done) :
    ({ state with runtime } : State T E).Invariant := by
  refine invariant.setRuntime unrelated.consistent (fun handle => unrelated.waiting_iff handle ())
    (fun handle awaits => unrelated.pending_eq awaits) ?_
  exact fun producer_done => unrelated.done not_done producer_done

/-- A coroutine consumes the result. -/
theorem Invariant.setCore {state : State T E} (invariant : state.Invariant) {core : Member T E}
    (valid : core.Valid) (waiting_eq : core.waitingHandle = state.core.waitingHandle)
    (state_eq : core.state = state.core.state) :
    ({ state with core } : State T E).Invariant := by
  refine ⟨invariant.consistent, valid, invariant.producer_not_waiting, fun handle waiting => ?_,
    fun unfinished handle awaits => ?_, fun finished => ?_⟩
  · exact invariant.registered handle (waiting_eq.symm.trans waiting)
  · change core.waitingHandle = some handle ∧ _
    rw [waiting_eq]
    exact invariant.unresolved (state_eq ▸ unfinished) handle awaits
  · exact invariant.resolved (state_eq.symm.trans finished)

/-- A coroutine that takes the result of a finished promise, itself not awaiting any more. -/
theorem Invariant.awaitResume {state : State T E} (invariant : state.Invariant)
    (finished : state.core.state = .finished) :
    ({ state with core := state.core.awaitResume } : State T E).Invariant := by
  rcases invariant.valid.awaitResume finished with ⟨valid, waiting_eq, still_finished⟩
  exact invariant.setCore valid waiting_eq (still_finished.trans finished.symm)

/-- The same for `unwrap()`. -/
theorem Invariant.unwrap {state : State T E} (invariant : state.Invariant) :
    ({ state with core := state.core.unwrap.2 } : State T E).Invariant := by
  rcases invariant.valid.unwrap with ⟨valid, waiting_eq, state_eq⟩
  exact invariant.setCore valid waiting_eq state_eq

/-- A coroutine that awaits the promise is handed out after the promise was resolved. -/
theorem Invariant.handOut {state : State T E} (invariant : state.Invariant) {handle : Handle}
    {runtime : Runtime Unit} (popped : state.runtime.getNext = (some handle, runtime))
    (awaits : state.Awaits handle) :
    state.core.state = .finished ∧
      ({ state with runtime := runtime.setStatus handle .running } : State T E).Invariant := by
  rcases invariant.consistent.getNext_some popped with
    ⟨status_eq, -, next_pending, other_pending⟩
  have finished : state.core.state = .finished := by
    by_contra unfinished
    have not_queued := (invariant.unresolved unfinished handle awaits).2
    omega
  rcases invariant.resolved finished with ⟨producer_done, woken⟩
  have once := woken handle awaits
  have consistent := invariant.consistent.getNext
  rw [popped] at consistent
  have still : ∀ other, (runtime.setStatus handle .running).status other = .waiting () →
      other ≠ handle ∧ state.Awaits other := by
    intro other awaits
    have differs : other ≠ handle := by
      rintro rfl
      simp at awaits
    rw [Runtime.setStatus_status_of_ne _ differs, status_eq] at awaits
    exact ⟨differs, awaits⟩
  have nobody := invariant.valid.nobody (by simp [finished])
  refine ⟨finished, consistent.setStatus _ (by dsimp only; omega), invariant.valid,
    fun awaits => invariant.producer_not_waiting (still _ awaits).2, ?_, ?_, ?_⟩
  · intro other waiting
    simp [nobody] at waiting
  · exact fun unfinished => absurd finished unfinished
  · have producer_ne : state.producer ≠ handle := by
      intro same
      rw [same, awaits] at producer_done
      simp at producer_done
    refine fun _ => ⟨?_, fun other awaits => ?_⟩
    · rw [Runtime.setStatus_status_of_ne _ producer_ne, status_eq]
      exact producer_done
    · rcases still other awaits with ⟨differs, awaits_before⟩
      exact (other_pending other differs).trans (woken other awaits_before)

theorem Invariant.resumeNext {state : State T E} (invariant : state.Invariant) :
    state.resumeNext.Invariant := by
  unfold State.resumeNext
  rcases popped : state.runtime.getNext with ⟨_ | handle, runtime⟩
  · rcases invariant.consistent.resume_nothing popped with ⟨consistent, unchanged⟩
    refine invariant.setRuntime consistent (fun handle => ?_)
      (fun handle _ => (unchanged handle).2) (fun done => (unchanged _).1.trans done)
    rw [(unchanged handle).1]
    rfl
  · rcases invariant.consistent.getNext_some popped with ⟨status_eq, suspended, -, -⟩
    simp only [State.resume, status_eq]
    cases handle_status : state.runtime.status handle with
    | running | done => simp [handle_status, Status.isSuspended] at suspended
    | elsewhere =>
        exact invariant.unrelated (invariant.consistent.resume_elsewhere popped handle_status)
          (by simp [handle_status])
    | waiting point =>
        rcases invariant.handOut popped handle_status with ⟨finished, resumed⟩
        exact resumed.awaitResume finished

/-- A running coroutine suspends in `co_await promise`. -/
theorem Invariant.suspend {state : State T E} (invariant : state.Invariant) {handle : Handle}
    {registered : Member T E} (enabled : (Action.coAwait handle).Enabled state)
    (set_eq : state.core.awaitSuspend handle = .ok registered) :
    ({ state with
        core := registered
        runtime := state.runtime.setStatus handle (.waiting ()) } : State T E).Invariant := by
  rcases enabled with ⟨not_producer, running⟩
  rw [Member.awaitSuspend_eq_setHandle] at set_eq
  rcases invariant.valid.of_setHandle set_eq with ⟨is_init, valid, waiting_eq, waited⟩
  have not_queued := invariant.consistent.pending_of_running running
  have nobody : ∀ other, ¬state.Awaits other := by
    intro other awaits
    have waiting := (invariant.unresolved (by simp [is_init]) other awaits).1
    simp [invariant.valid.nobody (by simp [is_init])] at waiting
  have awaits_iff : ∀ other, (state.runtime.setStatus handle (.waiting ())).status other =
      .waiting () ↔ other = handle := by
    intro other
    by_cases same : other = handle
    · simp [same]
    · rw [Runtime.setStatus_status_of_ne _ same]
      exact ⟨fun awaits => absurd awaits (nobody other), fun is_same => absurd is_same same⟩
  refine ⟨invariant.consistent.setStatus _ not_queued, valid, ?_, ?_, ?_, ?_⟩
  · exact fun awaits => not_producer ((awaits_iff _).mp awaits).symm
  · intro other waiting
    exact (awaits_iff other).mpr (Option.some.inj (waiting.symm.trans waiting_eq))
  · intro _ other awaits
    obtain rfl := (awaits_iff other).mp awaits
    exact ⟨waiting_eq, not_queued⟩
  · exact fun finished => absurd (waited.symm.trans finished) (by simp)

theorem Invariant.coAwait {state : State T E} (invariant : state.Invariant) {handle : Handle}
    (enabled : (Action.coAwait handle).Enabled state) : (state.coAwait handle).Invariant := by
  unfold State.coAwait
  by_cases ready : state.core.awaitReady = true
  · have finished : state.core.state = .finished := by
      by_contra unfinished
      have not_ready := invariant.valid.unresolved unfinished
      rw [invariant.valid.ready_eq, ready] at not_ready
      simp at not_ready
    rw [if_pos ready]
    exact invariant.awaitResume finished
  · rw [if_neg ready]
    cases set_eq : state.core.awaitSuspend handle with
    | ok registered => exact (invariant.suspend enabled set_eq).resumeNext
    | error exception => exact invariant

theorem resolve_eq {state : State T E} (valid : state.core.Valid) (outcome : Outcome T E)
    (unfinished : state.core.state ≠ .finished) :
    (state.resolve outcome).runtime = (match state.core.waitingHandle with
      | some waiter => state.runtime.enqueue waiter
      | none => state.runtime).setStatus state.producer .done := by
  unfold State.resolve
  have loop_eq := (valid.resolve state.runtime.loop outcome unfinished).1
  dsimp only
  rw [loop_eq]
  cases state.core.waitingHandle <;> rfl

theorem Invariant.resolve {state : State T E} (invariant : state.Invariant)
    {outcome : Outcome T E} (enabled : (Action.resolve outcome).Enabled state) :
    (state.resolve outcome).Invariant := by
  have running : state.runtime.status state.producer = .running := enabled
  have producer_not_queued := invariant.consistent.pending_of_running running
  have unfinished : state.core.state ≠ .finished := by
    intro finished
    have done := (invariant.resolved finished).1
    simp [running] at done
  have runtime_eq := resolve_eq invariant.valid outcome unfinished
  rcases invariant.valid.resolve state.runtime.loop outcome unfinished with
    ⟨-, valid, nobody, finished, -⟩
  have still : ∀ handle, (state.resolve outcome).Awaits handle →
      handle ≠ state.producer ∧ state.Awaits handle := by
    intro handle awaits
    have differs : handle ≠ state.producer := by
      rintro rfl
      rw [Awaits, runtime_eq] at awaits
      simp at awaits
    rw [Awaits, runtime_eq, Runtime.setStatus_status_of_ne _ differs] at awaits
    refine ⟨differs, ?_⟩
    cases waiting_eq : state.core.waitingHandle <;> simpa [Awaits, waiting_eq] using awaits
  refine ⟨?_, valid, fun awaits => (still _ awaits).1 rfl, ?_, ?_, ?_⟩
  · rw [runtime_eq]
    cases waiting_eq : state.core.waitingHandle with
    | none => exact invariant.consistent.setStatus _ producer_not_queued
    | some waiter =>
        have waiter_awaits := invariant.registered waiter waiting_eq
        have waiter_ne : state.producer ≠ waiter := by
          intro same
          exact invariant.producer_not_waiting (same ▸ waiter_awaits)
        refine (invariant.consistent.enqueue_waiting waiter_awaits).setStatus _ ?_
        exact (Runtime.pending_enqueue_of_ne waiter_ne).trans producer_not_queued
  · exact fun handle waiting => absurd (nobody.symm.trans waiting) (by simp)
  · exact fun unfinished_after => absurd finished unfinished_after
  · refine fun _ => ⟨?_, fun handle awaits => ?_⟩
    · rw [runtime_eq]
      exact Runtime.setStatus_status_self _
    · rcases invariant.unresolved unfinished handle (still handle awaits).2 with
        ⟨waiting, not_queued⟩
      rw [runtime_eq, waiting, Runtime.pending_setStatus]
      exact Runtime.pending_enqueue_self.trans (by rw [not_queued])

theorem Invariant.step {state : State T E} (invariant : state.Invariant) {action : Action T E}
    (enabled : action.Enabled state) : (action.perform state).Invariant := by
  cases action with
  | coAwait handle => exact invariant.coAwait enabled
  | resolve outcome => exact invariant.resolve enabled
  | resumeNext => exact invariant.resumeNext
  | other action =>
      refine invariant.unrelated (invariant.consistent.other enabled.1) ?_
      rcases enabled with ⟨enabled, -⟩
      cases action <;> simp_all [Runtime.Action.Enabled, Runtime.Action.subject]

theorem invariant_of_reachable {state : State T E} (reached : (system T E).Reachable state) :
    state.Invariant := by
  refine TransitionSystem.Reachable.invariant State.Invariant ?_ ?_ reached
  · rintro _ ⟨producer, rfl | rfl⟩
    · refine ⟨.empty _, ⟨rfl, fun _ => rfl, ?_⟩,
        by simp [Awaits], ?_, by simp [Awaits],
        by simp [Awaits, Member.state, PromiseCore.setRunning]⟩
      · simp [Member.waitingHandle, Member.state, PromiseCore.setRunning]
      · simp [Member.waitingHandle, PromiseCore.setRunning]
    · refine ⟨.empty _, ⟨rfl, fun _ => rfl, ?_⟩,
        by simp [Awaits], ?_, by simp [Awaits], by simp [Awaits, Member.state, VoidCore.setRunning]⟩
      · simp [Member.waitingHandle, Member.state, VoidCore.setRunning]
      · simp [Member.waitingHandle, VoidCore.setRunning]
  · exact fun _ _ invariant enabled => invariant.step enabled

end State

/-! ## The handle stays behind -/

namespace State

/-- A destroyed coroutine is still registered in the promise it awaited: the end of the producer
enqueues it, and nobody else can await the promise. -/
def StaysRegistered (state : State T E) (handle : Handle) : Prop :=
  (state.destroy handle).core.waitingHandle = some handle ∧
    (∀ outcome, 0 < ((state.destroy handle).resolve outcome).runtime.pending handle) ∧
    ∀ other, (state.destroy handle).core.awaitSuspend other = .error alreadyAwaited

theorem Invariant.staysRegistered {state : State T E} (invariant : state.Invariant)
    {handle : Handle} (awaits : state.Awaits handle) (unfinished : state.core.state ≠ .finished) :
    state.StaysRegistered handle := by
  rcases invariant.unresolved unfinished handle awaits with ⟨waiting, -⟩
  have waited : state.core.state = .waitedOn := by
    rw [← invariant.valid.waiting_iff, waiting]
    rfl
  have waiting_after : (state.destroy handle).core.waitingHandle = some handle := waiting
  refine ⟨waiting_after, fun outcome => ?_, fun other => ?_⟩
  · have valid : (state.destroy handle).core.Valid := invariant.valid
    rw [resolve_eq valid outcome unfinished, waiting_after, Runtime.pending_setStatus,
      Runtime.pending_enqueue_self]
    exact Nat.succ_pos _
  · rw [Member.awaitSuspend_eq_setHandle]
    have not_init : (state.destroy handle).core.state ≠ .init := by
      change state.core.state ≠ .init
      simp [waited]
    exact Member.setHandle_of_not_init other not_init

end State

end Uvco.Drop

namespace Uvco.MultiPromise.State

variable {T E : Type}

/-- The frame of a consumer is destroyed: it is cancelled, and its awaiter is destroyed with it. -/
def destroy (state : State T E) (handle : Handle) : State T E :=
  { state with
    core := MultiPromiseAwaiter.destroyAwaiter state.core
    runtime := (state.runtime.cancel handle).setStatus handle .done }

/-- A destroyed consumer is still registered in the core of the generator: the next yield, return
or throw enqueues it, and another `co_await` fails an assertion. -/
def StaysRegistered (state : State T E) (handle : Handle) : Prop :=
  (state.destroy handle).core.waitingHandle = some handle ∧
    (∀ value, 0 < ((state.destroy handle).yield value).runtime.pending handle) ∧
    (∀ ending, 0 < ((state.destroy handle).finish ending).runtime.pending handle) ∧
    ∀ other, MultiPromiseAwaiter.awaitSuspendAsserts (state.destroy handle).core other = false

theorem Invariant.staysRegistered {state : State T E} (invariant : state.Invariant)
    {handle : Handle} (awaits : state.Awaits handle)
    (not_woken : state.runtime.pending handle = 0) : state.StaysRegistered handle := by
  rcases invariant.phase with ⟨consumer, consumer_iff, phase⟩
  obtain rfl := (consumer_iff handle).mp awaits
  cases phase with
  | producing empty terminated suspended open_ registered state_iff not_queued generator =>
      have waiting_after : (state.destroy handle).core.waitingHandle = some handle := registered
      have empty_after : (state.destroy handle).core.slot = none := empty
      have waited_after : (state.destroy handle).core.waitingHandle.isSome = true →
          (state.destroy handle).core.state = .waitedOn := fun _ => state_iff.mpr rfl
      have woken_after : ∀ status, 0 < ((state.destroy handle).woken status).pending handle := by
        intro status
        rw [State.woken, waiting_after, Runtime.pending_setStatus, Runtime.pending_enqueue_self]
        exact Nat.succ_pos _
      refine ⟨waiting_after, fun value => ?_, fun ending => ?_, fun other => ?_⟩
      · rw [yield_eq value empty_after suspended waited_after]
        exact woken_after _
      · rw [finish_eq ending empty_after waited_after]
        exact woken_after _
      · simp [MultiPromiseAwaiter.awaitSuspendAsserts, PromiseCore.isAwaited, waiting_after]
  | parked value _ _ _ _ _ _ woken =>
      rw [(woken handle rfl).1] at not_woken
      simp at not_woken
  | ended _ _ _ _ _ _ woken =>
      rw [woken handle rfl] at not_woken
      simp at not_woken

end Uvco.MultiPromise.State

namespace Uvco.Drop

variable {T E : Type}

/-- No coroutine that is destroyed while it awaits an unresolved promise or generator deregisters
itself. -/
theorem staysRegistered_of_reachable :
    (∀ (state : State T E) (handle : Handle), (system T E).Reachable state →
        state.Awaits handle → state.core.state ≠ .finished → state.StaysRegistered handle) ∧
      ∀ (state : MultiPromise.State T E) (handle : Handle),
        (MultiPromise.system T E).Reachable state → state.Awaits handle →
        state.runtime.pending handle = 0 → state.StaysRegistered handle := by
  constructor
  · intro state handle reached awaits unfinished
    exact (State.invariant_of_reachable reached).staysRegistered awaits unfinished
  · intro state handle reached awaits not_woken
    exact (MultiPromise.State.invariant_of_reachable reached).staysRegistered awaits not_woken

/-- Coroutine 1 awaits the promise of coroutine 0. -/
def awaited : State ℕ String :=
  Action.perform { producer := 0, core := .typed (({} : PromiseCore ℕ String).setRunning 0) }
    (.coAwait 1)

theorem awaited_reachable : (system ℕ String).Reachable awaited := by
  have start : (system ℕ String).Reachable
      { producer := 0, core := .typed (({} : PromiseCore ℕ String).setRunning 0) } :=
    .start ⟨0, .inl rfl⟩
  exact start.step (Action.coAwait 1) ⟨by decide, rfl⟩ trivial

theorem staysRegistered_awaited : awaited.StaysRegistered 1 :=
  staysRegistered_of_reachable.1 awaited 1 awaited_reachable rfl (by decide)

theorem destroyed_coroutine_is_enqueued :
    ¬∀ (state : State ℕ String) (handle : Handle), (system ℕ String).Reachable state →
      state.Awaits handle → state.core.state ≠ .finished →
      (state.destroy handle).core.waitingHandle ≠ some handle ∧
        ∀ outcome, ((state.destroy handle).resolve outcome).runtime.pending handle = 0 := by
  intro deregisters
  have gone := deregisters awaited 1 awaited_reachable rfl (by decide)
  exact gone.1 (by decide)

end Uvco.Drop
