import Uvco.Library.Transition
import Uvco.Promise.Core
import Uvco.Runtime

/-!
# The single-await protocol of `Promise<T>`

A producing coroutine, its promise, and any number of other coroutines that
`co_await` the promise at any time, in every interleaving with the scheduler.
The coroutine that suspends hands control to the next one in the scheduler queue
(`Loop::getNext()`), which is why `coAwait` ends with `resumeNext`.

What a `co_await` evaluates to is recorded, separately for those that ended
before the producer did and for those that ended after it.
-/

namespace Uvco.SingleAwait

variable {T E : Type}

/-- A promise with its producer, the coroutines around it, and what they obtained. -/
structure State (T E : Type) where
  producer : Handle
  core : PromiseCore T E
  /-- The only suspension point described here is `co_await promise`. -/
  runtime : Runtime Unit := {}
  /-- How the producer ended. -/
  outcome : Option (Outcome T E) := none
  /-- The results of `co_await`s that ended before the producer did. -/
  early : List (Handle × Obtained T E) := []
  /-- The results of `co_await`s that ended after the producer did. -/
  late : List (Handle × Obtained T E) := []

namespace State

variable (state : State T E) (handle : Handle)

/-- The producer has just been started. -/
def initial (producer : Handle) : State T E where
  producer := producer
  core := ({} : PromiseCore T E).setRunning producer

/-- The coroutine is suspended in `co_await promise`. -/
def Awaits : Prop :=
  state.runtime.status handle = .waiting ()

/-- Notes what a waiter has obtained, before or after the end of the coroutine. -/
def record (obtained : Obtained T E) : State T E :=
  match state.outcome with
  | none => { state with early := state.early ++ [(handle, obtained)] }
  | some _ => { state with late := state.late ++ [(handle, obtained)] }

/-- `await_resume` in a running coroutine. -/
def finishAwait : State T E :=
  let (obtained, core) := PromiseAwaiter.awaitResume state.core
  ({ state with core } : State T E).record handle obtained

/-- A coroutine goes on where it was suspended. -/
def resume : State T E :=
  let running := { state with runtime := state.runtime.setStatus handle .running }
  match state.runtime.status handle with
  | .waiting () => running.finishAwait handle
  | .elsewhere => running
  | .running | .done => state

/-- The scheduler resumes the next coroutine, if there is one. -/
def resumeNext : State T E :=
  let (next, runtime) := state.runtime.getNext
  match next with
  | some handle => ({ state with runtime } : State T E).resume handle
  | none => { state with runtime }

/-- `co_await promise` in a running coroutine. An exception of `await_suspend` is thrown by the
`co_await` expression. -/
def coAwait : State T E :=
  if PromiseAwaiter.awaitReady state.core then
    state.finishAwait handle
  else
    match PromiseAwaiter.awaitSuspend state.core handle with
    | .ok core =>
        ({ state with
            core
            runtime := state.runtime.setStatus handle (.waiting ()) } : State T E).resumeNext
    | .error exception => state.record handle (.thrown exception)

/-- The producer ends. -/
def complete (outcome : Outcome T E) : State T E :=
  let (core, loop) := Coroutine.complete state.core state.runtime.loop outcome
  { state with
    core
    runtime := ({ state.runtime with loop } : Runtime Unit).setStatus state.producer .done
    outcome := some outcome }

end State

/-- What the coroutine, those that await it and the scheduler can do next. -/
inductive Action (T E : Type) where
  | coAwait (handle : Handle)
  | complete (outcome : Outcome T E)
  /-- A turn of `Scheduler::runAll`. -/
  | resumeNext
  /-- A coroutine does something that does not involve the promise. -/
  | other (action : Runtime.Action)

namespace Action

/-- The producer does not await its own promise, and ends by `complete` only. -/
def Enabled (state : State T E) : Action T E → Prop
  | .coAwait handle => handle ≠ state.producer ∧ state.runtime.status handle = .running
  | .complete _ => state.outcome = none ∧ state.runtime.status state.producer = .running
  | .resumeNext => True
  | .other action => action.Enabled state.runtime ∧ action ≠ .finish state.producer

/-- The state after an action. -/
def perform (state : State T E) : Action T E → State T E
  | .coAwait handle => state.coAwait handle
  | .complete outcome => state.complete outcome
  | .resumeNext => state.resumeNext
  | .other action => { state with runtime := action.perform state.runtime }

end Action

/-- All programs around one promise. -/
def system (T E : Type) : TransitionSystem (State T E) (Action T E) where
  Initial state := ∃ producer, state = .initial producer
  Enabled state action := action.Enabled state
  perform state action := action.perform state

namespace State

/-! ## The invariant -/

/-- The `co_await` threw an exception of the promise machinery. -/
def Refused (entry : Handle × Obtained T E) : Prop :=
  ∃ exception, entry.2 = .thrown exception

/-- The outcome is in the slot, or the first `co_await` to end took it and the others did not
get it. -/
def Delivered (state : State T E) (outcome : Outcome T E) : Prop :=
  (state.late = [] ∧ state.core.slot = some outcome) ∨
    ∃ first rest, state.late = (first, outcome.obtained) :: rest ∧
      (∀ entry ∈ rest, Refused entry) ∧ state.core.slot = none

/-- How core, scheduler queue and suspended coroutines fit together. -/
inductive Phase (state : State T E) : Prop where
  | init (state_eq : state.core.state = .init) (nobody : state.core.waitingHandle = none)
      (empty : state.core.slot = none) (open_ : state.outcome = none) (late : state.late = [])
      (waiting : ∀ handle, ¬state.Awaits handle)
  | waitedOn (waiter : Handle) (state_eq : state.core.state = .waitedOn)
      (registered : state.core.waitingHandle = some waiter) (empty : state.core.slot = none)
      (open_ : state.outcome = none) (late : state.late = [])
      (waiting : ∀ handle, state.Awaits handle ↔ handle = waiter)
      (not_queued : state.runtime.pending waiter = 0)
  | finished (outcome : Outcome T E) (state_eq : state.core.state = .finished)
      (nobody : state.core.waitingHandle = none) (outcome_eq : state.outcome = some outcome)
      (delivered : state.Delivered outcome)
      (waiting : ∀ handle, state.Awaits handle → state.runtime.pending handle = 1)

/-- What holds of a promise in every reachable state. -/
structure Invariant (state : State T E) : Prop where
  consistent : state.runtime.Consistent
  producer_not_waiting : ¬state.Awaits state.producer
  early : ∀ entry ∈ state.early, Refused entry
  phase : state.Phase

theorem initial_invariant (producer : Handle) : (initial producer : State T E).Invariant where
  consistent := .empty _
  producer_not_waiting := by simp [initial, Awaits]
  early := by simp [initial]
  phase := .init rfl rfl rfl rfl rfl (by simp [initial, Awaits])

/-- A stale core refuses, and otherwise `await_resume` hands out what is in the slot. -/
theorem awaitResume_of_finished {core : PromiseCore T E} (finished : core.state = .finished) :
    (core.slot = none ∧ ∃ exception, PromiseAwaiter.awaitResume core = (.thrown exception, core)) ∨
      ∃ outcome, core.slot = some outcome ∧
        PromiseAwaiter.awaitResume core = (outcome.obtained, { core with slot := none }) := by
  cases slot_eq : core.slot with
  | none =>
      simp [PromiseAwaiter.awaitResume, PromiseCore.stale, PromiseCore.ready, finished, slot_eq]
  | some outcome =>
      right
      refine ⟨outcome, rfl, ?_⟩
      cases outcome <;>
        simp [PromiseAwaiter.awaitResume, PromiseCore.stale, PromiseCore.ready, slot_eq,
          Outcome.obtained]

theorem Invariant.setRuntime {state : State T E} (invariant : state.Invariant)
    {runtime : Runtime Unit} (consistent : runtime.Consistent)
    (status_iff : ∀ handle, runtime.status handle = .waiting () ↔ state.Awaits handle)
    (pending_eq : ∀ handle, state.Awaits handle →
      runtime.pending handle = state.runtime.pending handle) :
    ({ state with runtime } : State T E).Invariant where
  consistent := consistent
  producer_not_waiting := fun waits => invariant.producer_not_waiting ((status_iff _).mp waits)
  early := invariant.early
  phase := by
    cases invariant.phase with
    | init state_eq nobody empty open_ late waiting =>
        exact .init state_eq nobody empty open_ late
          (fun handle waits => waiting handle ((status_iff handle).mp waits))
    | waitedOn waiter state_eq registered empty open_ late waiting not_queued =>
        refine .waitedOn waiter state_eq registered empty open_ late
          (fun handle => (status_iff handle).trans (waiting handle)) ?_
        exact (pending_eq waiter ((waiting waiter).mpr rfl)).trans not_queued
    | finished outcome state_eq nobody outcome_eq delivered waiting =>
        refine .finished outcome state_eq nobody outcome_eq delivered ?_
        intro handle waits
        have awaits := (status_iff handle).mp waits
        exact (pending_eq handle awaits).trans (waiting handle awaits)

/-- After the producer's end a `co_await` takes the outcome if it is still there; otherwise it is
refused and the core stays as it is. -/
theorem finishAwait_of_finished (state : State T E) (handle : Handle) {outcome : Outcome T E}
    (finished : state.core.state = .finished) (outcome_eq : state.outcome = some outcome)
    (delivered : state.Delivered outcome) :
    (state.core.slot = some outcome ∧ state.late = [] ∧
        state.finishAwait handle = { state with
          core := { state.core with slot := none }
          late := [(handle, outcome.obtained)] }) ∨
      (state.core.slot = none ∧ ∃ exception, state.finishAwait handle = { state with
        late := state.late ++ [(handle, .thrown exception)] }) := by
  rcases awaitResume_of_finished finished with ⟨slot_eq, exception, resumed⟩ |
    ⟨found, slot_eq, resumed⟩
  · right
    exact ⟨slot_eq, exception, by simp only [finishAwait, resumed, record, outcome_eq]⟩
  · left
    rcases delivered with ⟨late_eq, slot_outcome⟩ | ⟨_, _, _, _, slot_none⟩
    · obtain rfl : outcome = found := Option.some.inj (slot_outcome.symm.trans slot_eq)
      refine ⟨slot_eq, late_eq, ?_⟩
      simp only [finishAwait, resumed, record, outcome_eq, late_eq, List.nil_append]
    · simp [slot_none] at slot_eq

theorem Invariant.finishAwait {state : State T E} (invariant : state.Invariant) (handle : Handle)
    (finished : state.core.state = .finished) : (state.finishAwait handle).Invariant := by
  cases invariant.phase with
  | init state_eq | waitedOn _ state_eq => simp [state_eq] at finished
  | finished outcome state_eq nobody outcome_eq delivered waiting =>
      rcases finishAwait_of_finished state handle finished outcome_eq delivered with
        ⟨slot_eq, late_eq, after_eq⟩ | ⟨slot_eq, exception, after_eq⟩
      · rw [after_eq]
        refine ⟨invariant.consistent, invariant.producer_not_waiting, invariant.early, ?_⟩
        exact .finished outcome state_eq nobody outcome_eq
          (.inr ⟨handle, [], rfl, by simp, rfl⟩) waiting
      · rw [after_eq]
        refine ⟨invariant.consistent, invariant.producer_not_waiting, invariant.early, ?_⟩
        refine .finished outcome state_eq nobody outcome_eq ?_ waiting
        rcases delivered with ⟨_, slot_outcome⟩ | ⟨first, rest, late_eq, refused, slot_none⟩
        · simp [slot_eq] at slot_outcome
        · refine .inr ⟨first, rest ++ [(handle, .thrown exception)], by simp [late_eq], ?_,
            slot_none⟩
          intro entry entry_mem
          rcases List.mem_append.mp entry_mem with older | newest
          · exact refused entry older
          · rw [List.mem_singleton.mp newest]
            exact ⟨exception, rfl⟩

/-- Only a coroutine woken by the producer's end is handed out while it awaits. -/
theorem Invariant.finished_of_queued {state : State T E} (invariant : state.Invariant)
    {handle : Handle} (awaits : state.Awaits handle) (queued : 0 < state.runtime.pending handle) :
    ∃ outcome, state.core.state = .finished ∧ state.outcome = some outcome ∧
      state.Delivered outcome ∧ state.runtime.pending handle = 1 := by
  cases invariant.phase with
  | init _ _ _ _ _ waiting => exact absurd awaits (waiting handle)
  | waitedOn waiter _ _ _ _ _ waiting not_queued =>
      rw [(waiting handle).mp awaits, not_queued] at queued
      exact absurd queued (Nat.lt_irrefl 0)
  | finished outcome state_eq _ outcome_eq delivered waiting =>
      exact ⟨outcome, state_eq, outcome_eq, delivered, waiting handle awaits⟩

theorem Invariant.handOut {state : State T E} (invariant : state.Invariant) {handle : Handle}
    {runtime : Runtime Unit} (popped : state.runtime.getNext = (some handle, runtime)) :
    ({ state with runtime := runtime.setStatus handle .running } : State T E).Invariant := by
  rcases invariant.consistent.getNext_some popped with
    ⟨status_eq, suspended, next_pending, other_pending⟩
  have runtime_consistent : runtime.Consistent := by
    simpa [popped] using invariant.consistent.getNext
  cases handle_status : state.runtime.status handle with
  | running | done => simp [handle_status, Status.isSuspended] at suspended
  | elsewhere =>
      have unrelated := invariant.consistent.resume_elsewhere popped handle_status
      exact invariant.setRuntime unrelated.consistent (fun other => unrelated.waiting_iff other ())
        (fun other awaits => unrelated.pending_eq awaits)
  | waiting point =>
      rcases invariant.finished_of_queued handle_status (by omega) with
        ⟨outcome, finished, outcome_eq, delivered, pending_eq⟩
      have still : ∀ other, (runtime.setStatus handle .running).status other = .waiting () →
          other ≠ handle ∧ state.Awaits other := by
        intro other awaits
        have differs : other ≠ handle := by
          rintro rfl
          simp at awaits
        rw [Runtime.setStatus_status_of_ne _ differs, status_eq] at awaits
        exact ⟨differs, awaits⟩
      refine ⟨runtime_consistent.setStatus .running (by omega),
        fun awaits => invariant.producer_not_waiting (still _ awaits).2, invariant.early, ?_⟩
      cases invariant.phase with
      | init state_eq | waitedOn _ state_eq => simp [state_eq] at finished
      | finished outcome state_eq nobody outcome_eq delivered waiting =>
          refine .finished outcome state_eq nobody outcome_eq delivered ?_
          intro other awaits
          rcases still other awaits with ⟨differs, awaits_before⟩
          change (runtime.setStatus handle .running).pending other = 1
          rw [Runtime.pending_setStatus, other_pending other differs]
          exact waiting other awaits_before

theorem Invariant.resumeNext {state : State T E} (invariant : state.Invariant) :
    state.resumeNext.Invariant := by
  unfold State.resumeNext
  rcases popped : state.runtime.getNext with ⟨_ | handle, runtime⟩
  · rcases invariant.consistent.resume_nothing popped with ⟨consistent, unchanged⟩
    refine invariant.setRuntime consistent (fun handle => ?_) (fun handle _ => (unchanged handle).2)
    rw [(unchanged handle).1]
    rfl
  · rcases invariant.consistent.getNext_some popped with ⟨status_eq, suspended, next_pending, -⟩
    have running := invariant.handOut popped
    simp only [State.resume, status_eq]
    cases handle_status : state.runtime.status handle with
    | running | done => simp [handle_status, Status.isSuspended] at suspended
    | elsewhere => exact running
    | waiting point =>
        rcases invariant.finished_of_queued handle_status (by omega) with ⟨_, finished, -⟩
        exact running.finishAwait handle finished

theorem coAwait_refused {state : State T E} (handle : Handle) (empty : state.core.slot = none)
    (not_init : state.core.state ≠ .init) :
    state.coAwait handle = state.record handle (.thrown alreadyAwaited) := by
  simp [coAwait, PromiseAwaiter.awaitReady, PromiseAwaiter.awaitSuspend, PromiseCore.ready,
    PromiseCore.setHandle, empty, not_init]

theorem coAwait_of_init {state : State T E} (handle : Handle) (empty : state.core.slot = none)
    (is_init : state.core.state = .init) :
    state.coAwait handle = ({ state with
      core := { state.core with waitingHandle := some handle, state := .waitedOn }
      runtime := state.runtime.setStatus handle (.waiting ()) } : State T E).resumeNext := by
  simp [coAwait, PromiseAwaiter.awaitReady, PromiseAwaiter.awaitSuspend, PromiseCore.ready,
    PromiseCore.setHandle, empty, is_init]

theorem coAwait_of_filled {state : State T E} (handle : Handle) {outcome : Outcome T E}
    (filled : state.core.slot = some outcome) :
    state.coAwait handle = state.finishAwait handle := by
  simp [coAwait, PromiseAwaiter.awaitReady, PromiseCore.ready, PromiseCore.stale, filled]

theorem Invariant.record_refused {state : State T E} (invariant : state.Invariant)
    (handle : Handle) (exception : UvcoException) (empty : state.core.slot = none) :
    (state.record handle (.thrown exception)).Invariant := by
  have refused : Refused (handle, (.thrown exception : Obtained T E)) := ⟨exception, rfl⟩
  have early : ∀ entry ∈ state.early ++ [(handle, (.thrown exception : Obtained T E))],
      Refused entry := by
    intro entry entry_mem
    rcases List.mem_append.mp entry_mem with older | newest
    · exact invariant.early entry older
    · rw [List.mem_singleton.mp newest]
      exact refused
  cases invariant.phase with
  | init state_eq nobody slot_eq open_ late waiting =>
      simp only [record, open_]
      exact ⟨invariant.consistent, invariant.producer_not_waiting, early,
        .init state_eq nobody slot_eq rfl late waiting⟩
  | waitedOn waiter state_eq registered slot_eq open_ late waiting not_queued =>
      simp only [record, open_]
      exact ⟨invariant.consistent, invariant.producer_not_waiting, early,
        .waitedOn waiter state_eq registered slot_eq rfl late waiting not_queued⟩
  | finished outcome state_eq nobody outcome_eq delivered waiting =>
      simp only [record, outcome_eq]
      refine ⟨invariant.consistent, invariant.producer_not_waiting, invariant.early,
        .finished outcome state_eq nobody rfl ?_ waiting⟩
      rcases delivered with ⟨_, slot_outcome⟩ | ⟨first, rest, late_eq, rest_refused, slot_none⟩
      · simp [empty] at slot_outcome
      · refine .inr ⟨first, rest ++ [(handle, .thrown exception)], by simp [late_eq], ?_, slot_none⟩
        intro entry entry_mem
        rcases List.mem_append.mp entry_mem with older | newest
        · exact rest_refused entry older
        · rw [List.mem_singleton.mp newest]
          exact refused

theorem Invariant.coAwait {state : State T E} (invariant : state.Invariant) {handle : Handle}
    (enabled : (Action.coAwait handle).Enabled state) : (state.coAwait handle).Invariant := by
  rcases enabled with ⟨not_producer, running⟩
  cases invariant.phase with
  | init state_eq nobody empty open_ late waiting =>
      rw [coAwait_of_init handle empty state_eq]
      have not_queued := invariant.consistent.pending_of_running running
      have waits_iff : ∀ other, (state.runtime.setStatus handle (.waiting ())).status other =
          .waiting () ↔ other = handle := by
        intro other
        by_cases same : other = handle
        · simp [same]
        · rw [Runtime.setStatus_status_of_ne _ same]
          exact ⟨fun waits => absurd waits (waiting other), fun is_same => absurd is_same same⟩
      apply Invariant.resumeNext
      refine ⟨invariant.consistent.setStatus _ not_queued, ?_, invariant.early, ?_⟩
      · exact fun waits => not_producer ((waits_iff _).mp waits).symm
      · exact .waitedOn handle rfl rfl empty open_ late waits_iff not_queued
  | waitedOn waiter state_eq registered empty open_ late waiting not_queued =>
      rw [coAwait_refused handle empty (by simp [state_eq])]
      exact invariant.record_refused handle alreadyAwaited empty
  | finished outcome state_eq nobody outcome_eq delivered waiting =>
      cases slot_eq : state.core.slot with
      | none =>
          rw [coAwait_refused handle slot_eq (by simp [state_eq])]
          exact invariant.record_refused handle alreadyAwaited slot_eq
      | some found =>
          rw [coAwait_of_filled handle slot_eq]
          exact invariant.finishAwait handle state_eq

theorem complete_eq {state : State T E} (outcome : Outcome T E) (empty : state.core.slot = none) :
    state.complete outcome = { state with
      core := { state.core with
        slot := some outcome, waitingHandle := none, state := .finished }
      runtime := (match state.core.waitingHandle with
        | some waiter => state.runtime.enqueue waiter
        | none => state.runtime).setStatus state.producer .done
      outcome := some outcome } := by
  cases outcome <;> cases waiting_eq : state.core.waitingHandle <;>
    simp [complete, Coroutine.complete, Coroutine.returnValue, Coroutine.unhandledException,
      PromiseCore.except, PromiseCore.resume, Runtime.enqueue, empty, waiting_eq]

theorem Invariant.complete {state : State T E} (invariant : state.Invariant)
    {outcome : Outcome T E} (enabled : (Action.complete outcome).Enabled state) :
    (state.complete outcome).Invariant := by
  rcases enabled with ⟨still_open, running⟩
  have producer_not_queued := invariant.consistent.pending_of_running running
  cases invariant.phase with
  | init state_eq nobody empty open_ late waiting =>
      rw [complete_eq outcome empty, nobody]
      refine ⟨invariant.consistent.setStatus _ producer_not_queued, ?_, invariant.early, ?_⟩
      · simp [Awaits]
      · refine .finished outcome rfl rfl rfl (.inl ⟨late, rfl⟩) ?_
        intro handle awaits
        by_cases same : handle = state.producer
        · simp [Awaits, same] at awaits
        · rw [Awaits, Runtime.setStatus_status_of_ne _ same] at awaits
          exact absurd awaits (waiting handle)
  | waitedOn waiter state_eq registered empty open_ late waiting not_queued =>
      rw [complete_eq outcome empty, registered]
      have waiter_awaits : state.Awaits waiter := (waiting waiter).mpr rfl
      have waiter_ne : waiter ≠ state.producer := by
        rintro rfl
        exact invariant.producer_not_waiting waiter_awaits
      refine ⟨(invariant.consistent.enqueue_waiting waiter_awaits).setStatus _ ?_, ?_,
        invariant.early, ?_⟩
      · rw [Runtime.pending_enqueue_of_ne (Ne.symm waiter_ne)]
        exact producer_not_queued
      · simp [Awaits]
      · refine .finished outcome rfl rfl rfl (.inl ⟨late, rfl⟩) ?_
        intro handle awaits
        have differs : handle ≠ state.producer := by
          rintro rfl
          simp [Awaits] at awaits
        rw [Awaits, Runtime.setStatus_status_of_ne _ differs] at awaits
        rw [(waiting handle).mp awaits, Runtime.pending_setStatus, Runtime.pending_enqueue_self,
          not_queued]
  | finished _ _ _ outcome_eq => simp [outcome_eq] at still_open

theorem Invariant.step {state : State T E} (invariant : state.Invariant) {action : Action T E}
    (enabled : action.Enabled state) : (action.perform state).Invariant := by
  cases action with
  | coAwait handle => exact invariant.coAwait enabled
  | complete outcome => exact invariant.complete enabled
  | resumeNext => exact invariant.resumeNext
  | other action =>
      have unrelated := invariant.consistent.other enabled.1
      exact invariant.setRuntime unrelated.consistent
        (fun handle => unrelated.waiting_iff handle ())
        (fun handle awaits => unrelated.pending_eq awaits)

theorem invariant_of_reachable {state : State T E} (reached : (system T E).Reachable state) :
    state.Invariant := by
  refine TransitionSystem.Reachable.invariant State.Invariant ?_ ?_ reached
  · rintro _ ⟨producer, rfl⟩
    exact initial_invariant producer
  · exact fun _ _ invariant enabled => invariant.step enabled

/-! ## The protocol -/

/-- What a promise guarantees in a state, and for every step from it. -/
structure Protocol (state : State T E) : Prop where
  /-- A handle is stored exactly while a coroutine waits. -/
  awaited_iff : state.core.isAwaited = true ↔ state.core.state = .waitedOn
  finished_of_ready : state.core.ready = true → state.core.state = .finished
  /-- Before the producer ends, a suspended coroutine is registered and not enqueued. -/
  registered : ∀ handle, state.Awaits handle → state.outcome = none →
    state.core.waitingHandle = some handle ∧ state.runtime.pending handle = 0
  /-- After the producer's end, it is enqueued once, until it runs. -/
  woken : ∀ handle, state.Awaits handle → state.outcome.isSome = true →
    state.runtime.pending handle = 1
  /-- It is enqueued by the producer's end, when the outcome is in the slot. -/
  completes : ∀ outcome, (Action.complete outcome).Enabled state →
    (state.complete outcome).core.slot = some outcome ∧
      ∀ handle, state.Awaits handle → state.runtime.pending handle = 0 ∧
        (state.complete outcome).runtime.pending handle = 1
  /-- Nobody obtains anything before the producer's end; then the first one gets the outcome,
  and nobody else does. -/
  refused_early : ∀ entry ∈ state.early, Refused entry
  delivered : match state.outcome with
    | none => state.late = []
    | some outcome => state.Delivered outcome
  /-- A `co_await` of a pending promise nobody waits for suspends, and is registered. -/
  waits : ∀ handle, (Action.coAwait handle).Enabled state → state.core.state = .init →
    (state.coAwait handle).Awaits handle ∧ (state.coAwait handle).runtime.pending handle = 0 ∧
      (state.coAwait handle).core =
        { state.core with waitingHandle := some handle, state := .waitedOn }
  /-- A `co_await` that finds the outcome in the slot takes it at once; it is the first. -/
  takes : ∀ handle outcome, (Action.coAwait handle).Enabled state →
    state.core.slot = some outcome → state.outcome = some outcome ∧ state.late = [] ∧
      state.coAwait handle = { state with
        core := { state.core with slot := none }
        late := [(handle, outcome.obtained)] }
  /-- So does a woken coroutine when it is handed out. -/
  obtains : ∀ handle runtime outcome, state.runtime.getNext = (some handle, runtime) →
    state.Awaits handle → state.core.slot = some outcome →
    state.outcome = some outcome ∧ state.late = [] ∧ state.resumeNext = { state with
      core := { state.core with slot := none }
      runtime := runtime.setStatus handle .running
      late := [(handle, outcome.obtained)] }
  /-- A `co_await` of an awaited or stale promise is refused at once and changes nothing. -/
  refused : ∀ handle, (Action.coAwait handle).Enabled state →
    state.core.state = .waitedOn ∨ state.core.stale = true →
    ∃ exception, state.coAwait handle = state.record handle (.thrown exception)
  /-- So is a woken coroutine that finds the promise stale; the core stays as it is. -/
  robbed : ∀ handle runtime, state.runtime.getNext = (some handle, runtime) →
    state.Awaits handle → state.core.stale = true →
    ∃ exception, state.resumeNext = { state with
      runtime := runtime.setStatus handle .running
      late := state.late ++ [(handle, .thrown exception)] }

theorem Invariant.awaited_iff {state : State T E} (invariant : state.Invariant) :
    state.core.isAwaited = true ↔ state.core.state = .waitedOn := by
  cases invariant.phase with
  | init state_eq nobody => simp [PromiseCore.isAwaited, state_eq, nobody]
  | waitedOn _ state_eq registered => simp [PromiseCore.isAwaited, state_eq, registered]
  | finished _ state_eq nobody => simp [PromiseCore.isAwaited, state_eq, nobody]

theorem Invariant.finished_of_ready {state : State T E} (invariant : state.Invariant)
    (ready : state.core.ready = true) : state.core.state = .finished := by
  cases invariant.phase with
  | init _ _ empty | waitedOn _ _ _ empty => simp [PromiseCore.ready, empty] at ready
  | finished _ state_eq => exact state_eq

theorem Invariant.registered {state : State T E} (invariant : state.Invariant) {handle : Handle}
    (awaits : state.Awaits handle) (still_open : state.outcome = none) :
    state.core.waitingHandle = some handle ∧ state.runtime.pending handle = 0 := by
  cases invariant.phase with
  | init _ _ _ _ _ waiting => exact absurd awaits (waiting handle)
  | waitedOn waiter _ registered _ _ _ waiting not_queued =>
      obtain rfl := (waiting handle).mp awaits
      exact ⟨registered, not_queued⟩
  | finished _ _ _ outcome_eq => simp [outcome_eq] at still_open

theorem Invariant.woken {state : State T E} (invariant : state.Invariant) {handle : Handle}
    (awaits : state.Awaits handle) (ended : state.outcome.isSome = true) :
    state.runtime.pending handle = 1 := by
  cases invariant.phase with
  | init _ _ _ open_ | waitedOn _ _ _ _ open_ => simp [open_] at ended
  | finished _ _ _ _ _ waiting => exact waiting handle awaits

theorem Invariant.empty_of_open {state : State T E} (invariant : state.Invariant)
    (still_open : state.outcome = none) : state.core.slot = none ∧ state.late = [] := by
  cases invariant.phase with
  | init _ _ empty _ late | waitedOn _ _ _ empty _ late => exact ⟨empty, late⟩
  | finished _ _ _ outcome_eq => simp [outcome_eq] at still_open

theorem Invariant.completes {state : State T E} (invariant : state.Invariant)
    {outcome : Outcome T E} (enabled : (Action.complete outcome).Enabled state) :
    (state.complete outcome).core.slot = some outcome ∧
      ∀ handle, state.Awaits handle → state.runtime.pending handle = 0 ∧
        (state.complete outcome).runtime.pending handle = 1 := by
  have after_eq := complete_eq outcome (invariant.empty_of_open enabled.1).1
  refine ⟨by rw [after_eq], fun handle awaits => ?_⟩
  rcases invariant.registered awaits enabled.1 with ⟨registered, not_queued⟩
  refine ⟨not_queued, ?_⟩
  rw [after_eq, registered]
  exact Runtime.pending_enqueue_self.trans (by rw [not_queued])

theorem slot_of_stale {core : PromiseCore T E} (stale : core.stale = true) :
    core.state = .finished ∧ core.slot = none := by
  simpa [PromiseCore.stale, PromiseCore.ready] using stale

theorem Invariant.refused {state : State T E} (invariant : state.Invariant) {handle : Handle}
    (taken : state.core.state = .waitedOn ∨ state.core.stale = true) :
    state.coAwait handle = state.record handle (.thrown alreadyAwaited) := by
  rcases taken with waited | stale
  · cases invariant.phase with
    | init state_eq | finished _ state_eq => simp [state_eq] at waited
    | waitedOn _ _ _ empty => exact coAwait_refused handle empty (by simp [waited])
  · rcases slot_of_stale stale with ⟨finished, empty⟩
    exact coAwait_refused handle empty (by simp [finished])

theorem Invariant.waits {state : State T E} (invariant : state.Invariant) {handle : Handle}
    (enabled : (Action.coAwait handle).Enabled state) (is_init : state.core.state = .init) :
    (state.coAwait handle).Awaits handle ∧ (state.coAwait handle).runtime.pending handle = 0 ∧
      (state.coAwait handle).core =
        { state.core with waitingHandle := some handle, state := .waitedOn } := by
  have not_queued := invariant.consistent.pending_of_running enabled.2
  cases invariant.phase with
  | waitedOn _ state_eq | finished _ state_eq => simp [state_eq] at is_init
  | init _ _ empty _ _ waiting =>
      rw [coAwait_of_init handle empty is_init]
      have consistent := invariant.consistent.setStatus (.waiting ()) not_queued
      unfold State.resumeNext Awaits
      dsimp only
      rcases popped : (state.runtime.setStatus handle (.waiting ())).getNext with
        ⟨_ | next, runtime⟩
      · rcases consistent.resume_nothing popped with ⟨-, unchanged⟩
        refine ⟨?_, (unchanged handle).2.trans not_queued, rfl⟩
        exact (unchanged handle).1.trans (Runtime.setStatus_status_self _)
      · rcases consistent.getNext_some popped with
          ⟨status_eq, suspended, next_pending, other_pending⟩
        have differs : next ≠ handle := by
          rintro rfl
          rw [Runtime.pending_setStatus] at next_pending
          omega
        -- Nobody waited before, so whoever is handed out was suspended elsewhere.
        have next_status : runtime.status next = .elsewhere := by
          rw [status_eq]
          cases next_status : (state.runtime.setStatus handle (.waiting ())).status next with
          | elsewhere => rfl
          | running | done => simp [next_status, Status.isSuspended] at suspended
          | waiting point =>
              rw [Runtime.setStatus_status_of_ne _ differs] at next_status
              exact absurd next_status (waiting next)
        simp only [State.resume, next_status]
        refine ⟨?_, (other_pending handle (Ne.symm differs)).trans not_queued, trivial⟩
        rw [Runtime.setStatus_status_of_ne _ (Ne.symm differs), status_eq]
        exact Runtime.setStatus_status_self _

/-- What is in the slot is the outcome of the producer, and nobody has obtained it. -/
theorem Invariant.slot_outcome {state : State T E} (invariant : state.Invariant)
    {outcome : Outcome T E} (filled : state.core.slot = some outcome) :
    state.core.state = .finished ∧ state.outcome = some outcome ∧ state.late = [] := by
  cases invariant.phase with
  | init _ _ empty | waitedOn _ _ _ empty => simp [empty] at filled
  | finished found state_eq _ outcome_eq delivered =>
      rcases delivered with ⟨late_eq, slot_eq⟩ | ⟨_, _, _, _, slot_none⟩
      · obtain rfl : found = outcome := Option.some.inj (slot_eq.symm.trans filled)
        exact ⟨state_eq, outcome_eq, late_eq⟩
      · simp [slot_none] at filled

theorem finishAwait_of_filled {state : State T E} (handle : Handle) {outcome : Outcome T E}
    (filled : state.core.slot = some outcome) (outcome_eq : state.outcome = some outcome)
    (late_eq : state.late = []) :
    state.finishAwait handle = { state with
      core := { state.core with slot := none }
      late := [(handle, outcome.obtained)] } := by
  have resumed : PromiseAwaiter.awaitResume state.core =
      (outcome.obtained, { state.core with slot := none }) := by
    cases outcome <;>
      simp [PromiseAwaiter.awaitResume, PromiseCore.stale, PromiseCore.ready, filled,
        Outcome.obtained]
  simp only [finishAwait, resumed, record, outcome_eq, late_eq, List.nil_append]

theorem Invariant.takes {state : State T E} (invariant : state.Invariant) (handle : Handle)
    {outcome : Outcome T E} (filled : state.core.slot = some outcome) :
    state.outcome = some outcome ∧ state.late = [] ∧ state.coAwait handle = { state with
      core := { state.core with slot := none }
      late := [(handle, outcome.obtained)] } := by
  rcases invariant.slot_outcome filled with ⟨-, outcome_eq, late_eq⟩
  refine ⟨outcome_eq, late_eq, ?_⟩
  rw [coAwait_of_filled handle filled]
  exact finishAwait_of_filled handle filled outcome_eq late_eq

/-- A woken coroutine that is handed out goes on with its `co_await`. -/
theorem Invariant.resumeNext_of_awaits {state : State T E} (invariant : state.Invariant)
    {handle : Handle} {runtime : Runtime Unit}
    (popped : state.runtime.getNext = (some handle, runtime)) (awaits : state.Awaits handle) :
    state.resumeNext = ({ state with
      runtime := runtime.setStatus handle .running } : State T E).finishAwait handle := by
  rcases invariant.consistent.getNext_some popped with ⟨status_eq, -, -, -⟩
  simp only [State.resumeNext, popped, State.resume, status_eq]
  rw [show state.runtime.status handle = .waiting () from awaits]

theorem Invariant.obtains {state : State T E} (invariant : state.Invariant) {handle : Handle}
    {runtime : Runtime Unit} (popped : state.runtime.getNext = (some handle, runtime))
    (awaits : state.Awaits handle) {outcome : Outcome T E}
    (filled : state.core.slot = some outcome) :
    state.outcome = some outcome ∧ state.late = [] ∧ state.resumeNext = { state with
      core := { state.core with slot := none }
      runtime := runtime.setStatus handle .running
      late := [(handle, outcome.obtained)] } := by
  rcases invariant.slot_outcome filled with ⟨-, outcome_eq, late_eq⟩
  refine ⟨outcome_eq, late_eq, ?_⟩
  rw [invariant.resumeNext_of_awaits popped awaits]
  exact finishAwait_of_filled handle filled outcome_eq late_eq

theorem Invariant.robbed {state : State T E} (invariant : state.Invariant) {handle : Handle}
    {runtime : Runtime Unit} (popped : state.runtime.getNext = (some handle, runtime))
    (awaits : state.Awaits handle) (stale : state.core.stale = true) :
    ∃ exception, state.resumeNext = { state with
      runtime := runtime.setStatus handle .running
      late := state.late ++ [(handle, .thrown exception)] } := by
  rcases invariant.consistent.getNext_some popped with ⟨-, -, next_pending, -⟩
  rcases invariant.finished_of_queued awaits (by omega) with
    ⟨outcome, finished, outcome_eq, delivered, -⟩
  rw [invariant.resumeNext_of_awaits popped awaits]
  rcases finishAwait_of_finished ({ state with
      runtime := runtime.setStatus handle .running } : State T E) handle finished outcome_eq
    delivered with ⟨filled, -⟩ | ⟨-, exception, after_eq⟩
  · exact absurd (filled.symm.trans (slot_of_stale stale).2) (by simp)
  · exact ⟨exception, after_eq⟩

/-- Every reachable state keeps to the single-await protocol. -/
theorem protocol_of_reachable {state : State T E} (reached : (system T E).Reachable state) :
    state.Protocol := by
  have invariant := invariant_of_reachable reached
  refine ⟨invariant.awaited_iff, invariant.finished_of_ready, ?_, ?_, ?_, invariant.early, ?_, ?_,
    ?_, ?_, ?_, ?_⟩
  · exact fun handle awaits still_open => invariant.registered awaits still_open
  · exact fun handle awaits ended => invariant.woken awaits ended
  · exact fun outcome enabled => invariant.completes enabled
  · cases outcome_eq : state.outcome with
    | none => exact (invariant.empty_of_open outcome_eq).2
    | some outcome =>
        cases invariant.phase with
        | init _ _ _ open_ | waitedOn _ _ _ _ open_ => simp [open_] at outcome_eq
        | finished found _ _ found_eq delivered =>
            obtain rfl : found = outcome := Option.some.inj (found_eq.symm.trans outcome_eq)
            exact delivered
  · exact fun handle enabled is_init => invariant.waits enabled is_init
  · exact fun handle outcome _ filled => invariant.takes handle filled
  · exact fun handle runtime outcome popped awaits filled => invariant.obtains popped awaits filled
  · exact fun handle _ taken => ⟨_, invariant.refused taken⟩
  · exact fun handle runtime popped awaits stale => invariant.robbed popped awaits stale

/-- One coroutine waits, the producer returns, and another coroutine takes the value before the
first one runs. -/
theorem protocol_robbed_waiter :
    (([.coAwait 1, .complete (.value 7), .coAwait 2, .resumeNext] :
      List (Action ℕ String)).foldl Action.perform (initial 0)).Protocol := by
  have start : (system ℕ String).Reachable (initial 0) := .start ⟨0, rfl⟩
  have waits := start.step (Action.coAwait 1) ⟨by decide, rfl⟩ trivial
  have ends := waits.step (Action.complete (.value 7)) ⟨rfl, rfl⟩ trivial
  have takes := ends.step (Action.coAwait 2) ⟨by decide, by decide⟩ trivial
  exact protocol_of_reachable (takes.step Action.resumeNext trivial trivial)

end State

end Uvco.SingleAwait
