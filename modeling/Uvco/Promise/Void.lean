import Uvco.Promise.Drop

/-!
# `Promise<void>` next to `Promise<T>`

The two templates are separate implementations. This file lets the same program
run on both, with a type of one value for `T`, and compares what it can observe:
whether an operation suspends, returns, or throws, and the status of what it
throws. They differ in when the result is consumed: `unwrap()` consumes a value
of a `Promise<T>` only, and `co_await` consumes an exception of a `Promise<T>` only.
-/

namespace Uvco.VoidPromise

variable {E : Type}

/-- What a program can tell of how an operation has ended. -/
inductive Effect (E : Type) where
  | returned
  /-- The exception that the producer ended with was thrown. -/
  | rethrown (exception : E)
  /-- A `UvcoException` with this status was thrown. -/
  | thrown (status : Option Int)
deriving DecidableEq, Repr

/-- What was obtained, but for a value. -/
def Effect.of {T : Type} : Obtained T E → Effect E
  | .returned _ => .returned
  | .rethrown exception => .rethrown exception
  | .thrown exception => .thrown exception.status

/-- What the users of a promise can see. -/
inductive Observation (E : Type) where
  | ready (isReady : Bool)
  | unwrapped (effect : Effect E)
  | awaited (handle : Handle) (effect : Effect E)
  | suspended (handle : Handle)
  /-- A coroutine goes on with a promise that was dropped. -/
  | dangling (handle : Handle)
deriving DecidableEq, Repr

/-- What `await_resume` returns or throws. -/
def obtained : Member Unit E → Obtained Unit E
  | .typed core => (PromiseAwaiter.awaitResume core).1
  | .void core => (VoidAwaiter.awaitResume core).1

/-- What the users of a promise, its coroutine and the scheduler can do next. -/
inductive Action (E : Type) where
  | coAwait (handle : Handle)
  | ready
  | unwrap
  | resolve (outcome : Outcome Unit E)
  /-- The promise is dropped. -/
  | drop
  /-- A turn of `Scheduler::runAll`. -/
  | resumeNext
  /-- A coroutine does something that does not involve the promise. -/
  | other (action : Runtime.Action)

/-- The next coroutine in the scheduler queue, if it waits for the promise. -/
def waiter (runtime : Runtime Unit) : Option Handle :=
  runtime.getNext.1.filter fun handle => runtime.status handle = .waiting ()

section Promise

variable (promise : Drop.State Unit E) (dropped : Bool)

/-- What the next coroutine in the scheduler queue gets from the promise. -/
def resumption : List (Observation E) :=
  match waiter promise.runtime with
  | some handle =>
      if dropped then [.dangling handle] else [.awaited handle (.of (obtained promise.core))]
  | none => []

/-- What is observed of an action. -/
def observe : Action E → List (Observation E)
  | .coAwait handle =>
      if promise.core.awaitReady then [.awaited handle (.of (obtained promise.core))]
      else
        match promise.core.awaitSuspend handle with
        | .ok core =>
            let runtime := promise.runtime.setStatus handle (.waiting ())
            .suspended handle :: resumption { promise with core, runtime } dropped
        | .error exception => [.awaited handle (.thrown exception.status)]
  | .ready => [.ready promise.core.ready]
  | .unwrap => [.unwrapped (.of promise.core.unwrap.1)]
  | .resumeNext => resumption promise dropped
  | .resolve _ | .drop | .other _ => []

/-- `PromiseCore::destroyCoroutine`. -/
def destroyCoroutine : Drop.State Unit E :=
  let runtime :=
    if promise.core.state ≠ .finished then promise.runtime.cancel promise.producer
    else promise.runtime
  { promise with runtime := runtime.setStatus promise.producer .done }

/-- What an action does to a promise of either kind. -/
def advance : Action E → Drop.State Unit E
  | .coAwait handle => promise.coAwait handle
  | .ready => promise
  | .unwrap => { promise with core := promise.core.unwrap.2 }
  | .resolve outcome => promise.resolve outcome
  | .drop => destroyCoroutine promise
  | .resumeNext => promise.resumeNext
  | .other action => { promise with runtime := action.perform promise.runtime }

/-- The producer does not await its own promise, and ends by `resolve` only. -/
def Enabled : Action E → Prop
  | .coAwait handle => dropped = false ∧ (Drop.Action.coAwait handle).Enabled promise
  | .ready | .unwrap => dropped = false
  | .resolve outcome => dropped = false ∧ (Drop.Action.resolve outcome).Enabled promise
  | .drop => dropped = false ∧ promise.runtime.status promise.producer ≠ .running
  | .resumeNext => True
  | .other action => (Drop.Action.other action).Enabled promise

end Promise

/-- The promise is gone afterwards. -/
def Action.isDrop : Action E → Bool
  | .drop => true
  | .coAwait _ | .ready | .unwrap | .resolve _ | .resumeNext | .other _ => false

/-- A program that uses one promise. -/
structure Side (E : Type) where
  promise : Drop.State Unit E
  dropped : Bool := false
  log : List (Observation E) := []

/-- An action with what is to be seen of it. -/
def Side.perform (side : Side E) (action : Action E) : Side E where
  promise := advance side.promise action
  dropped := side.dropped || action.isDrop
  log := side.log ++ observe side.promise side.dropped action

/-- One program, on a promise of either kind. -/
structure Pair (E : Type) where
  typed : Side E
  void : Side E

/-- The program has observed the same on both sides. -/
def Pair.Agrees (pair : Pair E) : Prop :=
  pair.typed.log = pair.void.log

/-- Both promises, with the same program. -/
def system (E : Type) : TransitionSystem (Pair E) (Action E) where
  Initial pair := ∃ producer, pair = {
    typed := { promise :=
      { producer, core := .typed (({} : PromiseCore Unit E).setRunning producer) } }
    void := { promise := { producer, core := .void (({} : VoidCore E).setRunning producer) } } }
  Enabled pair action := Enabled pair.typed.promise pair.typed.dropped action ∧
    Enabled pair.void.promise pair.void.dropped action
  perform pair action := ⟨pair.typed.perform action, pair.void.perform action⟩

/-- `unwrap()` has returned, or `co_await` has thrown the exception of the promise. -/
def Observation.spends : Observation E → Bool
  | .unwrapped .returned | .awaited _ (.rethrown _) => true
  | .unwrapped (.rethrown _) | .unwrapped (.thrown _) | .awaited _ .returned
  | .awaited _ (.thrown _) | .ready _ | .suspended _ | .dangling _ => false

/-- Somebody has taken the end of the coroutine. -/
def Side.spent (side : Side E) : Bool :=
  side.log.any Observation.spends

/-- `unwrap()` is only called on a promise that is ready, and a spent promise is not used. -/
def Orderly (pair : Pair E) : Action E → Prop
  | .unwrap => pair.typed.spent = false ∧ pair.typed.promise.core.ready = true
  | .coAwait _ | .ready => pair.typed.spent = false
  | .resumeNext => pair.typed.spent = true →
      waiter pair.typed.promise.runtime = none ∨ pair.typed.dropped = true
  | .resolve _ | .drop | .other _ => True

/-! ## The two cores side by side -/

/-- What the two cores hold, and whether it is the same. -/
inductive Results : Bool → PromiseCore Unit E → VoidCore E → Prop where
  | empty {typed : PromiseCore Unit E} {void : VoidCore E} (no_slot : typed.slot = none)
      (not_ready : void.isReady = false) (no_exception : void.exception = none) :
      Results false typed void
  | value {typed : PromiseCore Unit E} {void : VoidCore E}
      (slot : typed.slot = some (.value ())) (isReady : void.isReady = true)
      (no_exception : void.exception = none) : Results false typed void
  | exception {typed : PromiseCore Unit E} {void : VoidCore E} (thrown : E)
      (slot : typed.slot = some (.exception thrown)) (isReady : void.isReady = true)
      (exception : void.exception = some thrown) : Results false typed void
  /-- Only the `Promise<T>` has lost its result. -/
  | spent {typed : PromiseCore Unit E} {void : VoidCore E} (no_slot : typed.slot = none)
      (isReady : void.isReady = true) (finished : typed.state = .finished) :
      Results true typed void

/-- Two cores that behave alike until the end is taken twice. -/
structure Match (spent : Bool) (typed : PromiseCore Unit E) (void : VoidCore E) : Prop where
  state_eq : typed.state = void.state
  waiting_eq : typed.waitingHandle = void.waitingHandle
  results : Results spent typed void

namespace Match

variable {spent : Bool} {typed : PromiseCore Unit E} {void : VoidCore E}

theorem ready_iff (cores : Match spent typed void) :
    (Member.typed typed : Member Unit E).ready = (Member.void void : Member Unit E).ready ↔
      spent = false := by
  cases cores.results with
  | empty no_slot not_ready => simp [Member.ready, PromiseCore.ready, no_slot, not_ready]
  | value slot isReady => simp [Member.ready, PromiseCore.ready, slot, isReady]
  | exception thrown slot isReady => simp [Member.ready, PromiseCore.ready, slot, isReady]
  | spent no_slot isReady => simp [Member.ready, PromiseCore.ready, no_slot, isReady]

theorem awaitReady_eq (cores : Match false typed void) :
    (Member.typed typed : Member Unit E).awaitReady =
      (Member.void void : Member Unit E).awaitReady := by
  rw [Member.awaitReady_typed]
  cases cores.results with
  | empty no_slot not_ready no_exception =>
      simp [Member.awaitReady, VoidAwaiter.awaitReady, no_slot, not_ready, no_exception]
  | value slot isReady | exception _ slot isReady =>
      simp [Member.awaitReady, VoidAwaiter.awaitReady, slot, isReady]

/-- `await_suspend` registers a handle in both cores, or throws the same on both sides. -/
theorem awaitSuspend (cores : Match spent typed void) (handle : Handle) :
    (∃ typed' void',
      (Member.typed typed : Member Unit E).awaitSuspend handle = .ok (.typed typed') ∧
      (Member.void void : Member Unit E).awaitSuspend handle = .ok (.void void') ∧
      Match spent typed' void') ∨
    (Member.typed typed : Member Unit E).awaitSuspend handle = .error alreadyAwaited ∧
      (Member.void void : Member Unit E).awaitSuspend handle = .error alreadyAwaited := by
  have state_eq := cores.state_eq
  by_cases is_init : typed.state = .init
  · refine .inl ⟨{ typed with waitingHandle := some handle, state := .waitedOn },
      { void with waitingHandle := some handle, state := .waitedOn }, ?_, ?_, rfl, rfl, ?_⟩
    · simp [Member.awaitSuspend, PromiseAwaiter.awaitSuspend, PromiseCore.setHandle, is_init,
        Except.map]
    · simp [Member.awaitSuspend, VoidAwaiter.awaitSuspend, VoidCore.setHandle, ← state_eq, is_init,
        Except.map]
    · cases cores.results with
      | empty no_slot not_ready no_exception => exact .empty no_slot not_ready no_exception
      | value slot isReady no_exception => exact .value slot isReady no_exception
      | exception thrown slot isReady exception => exact .exception thrown slot isReady exception
      | spent _ _ finished => simp [is_init] at finished
  · right
    simp [Member.awaitSuspend, PromiseAwaiter.awaitSuspend, PromiseCore.setHandle,
      VoidAwaiter.awaitSuspend, VoidCore.setHandle, is_init, ← state_eq, Except.map]

theorem awaitResume_typed {outcome : Outcome Unit E} (slot : typed.slot = some outcome) :
    PromiseAwaiter.awaitResume typed = (outcome.obtained, { typed with slot := none }) := by
  have fresh : typed.stale = false := by simp [PromiseCore.stale, PromiseCore.ready, slot]
  cases outcome <;> simp [PromiseAwaiter.awaitResume, fresh, slot, Outcome.obtained]

theorem awaitResume_void (isReady : void.isReady = true) :
    VoidAwaiter.awaitResume void = match void.exception with
      | some exception => (.rethrown exception, void)
      | none => (.returned (), { void with isReady := false }) := by
  have fresh : void.stale = false := by simp [VoidCore.stale, VoidCore.ready, isReady]
  cases exception_eq : void.exception <;>
    simp [VoidAwaiter.awaitResume, fresh, exception_eq]

/-- `co_await` gets the same from both cores, and spends the promise if it is an exception. -/
theorem awaitResume (cores : Match false typed void) (finished : typed.state = .finished)
    (handle : Handle) :
    Effect.of (obtained (.typed typed)) = Effect.of (obtained (.void void)) ∧
      Match (Observation.awaited handle (.of (obtained (.typed typed)))).spends
        (PromiseAwaiter.awaitResume typed).2 (VoidAwaiter.awaitResume void).2 := by
  have void_finished : void.state = .finished := cores.state_eq.symm.trans finished
  cases cores.results with
  | empty no_slot not_ready no_exception =>
      have typed_stale : typed.stale = true := by
        simp [PromiseCore.stale, PromiseCore.ready, finished, no_slot]
      have void_stale : void.stale = true := by
        simp [VoidCore.stale, VoidCore.ready, void_finished, not_ready, no_exception]
      simp only [obtained, PromiseAwaiter.awaitResume, VoidAwaiter.awaitResume, typed_stale,
        void_stale, if_true]
      exact ⟨rfl, cores⟩
  | value slot isReady no_exception =>
      rw [obtained, obtained, awaitResume_typed slot, awaitResume_void isReady, no_exception]
      exact ⟨rfl, cores.state_eq, cores.waiting_eq, .empty rfl rfl rfl⟩
  | exception thrown slot isReady exception =>
      rw [obtained, obtained, awaitResume_typed slot, awaitResume_void isReady, exception]
      exact ⟨rfl, cores.state_eq, cores.waiting_eq, .spent rfl isReady finished⟩

/-- From a spent promise, `co_await` gets nothing on one side only. -/
theorem awaitResume_spent (cores : Match true typed void) :
    Effect.of (obtained (.typed typed)) ≠ Effect.of (obtained (.void void)) := by
  cases cores.results with
  | spent no_slot isReady finished =>
      cases exception_eq : void.exception <;>
        simp [obtained, PromiseAwaiter.awaitResume, VoidAwaiter.awaitResume, PromiseCore.stale,
          PromiseCore.ready, VoidCore.stale, VoidCore.ready, finished, no_slot, isReady,
          exception_eq, Effect.of]

/-- `unwrap()` of a promise that is ready gets the same from both cores. -/
theorem unwrap (cores : Match false typed void) (finished : typed.state = .finished)
    (ready : (Member.typed typed : Member Unit E).ready = true) :
    Effect.of (Member.typed typed).unwrap.1 =
        Effect.of (Member.void void : Member Unit E).unwrap.1 ∧
      ∃ typed', (Member.typed typed).unwrap.2 = .typed typed' ∧
        (Member.void void : Member Unit E).unwrap.2 = .void void ∧
        Match (Observation.unwrapped (.of (Member.typed typed).unwrap.1)).spends typed' void := by
  cases cores.results with
  | empty no_slot => simp [Member.ready, PromiseCore.ready, no_slot] at ready
  | value slot isReady no_exception =>
      have typed_eq : (Member.typed typed : Member Unit E).unwrap =
          (.returned (some ()), .typed { typed with slot := none }) := by
        simp [Member.unwrap, PromiseCore.unwrap, slot]
      have void_eq : (Member.void void : Member Unit E).unwrap = (.returned none, .void void) := by
        simp [Member.unwrap, VoidCore.unwrap, isReady, no_exception]
      rw [typed_eq, void_eq]
      exact ⟨rfl, _, rfl, rfl, cores.state_eq, cores.waiting_eq, .spent rfl isReady finished⟩
  | exception thrown slot isReady exception =>
      have typed_eq : (Member.typed typed : Member Unit E).unwrap =
          (.rethrown thrown, .typed typed) := by
        simp [Member.unwrap, PromiseCore.unwrap, slot]
      have void_eq : (Member.void void : Member Unit E).unwrap =
          (.rethrown thrown, .void void) := by
        simp [Member.unwrap, VoidCore.unwrap, isReady, exception]
      rw [typed_eq, void_eq]
      exact ⟨rfl, typed, rfl, rfl, cores⟩

/-- `unwrap()` of any other promise is told apart. -/
theorem unwrap_differs (cores : Match spent typed void)
    (unfit : spent = true ∨ (Member.typed typed : Member Unit E).ready = false) :
    Effect.of (Member.typed typed).unwrap.1 ≠
      Effect.of (Member.void void : Member Unit E).unwrap.1 := by
  cases cores.results with
  | empty no_slot not_ready =>
      simp [Member.unwrap, PromiseCore.unwrap, VoidCore.unwrap, no_slot, not_ready, Effect.of,
        UvcoException.status]
  | spent no_slot isReady =>
      cases exception_eq : void.exception <;>
        simp [Member.unwrap, PromiseCore.unwrap, VoidCore.unwrap, no_slot, isReady, exception_eq,
          Effect.of]
  | value slot | exception _ slot => simp [Member.ready, PromiseCore.ready, slot] at unfit

theorem resolve (cores : Match spent typed void) (loop : Loop) (outcome : Outcome Unit E)
    (unfinished : typed.state ≠ .finished) (empty : typed.slot = none) :
    ∃ typed' void' loop', (Member.typed typed).resolve loop outcome = (.typed typed', loop') ∧
      (Member.void void : Member Unit E).resolve loop outcome = (.void void', loop') ∧
      Match false typed' void' := by
  have waiting_eq := cores.waiting_eq
  rw [Member.resolve_typed typed loop outcome empty]
  cases outcome with
  | value _ =>
      refine ⟨_, { void with isReady := true, waitingHandle := none, state := .finished }, _, rfl,
        ?_, rfl, rfl, .value rfl rfl ?_⟩
      · cases waiting : void.waitingHandle <;>
          simp [Member.resolve, VoidCoroutine.returnVoid, VoidCore.resume, waiting_eq, waiting]
      · cases cores.results with
        | empty _ _ no_exception => exact no_exception
        | spent _ _ finished => exact absurd finished unfinished
        | value slot | exception _ slot => simp [empty] at slot
  | exception thrown =>
      refine ⟨_, { void with
        exception := some thrown, isReady := true, waitingHandle := none, state := .finished }, _,
        rfl, ?_, rfl, rfl, .exception thrown rfl rfl rfl⟩
      cases waiting : void.waitingHandle <;>
        simp [Member.resolve, VoidCoroutine.unhandledException, VoidCore.except, VoidCore.resume,
          waiting_eq, waiting]

end Match

/-! ## The two sides -/

/-- Both promises are in the same situation. -/
structure Linked (spent : Bool) (typed void : Drop.State Unit E) : Prop where
  runtime_eq : typed.runtime = void.runtime
  cores : ∃ left right, typed.core = .typed left ∧ void.core = .void right ∧
    Match spent left right
  invariant : typed.Invariant

theorem resumeNext_runtime {typed void : Drop.State Unit E}
    (runtime_eq : typed.runtime = void.runtime) :
    typed.resumeNext.runtime = void.resumeNext.runtime := by
  unfold Drop.State.resumeNext
  rw [runtime_eq]
  rcases void.runtime.getNext with ⟨_ | handle, runtime⟩
  · rfl
  · simp only [Drop.State.resume]
    cases runtime.status handle <;> rfl

theorem resumeNext_producer (promise : Drop.State Unit E) :
    promise.resumeNext.producer = promise.producer := by
  unfold Drop.State.resumeNext
  rcases promise.runtime.getNext with ⟨_ | handle, runtime⟩
  · rfl
  · simp only [Drop.State.resume]
    cases runtime.status handle <;> rfl

theorem resumeNext_core (promise : Drop.State Unit E) :
    promise.resumeNext.core = (waiter promise.runtime).elim promise.core
      fun _ => promise.core.awaitResume := by
  unfold Drop.State.resumeNext waiter
  rcases popped : promise.runtime.getNext with ⟨_ | handle, runtime⟩
  · rfl
  · rcases Runtime.getNext_popped popped with ⟨status_eq, -⟩
    simp only [Drop.State.resume, status_eq]
    cases handle_status : promise.runtime.status handle <;> simp [Option.filter, handle_status]

theorem finished_of_waiter {promise : Drop.State Unit E} (invariant : promise.Invariant)
    {handle : Handle} (waits : waiter promise.runtime = some handle) :
    promise.core.state = .finished := by
  rcases Option.filter_eq_some_iff.mp waits with ⟨next_eq, waiting⟩
  rw [decide_eq_true_iff] at waiting
  rcases popped : promise.runtime.getNext with ⟨next, runtime⟩
  obtain rfl : next = some handle := by rw [← next_eq, popped]
  rcases Runtime.getNext_popped popped with ⟨-, -, popped_pending, -⟩
  by_contra unfinished
  have unqueued := (invariant.unresolved unfinished handle waiting).2
  omega

namespace Linked

variable {spent : Bool} {typed void : Drop.State Unit E}

/-- A turn of the scheduler is the same on both sides, unless it uses a promise that is spent. -/
theorem resumeNext (linked : Linked spent typed void)
    (unused : spent = true → waiter typed.runtime = none) :
    resumption typed false = resumption void false ∧
      Linked (spent || (resumption typed false).any Observation.spends) typed.resumeNext
        void.resumeNext := by
  have runtime_eq := resumeNext_runtime linked.runtime_eq
  have invariant := linked.invariant.resumeNext
  rcases linked.cores with ⟨left, right, left_eq, right_eq, cores⟩
  have left_core := resumeNext_core typed
  have right_core := resumeNext_core void
  unfold resumption
  rw [← linked.runtime_eq] at right_core ⊢
  cases waits : waiter typed.runtime with
  | none =>
      rw [waits, Option.elim_none] at left_core right_core
      refine ⟨rfl, runtime_eq,
        ⟨left, right, left_core.trans left_eq, right_core.trans right_eq, ?_⟩, invariant⟩
      simpa using cores
  | some handle =>
      have fresh : spent = false := by
        by_contra is_spent
        simp [unused (by simpa using is_spent)] at waits
      subst fresh
      have finished : left.state = .finished := by
        have is_finished := finished_of_waiter linked.invariant waits
        rwa [left_eq] at is_finished
      rcases cores.awaitResume finished handle with ⟨same, after⟩
      rw [waits, Option.elim_some] at left_core right_core
      rw [left_eq] at left_core ⊢
      rw [right_eq] at right_core ⊢
      refine ⟨by simp [same], runtime_eq, ⟨_, _, left_core, right_core, ?_⟩, invariant⟩
      simpa using after

/-- A turn of the scheduler that uses a promise that is spent. -/
theorem resumption_differs (linked : Linked true typed void) {handle : Handle}
    (waits : waiter typed.runtime = some handle) :
    resumption typed false ≠ resumption void false := by
  rcases linked.cores with ⟨left, right, left_eq, right_eq, cores⟩
  unfold resumption
  rw [← linked.runtime_eq, waits, left_eq, right_eq]
  simpa using cores.awaitResume_spent

theorem ready_iff (linked : Linked spent typed void) :
    typed.core.ready = void.core.ready ↔ spent = false := by
  rcases linked.cores with ⟨left, right, left_eq, right_eq, cores⟩
  rw [left_eq, right_eq]
  exact cores.ready_iff

/-- The promises are finished if they are spent. -/
theorem finished_of_spent (linked : Linked true typed void) : typed.core.state = .finished := by
  rcases linked.cores with ⟨left, right, left_eq, right_eq, cores⟩
  rw [left_eq]
  cases cores.results with
  | spent _ _ finished => exact finished

theorem finished_of_ready (linked : Linked spent typed void) (ready : typed.core.ready = true) :
    typed.core.state = .finished := by
  by_contra unfinished
  have not_ready := linked.invariant.valid.unresolved unfinished
  simp [ready] at not_ready

/-- Both `await_ready()` say that the promise is not ready. -/
theorem not_awaitReady (linked : Linked false typed void) :
    typed.core.awaitReady = void.core.awaitReady := by
  rcases linked.cores with ⟨left, right, left_eq, right_eq, cores⟩
  rw [left_eq, right_eq]
  exact cores.awaitReady_eq

/-- Linked promises stay linked, and the program observes the same. -/
def Keeps (spent : Bool) (typed void : Drop.State Unit E) (action : Action E) : Prop :=
  observe typed false action = observe void false action ∧
    Linked (spent || (observe typed false action).any Observation.spends) (advance typed action)
      (advance void action)

theorem coAwait (linked : Linked false typed void) {handle : Handle}
    (enabled : (Drop.Action.coAwait handle).Enabled typed) :
    Keeps false typed void (.coAwait handle) := by
  have awaitReady_eq := linked.not_awaitReady
  have runtime_eq := linked.runtime_eq
  rcases linked.cores with ⟨left, right, left_eq, right_eq, cores⟩
  simp only [Keeps, observe, advance, Drop.State.coAwait, Bool.false_or]
  rw [← awaitReady_eq]
  by_cases ready : typed.core.awaitReady = true
  · have finished : typed.core.state = .finished :=
      linked.finished_of_ready (linked.invariant.valid.ready_eq.trans ready)
    have invariant := linked.invariant.awaitResume finished
    rw [left_eq] at finished
    rcases cores.awaitResume finished handle with ⟨same, after⟩
    simp only [ready, if_true]
    refine ⟨by rw [left_eq, right_eq, same], runtime_eq,
      ⟨(PromiseAwaiter.awaitResume left).2, (VoidAwaiter.awaitResume right).2, ?_, ?_, ?_⟩,
      invariant⟩
    · exact congrArg Member.awaitResume left_eq
    · exact congrArg Member.awaitResume right_eq
    · simpa [left_eq] using after
  · simp only [ready, Bool.false_eq_true, if_false]
    rcases cores.awaitSuspend handle with ⟨left', right', left_ok, right_ok, suspended⟩ |
      ⟨left_error, right_error⟩
    · rw [← left_eq] at left_ok
      rw [← right_eq] at right_ok
      simp only [left_ok, right_ok]
      have waits : Linked false
          { typed with
            core := .typed left', runtime := typed.runtime.setStatus handle (.waiting ()) }
          { void with
            core := .void right', runtime := void.runtime.setStatus handle (.waiting ()) } :=
        ⟨by rw [runtime_eq], ⟨left', right', rfl, rfl, suspended⟩,
          linked.invariant.suspend enabled left_ok⟩
      rcases waits.resumeNext nofun with ⟨same, after⟩
      exact ⟨by rw [same], by simpa [Observation.spends] using after⟩
    · rw [← left_eq] at left_error
      rw [← right_eq] at right_error
      simp only [left_error, right_error]
      refine ⟨trivial, ?_⟩
      simpa [Observation.spends] using linked

theorem unwrap (linked : Linked false typed void) (ready : typed.core.ready = true) :
    Keeps false typed void .unwrap := by
  have finished := linked.finished_of_ready ready
  have invariant := linked.invariant.unwrap
  rcases linked.cores with ⟨left, right, left_eq, right_eq, cores⟩
  rw [left_eq] at finished ready invariant
  rcases cores.unwrap finished ready with ⟨same, after, after_eq, void_eq, unwrapped⟩
  simp only [Keeps, observe, advance, Bool.false_or]
  rw [left_eq, right_eq]
  refine ⟨by rw [same], linked.runtime_eq, ⟨after, right, after_eq, void_eq, ?_⟩, invariant⟩
  simpa using unwrapped

theorem resolve (linked : Linked spent typed void) {outcome : Outcome Unit E}
    (producer_eq : typed.producer = void.producer)
    (enabled : (Drop.Action.resolve outcome).Enabled typed) :
    Keeps spent typed void (.resolve outcome) := by
  have invariant := linked.invariant.resolve enabled
  have unfinished : typed.core.state ≠ .finished := by
    intro finished
    have running : typed.runtime.status typed.producer = .running := enabled
    have done := (linked.invariant.resolved finished).1
    simp [running] at done
  have not_ready := linked.invariant.valid.unresolved unfinished
  have fresh : spent = false := by
    by_contra is_spent
    obtain rfl : spent = true := by simpa using is_spent
    exact unfinished linked.finished_of_spent
  subst fresh
  rcases linked.cores with ⟨left, right, left_eq, right_eq, cores⟩
  rw [left_eq] at unfinished not_ready
  have empty : left.slot = none := by simpa [Member.ready, PromiseCore.ready] using not_ready
  rcases cores.resolve typed.runtime.loop outcome unfinished empty with
    ⟨left', right', loop, left_resolved, right_resolved, resolved⟩
  rw [← left_eq, linked.runtime_eq] at left_resolved
  rw [← right_eq, linked.runtime_eq] at right_resolved
  refine ⟨rfl, ?_, ⟨left', right', ?_, ?_, resolved⟩, invariant⟩
  · simp only [advance, Drop.State.resolve, linked.runtime_eq, left_resolved, right_resolved,
      producer_eq]
  · simp only [advance, Drop.State.resolve, linked.runtime_eq, left_resolved]
  · simp only [advance, Drop.State.resolve, right_resolved]

theorem other (linked : Linked spent typed void) {action : Runtime.Action}
    (enabled : (Drop.Action.other action).Enabled typed) :
    Keeps spent typed void (.other action) := by
  refine ⟨rfl, ?_, ?_, linked.invariant.step enabled⟩
  · simp only [advance, linked.runtime_eq]
  · simpa [observe, advance] using linked.cores

/-- `co_await` of a spent promise throws on one side, and gets the result on the other. -/
theorem coAwait_differs (linked : Linked true typed void) (handle : Handle) :
    observe typed false (.coAwait handle) ≠ observe void false (.coAwait handle) := by
  have finished := linked.finished_of_spent
  rcases linked.cores with ⟨left, right, left_eq, right_eq, cores⟩
  rw [left_eq] at finished
  cases cores.results with
  | spent no_slot isReady =>
      have left_unready : typed.core.awaitReady = false := by
        rw [left_eq, Member.awaitReady_typed, no_slot]
        rfl
      have right_ready : void.core.awaitReady = true := by
        rw [right_eq]
        simp [Member.awaitReady, VoidAwaiter.awaitReady, isReady]
      have left_refuses : typed.core.awaitSuspend handle = .error alreadyAwaited := by
        rw [Member.awaitSuspend_eq_setHandle]
        refine Member.setHandle_of_not_init handle ?_
        rw [left_eq, finished]
        simp
      simp only [observe, left_unready, right_ready, left_refuses, if_true, Bool.false_eq_true,
        if_false]
      rw [right_eq, obtained, Match.awaitResume_void isReady]
      cases right.exception <;> simp [Effect.of]

end Linked

/-! ## Runs -/

/-- The two sides of a run. -/
structure Matched (pair : Pair E) : Prop where
  runtime_eq : pair.typed.promise.runtime = pair.void.promise.runtime
  producer_eq : pair.typed.promise.producer = pair.void.promise.producer
  dropped_eq : pair.typed.dropped = pair.void.dropped
  agrees : pair.Agrees
  linked : pair.typed.dropped = false →
    Linked pair.typed.spent pair.typed.promise pair.void.promise

theorem advance_producer (promise : Drop.State Unit E) (action : Action E) :
    (advance promise action).producer = promise.producer := by
  cases action with
  | coAwait handle =>
      simp only [advance, Drop.State.coAwait]
      split
      · rfl
      split
      · exact resumeNext_producer _
      · rfl
  | resumeNext => exact resumeNext_producer promise
  | ready | unwrap | resolve _ | drop | other _ => rfl

theorem Side.perform_spent (side : Side E) (action : Action E) :
    (side.perform action).spent =
      (side.spent || (observe side.promise side.dropped action).any Observation.spends) := by
  simp [Side.perform, Side.spent, List.any_append]

namespace Matched

variable {pair : Pair E} {action : Action E}

/-- After a step, the sides agree if the step is observed the same on both. -/
theorem perform_agrees_iff (matched : Matched pair) :
    (Pair.mk (pair.typed.perform action) (pair.void.perform action)).Agrees ↔
      observe pair.typed.promise pair.typed.dropped action =
        observe pair.void.promise pair.void.dropped action := by
  have agrees : pair.typed.log = pair.void.log := matched.agrees
  simp [Pair.Agrees, Side.perform, agrees]

theorem of_keeps (matched : Matched pair) (available : pair.typed.dropped = false)
    (keeps : Linked.Keeps pair.typed.spent pair.typed.promise pair.void.promise action) :
    Matched ⟨pair.typed.perform action, pair.void.perform action⟩ := by
  have void_available := matched.dropped_eq.symm.trans available
  rcases keeps with ⟨same, linked⟩
  refine ⟨linked.runtime_eq, ?_, ?_, ?_, fun _ => ?_⟩
  · simp only [Side.perform, advance_producer]
    exact matched.producer_eq
  · simp only [Side.perform, matched.dropped_eq]
  · rw [matched.perform_agrees_iff, available, void_available]
    exact same
  · rw [Side.perform_spent, available]
    exact linked

/-- A step after which nobody uses the promise any more. -/
theorem of_dropped (matched : Matched pair) (dropped : (pair.typed.perform action).dropped = true)
    (runtime_eq : (advance pair.typed.promise action).runtime =
      (advance pair.void.promise action).runtime)
    (same : observe pair.typed.promise pair.typed.dropped action =
      observe pair.void.promise pair.void.dropped action) :
    Matched ⟨pair.typed.perform action, pair.void.perform action⟩ := by
  refine ⟨runtime_eq, ?_, ?_, matched.perform_agrees_iff.mpr same, fun available => ?_⟩
  · simp only [Side.perform, advance_producer]
    exact matched.producer_eq
  · simp only [Side.perform, matched.dropped_eq]
  · simp [dropped] at available

/-- A step that the two sides take together. -/
theorem step (matched : Matched pair)
    (enabled : Enabled pair.typed.promise pair.typed.dropped action)
    (orderly : Orderly pair action) :
    Matched ⟨pair.typed.perform action, pair.void.perform action⟩ := by
  have runtime_eq := matched.runtime_eq
  by_cases dropped : pair.typed.dropped = true
  · have void_dropped := matched.dropped_eq.symm.trans dropped
    have still : (pair.typed.perform action).dropped = true := by simp [Side.perform, dropped]
    cases action with
    | coAwait handle => simp [Enabled, dropped] at enabled
    | ready | unwrap => simp [Enabled, dropped] at enabled
    | resolve outcome => simp [Enabled, dropped] at enabled
    | drop => simp [Enabled, dropped] at enabled
    | resumeNext =>
        refine matched.of_dropped still (resumeNext_runtime runtime_eq) ?_
        simp only [observe, resumption, dropped, void_dropped, runtime_eq, if_true]
    | other action => exact matched.of_dropped still (by simp only [advance, runtime_eq]) rfl
  · have available : pair.typed.dropped = false := by simpa using dropped
    have linked := matched.linked available
    have fresh : pair.typed.spent = false →
        Linked false pair.typed.promise pair.void.promise := fun unspent => unspent ▸ linked
    cases action with
    | coAwait handle =>
        have unspent : pair.typed.spent = false := orderly
        refine matched.of_keeps available ?_
        rw [unspent]
        exact (fresh unspent).coAwait enabled.2
    | ready =>
        have unspent : pair.typed.spent = false := orderly
        refine matched.of_keeps available ⟨?_, ?_⟩
        · simp only [observe, linked.ready_iff.mpr unspent]
        · simpa [observe, Observation.spends, advance] using linked
    | unwrap =>
        refine matched.of_keeps available ?_
        rw [orderly.1]
        exact (fresh orderly.1).unwrap orderly.2
    | resolve outcome =>
        exact matched.of_keeps available (linked.resolve matched.producer_eq enabled.2)
    | drop =>
        refine matched.of_dropped (by simp [Side.perform, Action.isDrop]) ?_ rfl
        rcases linked.cores with ⟨left, right, left_eq, right_eq, cores⟩
        have state_eq : pair.typed.promise.core.state = pair.void.promise.core.state := by
          rw [left_eq, right_eq]
          exact cores.state_eq
        simp only [advance, destroyCoroutine, state_eq, runtime_eq, matched.producer_eq]
    | resumeNext =>
        refine matched.of_keeps available (linked.resumeNext fun spent => ?_)
        rcases orderly spent with nobody | dropped
        · exact nobody
        · simp [available] at dropped
    | other action => exact matched.of_keeps available (linked.other enabled)

/-- Any other step is observed. -/
theorem orderly_of_agrees (matched : Matched pair)
    (enabled : Enabled pair.typed.promise pair.typed.dropped action)
    (agrees : (Pair.mk (pair.typed.perform action) (pair.void.perform action)).Agrees) :
    Orderly pair action := by
  rw [matched.perform_agrees_iff] at agrees
  by_cases dropped : pair.typed.dropped = true
  · cases action with
    | coAwait handle => simp [Enabled, dropped] at enabled
    | ready | unwrap => simp [Enabled, dropped] at enabled
    | resumeNext => exact fun _ => .inr dropped
    | resolve _ | drop | other _ => trivial
  · have available : pair.typed.dropped = false := by simpa using dropped
    have void_available := matched.dropped_eq.symm.trans available
    have linked := matched.linked available
    have unused : pair.typed.spent = true → Linked true pair.typed.promise pair.void.promise :=
      fun spent => spent ▸ linked
    rw [available, void_available] at agrees
    cases action with
    | coAwait handle =>
        change pair.typed.spent = false
        by_contra spent
        exact (unused (by simpa using spent)).coAwait_differs handle agrees
    | ready =>
        simp only [observe, List.cons.injEq, Observation.ready.injEq, and_true] at agrees
        exact linked.ready_iff.mp agrees
    | unwrap =>
        simp only [observe, List.cons.injEq, Observation.unwrapped.injEq, and_true] at agrees
        rcases linked.cores with ⟨left, right, left_eq, right_eq, cores⟩
        rw [left_eq, right_eq] at agrees
        change pair.typed.spent = false ∧ pair.typed.promise.core.ready = true
        rw [left_eq]
        by_contra unfit
        rw [not_and_or, Bool.not_eq_false, Bool.not_eq_true] at unfit
        exact cores.unwrap_differs unfit agrees
    | resumeNext =>
        intro spent
        left
        cases waits : waiter pair.typed.promise.runtime with
        | none => rfl
        | some handle => exact absurd agrees ((unused spent).resumption_differs waits)
    | resolve _ | drop | other _ => trivial

end Matched

theorem matched_of_reachable {pair : Pair E} (reached : (system E).ReachableVia Orderly pair) :
    Matched pair := by
  refine reached.invariant Matched ?_ ?_
  · rintro _ ⟨producer, rfl⟩
    refine ⟨rfl, rfl, rfl, rfl, fun _ => ⟨rfl, ?_, ?_⟩⟩
    · exact ⟨_, _, rfl, rfl, rfl, rfl, .empty rfl rfl rfl⟩
    · exact Drop.State.invariant_of_reachable (.start ⟨producer, .inl rfl⟩)
  · exact fun _ _ matched enabled orderly => matched.step enabled.1 orderly

/-- Programs that use a promise in an orderly way cannot tell the two templates apart, and the
first use that is not orderly tells them apart. -/
theorem agrees_iff_orderly {pair : Pair E} (reached : (system E).ReachableVia Orderly pair) :
    pair.Agrees ∧ ∀ action, (system E).Enabled pair action →
      (((system E).perform pair action).Agrees ↔ Orderly pair action) := by
  have matched := matched_of_reachable reached
  refine ⟨matched.agrees, fun action enabled => ⟨fun agrees => ?_, fun orderly => ?_⟩⟩
  · exact matched.orderly_of_agrees enabled.1 agrees
  · exact (matched.step enabled.1 orderly).agrees

/-- A value is taken by `co_await`, and the promise is not ready any more. -/
theorem agrees_consumed_value : ∃ pair, (system ℕ).ReachableVia Orderly pair ∧ pair.Agrees ∧
    pair.typed.log = [.awaited 1 .returned, .ready false] := by
  have resolved := (TransitionSystem.ReachableVia.start ⟨0, rfl⟩ :
    (system ℕ).ReachableVia Orderly _).step (Action.resolve (.value ()))
      ⟨⟨rfl, rfl⟩, rfl, rfl⟩ trivial
  have awaited := resolved.step (Action.coAwait 1)
    ⟨⟨rfl, by decide, rfl⟩, rfl, by decide, rfl⟩ rfl
  have asked := awaited.step Action.ready ⟨rfl, rfl⟩ rfl
  exact ⟨_, asked, (agrees_iff_orderly asked).1, rfl⟩

/-- An exception is thrown by `co_await`, and only the `Promise<void>` stays ready. -/
theorem consumed_exception_differs :
    ¬∀ pair, (system ℕ).Reachable pair → pair.Agrees := by
  intro always
  have resolved := (TransitionSystem.ReachableVia.start ⟨0, rfl⟩ :
    (system ℕ).Reachable _).step (Action.resolve (.exception 7)) ⟨⟨rfl, rfl⟩, rfl, rfl⟩ trivial
  have awaited := resolved.step (Action.coAwait 1)
    ⟨⟨rfl, by decide, rfl⟩, rfl, by decide, rfl⟩ trivial
  have asked := awaited.step Action.ready ⟨rfl, rfl⟩ trivial
  exact absurd (always _ asked) (by unfold Pair.Agrees; decide)

end Uvco.VoidPromise
