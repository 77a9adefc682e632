import Uvco.Library.Transition
import Uvco.MultiPromise.Core
import Uvco.Runtime

/-!
# What a `MultiPromise` transports

A generator, its `MultiPromise`, and the coroutines that `co_await` it, one at a
time, in every interleaving with the scheduler and with whatever else the
generator or its consumers wait for. No coroutine is destroyed while it awaits.

The state remembers what the generator yielded and how it ended, what the
consumers obtained, and whether every assertion held so far.
-/

namespace Uvco.MultiPromise

variable {T E : Type}

/-- What a coroutine waits for at the core. -/
inductive Point where
  /-- A consumer, in `co_await multiPromise`. -/
  | awaits
  /-- The generator, in `co_yield`. -/
  | atYield
deriving DecidableEq, Repr

/-- How a generator ended. -/
inductive Ending (E : Type) where
  | returned
  | threw (exception : E)
deriving DecidableEq, Repr

/-- What a consumer obtains after the end. -/
def Ending.obtained : Ending E → Obtained (Option T) E
  | .returned => .returned none
  | .threw thrown => .rethrown thrown

/-- What the end leaves in the slot. -/
def Ending.slot : Ending E → Option (Outcome T E)
  | .returned => none
  | .threw thrown => some (.exception thrown)

/-- A generator with its consumers and the history of what it transported. -/
structure State (T E : Type) where
  generator : Handle
  core : MultiPromiseCore T E
  runtime : Runtime Point := {}
  /-- Every assertion held so far. -/
  asserted : Bool := true
  /-- The values of the `co_yield`s, in order. -/
  yielded : List T := []
  /-- How the generator ended. -/
  ended : Option (Ending E) := none
  /-- What the `co_await`s evaluated to, in order. -/
  obtained : List (Obtained (Option T) E) := []

namespace State

variable (state : State T E) (handle : Handle)

/-- The generator has just been started. -/
def initial (generator : Handle) : State T E where
  generator := generator
  core := { coroutine := some generator }

/-- A generator is started while other coroutines exist. -/
def started (runtime : Runtime Point) (generator : Handle) : State T E :=
  { initial generator with runtime }

/-- The coroutine is suspended in `co_await multiPromise`. -/
def Awaits : Prop :=
  state.runtime.status handle = .waiting .awaits

/-- `await_resume` in a running coroutine. -/
def finishAwait : State T E :=
  let (obtained, core) := MultiPromiseAwaiter.awaitResume (some state.core)
  { state with
    core := core.getD state.core
    asserted := state.asserted && MultiPromiseAwaiter.awaitResumeAsserts (some state.core)
    obtained := state.obtained ++ [obtained] }

/-- A coroutine goes on where it was suspended. -/
def resume : State T E :=
  let running := { state with runtime := state.runtime.setStatus handle .running }
  match state.runtime.status handle with
  | .waiting .awaits => running.finishAwait
  | .waiting .atYield | .elsewhere => running
  | .running | .done => state

/-- The scheduler resumes the next coroutine, if there is one. -/
def resumeNext : State T E :=
  let (next, runtime) := state.runtime.getNext
  match next with
  | some handle => ({ state with runtime } : State T E).resume handle
  | none => { state with runtime }

/-- `co_await multiPromise` in a running coroutine. -/
def coAwait : State T E :=
  if MultiPromiseAwaiter.awaitReady (some state.core) then
    state.finishAwait
  else
    let (core, loop) := MultiPromiseAwaiter.awaitSuspend state.core handle state.runtime.loop
    ({ state with
        core
        runtime := ({ state.runtime with loop } : Runtime Point).setStatus handle (.waiting .awaits)
        asserted := state.asserted && MultiPromiseAwaiter.awaitSuspendAsserts state.core handle } :
      State T E).resumeNext

/-- `co_yield value` in the generator. -/
def yield (value : T) : State T E :=
  let (core, loop) := Generator.yieldValue state.core state.runtime.loop value
  let runtime := { state.runtime with loop }
  let asserted := state.asserted && Generator.yieldValueAsserts state.core &&
    state.core.resumeAsserts
  let yielded := state.yielded ++ [value]
  if Generator.yieldReady core then
    { state with core, runtime, asserted, yielded }
  else
    { state with
      core := core.suspendGenerator
      runtime := runtime.setStatus state.generator (.waiting .atYield)
      asserted := asserted && core.suspendGeneratorAsserts
      yielded }

/-- `return_void` or `unhandled_exception` of the generator. -/
def finish (ending : Ending E) : State T E :=
  let (core, loop) :=
    match ending with
    | .returned => Generator.returnVoid state.core state.runtime.loop
    | .threw exception => Generator.unhandledException state.core state.runtime.loop exception
  { state with
    core
    runtime := ({ state.runtime with loop } : Runtime Point).setStatus state.generator .done
    asserted := state.asserted && state.core.resumeAsserts
    ended := some ending }

end State

/-- What the generator, its consumers and the scheduler can do next. -/
inductive Action (T E : Type) where
  | coAwait (handle : Handle)
  | yield (value : T)
  | finish (ending : Ending E)
  /-- A turn of `Scheduler::runAll`. -/
  | resumeNext
  /-- A coroutine does something that does not involve the generator's core. -/
  | other (action : Runtime.Action)

namespace Action

/-- The generator yields, returns or throws. -/
def isOutput : Action T E → Bool
  | .yield _ | .finish _ => true
  | .coAwait _ | .resumeNext | .other _ => false

/-- Nobody else awaits when a coroutine starts to, and the generator does not await itself. -/
def Enabled (state : State T E) : Action T E → Prop
  | .coAwait handle => handle ≠ state.generator ∧ state.runtime.status handle = .running ∧
      ∀ other, ¬state.Awaits other
  | .yield _ | .finish _ => state.runtime.status state.generator = .running
  | .resumeNext => True
  | .other action => action.Enabled state.runtime ∧ action ≠ .finish state.generator

/-- The state after an action. -/
def perform (state : State T E) : Action T E → State T E
  | .coAwait handle => state.coAwait handle
  | .yield value => state.yield value
  | .finish ending => state.finish ending
  | .resumeNext => state.resumeNext
  | .other action => { state with runtime := action.perform state.runtime }

end Action

/-- All programs around one generator. -/
def system (T E : Type) : TransitionSystem (State T E) (Action T E) where
  Initial state := ∃ generator, state = .initial generator
  Enabled state action := action.Enabled state
  perform state action := action.perform state

namespace State

/-! ## What has been transported -/

/-- The value that was yielded and not consumed yet. -/
def inSlot (state : State T E) : List T :=
  match state.core.slot with
  | some (.value value) => [value]
  | some (.exception _) | none => []

/-- The consumers obtained the yielded values in order, up to the one in the slot, and after the
last one nothing but the ending. -/
def Transported (state : State T E) : Prop :=
  ∃ values endings, state.obtained = values.map (fun value => .returned (some value)) ++ endings ∧
    state.yielded = values ++ state.inSlot ∧ (endings ≠ [] → state.inSlot = []) ∧
    ∀ entry ∈ endings, ∃ ending, state.ended = some ending ∧ entry = ending.obtained

/-! ## The invariant -/

/-- How generator, core and consumer fit together; `consumer` is the coroutine that awaits. -/
inductive Phase (state : State T E) (consumer : Option Handle) : Prop where
  /-- The generator is on its way to the next value. -/
  | producing (empty : state.core.slot = none) (terminated : state.core.terminated = false)
      (suspended : state.core.suspended = false) (open_ : state.ended = none)
      (registered : state.core.waitingHandle = consumer)
      (state_iff : state.core.state = .waitedOn ↔ consumer.isSome = true)
      (not_queued : ∀ handle, consumer = some handle → state.runtime.pending handle = 0)
      (generator : state.runtime.status state.generator = .running ∨
        state.runtime.status state.generator = .elsewhere ∨
        state.runtime.status state.generator = .waiting .atYield ∧
          state.runtime.pending state.generator = 1)
  /-- The generator is suspended in `co_yield`; the value may have been consumed already. -/
  | parked (value : Option T) (slot : state.core.slot = value.map .value)
      (terminated : state.core.terminated = false) (suspended : state.core.suspended = true)
      (open_ : state.ended = none) (nobody : state.core.waitingHandle = none)
      (state_eq : state.core.state = .finished)
      (woken : ∀ handle, consumer = some handle →
        state.runtime.pending handle = 1 ∧ value.isSome = true)
      (generator : state.runtime.status state.generator = .waiting .atYield)
      (generator_not_queued : state.runtime.pending state.generator = 0)
  /-- The generator has returned or thrown. -/
  | ended (ending : Ending E) (slot : state.core.slot = ending.slot)
      (terminated : state.core.terminated = true) (ended_eq : state.ended = some ending)
      (nobody : state.core.waitingHandle = none) (state_eq : state.core.state = .finished)
      (woken : ∀ handle, consumer = some handle → state.runtime.pending handle = 1)
      (generator : state.runtime.status state.generator = .done)

/-- What holds of a generator in every reachable state. -/
structure Invariant (state : State T E) : Prop where
  consistent : state.runtime.Consistent
  coroutine : state.core.coroutine = some state.generator
  asserted : state.asserted = true
  generator_only : ∀ handle, state.runtime.status handle = .waiting .atYield →
    handle = state.generator
  generator_not_awaiting : ¬state.Awaits state.generator
  transported : state.Transported
  phase : ∃ consumer, (∀ handle, state.Awaits handle ↔ consumer = some handle) ∧
    state.Phase consumer

/-- A generator can be started while no coroutine is suspended at a point described here. -/
theorem started_invariant {runtime : Runtime Point} {generator : Handle}
    (consistent : runtime.Consistent) (nobody : ∀ handle point, runtime.status handle ≠
      .waiting point) (running : runtime.status generator = .running) :
    (started runtime generator : State T E).Invariant where
  consistent := consistent
  coroutine := rfl
  asserted := rfl
  generator_only := fun handle at_yield => absurd at_yield (nobody handle _)
  generator_not_awaiting := nobody generator _
  transported := ⟨[], [], rfl, rfl, by simp, by simp⟩
  phase := ⟨none, fun handle => ⟨fun awaits => absurd awaits (nobody handle _), by simp⟩,
    .producing rfl rfl rfl rfl rfl (by simp [started, initial]) (by simp) (.inl running)⟩

theorem initial_invariant (generator : Handle) : (initial generator : State T E).Invariant := by
  change (started {} generator : State T E).Invariant
  exact started_invariant (.empty _) (fun _ _ waiting => nomatch waiting) rfl

theorem inSlot_of_value {state : State T E} {value : T}
    (slot_eq : state.core.slot = some (.value value)) : state.inSlot = [value] := by
  simp [inSlot, slot_eq]

theorem inSlot_of_ending {state : State T E} (ending : Ending E)
    (slot_eq : state.core.slot = ending.slot) : state.inSlot = [] := by
  cases ending <;> simp [inSlot, slot_eq, Ending.slot]

/-- The history depends on the slot and the recorded events only. -/
theorem Transported.congr {before after : State T E} (transported : before.Transported)
    (slot_eq : after.core.slot = before.core.slot) (yielded_eq : after.yielded = before.yielded)
    (ended_eq : after.ended = before.ended) (obtained_eq : after.obtained = before.obtained) :
    after.Transported := by
  have inSlot_eq : after.inSlot = before.inSlot := by simp only [inSlot, slot_eq]
  unfold Transported
  rw [inSlot_eq, yielded_eq, ended_eq, obtained_eq]
  exact transported

theorem Transported.open_ {state : State T E} (transported : state.Transported)
    (open_ : state.ended = none) :
    ∃ values, state.obtained = values.map (fun value => .returned (some value)) ∧
      state.yielded = values ++ state.inSlot := by
  rcases transported with ⟨values, endings, obtained_eq, yielded_eq, -, endings_eq⟩
  have no_endings : endings = [] := by
    rw [List.eq_nil_iff_forall_not_mem]
    intro entry entry_mem
    rcases endings_eq entry entry_mem with ⟨ending, ended_eq, -⟩
    simp [open_] at ended_eq
  exact ⟨values, by simpa [no_endings] using obtained_eq, yielded_eq⟩

theorem finishAwait_of_value {state : State T E} {value : T}
    (slot_eq : state.core.slot = some (.value value)) :
    state.finishAwait = { state with
      core := { state.core with slot := none }
      obtained := state.obtained ++ [.returned (some value)] } := by
  simp [finishAwait, MultiPromiseAwaiter.awaitResume, MultiPromiseAwaiter.awaitResumeAsserts,
    slot_eq]

theorem finishAwait_of_ending {state : State T E} {ending : Ending E}
    (slot_eq : state.core.slot = ending.slot) (terminated : state.core.terminated = true) :
    state.finishAwait = { state with obtained := state.obtained ++ [ending.obtained] } := by
  cases ending <;>
    simp [finishAwait, MultiPromiseAwaiter.awaitResume, MultiPromiseAwaiter.awaitResumeAsserts,
      MultiPromiseCore.isTerminated, slot_eq, terminated, Ending.slot, Ending.obtained]

theorem Transported.finishAwait_value {state : State T E} (transported : state.Transported)
    {value : T} (slot_eq : state.core.slot = some (.value value)) (open_ : state.ended = none) :
    state.finishAwait.Transported := by
  rcases transported.open_ open_ with ⟨values, obtained_eq, yielded_eq⟩
  rw [finishAwait_of_value slot_eq]
  refine ⟨values ++ [value], [], ?_, ?_, by simp, by simp⟩
  · simp [obtained_eq]
  · rw [inSlot_of_value slot_eq] at yielded_eq
    simp [inSlot, yielded_eq]

theorem Transported.finishAwait_ending {state : State T E} (transported : state.Transported)
    {ending : Ending E} (slot_eq : state.core.slot = ending.slot)
    (terminated : state.core.terminated = true) (ended_eq : state.ended = some ending) :
    state.finishAwait.Transported := by
  rcases transported with ⟨values, endings, obtained_eq, yielded_eq, -, endings_eq⟩
  rw [finishAwait_of_ending slot_eq terminated]
  refine ⟨values, endings ++ [ending.obtained], by simp [obtained_eq], yielded_eq, ?_, ?_⟩
  · exact fun _ => inSlot_of_ending ending slot_eq
  · intro entry entry_mem
    rcases List.mem_append.mp entry_mem with older | newest
    · exact endings_eq entry older
    · exact ⟨ending, ended_eq, List.mem_singleton.mp newest⟩

/-- Changes around the generator that leave coroutines suspended here alone. -/
theorem Invariant.setRuntime {state : State T E} (invariant : state.Invariant)
    {runtime : Runtime Point} (consistent : runtime.Consistent)
    (waiting_iff : ∀ handle point, runtime.status handle = .waiting point ↔
      state.runtime.status handle = .waiting point)
    (pending_eq : ∀ handle point, state.runtime.status handle = .waiting point →
      runtime.pending handle = state.runtime.pending handle)
    (generator_active : state.runtime.status state.generator = .running ∨
      state.runtime.status state.generator = .elsewhere →
      runtime.status state.generator = .running ∨ runtime.status state.generator = .elsewhere)
    (generator_done : state.runtime.status state.generator = .done →
      runtime.status state.generator = .done) :
    ({ state with runtime } : State T E).Invariant where
  consistent := consistent
  coroutine := invariant.coroutine
  asserted := invariant.asserted
  generator_only := fun handle suspended =>
    invariant.generator_only handle ((waiting_iff handle _).mp suspended)
  generator_not_awaiting := fun awaits =>
    invariant.generator_not_awaiting ((waiting_iff _ _).mp awaits)
  transported := invariant.transported.congr rfl rfl rfl rfl
  phase := by
    rcases invariant.phase with ⟨consumer, consumer_iff, phase⟩
    have awaits : ∀ {handle}, consumer = some handle → state.Awaits handle :=
      fun is_consumer => (consumer_iff _).mpr is_consumer
    refine ⟨consumer, fun handle => (waiting_iff handle _).trans (consumer_iff handle), ?_⟩
    cases phase with
    | producing empty terminated suspended open_ registered state_iff not_queued generator =>
        refine .producing empty terminated suspended open_ registered state_iff ?_ ?_
        · exact fun handle is_consumer =>
            (pending_eq handle _ (awaits is_consumer)).trans (not_queued handle is_consumer)
        · rcases generator with running | suspended_elsewhere | ⟨at_yield, queued⟩
          · exact (generator_active (.inl running)).imp_right .inl
          · exact (generator_active (.inr suspended_elsewhere)).imp_right .inl
          · exact .inr (.inr ⟨(waiting_iff _ _).mpr at_yield,
              (pending_eq _ _ at_yield).trans queued⟩)
    | parked value slot terminated suspended open_ nobody state_eq woken generator not_queued =>
        refine .parked value slot terminated suspended open_ nobody state_eq ?_
          ((waiting_iff _ _).mpr generator) ((pending_eq _ _ generator).trans not_queued)
        intro handle is_consumer
        rcases woken handle is_consumer with ⟨queued, filled⟩
        exact ⟨(pending_eq handle _ (awaits is_consumer)).trans queued, filled⟩
    | ended ending slot terminated ended_eq nobody state_eq woken generator =>
        refine .ended ending slot terminated ended_eq nobody state_eq ?_ (generator_done generator)
        exact fun handle is_consumer =>
          (pending_eq handle _ (awaits is_consumer)).trans (woken handle is_consumer)

/-- A `co_await` that does not suspend, or that was woken, evaluates to the next value or to the
ending. -/
theorem Invariant.finishAwait {state : State T E} (invariant : state.Invariant)
    (nobody : ∀ handle, ¬state.Awaits handle)
    (ready : MultiPromiseAwaiter.awaitReady (some state.core) = true) :
    state.finishAwait.Invariant := by
  rcases invariant.phase with ⟨consumer, consumer_iff, phase⟩
  obtain rfl : consumer = none := by
    rw [Option.eq_none_iff_forall_ne_some]
    exact fun handle is_consumer => nobody handle ((consumer_iff handle).mpr is_consumer)
  cases phase with
  | producing empty terminated =>
      simp [MultiPromiseAwaiter.awaitReady, MultiPromiseCore.isTerminated, empty, terminated]
        at ready
  | parked value slot terminated suspended open_ unregistered state_eq woken generator not_queued =>
      cases value with
      | none =>
          simp [MultiPromiseAwaiter.awaitReady, MultiPromiseCore.isTerminated, slot, terminated]
            at ready
      | some value =>
          have transported := invariant.transported.finishAwait_value slot open_
          rw [finishAwait_of_value slot] at transported ⊢
          refine ⟨invariant.consistent, invariant.coroutine, invariant.asserted,
            invariant.generator_only, invariant.generator_not_awaiting, transported, none,
            consumer_iff, ?_⟩
          exact .parked none rfl terminated suspended open_ unregistered state_eq (by simp)
            generator not_queued
  | ended ending slot terminated ended_eq unregistered state_eq woken generator =>
      have transported := invariant.transported.finishAwait_ending slot terminated ended_eq
      rw [finishAwait_of_ending slot terminated] at transported ⊢
      refine ⟨invariant.consistent, invariant.coroutine, invariant.asserted,
        invariant.generator_only, invariant.generator_not_awaiting, transported, none,
        consumer_iff, ?_⟩
      exact .ended ending slot terminated ended_eq unregistered state_eq woken generator

/-- A consumer that is in the scheduler queue finds a value or the ending. -/
theorem Invariant.ready_of_queued {state : State T E} (invariant : state.Invariant)
    {handle : Handle} (awaits : state.Awaits handle) (queued : 0 < state.runtime.pending handle) :
    state.runtime.pending handle = 1 ∧
      MultiPromiseAwaiter.awaitReady (some state.core) = true := by
  rcases invariant.phase with ⟨consumer, consumer_iff, phase⟩
  have is_consumer := (consumer_iff handle).mp awaits
  cases phase with
  | producing _ _ _ _ _ _ not_queued =>
      rw [not_queued handle is_consumer] at queued
      exact absurd queued (Nat.lt_irrefl 0)
  | parked value slot _ _ _ _ _ woken =>
      rcases woken handle is_consumer with ⟨once, filled⟩
      exact ⟨once, by simp [MultiPromiseAwaiter.awaitReady, slot, filled]⟩
  | ended _ _ terminated _ _ _ woken =>
      exact ⟨woken handle is_consumer,
        by simp [MultiPromiseAwaiter.awaitReady, MultiPromiseCore.isTerminated, terminated]⟩

theorem Invariant.handOut_consumer {state : State T E} (invariant : state.Invariant)
    {handle : Handle} {runtime : Runtime Point}
    (popped : state.runtime.getNext = (some handle, runtime)) (awaits : state.Awaits handle) :
    let running := { state with runtime := runtime.setStatus handle .running }
    running.Invariant ∧ (∀ other, ¬running.Awaits other) ∧
      MultiPromiseAwaiter.awaitReady (some running.core) = true := by
  rcases invariant.consistent.getNext_some popped with
    ⟨status_eq, -, next_pending, other_pending⟩
  have runtime_consistent : runtime.Consistent := by
    simpa [popped] using invariant.consistent.getNext
  rcases invariant.ready_of_queued awaits (by omega) with ⟨once, ready⟩
  rcases invariant.phase with ⟨consumer, consumer_iff, phase⟩
  obtain rfl : consumer = some handle := (consumer_iff handle).mp awaits
  have generator_ne : state.generator ≠ handle := by
    rintro rfl
    exact invariant.generator_not_awaiting awaits
  have generator_status : (runtime.setStatus handle .running).status state.generator =
      state.runtime.status state.generator := by
    rw [Runtime.setStatus_status_of_ne _ generator_ne, status_eq]
  have nobody : ∀ other,
      (runtime.setStatus handle .running).status other ≠ .waiting .awaits := by
    intro other other_awaits
    by_cases same : other = handle
    · simp [same] at other_awaits
    · rw [Runtime.setStatus_status_of_ne _ same, status_eq] at other_awaits
      exact same (Option.some.inj ((consumer_iff other).mp other_awaits)).symm
  refine ⟨⟨runtime_consistent.setStatus _ (by omega), invariant.coroutine, invariant.asserted, ?_,
    nobody _, invariant.transported.congr rfl rfl rfl rfl, none, ?_, ?_⟩, nobody, ready⟩
  · intro other at_yield
    by_cases same : other = handle
    · simp [same] at at_yield
    · change (runtime.setStatus handle .running).status other = _ at at_yield
      rw [Runtime.setStatus_status_of_ne _ same, status_eq] at at_yield
      exact invariant.generator_only other at_yield
  · simpa [Awaits] using nobody
  · cases phase with
    | producing _ _ _ _ _ _ not_queued =>
        rw [not_queued handle rfl] at once
        simp at once
    | parked value slot terminated suspended open_ unregistered state_eq woken generator
        not_queued =>
        refine .parked value slot terminated suspended open_ unregistered state_eq (by simp)
          (generator_status.trans generator) ?_
        exact (other_pending _ generator_ne).trans not_queued
    | ended ending slot terminated ended_eq unregistered state_eq woken generator =>
        exact .ended ending slot terminated ended_eq unregistered state_eq (by simp)
          (generator_status.trans generator)

theorem Invariant.handOut_generator {state : State T E} (invariant : state.Invariant)
    {handle : Handle} {runtime : Runtime Point}
    (popped : state.runtime.getNext = (some handle, runtime))
    (at_yield : state.runtime.status handle = .waiting .atYield) :
    ({ state with runtime := runtime.setStatus handle .running } : State T E).Invariant := by
  rcases invariant.consistent.getNext_some popped with
    ⟨status_eq, -, next_pending, other_pending⟩
  have runtime_consistent : runtime.Consistent := by
    simpa [popped] using invariant.consistent.getNext
  obtain rfl := invariant.generator_only handle at_yield
  rcases invariant.phase with ⟨consumer, consumer_iff, phase⟩
  have awaits_iff : ∀ other, (runtime.setStatus state.generator .running).status other =
      .waiting .awaits ↔ consumer = some other := by
    intro other
    by_cases same : other = state.generator
    · subst same
      have not_awaiting := invariant.generator_not_awaiting
      rw [consumer_iff] at not_awaiting
      simp [not_awaiting]
    · rw [Runtime.setStatus_status_of_ne _ same, status_eq]
      exact consumer_iff other
  cases phase with
  | producing empty terminated suspended open_ registered state_iff not_queued generator =>
      have queued_once : state.runtime.pending state.generator = 1 := by
        simpa [at_yield] using generator
      refine ⟨runtime_consistent.setStatus _ (by omega), invariant.coroutine, invariant.asserted,
        ?_, by simp [Awaits], invariant.transported.congr rfl rfl rfl rfl, consumer, awaits_iff,
        ?_⟩
      · intro other other_at_yield
        by_cases same : other = state.generator
        · exact same
        · change (runtime.setStatus state.generator .running).status other = _ at other_at_yield
          rw [Runtime.setStatus_status_of_ne _ same, status_eq] at other_at_yield
          exact invariant.generator_only other other_at_yield
      · refine .producing empty terminated suspended open_ registered state_iff ?_
          (.inl (Runtime.setStatus_status_self _))
        intro other is_consumer
        have differs : other ≠ state.generator := by
          rintro rfl
          simpa using (awaits_iff state.generator).mpr is_consumer
        exact (other_pending other differs).trans (not_queued other is_consumer)
  | parked _ _ _ _ _ _ _ _ _ not_queued =>
      rw [not_queued] at next_pending
      simp at next_pending
  | ended _ _ _ _ _ _ _ generator => simp [generator] at at_yield

theorem Invariant.resumeNext {state : State T E} (invariant : state.Invariant) :
    state.resumeNext.Invariant := by
  unfold State.resumeNext
  rcases popped : state.runtime.getNext with ⟨_ | handle, runtime⟩
  · rcases invariant.consistent.resume_nothing popped with ⟨consistent, unchanged⟩
    refine invariant.setRuntime consistent ?_ (fun handle _ _ => (unchanged handle).2) ?_ ?_ <;>
      simp [unchanged]
  · rcases invariant.consistent.getNext_some popped with ⟨status_eq, suspended, -, -⟩
    simp only [State.resume, status_eq]
    cases handle_status : state.runtime.status handle with
    | running | done => simp [handle_status, Status.isSuspended] at suspended
    | elsewhere =>
        have unrelated := invariant.consistent.resume_elsewhere popped handle_status
        refine invariant.setRuntime unrelated.consistent unrelated.waiting_iff
          (fun other point waiting => unrelated.pending_eq waiting) ?_ ?_
        · intro active
          by_cases same : state.generator = handle
          · simp [same]
          · rw [(unrelated.unchanged _ same).1]
            exact active
        · exact fun generator_done => unrelated.done (by simp [handle_status]) generator_done
    | waiting point =>
        cases point with
        | awaits =>
            rcases invariant.handOut_consumer popped handle_status with ⟨running, nobody, ready⟩
            exact running.finishAwait nobody ready
        | atYield => exact invariant.handOut_generator popped handle_status

theorem coAwait_of_ready {state : State T E} {handle : Handle}
    (ready : MultiPromiseAwaiter.awaitReady (some state.core) = true) :
    state.coAwait handle = state.finishAwait := by
  simp [coAwait, ready]

theorem coAwait_of_value {state : State T E} {value : T} (handle : Handle)
    (slot_eq : state.core.slot = some (.value value)) :
    state.coAwait handle = { state with
      core := { state.core with slot := none }
      obtained := state.obtained ++ [.returned (some value)] } := by
  have ready : MultiPromiseAwaiter.awaitReady (some state.core) = true := by
    simp [MultiPromiseAwaiter.awaitReady, slot_eq]
  rw [coAwait_of_ready ready]
  exact finishAwait_of_value slot_eq

/-- A consumer that suspends is registered, and the generator is resumed if it is parked. -/
theorem coAwait_of_empty {state : State T E} {handle : Handle}
    (invariant : state.Invariant) (empty : state.core.slot = none)
    (terminated : state.core.terminated = false) (nobody : state.core.waitingHandle = none)
    (not_waited : state.core.state ≠ .waitedOn) :
    state.coAwait handle = ({ state with
      core := { state.core with
        waitingHandle := some handle, state := .waitedOn, suspended := false }
      runtime := (if state.core.suspended then state.runtime.enqueue state.generator
        else state.runtime).setStatus handle (.waiting .awaits) } : State T E).resumeNext := by
  have coroutine := invariant.coroutine
  have asserts : MultiPromiseAwaiter.awaitSuspendAsserts state.core handle = true := by
    simp only [MultiPromiseAwaiter.awaitSuspendAsserts, PromiseCore.isAwaited,
      MultiPromiseCore.setHandleAsserts, MultiPromiseCore.resumeGeneratorAsserts,
      MultiPromiseCore.setHandle, nobody, coroutine, bne_iff_ne.mpr not_waited]
    simp only [Option.isSome_some, Bool.or_true]
    rfl
  cases suspended : state.core.suspended <;>
    simp [coAwait, MultiPromiseAwaiter.awaitReady, MultiPromiseAwaiter.awaitSuspend, asserts,
      MultiPromiseCore.isTerminated, MultiPromiseCore.setHandle, MultiPromiseCore.resumeGenerator,
      Runtime.enqueue, empty, terminated, suspended, coroutine]

theorem Invariant.register {state : State T E} (invariant : state.Invariant) {handle : Handle}
    {runtime : Runtime Point} (nobody : ∀ other, ¬state.Awaits other)
    (not_generator : handle ≠ state.generator) (empty : state.core.slot = none)
    (terminated : state.core.terminated = false) (open_ : state.ended = none)
    (consistent : runtime.Consistent) (status_eq : runtime.status = state.runtime.status)
    (not_queued : runtime.pending handle = 0)
    (generator : runtime.status state.generator = .running ∨
      runtime.status state.generator = .elsewhere ∨
      runtime.status state.generator = .waiting .atYield ∧ runtime.pending state.generator = 1) :
    ({ state with
      core := { state.core with
        waitingHandle := some handle, state := .waitedOn, suspended := false }
      runtime := runtime.setStatus handle (.waiting .awaits) } : State T E).Invariant := by
  have generator_status : (runtime.setStatus handle (.waiting .awaits)).status state.generator =
      runtime.status state.generator :=
    Runtime.setStatus_status_of_ne _ (Ne.symm not_generator)
  have awaits_iff : ∀ other, (runtime.setStatus handle (.waiting .awaits)).status other =
      .waiting .awaits ↔ some handle = some other := by
    intro other
    by_cases same : other = handle
    · simp [same]
    · rw [Runtime.setStatus_status_of_ne _ same, status_eq, Option.some.injEq]
      exact ⟨fun awaits => absurd awaits (nobody other), fun is_same => absurd is_same.symm same⟩
  refine ⟨consistent.setStatus _ not_queued, invariant.coroutine, invariant.asserted, ?_, ?_,
    invariant.transported.congr rfl rfl rfl rfl, some handle, awaits_iff, ?_⟩
  · intro other at_yield
    by_cases same : other = handle
    · simp [same] at at_yield
    · change (runtime.setStatus handle (.waiting .awaits)).status other = _ at at_yield
      rw [Runtime.setStatus_status_of_ne _ same, status_eq] at at_yield
      exact invariant.generator_only other at_yield
  · exact fun awaits => not_generator (Option.some.inj ((awaits_iff _).mp awaits))
  · refine .producing empty terminated rfl open_ rfl (by simp) ?_ ?_
    · intro other is_consumer
      rw [← Option.some.inj is_consumer]
      exact not_queued
    · simpa only [generator_status, Runtime.pending_setStatus] using generator

/-- A `co_await` ends at once, or the consumer is registered, not enqueued yet, and hands control
to the next coroutine. -/
theorem Invariant.coAwait_cases {state : State T E} (invariant : state.Invariant) {handle : Handle}
    (enabled : (Action.coAwait handle).Enabled state) :
    (MultiPromiseAwaiter.awaitReady (some state.core) = true ∧
        state.coAwait handle = state.finishAwait) ∨
      ∃ core runtime, ({ state with core, runtime } : State T E).Invariant ∧
        runtime.pending handle = 0 ∧ runtime.status handle = .waiting .awaits ∧
        runtime.status state.generator = state.runtime.status state.generator ∧
        (∀ other, state.runtime.status other = .elsewhere → runtime.status other = .elsewhere ∧
          runtime.pending other = state.runtime.pending other) ∧
        state.coAwait handle = ({ state with core, runtime } : State T E).resumeNext := by
  rcases enabled with ⟨not_generator, running, nobody⟩
  have other_status : ∀ {runtime : Runtime Point} {other : Handle}, other ≠ handle →
      runtime.status = state.runtime.status →
      (runtime.setStatus handle (.waiting .awaits)).status other =
        state.runtime.status other := by
    intro runtime other differs status_eq
    rw [Runtime.setStatus_status_of_ne _ differs, status_eq]
  have not_handle : ∀ {other : Handle}, state.runtime.status other = .elsewhere →
      other ≠ handle := by
    rintro other suspended rfl
    simp [running] at suspended
  have not_queued := invariant.consistent.pending_of_running running
  rcases invariant.phase with ⟨consumer, consumer_iff, phase⟩
  obtain rfl : consumer = none := by
    rw [Option.eq_none_iff_forall_ne_some]
    exact fun other is_consumer => nobody other ((consumer_iff other).mpr is_consumer)
  cases phase with
  | producing empty terminated suspended open_ unregistered state_iff _ generator =>
      right
      rw [coAwait_of_empty invariant empty terminated unregistered (by simp [state_iff]),
        suspended]
      exact ⟨_, _, invariant.register nobody not_generator empty terminated open_
        invariant.consistent rfl not_queued generator, not_queued,
        Runtime.setStatus_status_self _, other_status (Ne.symm not_generator) rfl,
        fun other suspended_elsewhere =>
          ⟨(other_status (not_handle suspended_elsewhere) rfl).trans suspended_elsewhere, rfl⟩,
        rfl⟩
  | parked value slot terminated suspended open_ unregistered state_eq woken generator parked =>
      cases value with
      | none =>
          right
          rw [coAwait_of_empty invariant slot terminated unregistered (by simp [state_eq]),
            suspended]
          have still_not_queued : (state.runtime.enqueue state.generator).pending handle = 0 :=
            (Runtime.pending_enqueue_of_ne not_generator).trans not_queued
          have generator_queued :
              (state.runtime.enqueue state.generator).pending state.generator = 1 := by
            rw [Runtime.pending_enqueue_self, parked]
          refine ⟨_, _, invariant.register nobody not_generator slot terminated open_
            (invariant.consistent.enqueue_waiting generator) rfl still_not_queued
            (.inr (.inr ⟨generator, generator_queued⟩)), still_not_queued,
            Runtime.setStatus_status_self _, other_status (Ne.symm not_generator) rfl, ?_, rfl⟩
          intro other suspended_elsewhere
          have differs : other ≠ state.generator := by
            rintro rfl
            simp [generator] at suspended_elsewhere
          exact ⟨(other_status (not_handle suspended_elsewhere) rfl).trans suspended_elsewhere,
            Runtime.pending_enqueue_of_ne differs⟩
      | some value =>
          have ready : MultiPromiseAwaiter.awaitReady (some state.core) = true := by
            simp [MultiPromiseAwaiter.awaitReady, slot]
          exact .inl ⟨ready, coAwait_of_ready ready⟩
  | ended ending slot terminated =>
      have ready : MultiPromiseAwaiter.awaitReady (some state.core) = true := by
        simp [MultiPromiseAwaiter.awaitReady, MultiPromiseCore.isTerminated, terminated]
      exact .inl ⟨ready, coAwait_of_ready ready⟩

theorem Invariant.coAwait {state : State T E} (invariant : state.Invariant) {handle : Handle}
    (enabled : (Action.coAwait handle).Enabled state) : (state.coAwait handle).Invariant := by
  rcases invariant.coAwait_cases enabled with
    ⟨ready, after_eq⟩ | ⟨_, _, registered_invariant, -, -, -, -, after_eq⟩
  · rw [after_eq]
    exact invariant.finishAwait enabled.2.2 ready
  · rw [after_eq]
    exact registered_invariant.resumeNext

theorem Invariant.producing_of_running {state : State T E} (invariant : state.Invariant)
    (running : state.runtime.status state.generator = .running) :
    ∃ consumer, (∀ handle, state.Awaits handle ↔ consumer = some handle) ∧
      state.core.slot = none ∧ state.core.terminated = false ∧ state.core.suspended = false ∧
      state.ended = none ∧ state.core.waitingHandle = consumer ∧
      (state.core.state = .waitedOn ↔ consumer.isSome = true) ∧
      ∀ handle, consumer = some handle → state.runtime.pending handle = 0 := by
  rcases invariant.phase with ⟨consumer, consumer_iff, phase⟩
  cases phase with
  | producing empty terminated suspended open_ registered state_iff not_queued _ =>
      exact ⟨consumer, consumer_iff, empty, terminated, suspended, open_, registered, state_iff,
        not_queued⟩
  | parked _ _ _ _ _ _ _ _ generator => simp [running] at generator
  | ended _ _ _ _ _ _ _ generator => simp [running] at generator

/-- The runtime after the generator woke the registered consumer and left the running ones. -/
def woken (state : State T E) (status : Status Point) : Runtime Point :=
  (match state.core.waitingHandle with
    | some consumer => state.runtime.enqueue consumer
    | none => state.runtime).setStatus state.generator status

theorem yield_eq {state : State T E} (value : T) (empty : state.core.slot = none)
    (suspended : state.core.suspended = false)
    (waited : state.core.waitingHandle.isSome = true → state.core.state = .waitedOn) :
    state.yield value = { state with
      core := { state.core with
        slot := some (.value value), waitingHandle := none, state := .finished, suspended := true }
      runtime := state.woken (.waiting .atYield)
      yielded := state.yielded ++ [value] } := by
  cases registered : state.core.waitingHandle <;>
    simp_all [yield, Generator.yieldValue, Generator.yieldReady, Generator.yieldValueAsserts,
      MultiPromiseCore.resume, MultiPromiseCore.resumeAsserts, MultiPromiseCore.suspendGenerator,
      MultiPromiseCore.suspendGeneratorAsserts, PromiseCore.resume, woken, Runtime.enqueue]

theorem finish_eq {state : State T E} (ending : Ending E) (empty : state.core.slot = none)
    (waited : state.core.waitingHandle.isSome = true → state.core.state = .waitedOn) :
    state.finish ending = { state with
      core := { state.core with
        slot := ending.slot, waitingHandle := none, state := .finished, terminated := true }
      runtime := state.woken .done
      ended := some ending } := by
  cases ending <;> cases registered : state.core.waitingHandle <;>
    simp_all [finish, Generator.returnVoid, Generator.unhandledException, Ending.slot,
      MultiPromiseCore.resume, MultiPromiseCore.resumeAsserts, MultiPromiseCore.setTerminated,
      PromiseCore.resume, woken, Runtime.enqueue]

/-- When the generator stops running, the registered consumer, and nobody else, is enqueued. -/
theorem Invariant.woken {state : State T E} (invariant : state.Invariant)
    (running : state.runtime.status state.generator = .running) (status : Status Point)
    (not_awaiting : status ≠ .waiting .awaits) :
    (state.woken status).Consistent ∧
      (state.woken status).status = Function.update state.runtime.status state.generator status ∧
      (∀ handle, (state.woken status).status handle = .waiting .awaits ↔ state.Awaits handle) ∧
      (∀ handle, state.Awaits handle → state.runtime.pending handle = 0 ∧
        (state.woken status).pending handle = 1) ∧
      (state.woken status).pending state.generator = 0 := by
  rcases invariant.producing_of_running running with
    ⟨consumer, consumer_iff, -, -, -, -, registered, -, not_queued⟩
  have generator_not_queued := invariant.consistent.pending_of_running running
  have awaits_iff : ∀ handle, Function.update state.runtime.status state.generator status handle =
      .waiting .awaits ↔ state.Awaits handle := by
    intro handle
    by_cases same : handle = state.generator
    · subst same
      simp [not_awaiting, invariant.generator_not_awaiting]
    · rw [Function.update_of_ne same]
      rfl
  cases consumer with
  | none =>
      have woken_eq : state.woken status = state.runtime.setStatus state.generator status := by
        simp [State.woken, registered]
      rw [woken_eq]
      refine ⟨invariant.consistent.setStatus _ generator_not_queued, rfl, awaits_iff, ?_,
        generator_not_queued⟩
      intro handle awaits
      simp [consumer_iff] at awaits
  | some waiter =>
      have woken_eq : state.woken status =
          (state.runtime.enqueue waiter).setStatus state.generator status := by
        simp [State.woken, registered]
      have waiter_awaits : state.Awaits waiter := (consumer_iff waiter).mpr rfl
      have waiter_ne : state.generator ≠ waiter := by
        rintro same
        exact invariant.generator_not_awaiting (same ▸ waiter_awaits)
      have still_not_queued := (Runtime.pending_enqueue_of_ne waiter_ne).trans generator_not_queued
      rw [woken_eq]
      refine ⟨(invariant.consistent.enqueue_waiting waiter_awaits).setStatus _ still_not_queued,
        rfl, awaits_iff, ?_, still_not_queued⟩
      intro handle awaits
      obtain rfl := Option.some.inj ((consumer_iff handle).mp awaits)
      have before := not_queued waiter rfl
      exact ⟨before, by rw [Runtime.pending_setStatus, Runtime.pending_enqueue_self, before]⟩

/-- A running generator finds nothing in the way of its next value. -/
theorem Invariant.yield_of_running {state : State T E} (invariant : state.Invariant) (value : T)
    (running : state.runtime.status state.generator = .running) :
    state.yield value = { state with
      core := { state.core with
        slot := some (.value value), waitingHandle := none, state := .finished, suspended := true }
      runtime := state.woken (.waiting .atYield)
      yielded := state.yielded ++ [value] } := by
  rcases invariant.producing_of_running running with
    ⟨consumer, -, empty, -, suspended, -, registered, state_iff, -⟩
  exact yield_eq value empty suspended (fun waited => state_iff.mpr (registered ▸ waited))

theorem Invariant.finish_of_running {state : State T E} (invariant : state.Invariant)
    (ending : Ending E) (running : state.runtime.status state.generator = .running) :
    state.finish ending = { state with
      core := { state.core with
        slot := ending.slot, waitingHandle := none, state := .finished, terminated := true }
      runtime := state.woken .done
      ended := some ending } := by
  rcases invariant.producing_of_running running with
    ⟨consumer, -, empty, -, -, -, registered, state_iff, -⟩
  exact finish_eq ending empty (fun waited => state_iff.mpr (registered ▸ waited))

/-- Nobody but the generator is suspended at `co_yield`, whatever becomes of it. -/
theorem Invariant.generator_only_woken {state : State T E} (invariant : state.Invariant)
    {status : Status Point}
    (status_eq : (state.woken status).status =
      Function.update state.runtime.status state.generator status)
    (handle : Handle) (at_yield : (state.woken status).status handle = .waiting .atYield) :
    handle = state.generator := by
  by_cases same : handle = state.generator
  · exact same
  · rw [status_eq, Function.update_of_ne same] at at_yield
    exact invariant.generator_only handle at_yield

theorem Invariant.yield {state : State T E} (invariant : state.Invariant) {value : T}
    (running : state.runtime.status state.generator = .running) :
    (state.yield value).Invariant := by
  rcases invariant.producing_of_running running with
    ⟨consumer, consumer_iff, empty, terminated, -, open_, -, -, -⟩
  rcases invariant.woken running (.waiting .atYield) (by simp) with
    ⟨consistent, status_eq, awaits_iff, woken, generator_parked⟩
  rw [invariant.yield_of_running value running]
  refine ⟨consistent, invariant.coroutine, invariant.asserted,
    invariant.generator_only_woken status_eq, ?_, ?_, consumer,
    fun handle => (awaits_iff handle).trans (consumer_iff handle), ?_⟩
  · exact fun awaits => invariant.generator_not_awaiting ((awaits_iff _).mp awaits)
  · rcases invariant.transported.open_ open_ with ⟨values, obtained_eq, yielded_eq⟩
    refine ⟨values, [], by simp [obtained_eq], ?_, by simp, by simp⟩
    simp [yielded_eq, inSlot, empty]
  · refine .parked (some value) rfl terminated rfl open_ rfl rfl ?_ ?_ generator_parked
    · exact fun handle is_consumer =>
        ⟨(woken handle ((consumer_iff handle).mpr is_consumer)).2, rfl⟩
    · rw [status_eq, Function.update_self]

theorem Invariant.finish {state : State T E} (invariant : state.Invariant) {ending : Ending E}
    (running : state.runtime.status state.generator = .running) :
    (state.finish ending).Invariant := by
  rcases invariant.producing_of_running running with
    ⟨consumer, consumer_iff, empty, -, -, open_, -, -, -⟩
  rcases invariant.woken running .done (by simp) with
    ⟨consistent, status_eq, awaits_iff, woken, -⟩
  rw [invariant.finish_of_running ending running]
  refine ⟨consistent, invariant.coroutine, invariant.asserted,
    invariant.generator_only_woken status_eq, ?_, ?_, consumer,
    fun handle => (awaits_iff handle).trans (consumer_iff handle), ?_⟩
  · exact fun awaits => invariant.generator_not_awaiting ((awaits_iff _).mp awaits)
  · rcases invariant.transported.open_ open_ with ⟨values, obtained_eq, yielded_eq⟩
    refine ⟨values, [], by simp [obtained_eq], ?_, by simp, by simp⟩
    simp only [inSlot, empty] at yielded_eq
    rw [inSlot_of_ending ending rfl]
    exact yielded_eq
  · refine .ended ending rfl rfl rfl rfl rfl ?_ ?_
    · exact fun handle is_consumer => (woken handle ((consumer_iff handle).mpr is_consumer)).2
    · rw [status_eq, Function.update_self]

theorem Invariant.step {state : State T E} (invariant : state.Invariant) {action : Action T E}
    (enabled : action.Enabled state) : (action.perform state).Invariant := by
  cases action with
  | coAwait handle => exact invariant.coAwait enabled
  | yield value => exact invariant.yield enabled
  | finish ending => exact invariant.finish enabled
  | resumeNext => exact invariant.resumeNext
  | other action =>
      rcases enabled with ⟨enabled, not_the_end⟩
      have unrelated := invariant.consistent.other enabled
      refine invariant.setRuntime unrelated.consistent unrelated.waiting_iff
        (fun handle point waiting => unrelated.pending_eq waiting) ?_ ?_
      · intro active
        by_cases same : state.generator = action.subject
        · cases action <;>
            simp_all [Runtime.Action.perform, Runtime.Action.subject, Runtime.Action.Enabled]
        · rw [(unrelated.unchanged _ same).1]
          exact active
      · intro generator_done
        refine unrelated.done ?_ generator_done
        cases action <;> simp_all [Runtime.Action.subject, Runtime.Action.Enabled]

theorem invariant_of_reachable {state : State T E} (reached : (system T E).Reachable state) :
    state.Invariant := by
  refine TransitionSystem.Reachable.invariant State.Invariant ?_ ?_ reached
  · rintro _ ⟨generator, rfl⟩
    exact initial_invariant generator
  · exact fun _ _ invariant enabled => invariant.step enabled

/-! ## The protocol -/

/-- The values that the consumers obtained. -/
def values (state : State T E) : List T :=
  state.obtained.filterMap fun entry =>
    match entry with
    | .returned value => value
    | .rethrown _ | .thrown _ => none

/-- The consumer is suspended and stored in the core, and not enqueued yet; the generator runs, is
suspended in an awaiter of its own, or is enqueued to leave its `co_yield`. -/
structure Registered (state : State T E) (handle : Handle) : Prop where
  awaits : state.Awaits handle
  registered : state.core.waitingHandle = some handle
  waitedOn : state.core.state = .waitedOn
  not_queued : state.runtime.pending handle = 0
  generator : state.runtime.status state.generator = .running ∨
    state.runtime.status state.generator = .elsewhere ∨
    state.runtime.status state.generator = .waiting .atYield ∧
      state.runtime.pending state.generator = 1

/-- What a generator and its `MultiPromise` guarantee in a state, and for every step from it. -/
structure Protocol (state : State T E) : Prop where
  /-- The consumers obtain the yielded values in order, without loss or duplication. -/
  in_order : state.values <+: state.yielded
  /-- At most one yielded value is not consumed yet. -/
  one_ahead : state.yielded.length ≤ state.values.length + 1
  /-- Apart from the values they obtained nothing but the ending, and that after all values. -/
  history : ∃ endings, state.obtained =
      state.values.map (fun value => .returned (some value)) ++ endings ∧
    ∀ entry ∈ endings, ∃ ending, state.ended = some ending ∧ entry = ending.obtained ∧
      state.values = state.yielded
  /-- What was yielded and not obtained yet is in the slot. -/
  unconsumed : state.yielded = state.values ++ state.inSlot
  /-- What the generator yields is put into the slot, and it waits there. -/
  yields : ∀ value, (Action.yield value).Enabled state →
    (state.yield value).yielded = state.yielded ++ [value] ∧
      (state.yield value).core.slot = some (.value value) ∧
      (state.yield value).runtime.status state.generator = .waiting .atYield
  /-- When the scheduler hands it out, it runs again. -/
  goes_on : ∀ runtime, state.runtime.getNext = (some state.generator, runtime) →
    state.runtime.status state.generator = .waiting .atYield →
    state.resumeNext = { state with runtime := runtime.setStatus state.generator .running }
  /-- A `co_await` obtains the value in the slot at once. -/
  takes : ∀ value handle, state.core.slot = some (.value value) →
    (Action.coAwait handle).Enabled state →
    state.coAwait handle = { state with
      core := { state.core with slot := none }
      obtained := state.obtained ++ [.returned (some value)] }
  /-- Before the end, a `co_await` that finds no value suspends, with the generator on its way to
  the next value. -/
  waits : ∀ handle, state.core.slot = none → state.ended = none →
    (Action.coAwait handle).Enabled state →
    (state.coAwait handle).Registered handle ∧ (state.coAwait handle).obtained = state.obtained
  /-- A consumer that is handed out finds the next value or the ending, and obtains it. -/
  obtains : ∀ handle runtime, state.runtime.getNext = (some handle, runtime) →
    state.Awaits handle →
    (∃ value, state.core.slot = some (.value value) ∧ state.resumeNext = { state with
      core := { state.core with slot := none }
      runtime := runtime.setStatus handle .running
      obtained := state.obtained ++ [.returned (some value)] }) ∨
    ∃ ending, state.ended = some ending ∧ state.resumeNext = { state with
      runtime := runtime.setStatus handle .running
      obtained := state.obtained ++ [ending.obtained] }
  /-- After the end, a `co_await` evaluates to the ending at once, every time. -/
  after_end : ∀ ending handle, state.ended = some ending →
    (Action.coAwait handle).Enabled state →
    state.values = state.yielded ∧
      state.coAwait handle = { state with obtained := state.obtained ++ [ending.obtained] }
  /-- A consumer that suspends is not enqueued yet. -/
  suspends : ∀ handle, (Action.coAwait handle).Enabled state →
    (state.coAwait handle).Awaits handle → (state.coAwait handle).runtime.pending handle = 0
  /-- A suspended consumer is enqueued once at most. -/
  at_most_once : ∀ handle, state.Awaits handle → state.runtime.pending handle ≤ 1
  /-- It is enqueued by the next yield, return or throw, and by nothing else. -/
  wakes : ∀ handle (action : Action T E), state.Awaits handle → action.Enabled state →
    (action.perform state).Awaits handle →
    (action.perform state).runtime.pending handle =
      state.runtime.pending handle + if action.isOutput then 1 else 0
  /-- No assertion fails. -/
  asserted : state.asserted = true

theorem Transported.values_eq {state : State T E} (transported : state.Transported) :
    ∃ endings, state.obtained =
        state.values.map (fun value => .returned (some value)) ++ endings ∧
      state.yielded = state.values ++ state.inSlot ∧ (endings ≠ [] → state.inSlot = []) ∧
      ∀ entry ∈ endings, ∃ ending, state.ended = some ending ∧ entry = ending.obtained := by
  rcases transported with ⟨values, endings, obtained_eq, yielded_eq, slot_empty, endings_eq⟩
  have values_eq : state.values = values := by
    have no_values : endings.filterMap (fun entry =>
        match entry with
        | .returned value => value
        | .rethrown _ | .thrown _ => none) = ([] : List T) := by
      rw [List.filterMap_eq_nil_iff]
      intro entry entry_mem
      rcases endings_eq entry entry_mem with ⟨ending, -, rfl⟩
      cases ending <;> rfl
    rw [State.values, obtained_eq, List.filterMap_append, no_values, List.append_nil,
      List.filterMap_map]
    exact List.filterMap_some
  rw [values_eq]
  exact ⟨endings, obtained_eq, yielded_eq, slot_empty, endings_eq⟩

theorem inSlot_length_le (state : State T E) : state.inSlot.length ≤ 1 := by
  unfold inSlot
  split <;> simp

/-- A consumer that is still suspended after a turn of the scheduler was not dequeued. -/
theorem Invariant.resumeNext_pending {state : State T E} (invariant : state.Invariant)
    {handle : Handle} (awaits : state.resumeNext.Awaits handle) :
    state.resumeNext.runtime.pending handle = state.runtime.pending handle := by
  unfold State.resumeNext at awaits ⊢
  rcases popped : state.runtime.getNext with ⟨_ | next, runtime⟩
  · rcases invariant.consistent.resume_nothing popped with ⟨-, unchanged⟩
    exact (unchanged handle).2
  · rcases invariant.consistent.getNext_some popped with ⟨status_eq, suspended, -, other_pending⟩
    have resumed : (({ state with runtime } : State T E).resume next).runtime =
        runtime.setStatus next .running := by
      simp only [State.resume, status_eq]
      cases next_status : state.runtime.status next with
      | running | done => simp [next_status, Status.isSuspended] at suspended
      | elsewhere => rfl
      | waiting point => cases point <;> rfl
    simp only [popped, Awaits, resumed] at awaits ⊢
    have differs : handle ≠ next := by
      rintro rfl
      simp at awaits
    rw [Runtime.pending_setStatus, other_pending handle differs]

/-- While the consumer is not enqueued, a turn of the scheduler leaves it alone. -/
theorem Invariant.resumeNext_of_not_queued {state : State T E} (invariant : state.Invariant)
    {handle : Handle} (awaits : state.Awaits handle)
    (not_queued : state.runtime.pending handle = 0) :
    state.resumeNext.Awaits handle ∧ state.resumeNext.obtained = state.obtained := by
  have only : ∀ other, state.Awaits other → other = handle := by
    intro other other_awaits
    rcases invariant.phase with ⟨consumer, consumer_iff, -⟩
    exact Option.some.inj
      (((consumer_iff other).mp other_awaits).symm.trans ((consumer_iff handle).mp awaits))
  unfold State.resumeNext Awaits
  rcases popped : state.runtime.getNext with ⟨_ | next, runtime⟩
  · rcases invariant.consistent.resume_nothing popped with ⟨-, unchanged⟩
    exact ⟨(unchanged handle).1.trans awaits, rfl⟩
  · rcases invariant.consistent.getNext_some popped with ⟨status_eq, suspended, next_pending, -⟩
    have differs : handle ≠ next := by
      rintro rfl
      omega
    have still : (runtime.setStatus next .running).status handle = .waiting .awaits := by
      rw [Runtime.setStatus_status_of_ne _ differs, status_eq]
      exact awaits
    simp only [State.resume, status_eq]
    cases next_status : state.runtime.status next with
    | running | done => simp [next_status, Status.isSuspended] at suspended
    | elsewhere => exact ⟨still, rfl⟩
    | waiting point =>
        cases point with
        | awaits => exact absurd (only next next_status).symm differs
        | atYield => exact ⟨still, rfl⟩

theorem Invariant.registered {state : State T E} (invariant : state.Invariant) {handle : Handle}
    (awaits : state.Awaits handle) (not_queued : state.runtime.pending handle = 0) :
    state.Registered handle := by
  rcases invariant.phase with ⟨consumer, consumer_iff, phase⟩
  have is_consumer := (consumer_iff handle).mp awaits
  cases phase with
  | producing _ _ _ _ registered state_iff _ generator =>
      refine ⟨awaits, registered.trans is_consumer, state_iff.mpr ?_, not_queued, generator⟩
      rw [is_consumer]
      rfl
  | parked _ _ _ _ _ _ _ woken =>
      have queued := (woken handle is_consumer).1
      simp [not_queued] at queued
  | ended _ _ _ _ _ _ woken =>
      have queued := woken handle is_consumer
      simp [not_queued] at queued

theorem Invariant.waits {state : State T E} (invariant : state.Invariant) {handle : Handle}
    (empty : state.core.slot = none) (open_ : state.ended = none)
    (enabled : (Action.coAwait handle).Enabled state) :
    (state.coAwait handle).Registered handle ∧
      (state.coAwait handle).obtained = state.obtained := by
  rcases invariant.coAwait_cases enabled with
    ⟨ready, -⟩ | ⟨core, runtime, registered, not_queued, awaits, -, -, after_eq⟩
  · rcases invariant.phase with ⟨consumer, -, phase⟩
    cases phase with
    | producing _ terminated | parked _ _ terminated =>
        simp [MultiPromiseAwaiter.awaitReady, MultiPromiseCore.isTerminated, empty, terminated]
          at ready
    | ended _ _ _ ended_eq => simp [open_] at ended_eq
  · rcases registered.resumeNext_of_not_queued awaits not_queued with ⟨still_awaits, obtained_eq⟩
    rw [after_eq]
    refine ⟨registered.resumeNext.registered still_awaits ?_, obtained_eq⟩
    exact (registered.resumeNext_pending still_awaits).trans not_queued

/-- The consumer that the scheduler hands out finds what it was woken for. -/
theorem Invariant.obtains {state : State T E} (invariant : state.Invariant) {handle : Handle}
    {runtime : Runtime Point} (popped : state.runtime.getNext = (some handle, runtime))
    (awaits : state.Awaits handle) :
    (∃ value, state.core.slot = some (.value value) ∧ state.resumeNext = { state with
      core := { state.core with slot := none }
      runtime := runtime.setStatus handle .running
      obtained := state.obtained ++ [.returned (some value)] }) ∨
    ∃ ending, state.ended = some ending ∧ state.resumeNext = { state with
      runtime := runtime.setStatus handle .running
      obtained := state.obtained ++ [ending.obtained] } := by
  rcases invariant.consistent.getNext_some popped with ⟨status_eq, -, next_pending, -⟩
  let running : State T E := { state with runtime := runtime.setStatus handle .running }
  have resumed : state.resumeNext = running.finishAwait := by
    simp only [State.resumeNext, popped, State.resume, status_eq]
    rw [show state.runtime.status handle = .waiting .awaits from awaits]
  rw [resumed]
  rcases invariant.phase with ⟨consumer, consumer_iff, phase⟩
  have is_consumer := (consumer_iff handle).mp awaits
  cases phase with
  | producing _ _ _ _ _ _ not_queued =>
      have := not_queued handle is_consumer
      omega
  | parked value slot _ _ _ _ _ woken =>
      rcases value with _ | value
      · simpa using (woken handle is_consumer).2
      · exact .inl ⟨value, slot, finishAwait_of_value slot⟩
  | ended ending slot terminated ended_eq =>
      exact .inr ⟨ending, ended_eq, finishAwait_of_ending slot terminated⟩

theorem Invariant.yields {state : State T E} (invariant : state.Invariant) (value : T)
    (running : state.runtime.status state.generator = .running) :
    (state.yield value).yielded = state.yielded ++ [value] ∧
      (state.yield value).core.slot = some (.value value) ∧
      (state.yield value).runtime.status state.generator = .waiting .atYield := by
  rcases invariant.woken running (.waiting .atYield) (by simp) with ⟨-, status_eq, -⟩
  rw [invariant.yield_of_running value running]
  refine ⟨rfl, rfl, ?_⟩
  rw [status_eq, Function.update_self]

theorem Invariant.goes_on {state : State T E} (invariant : state.Invariant)
    {runtime : Runtime Point} (popped : state.runtime.getNext = (some state.generator, runtime))
    (parked : state.runtime.status state.generator = .waiting .atYield) :
    state.resumeNext = { state with runtime := runtime.setStatus state.generator .running } := by
  rcases invariant.consistent.getNext_some popped with ⟨status_eq, -⟩
  simp only [State.resumeNext, popped, State.resume, status_eq, parked]

theorem Invariant.suspends {state : State T E} (invariant : state.Invariant) {handle : Handle}
    (enabled : (Action.coAwait handle).Enabled state)
    (awaits : (state.coAwait handle).Awaits handle) :
    (state.coAwait handle).runtime.pending handle = 0 := by
  rcases invariant.coAwait_cases enabled with
    ⟨-, after_eq⟩ | ⟨_, _, registered_invariant, not_queued, -, -, -, after_eq⟩
  · have running : (state.coAwait handle).runtime.status handle = .running := by
      rw [after_eq]
      exact enabled.2.1
    simp [Awaits, running] at awaits
  · rw [after_eq] at awaits ⊢
    exact (registered_invariant.resumeNext_pending awaits).trans not_queued

theorem Invariant.wakes {state : State T E} (invariant : state.Invariant) {handle : Handle}
    {action : Action T E} (awaits : state.Awaits handle) (enabled : action.Enabled state)
    (still_awaits : (action.perform state).Awaits handle) :
    (action.perform state).runtime.pending handle =
      state.runtime.pending handle + if action.isOutput then 1 else 0 := by
  cases action with
  | coAwait other => exact absurd awaits (enabled.2.2 handle)
  | yield value =>
      rcases invariant.woken enabled (.waiting .atYield) (by simp) with ⟨-, -, -, woken, -⟩
      rcases woken handle awaits with ⟨before, after⟩
      rw [Action.perform, invariant.yield_of_running value enabled, before]
      exact after
  | finish ending =>
      rcases invariant.woken enabled .done (by simp) with ⟨-, -, -, woken, -⟩
      rcases woken handle awaits with ⟨before, after⟩
      rw [Action.perform, invariant.finish_of_running ending enabled, before]
      exact after
  | resumeNext => exact invariant.resumeNext_pending still_awaits
  | other action => exact (invariant.consistent.other enabled.1).pending_eq awaits

theorem Invariant.at_most_once {state : State T E} (invariant : state.Invariant) {handle : Handle}
    (awaits : state.Awaits handle) : state.runtime.pending handle ≤ 1 := by
  by_contra more
  have once := (invariant.ready_of_queued awaits (by omega)).1
  omega

theorem Invariant.after_end {state : State T E} (invariant : state.Invariant) {ending : Ending E}
    (handle : Handle) (ended_eq : state.ended = some ending) :
    state.inSlot = [] ∧
      state.coAwait handle = { state with obtained := state.obtained ++ [ending.obtained] } := by
  rcases invariant.phase with ⟨consumer, -, phase⟩
  cases phase with
  | producing _ _ _ open_ => simp [open_] at ended_eq
  | parked _ _ _ _ open_ => simp [open_] at ended_eq
  | ended found slot terminated found_eq =>
      obtain rfl : found = ending := Option.some.inj (found_eq.symm.trans ended_eq)
      have ready : MultiPromiseAwaiter.awaitReady (some state.core) = true := by
        simp [MultiPromiseAwaiter.awaitReady, MultiPromiseCore.isTerminated, terminated]
      rw [coAwait_of_ready ready]
      exact ⟨inSlot_of_ending found slot, finishAwait_of_ending slot terminated⟩

theorem Invariant.protocol {state : State T E} (invariant : state.Invariant) :
    state.Protocol := by
  rcases invariant.transported.values_eq with
    ⟨endings, obtained_eq, yielded_eq, slot_empty, endings_eq⟩
  refine ⟨⟨state.inSlot, yielded_eq.symm⟩, ?_, ⟨endings, obtained_eq, ?_⟩, yielded_eq,
    fun value running => invariant.yields value running,
    fun _ popped parked => invariant.goes_on popped parked,
    fun _ handle slot_eq _ => coAwait_of_value handle slot_eq,
    fun _ empty open_ enabled => invariant.waits empty open_ enabled,
    fun _ _ popped awaits => invariant.obtains popped awaits, ?_, ?_, ?_, ?_, invariant.asserted⟩
  · rw [yielded_eq, List.length_append]
    exact Nat.add_le_add_left state.inSlot_length_le _
  · intro entry entry_mem
    rcases endings_eq entry entry_mem with ⟨ending, ended_eq, entry_eq⟩
    refine ⟨ending, ended_eq, entry_eq, ?_⟩
    rw [yielded_eq, slot_empty (List.ne_nil_of_mem entry_mem), List.append_nil]
  · intro ending handle ended_eq _
    rcases invariant.after_end handle ended_eq with ⟨nothing, after_eq⟩
    rw [nothing, List.append_nil] at yielded_eq
    exact ⟨yielded_eq.symm, after_eq⟩
  · exact fun handle enabled awaits => invariant.suspends enabled awaits
  · exact fun handle awaits => invariant.at_most_once awaits
  · exact fun handle action awaits enabled still => invariant.wakes awaits enabled still

/-- Every reachable state keeps to the protocol of generators. -/
theorem multiPromise_protocol_of_reachable {state : State T E}
    (reached : (system T E).Reachable state) : state.Protocol :=
  (invariant_of_reachable reached).protocol

/-- A consumer waits, the generator yields, and the consumer runs. -/
theorem multiPromise_protocol_one_value :
    (([.coAwait 1, .yield 7, .resumeNext] : List (Action ℕ String)).foldl Action.perform
      (initial 0)).Protocol := by
  have start : (system ℕ String).Reachable (initial 0) := .start ⟨0, rfl⟩
  have waits := start.step (Action.coAwait 1)
    ⟨by decide, rfl, by intro other; simp [initial, Awaits]⟩ trivial
  have yields := waits.step (Action.yield 7) rfl trivial
  exact multiPromise_protocol_of_reachable (yields.step Action.resumeNext trivial trivial)

end State

end Uvco.MultiPromise
