import Uvco.MultiPromise.Body
import Uvco.Timer.Handle

/-!
# `Ticker`

This file embeds `TickerImpl` of `uvco/timer.cc`: a ticker, its generator `ticker()`,
and the consumers of the generator, in every interleaving with the timer, the
scheduler, and calls of `close()`. `ticker()` is called once; the ticker is destroyed
with the frame that owns it and the `MultiPromise`.

libuv's clock does not go backwards.
-/

namespace Uvco.Timer.Ticker

variable {E : Type}

/-- A ticker with its generator and its timer. -/
structure State (E : Type) where
  /-- The generator `ticker()` and its `MultiPromise`. -/
  promise : MultiPromise.State UInt64 E
  now : UInt64
  awaiter : Awaiter
  countMax : UInt64
  /-- `stopped_` of the ticker. -/
  stopped : Bool := false
  called : Bool := false
  /-- The local variable of `ticker()`. -/
  counter : UInt64 := 0
  /-- `ticker()` is suspended at `co_yield`, and otherwise in the awaiter of the timer. -/
  atYield : Bool := false
  /-- `ticker()` was resumed by a stopped timer, but the ticker was not stopped. -/
  fault : Bool := false
  /-- `close()` was called from outside. -/
  closeCalled : Bool := false
  destroyed : Bool := false

/-- `tick(loop, millis, count)`; `generator` will be the coroutine of `ticker()`. -/
def tick (now millis count : UInt64) (generator : Handle) : State E where
  promise := .initial generator
  now := now
  awaiter := .create now millis true
  countMax := count

namespace State

variable (state : State E)

/-- What the timer has woken is enqueued. -/
def enqueue : Option Handle → State E
  | some handle =>
      { state with
        promise := (MultiPromise.Action.other (.wake handle)).perform state.promise }
  | none => state

/-- `TickerImpl::close()`. -/
def close : State E :=
  let (woken, awaiter) := state.awaiter.resume
  { state with stopped := true, awaiter := awaiter.stop.close }.enqueue woken

/-- The loop of `ticker()` has ended, and the generator returns. -/
def leave : State E :=
  let left := if state.stopped then state else state.close
  { left with promise := left.promise.finish .returned }

/-- `ticker()` after `co_await *awaiter_`. -/
def resumed : State E :=
  let (event, awaiter) := state.awaiter.awaitResume
  let state := { state with awaiter }
  if event then
    if state.stopped then state.leave
    else { state with promise := state.promise.yield state.counter, atYield := true }
  else if state.stopped then state.leave
  else { state with fault := true }

/-- `co_await *awaiter_`. -/
def await : State E :=
  let (ready, awaiter) := state.awaiter.isReady state.now
  if ready then ({ state with awaiter } : State E).resumed
  else
    { state with
      promise := (MultiPromise.Action.other (.suspend state.promise.generator)).perform
        state.promise
      awaiter := awaiter.awaitSuspend state.promise.generator
      atYield := false }

/-- A turn of the loop in `ticker()`. -/
def turn : State E :=
  if !state.stopped && (state.countMax == 0 || state.counter < state.countMax) then state.await
  else state.leave

/-- The generator goes on where it was suspended. -/
def proceed : State E :=
  if state.atYield then ({ state with counter := state.counter + 1 } : State E).turn
  else state.resumed

/-- A step of the `MultiPromise`, and of the generator if it is resumed. -/
def follow (action : MultiPromise.Action UInt64 E) : State E :=
  let after := { state with promise := action.perform state.promise }
  if state.promise.Resumed after.promise then after.proceed else after

/-- The timer calls back. -/
def fire : State E :=
  let (woken, awaiter) := state.awaiter.onMultiTimerFired state.now
  { state with awaiter }.enqueue woken

end State

/-- What the program, the timer and the scheduler can do next. -/
inductive Action (E : Type) where
  | ticker
  | close
  | updateTime (now : UInt64)
  | fire
  /-- The `MultiPromise` and the ticker are destroyed. -/
  | destroy
  /-- A step of consumers, of the scheduler or of other coroutines. -/
  | follow (action : MultiPromise.Action UInt64 E)

namespace Action

/-- The generator is only called once; the clock does not go backwards. -/
def Enabled (state : State E) (action : Action E) : Prop :=
  state.destroyed = false ∧
    match action with
    | .ticker => state.called = false
    | .close | .destroy => True
    | .updateTime now => state.now ≤ now
    | .fire => state.awaiter.timer.Due state.now
    | .follow action => action.Enabled state.promise ∧
        action.IsForeign state.promise.generator ∧
        ∀ handle, action = .coAwait handle → state.called = true

/-- The state after an action. -/
def perform (state : State E) : Action E → State E
  | .ticker => { state with called := true }.turn
  | .close => { state with closeCalled := true }.close
  | .updateTime now => { state with now }
  | .fire => state.fire
  | .destroy => { state with awaiter := state.awaiter.destroy, destroyed := true }
  | .follow action => state.follow action

end Action

/-- All programs around one ticker. -/
def system (E : Type) : TransitionSystem (State E) (Action E) where
  Initial state := ∃ now millis count generator, state = tick now millis count generator
  Enabled state action := action.Enabled state
  perform state action := action.perform state

/-! ## The invariant -/

/-- The first values of a ticker. -/
def upTo (length : ℕ) : List UInt64 :=
  (List.range length).map UInt64.ofNat

theorem upTo_succ (length : ℕ) : upTo (length + 1) = upTo length ++ [.ofNat length] := by
  simp [upTo, List.range_succ]

namespace State

/-- The values that were yielded are the first ones, and not too many. -/
structure Counted (state : State E) : Prop where
  yielded_eq : state.promise.yielded = upTo state.promise.yielded.length
  bounded : state.countMax ≠ 0 → state.promise.yielded.length ≤ state.countMax.toNat

/-- The timer was closed if the ticker was. -/
def TimerKept (state : State E) : Prop :=
  if state.stopped || state.destroyed then state.awaiter.Closed else state.awaiter.Open state.now

/-- How far the generator has got. -/
inductive Stage (state : State E) : Prop where
  | created (not_called : state.called = false)
      (status : state.promise.runtime.status state.promise.generator = .running)
      (nothing : state.promise.yielded = []) (counter_eq : state.counter = 0)
      (unregistered : state.awaiter.handle = none) (stopped_eq : state.stopped = state.closeCalled)
  | inTimer (called : state.called = true) (position : state.atYield = false)
      (status : state.promise.runtime.status state.promise.generator = .elsewhere)
      (counter_eq : state.counter = .ofNat state.promise.yielded.length)
      (room : state.countMax ≠ 0 → state.promise.yielded.length < state.countMax.toNat)
      (registered : state.awaiter.handle = some state.promise.generator ∧
          state.promise.runtime.pending state.promise.generator = 0 ∧ state.stopped = false ∧
          state.awaiter.timer.interval ≠ 0 ∨
        state.awaiter.handle = none ∧
          state.promise.runtime.pending state.promise.generator = 1)
      (stopped_eq : state.stopped = state.closeCalled)
  | yielding (called : state.called = true) (position : state.atYield = true)
      (status : state.promise.runtime.status state.promise.generator = .waiting .atYield)
      (counter_eq : state.counter + 1 = .ofNat state.promise.yielded.length)
      (unregistered : state.awaiter.handle = none) (stopped_eq : state.stopped = state.closeCalled)
  | ended (called : state.called = true) (ended_eq : state.promise.ended = some .returned)
      (stopped_eq : state.stopped = true) (unregistered : state.awaiter.handle = none)
      (complete : state.closeCalled = false → state.countMax ≠ 0 ∧
        state.promise.yielded.length = state.countMax.toNat)

/-- What holds of a ticker in every reachable state. -/
structure Invariant (state : State E) : Prop where
  promise : state.promise.Invariant
  no_fault : state.fault = false
  timer : state.TimerKept
  counted : state.Counted
  stage : state.Stage

/-- What the generator does until it is suspended again: it returns if the ticker was stopped or all
values were yielded, and otherwise it yields the next value or waits for the armed timer. -/
def GoesOn (before after : State E) : Prop :=
  after.promise.ended = some .returned ∧ (before.stopped = true ∨
      before.countMax ≠ 0 ∧ before.promise.yielded.length = before.countMax.toNat) ∨
    before.stopped = false ∧
      (after.promise.yielded =
          before.promise.yielded ++ [.ofNat before.promise.yielded.length] ∨
        after.awaiter.handle = some before.promise.generator ∧
          after.awaiter.timer.active = true)

/-- The generator is on the stack. -/
structure Running (state : State E) : Prop where
  promise : state.promise.Invariant
  no_fault : state.fault = false
  timer : state.TimerKept
  counted : state.Counted
  called : state.called = true
  status : state.promise.runtime.status state.promise.generator = .running
  counter_eq : state.counter = .ofNat state.promise.yielded.length
  unregistered : state.awaiter.handle = none
  stopped_eq : state.stopped = state.closeCalled
  not_destroyed : state.destroyed = false

theorem Counted.congr {before after : State E} (counted : before.Counted)
    (yielded_eq : after.promise.yielded = before.promise.yielded)
    (countMax_eq : after.countMax = before.countMax) : after.Counted := by
  constructor
  · rw [yielded_eq]
    exact counted.yielded_eq
  · rw [yielded_eq, countMax_eq]
    exact counted.bounded

namespace Running

variable {state : State E}

theorem closed (running : state.Running) (stopped : state.stopped = true) :
    state.awaiter.Closed := by
  have timer := running.timer
  rwa [TimerKept, stopped, Bool.true_or, if_pos rfl] at timer

theorem open_ (running : state.Running) (not_stopped : state.stopped = false) :
    state.awaiter.Open state.now := by
  have timer := running.timer
  rwa [TimerKept, not_stopped, running.not_destroyed, Bool.or_false, if_neg (by simp)] at timer

theorem leave (running : state.Running) (complete : state.stopped = false → state.countMax ≠ 0 ∧
    state.promise.yielded.length = state.countMax.toNat) : state.leave.Invariant := by
  rcases running.promise.finish_spec .returned running.status with
    ⟨finished, generator_eq, yielded_eq, ended_eq, -⟩
  have timer := running.timer
  unfold State.leave
  cases stopped : state.stopped with
  | true =>
      simp only [if_true]
      refine ⟨finished, running.no_fault, timer, running.counted.congr yielded_eq rfl, ?_⟩
      refine .ended running.called ended_eq stopped running.unregistered fun not_called => ?_
      have called := running.stopped_eq
      rw [stopped] at called
      simp [← called] at not_called
  | false =>
      simp only [Bool.false_eq_true, if_false, State.close, Awaiter.resume, running.unregistered,
        State.enqueue]
      refine ⟨finished, running.no_fault, ?_, running.counted.congr yielded_eq rfl, ?_⟩
      · exact ((running.open_ stopped).setHandle none).stop_close
      · refine .ended running.called ended_eq rfl (Awaiter.stop_close_handle _) fun _ => ?_
        dsimp only
        rw [yielded_eq]
        exact complete stopped

theorem awaitResume (running : state.Running) :
    ({ state with awaiter := state.awaiter.awaitResume.2 } : State E).Running := by
  refine ⟨running.promise, running.no_fault, ?_, running.counted.congr rfl rfl, running.called,
    running.status, running.counter_eq, rfl, running.stopped_eq, running.not_destroyed⟩
  have timer := running.timer
  unfold TimerKept at timer ⊢
  split at timer
  · rename_i closed
    rw [if_pos closed]
    exact timer.setHandle none
  · rename_i not_closed
    rw [if_neg not_closed]
    exact timer.setHandle none

theorem resumed (running : state.Running) (room : state.countMax ≠ 0 →
    state.promise.yielded.length < state.countMax.toNat) : state.resumed.Invariant := by
  have after := running.awaitResume
  unfold State.resumed
  dsimp only
  by_cases stopped : state.stopped = true
  · have event : state.awaiter.awaitResume.1 = false := by
      simp [Awaiter.awaitResume, (running.closed stopped).stopped_eq]
    rw [if_neg (by simp [event]), if_pos stopped]
    exact after.leave fun not_stopped => by simp [stopped] at not_stopped
  · have is_open := running.open_ (Bool.eq_false_iff.mpr stopped)
    have event : state.awaiter.awaitResume.1 = true := by
      simp [Awaiter.awaitResume, is_open.stopped_eq]
    rw [if_pos event, if_neg stopped]
    rcases running.promise.yield_spec state.counter running.status with
      ⟨parked, generator_eq, yielded_eq, -, status_eq⟩
    have length_eq : (state.promise.yield state.counter).yielded.length =
        state.promise.yielded.length + 1 := by simp [yielded_eq]
    refine ⟨parked, running.no_fault, after.timer, ⟨?_, ?_⟩, ?_⟩
    · dsimp only
      rw [length_eq, yielded_eq, upTo_succ, ← running.counted.yielded_eq, running.counter_eq]
    · dsimp only
      rw [length_eq]
      exact room
    · refine .yielding running.called rfl ?_ ?_ rfl running.stopped_eq
      · dsimp only
        rw [generator_eq]
        exact status_eq
      · dsimp only
        rw [length_eq, running.counter_eq, UInt64.ofNat_add]
        rfl

theorem counter_lt (running : state.Running) (counts : state.countMax ≠ 0) :
    state.counter < state.countMax ↔ state.promise.yielded.length < state.countMax.toNat := by
  have bounded := running.counted.bounded counts
  have fits := Nat.lt_of_le_of_lt bounded state.countMax.toNat_lt
  rw [running.counter_eq, UInt64.lt_iff_toNat_lt, UInt64.toNat_ofNat_of_lt' fits]

theorem turn (running : state.Running) : state.turn.Invariant := by
  unfold State.turn
  cases stopped : state.stopped with
  | true =>
      simp only [Bool.not_true, Bool.false_and, Bool.false_eq_true, if_false]
      exact running.leave fun not_stopped => absurd stopped (by simp [not_stopped])
  | false =>
      split
      · rename_i continues
        have room : state.countMax ≠ 0 →
            state.promise.yielded.length < state.countMax.toNat := by
          intro counts
          rw [← running.counter_lt counts]
          simpa [counts] using continues
        rcases (running.open_ stopped).isReady with ⟨same, repeats⟩
        unfold State.await
        dsimp only
        rw [same]
        split
        · exact running.resumed room
        · rename_i not_ready
          have enabled : (MultiPromise.Action.other (.suspend state.promise.generator)).Enabled
              state.promise := ⟨running.status, by simp⟩
          refine ⟨running.promise.step enabled, running.no_fault, ?_, running.counted.congr rfl rfl,
            ?_⟩
          · rw [TimerKept, if_neg (by simp [stopped, running.not_destroyed])]
            exact (running.open_ stopped).setHandle _
          · refine .inTimer running.called rfl (Runtime.setStatus_status_self _)
              running.counter_eq room (.inl ⟨rfl, ?_, stopped, ?_⟩) running.stopped_eq
            · exact running.promise.consistent.pending_of_running running.status
            · exact repeats (Bool.eq_false_iff.mpr not_ready)
      · rename_i ends
        apply running.leave
        intro _
        have counts : state.countMax ≠ 0 := by
          rintro zero
          simp [zero] at ends
        have full : ¬state.counter < state.countMax := by simpa [counts] using ends
        rw [running.counter_lt counts] at full
        have bounded := running.counted.bounded counts
        exact ⟨counts, by omega⟩

theorem leave_ended (running : state.Running) : state.leave.promise.ended = some .returned := by
  rcases running.promise.finish_spec .returned running.status with ⟨-, -, -, ended_eq, -⟩
  unfold State.leave
  cases stopped : state.stopped with
  | true => exact ended_eq
  | false =>
      simp only [Bool.false_eq_true, if_false, State.close, Awaiter.resume, running.unregistered,
        State.enqueue]
      exact ended_eq

theorem resumed_goesOn (running : state.Running) : GoesOn state state.resumed := by
  unfold State.resumed
  dsimp only
  by_cases stopped : state.stopped = true
  · have event : state.awaiter.awaitResume.1 = false := by
      simp [Awaiter.awaitResume, (running.closed stopped).stopped_eq]
    rw [if_neg (by simp [event]), if_pos stopped]
    exact .inl ⟨running.awaitResume.leave_ended, .inl stopped⟩
  · have not_stopped := Bool.eq_false_iff.mpr stopped
    have event : state.awaiter.awaitResume.1 = true := by
      simp [Awaiter.awaitResume, (running.open_ not_stopped).stopped_eq]
    rw [if_pos event, if_neg stopped]
    rcases running.promise.yield_spec state.counter running.status with ⟨-, -, yielded_eq, -⟩
    refine .inr ⟨not_stopped, .inl ?_⟩
    rw [← running.counter_eq]
    exact yielded_eq

theorem turn_goesOn (running : state.Running) : GoesOn state state.turn := by
  unfold State.turn
  cases stopped : state.stopped with
  | true =>
      simp only [Bool.not_true, Bool.false_and, Bool.false_eq_true, if_false]
      exact .inl ⟨running.leave_ended, .inl stopped⟩
  | false =>
      split
      · have is_open := running.open_ stopped
        rcases is_open.isReady with ⟨same, repeats⟩
        unfold State.await
        dsimp only
        rw [same]
        split
        · exact running.resumed_goesOn
        · rename_i not_ready
          refine .inr ⟨stopped, .inr ⟨rfl, ?_⟩⟩
          rcases is_open.armed with ⟨-, active⟩ | ⟨zero, -⟩
          · exact active
          · exact absurd zero (repeats (Bool.eq_false_iff.mpr not_ready))
      · rename_i ends
        have counts : state.countMax ≠ 0 := by
          rintro zero
          simp [zero] at ends
        have full : ¬state.counter < state.countMax := by simpa [counts] using ends
        rw [running.counter_lt counts] at full
        have bounded := running.counted.bounded counts
        exact .inl ⟨running.leave_ended, .inr ⟨counts, by omega⟩⟩

end Running

namespace Invariant

variable {state : State E}

theorem initial (now millis count : UInt64) (generator : Handle) :
    (tick now millis count generator : State E).Invariant := by
  refine ⟨MultiPromise.State.initial_invariant generator, rfl, ?_, ⟨rfl, ?_⟩, ?_⟩
  · rw [TimerKept, if_neg (by simp [tick])]
    exact Awaiter.Open.create now millis
  · exact fun _ => Nat.zero_le _
  · exact .created rfl rfl rfl rfl rfl rfl

theorem ticker (invariant : state.Invariant) (not_called : state.called = false)
    (not_destroyed : state.destroyed = false) :
    ({ state with called := true } : State E).Running := by
  cases invariant.stage with
  | created _ status nothing counter_eq unregistered stopped_eq =>
      refine ⟨invariant.promise, invariant.no_fault, invariant.timer,
        invariant.counted.congr rfl rfl, rfl, status, ?_, unregistered, stopped_eq, not_destroyed⟩
      dsimp only
      rw [nothing, counter_eq]
      rfl
  | inTimer called | yielding called | ended called => simp [not_called] at called

theorem resumed (invariant : state.Invariant) {promise : MultiPromise.State UInt64 E}
    (promise_invariant : promise.Invariant) (yielded_eq : promise.yielded = state.promise.yielded)
    (running : promise.runtime.status promise.generator = .running)
    (open_ : state.promise.ended = none) (called : state.called = true)
    (not_destroyed : state.destroyed = false)
    (was_suspended : state.promise.runtime.status state.promise.generator = .elsewhere ∧
        0 < state.promise.runtime.pending state.promise.generator ∨
      state.promise.runtime.status state.promise.generator = .waiting .atYield) :
    state.atYield = true ∧
        ({ state with promise, counter := state.counter + 1 } : State E).Running ∨
      state.atYield = false ∧ ({ state with promise } : State E).Running ∧
        (state.countMax ≠ 0 → promise.yielded.length < state.countMax.toNat) := by
  cases invariant.stage with
  | created not_called => simp [called] at not_called
  | inTimer _ position status counter_eq room registered stopped_eq =>
      have unregistered : state.awaiter.handle = none := by
        rcases registered with ⟨-, unqueued, -⟩ | ⟨unregistered, -⟩
        · rcases was_suspended with ⟨-, queued⟩ | at_yield
          · omega
          · simp [status] at at_yield
        · exact unregistered
      rw [← yielded_eq] at counter_eq room
      exact .inr ⟨position, ⟨promise_invariant, invariant.no_fault, invariant.timer,
        invariant.counted.congr yielded_eq rfl, called, running, counter_eq, unregistered,
        stopped_eq, not_destroyed⟩, room⟩
  | yielding _ position status counter_eq unregistered stopped_eq =>
      rw [← yielded_eq] at counter_eq
      exact .inl ⟨position, promise_invariant, invariant.no_fault, invariant.timer,
        invariant.counted.congr yielded_eq rfl, called, running, counter_eq, unregistered,
        stopped_eq, not_destroyed⟩
  | ended _ ended_eq => simp [ended_eq] at open_

theorem called_of_not_running (invariant : state.Invariant)
    (not_running : state.promise.runtime.status state.promise.generator ≠ .running) :
    state.called = true := by
  cases invariant.stage with
  | created _ status => exact absurd status not_running
  | inTimer called | yielding called | ended called => exact called

theorem stays (invariant : state.Invariant) {promise : MultiPromise.State UInt64 E}
    (promise_invariant : promise.Invariant)
    (generator_eq : promise.generator = state.promise.generator)
    (yielded_eq : promise.yielded = state.promise.yielded)
    (ended_eq : promise.ended = state.promise.ended)
    (status_eq : promise.runtime.status state.promise.generator =
      state.promise.runtime.status state.promise.generator)
    (pending_eq : state.promise.runtime.status state.promise.generator = .elsewhere →
      promise.runtime.pending state.promise.generator =
        state.promise.runtime.pending state.promise.generator) :
    ({ state with promise } : State E).Invariant := by
  refine ⟨promise_invariant, invariant.no_fault, invariant.timer,
    invariant.counted.congr yielded_eq rfl, ?_⟩
  cases invariant.stage with
  | created not_called status nothing counter_eq unregistered stopped_eq =>
      refine .created not_called ?_ (yielded_eq.trans nothing) counter_eq unregistered stopped_eq
      dsimp only
      rw [generator_eq, status_eq]
      exact status
  | inTimer called position status counter_eq room registered stopped_eq =>
      refine .inTimer called position ?_ ?_ ?_ ?_ stopped_eq
      all_goals dsimp only
      · rw [generator_eq, status_eq]
        exact status
      · rw [yielded_eq]
        exact counter_eq
      · rw [yielded_eq]
        exact room
      · rw [generator_eq, pending_eq status]
        exact registered
  | yielding called position status counter_eq unregistered stopped_eq =>
      refine .yielding called position ?_ ?_ unregistered stopped_eq
      all_goals dsimp only
      · rw [generator_eq, status_eq]
        exact status
      · rw [yielded_eq]
        exact counter_eq
  | ended called was_ended stopped_eq unregistered complete =>
      refine .ended called (ended_eq.trans was_ended) stopped_eq unregistered fun not_called => ?_
      dsimp only
      rw [yielded_eq]
      exact complete not_called

theorem follow (invariant : state.Invariant) {action : MultiPromise.Action UInt64 E}
    (enabled : (Action.follow action).Enabled state) : (state.follow action).Invariant := by
  rcases enabled with ⟨not_destroyed, enabled, is_foreign, awaits_called⟩
  rcases invariant.promise.follow_cases enabled is_foreign with
    ⟨promise, generator_eq, yielded_eq, ended_eq, ⟨not_resumed, status_eq, pending_eq⟩ |
      ⟨resumed, open_, was_suspended⟩⟩
  · simp only [State.follow, if_neg not_resumed]
    exact invariant.stays promise generator_eq yielded_eq ended_eq status_eq pending_eq
  · simp only [State.follow, if_pos resumed, State.proceed]
    rcases invariant.resumed promise yielded_eq (generator_eq ▸ resumed.2) open_
        (invariant.called_of_not_running resumed.1) not_destroyed was_suspended with
      ⟨position, running⟩ | ⟨position, running, room⟩
    · rw [if_pos position]
      exact running.turn
    · rw [if_neg (by simp [position])]
      exact running.resumed room

theorem open_ (invariant : state.Invariant) (not_stopped : state.stopped = false)
    (not_destroyed : state.destroyed = false) : state.awaiter.Open state.now := by
  have timer := invariant.timer
  rwa [TimerKept, not_stopped, not_destroyed, Bool.or_false, if_neg (by simp)] at timer

theorem updateTime (invariant : state.Invariant) {now : UInt64} (forward : state.now ≤ now) :
    ({ state with now } : State E).Invariant := by
  refine ⟨invariant.promise, invariant.no_fault, ?_, invariant.counted.congr rfl rfl, ?_⟩
  · have timer := invariant.timer
    unfold TimerKept at timer ⊢
    dsimp only
    split at timer
    · rename_i closed
      rw [if_pos closed]
      exact timer
    · rename_i not_closed
      rw [if_neg not_closed]
      exact timer.updateTime forward
  · cases invariant.stage with
    | created not_called status nothing counter_eq unregistered stopped_eq =>
        exact .created not_called status nothing counter_eq unregistered stopped_eq
    | inTimer called position status counter_eq room registered stopped_eq =>
        exact .inTimer called position status counter_eq room registered stopped_eq
    | yielding called position status counter_eq unregistered stopped_eq =>
        exact .yielding called position status counter_eq unregistered stopped_eq
    | ended called ended_eq stopped_eq unregistered complete =>
        exact .ended called ended_eq stopped_eq unregistered complete

theorem closed (invariant : state.Invariant) (over_ : state.stopped = true ∨
    state.destroyed = true) : state.awaiter.Closed := by
  have timer := invariant.timer
  rwa [TimerKept, if_pos (by simpa using over_)] at timer

theorem stop_close (invariant : state.Invariant) : state.awaiter.stop.close.Closed := by
  have timer := invariant.timer
  unfold TimerKept at timer
  split at timer
  · rw [timer.stop_close]
    exact timer
  · exact timer.stop_close

theorem destroy (invariant : state.Invariant) :
    ({ state with awaiter := state.awaiter.destroy, destroyed := true } : State E).Invariant := by
  have handle_eq := Awaiter.stop_close_handle state.awaiter
  refine ⟨invariant.promise, invariant.no_fault, ?_, invariant.counted.congr rfl rfl, ?_⟩
  · rw [TimerKept, if_pos (by simp)]
    exact invariant.stop_close
  · cases invariant.stage with
    | created not_called status nothing counter_eq unregistered stopped_eq =>
        exact .created not_called status nothing counter_eq (handle_eq.trans unregistered)
          stopped_eq
    | inTimer called position status counter_eq room registered stopped_eq =>
        refine .inTimer called position status counter_eq room ?_ stopped_eq
        rw [Awaiter.destroy, handle_eq, Awaiter.stop_close_interval]
        exact registered
    | yielding called position status counter_eq unregistered stopped_eq =>
        exact .yielding called position status counter_eq (handle_eq.trans unregistered) stopped_eq
    | ended called ended_eq stopped_eq unregistered complete =>
        exact .ended called ended_eq stopped_eq (handle_eq.trans unregistered) complete

theorem wake (invariant : state.Invariant) {awaiter : Awaiter} {stopped closeCalled : Bool}
    (timer : ({ state with awaiter, stopped, closeCalled } : State E).TimerKept)
    (unregistered : awaiter.handle = none)
    (flags : stopped = state.stopped ∧ closeCalled = state.closeCalled ∨
      stopped = true ∧ closeCalled = true) :
    (({ state with awaiter, stopped, closeCalled } : State E).enqueue
      state.awaiter.handle).Invariant := by
  have flags_eq : state.stopped = state.closeCalled → stopped = closeCalled := by
    rcases flags with ⟨rfl, rfl⟩ | ⟨rfl, rfl⟩
    · exact id
    · exact fun _ => rfl
  have unchanged : state.awaiter.handle = none →
      (({ state with awaiter, stopped, closeCalled } : State E).enqueue
        state.awaiter.handle).Invariant := by
    intro nobody
    rw [nobody]
    refine ⟨invariant.promise, invariant.no_fault, timer, invariant.counted.congr rfl rfl, ?_⟩
    cases invariant.stage with
    | created not_called status nothing counter_eq _ stopped_eq =>
        exact .created not_called status nothing counter_eq unregistered (flags_eq stopped_eq)
    | inTimer called position status counter_eq room registered stopped_eq =>
        refine .inTimer called position status counter_eq room (.inr ⟨unregistered, ?_⟩)
          (flags_eq stopped_eq)
        rcases registered with ⟨registered, -⟩ | ⟨-, queued⟩
        · simp [nobody] at registered
        · exact queued
    | yielding called position status counter_eq _ stopped_eq =>
        exact .yielding called position status counter_eq unregistered (flags_eq stopped_eq)
    | ended called ended_eq stopped_eq _ complete =>
        refine .ended called ended_eq ?_ unregistered ?_
        · rcases flags with ⟨rfl, -⟩ | ⟨rfl, -⟩
          · exact stopped_eq
          · rfl
        · rcases flags with ⟨-, rfl⟩ | ⟨-, rfl⟩
          · exact complete
          · exact fun not_called => Bool.noConfusion not_called
  cases invariant.stage with
  | created _ _ _ _ nobody | yielding _ _ _ _ nobody | ended _ _ _ nobody => exact unchanged nobody
  | inTimer called position status counter_eq room registered stopped_eq =>
      rcases registered with ⟨registered, unqueued, -⟩ | ⟨nobody, -⟩
      · have enabled : (MultiPromise.Action.other (.wake state.promise.generator)).Enabled
            state.promise := ⟨⟨status, unqueued⟩, by simp⟩
        rw [registered]
        refine ⟨invariant.promise.step enabled, invariant.no_fault, timer,
          invariant.counted.congr rfl rfl, ?_⟩
        refine .inTimer called position status counter_eq room (.inr ⟨unregistered, ?_⟩)
          (flags_eq stopped_eq)
        exact Runtime.pending_enqueue_self.trans (by rw [unqueued])
      · exact unchanged nobody

theorem fire (invariant : state.Invariant) (not_destroyed : state.destroyed = false)
    (due : state.awaiter.timer.Due state.now) : state.fire.Invariant := by
  have not_stopped : state.stopped = false := by
    by_contra stopped
    have inactive := (invariant.closed (.inl (by simpa using stopped))).inactive
    simp [due.1] at inactive
  have is_open := invariant.open_ not_stopped not_destroyed
  rcases is_open.onMultiTimerFired with ⟨woken_eq, unregistered, still_open, -⟩
  unfold State.fire
  dsimp only
  rw [woken_eq]
  refine invariant.wake ?_ unregistered (.inl ⟨rfl, rfl⟩)
  rw [TimerKept, if_neg (by simp [not_stopped, not_destroyed])]
  exact still_open

theorem close (invariant : state.Invariant) :
    ({ state with closeCalled := true } : State E).close.Invariant := by
  have after : ({ state with awaiter := { state.awaiter with handle := none } } :
      State E).awaiter.stop.close.Closed := by
    have timer := invariant.timer
    unfold TimerKept at timer
    split at timer
    · rw [(timer.setHandle none).stop_close]
      exact timer.setHandle none
    · exact (timer.setHandle none).stop_close
  refine invariant.wake ?_ ((Awaiter.stop_close_handle _).trans rfl) (.inr ⟨rfl, rfl⟩)
  rw [TimerKept, if_pos (by simp)]
  exact after

theorem step (invariant : state.Invariant) {action : Action E} (enabled : action.Enabled state) :
    (action.perform state).Invariant := by
  cases action with
  | ticker => exact (invariant.ticker enabled.2 enabled.1).turn
  | close => exact invariant.close
  | updateTime now => exact invariant.updateTime enabled.2
  | fire => exact invariant.fire enabled.1 enabled.2
  | destroy => exact invariant.destroy
  | follow action => exact invariant.follow enabled

end Invariant

theorem invariant_of_reachable {state : State E} (reached : (system E).Reachable state) :
    state.Invariant := by
  refine TransitionSystem.Reachable.invariant State.Invariant ?_ ?_ reached
  · rintro _ ⟨now, millis, count, generator, rfl⟩
    exact .initial now millis count generator
  · exact fun _ _ invariant enabled => invariant.step enabled

/-! ## What the consumers obtain -/

theorem Invariant.waits {state : State E} (invariant : state.Invariant)
    (called : state.called = true) (not_destroyed : state.destroyed = false) {consumer : Handle}
    (awaits : state.promise.Awaits consumer) :
    state.promise.runtime.pending consumer = 1 ∨
      state.promise.runtime.pending state.promise.generator = 1 ∨
      state.awaiter.handle = some state.promise.generator ∧
        state.awaiter.timer.active = true := by
  rcases invariant.promise.of_awaits awaits with queued | ⟨open_, on_its_way⟩
  · exact .inl queued
  · right
    cases invariant.stage with
    | created not_called => simp [called] at not_called
    | inTimer _ _ _ _ _ registered =>
        rcases registered with ⟨registered, -, not_stopped, repeats⟩ | ⟨-, queued⟩
        · rcases (invariant.open_ not_stopped not_destroyed).armed with ⟨-, active⟩ | ⟨zero, -⟩
          · exact .inr ⟨registered, active⟩
          · exact absurd zero repeats
        · exact .inl queued
    | yielding _ _ status =>
        rcases on_its_way with running | elsewhere | ⟨-, queued⟩
        · simp [status] at running
        · simp [status] at elsewhere
        · exact .inl queued
    | ended _ ended_eq => simp [ended_eq] at open_

/-- The handle in the awaiter leads to the generator, which is not enqueued. -/
theorem Invariant.registered {state : State E} (invariant : state.Invariant) {handle : Handle}
    (stored : state.awaiter.handle = some handle) :
    handle = state.promise.generator ∧ state.promise.runtime.pending handle = 0 := by
  cases invariant.stage with
  | created _ _ _ _ nobody | yielding _ _ _ _ nobody | ended _ _ _ nobody =>
      simp [nobody] at stored
  | inTimer _ _ _ _ _ registered =>
      rcases registered with ⟨registered, unqueued, -⟩ | ⟨nobody, -⟩
      · obtain rfl := Option.some.inj (registered.symm.trans stored)
        exact ⟨rfl, unqueued⟩
      · simp [nobody] at stored

theorem Invariant.enqueue_stored {state : State E} (invariant : state.Invariant)
    {after : State E} {handle : Handle} (stored : state.awaiter.handle = some handle)
    (promise_eq : after.promise = state.promise) :
    (after.enqueue state.awaiter.handle).promise.runtime.pending handle = 1 := by
  rw [stored, State.enqueue, promise_eq]
  exact Runtime.pending_enqueue_self.trans (by rw [(invariant.registered stored).2])

theorem Invariant.closes {state : State E} (invariant : state.Invariant) :
    (Action.perform state .close).stopped = true ∧ (Action.perform state .close).awaiter.Closed ∧
      (Action.perform state .close).awaiter.handle = none ∧
      ∀ handle, state.awaiter.handle = some handle →
        (Action.perform state .close).promise.runtime.pending handle = 1 := by
  have stopped : (Action.perform state .close).stopped = true := by
    cases handle_eq : state.awaiter.handle <;>
      simp only [Action.perform, State.close, Awaiter.resume, handle_eq, State.enqueue]
  refine ⟨stopped, invariant.close.closed (.inl stopped), ?_, ?_⟩
  · have unregistered : ({ state.awaiter with handle := none } : Awaiter).stop.close.handle =
        none := Awaiter.stop_close_handle _
    cases handle_eq : state.awaiter.handle <;>
      simpa only [Action.perform, State.close, Awaiter.resume, handle_eq, State.enqueue]
        using unregistered
  · exact fun handle stored => invariant.enqueue_stored stored rfl

theorem Invariant.after_end {state : State E} (invariant : state.Invariant)
    (ended : state.promise.ended.isSome = true) (handle : Handle) :
    state.follow (.coAwait handle) = { state with promise :=
      { state.promise with obtained := state.promise.obtained ++ [.returned none] } } := by
  have returned : state.promise.ended = some .returned := by
    have done := invariant.promise.done_of_ended ended
    cases invariant.stage with
    | created _ status | inTimer _ _ status | yielding _ _ status => simp [status] at done
    | ended _ returned => exact returned
  have coAwait_eq := (invariant.promise.after_end handle returned).2
  have not_resumed : ¬state.promise.Resumed (state.promise.coAwait handle) := by
    rintro ⟨not_running, running⟩
    rw [coAwait_eq] at running
    exact not_running running
  unfold State.follow
  dsimp only [MultiPromise.Action.perform]
  rw [if_neg not_resumed, coAwait_eq]
  rfl

theorem Invariant.goes_on {state : State E} (invariant : state.Invariant)
    {action : MultiPromise.Action UInt64 E} (enabled : (Action.follow action).Enabled state)
    (resumed : state.promise.Resumed (action.perform state.promise)) :
    GoesOn state (state.follow action) := by
  rcases enabled with ⟨not_destroyed, enabled, is_foreign, -⟩
  rcases invariant.promise.follow_cases enabled is_foreign with
    ⟨promise, generator_eq, yielded_eq, -, ⟨not_resumed, -⟩ | ⟨-, open_, was_suspended⟩⟩
  · exact absurd resumed not_resumed
  · -- The step itself leaves the flags and what was yielded alone.
    have goes_on : ∀ {before after : State E}, GoesOn before after →
        before.stopped = state.stopped → before.countMax = state.countMax →
        before.promise = action.perform state.promise → GoesOn state after := by
      intro before after goes_on stopped_eq countMax_eq promise_eq
      simpa only [GoesOn, stopped_eq, countMax_eq, promise_eq, yielded_eq, generator_eq]
        using goes_on
    simp only [State.follow, if_pos resumed, State.proceed]
    rcases invariant.resumed promise yielded_eq (generator_eq ▸ resumed.2) open_
        (invariant.called_of_not_running resumed.1) not_destroyed was_suspended with
      ⟨position, running⟩ | ⟨position, running, -⟩
    · rw [if_pos position]
      exact goes_on running.turn_goesOn rfl rfl rfl
    · rw [if_neg (by simp [position])]
      exact goes_on running.resumed_goesOn rfl rfl rfl

end State

end Uvco.Timer.Ticker
