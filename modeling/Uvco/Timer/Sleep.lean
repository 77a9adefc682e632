import Uvco.Request.Lifecycle
import Uvco.Timer.Handle

/-!
# `sleep()`

Any number of calls of `sleep()`, each with its coroutine and its timer, under an
arbitrary clock. `TimerAwaiter` is ready if the timer is due, and says whether it was
stopped when it is resumed; `sleep()` expects the latter, with `BOOST_VERIFY`. So it
works if the timer was stopped by its callback, and fails if it was ready at once.
-/

namespace Uvco.Timer

/-- How a call of `sleep()` ended. -/
inductive Ending where
  | returned
  /-- `BOOST_VERIFY` has failed. -/
  | aborted
deriving DecidableEq, Repr

/-- A call of `sleep()`. -/
structure Sleeper where
  millis : UInt64
  /-- The loop time of the call. -/
  called : UInt64
  /-- The local variable, as long as it exists. -/
  awaiter : Option Awaiter
  ending : Option Ending := none
  /-- The loop time has reached the due time. -/
  reached : Bool
  /-- How often the coroutine was resumed. -/
  resumed : ℕ := 0
deriving DecidableEq, Repr

/-- The timer of the call, as long as it exists. -/
def Sleeper.timer (sleeper : Sleeper) : Option UvTimer :=
  sleeper.awaiter.map Awaiter.timer

/-- The timer is not due at the moment it is started. -/
def Sleeper.Early (sleeper : Sleeper) : Prop :=
  sleeper.millis ≠ 0 ∧ sleeper.called ≠ -1

/-- Notes that the due time has come. -/
def Sleeper.observe (sleeper : Sleeper) (now : UInt64) : Sleeper :=
  { sleeper with
    reached := sleeper.reached || sleeper.timer.any fun timer => timer.timeout ≤ now }

namespace Sleep

/-- All calls of `sleep()` on a loop. -/
structure State where
  runtime : Runtime Unit := {}
  /-- The loop time. -/
  now : UInt64 := 0
  /-- The calls, by their coroutines. -/
  sleeper : Handle → Option Sleeper := fun _ => none
  /-- A coroutine was resumed that is not suspended. -/
  fault : Bool := false

namespace State

variable (state : State) (coroutine : Handle)

/-- A call begins or goes on. -/
def setSleeper (sleeper : Sleeper) : State :=
  { state with sleeper := Function.update state.sleeper coroutine (some sleeper) }

/-- A call that has not ended, with its awaiter. -/
def frame : Option (Sleeper × Awaiter) :=
  (state.sleeper coroutine).bind fun sleeper =>
    sleeper.awaiter.map fun awaiter => (sleeper, awaiter)

/-- The local variables are destroyed, and the coroutine does not run again. -/
def leave (sleeper : Sleeper) (ending : Option Ending) : State :=
  { state.setSleeper coroutine { sleeper with awaiter := none, ending } with
    runtime := state.runtime.setStatus coroutine .done }

/-- What `BOOST_VERIFY(!co_await awaiter)` does when `await_resume` has returned. -/
def finish (sleeper : Sleeper) (awaiter : Awaiter) : State :=
  let ending := if !awaiter.awaitResume.1 then Ending.returned else .aborted
  state.leave coroutine sleeper ending

/-- `sleep(loop, millis)`. -/
def sleep (millis : UInt64) : State :=
  let (ready, awaiter) := (Awaiter.create state.now millis false).isReady state.now
  let sleeper : Sleeper :=
    { millis, called := state.now, awaiter := some awaiter, reached := ready }
  if ready then state.finish coroutine sleeper awaiter
  else
    { state.setSleeper coroutine
        { sleeper with awaiter := some (awaiter.awaitSuspend coroutine) } with
      runtime := state.runtime.setStatus coroutine (.waiting ()) }

/-- `uv_update_time`. -/
def updateTime (now : UInt64) : State :=
  { state with now, sleeper := fun other => (state.sleeper other).map (·.observe now) }

/-- libuv runs the timer of a call. -/
def fire : State :=
  match state.frame coroutine with
  | some (sleeper, awaiter) =>
      let (woken, awaiter) := awaiter.onSingleTimerDone state.now
      { state.setSleeper coroutine { sleeper with awaiter := some awaiter } with
        runtime := woken.elim state.runtime state.runtime.enqueue }
  | none => state

/-- `coroutine_handle::resume()`. -/
def resume (handle : Handle) : State :=
  match state.runtime.status handle with
  | .waiting () =>
      match state.frame handle with
      | some (sleeper, awaiter) =>
          state.finish handle { sleeper with resumed := sleeper.resumed + 1 } awaiter
      | none => { state with fault := true }
  | .elsewhere => { state with runtime := state.runtime.setStatus handle .running }
  | .running | .done => { state with fault := true }

/-- The scheduler resumes the next coroutine, if there is one. -/
def resumeNext : State :=
  match state.runtime.getNext with
  | (some handle, runtime) => ({ state with runtime } : State).resume handle
  | (none, runtime) => { state with runtime }

/-- The promise of a call is dropped. -/
def drop : State :=
  match state.frame coroutine with
  | some (sleeper, _) =>
      ({ state with runtime := state.runtime.cancel coroutine } : State).leave coroutine sleeper
        none
  | none => state

end State

/-- What the program, the timers and the scheduler can do next. -/
inductive Action where
  | sleep (coroutine : Handle) (millis : UInt64)
  | updateTime (now : UInt64)
  | fire (coroutine : Handle)
  | resumeNext
  | drop (coroutine : Handle)
  /-- A coroutine does something else. -/
  | other (action : Runtime.Action)

namespace Action

/-- Only timers that are due fire. -/
def Enabled (state : State) : Action → Prop
  | .sleep coroutine _ => state.sleeper coroutine = none ∧
      state.runtime.status coroutine = .running
  | .updateTime _ => True
  | .fire coroutine => (state.frame coroutine).any
      (fun (_, awaiter) => awaiter.timer.Due state.now) = true
  | .resumeNext => True
  | .drop _ => True
  | .other action => action.Enabled state.runtime

/-- The state after an action. -/
def perform (state : State) : Action → State
  | .sleep coroutine millis => state.sleep coroutine millis
  | .updateTime now => state.updateTime now
  | .fire coroutine => state.fire coroutine
  | .resumeNext => state.resumeNext
  | .drop coroutine => state.drop coroutine
  | .other action => { state with runtime := action.perform state.runtime }

end Action

/-- All programs that call `sleep()`, under every clock. -/
def system : TransitionSystem State Action where
  Initial state := ∃ now, state = { now }
  Enabled state action := action.Enabled state
  perform state action := action.perform state

/-! ## The stages of a call -/

/-- How far a call has got. -/
inductive Stage (runtime : Runtime Unit) (coroutine : Handle) (sleeper : Sleeper) : Prop where
  | sleeping (awaiter : Awaiter) (present : sleeper.awaiter = some awaiter)
      (attached : awaiter.handle = some coroutine) (unstopped : awaiter.stopped = false)
      (early : sleeper.Early) (not_ended : sleeper.ending = none) (unresumed : sleeper.resumed = 0)
      (waiting : runtime.status coroutine = .waiting ()) (unqueued : runtime.pending coroutine = 0)
  | fired (awaiter : Awaiter) (present : sleeper.awaiter = some awaiter)
      (stopped : awaiter.stopped = true) (inactive : awaiter.timer.active = false)
      (early : sleeper.Early) (not_ended : sleeper.ending = none) (unresumed : sleeper.resumed = 0)
      (reached : sleeper.reached = true) (waiting : runtime.status coroutine = .waiting ())
      (enqueued : runtime.pending coroutine = 1)
  | returned (gone : sleeper.awaiter = none) (early : sleeper.Early)
      (ending_eq : sleeper.ending = some .returned) (resumed : sleeper.resumed = 1)
      (reached : sleeper.reached = true) (awake : runtime.status coroutine ≠ .waiting ())
  | dropped (gone : sleeper.awaiter = none) (early : sleeper.Early)
      (not_ended : sleeper.ending = none) (unresumed : sleeper.resumed = 0)
      (awake : runtime.status coroutine ≠ .waiting ())
  | aborted (gone : sleeper.awaiter = none) (late : ¬sleeper.Early)
      (ending_eq : sleeper.ending = some .aborted)
      (awake : runtime.status coroutine ≠ .waiting ())

namespace Stage

variable {before after : Runtime Unit} {coroutine : Handle} {sleeper : Sleeper}

theorem keep (stage : Stage before coroutine sleeper)
    (waiting_iff : after.status coroutine = .waiting () ↔ before.status coroutine = .waiting ())
    (pending_eq : before.status coroutine = .waiting () →
      after.pending coroutine = before.pending coroutine) : Stage after coroutine sleeper := by
  cases stage with
  | sleeping awaiter present attached unstopped early not_ended unresumed waiting unqueued =>
      exact .sleeping awaiter present attached unstopped early not_ended unresumed
        (waiting_iff.mpr waiting) ((pending_eq waiting).trans unqueued)
  | fired awaiter present stopped inactive early not_ended unresumed reached waiting enqueued =>
      exact .fired awaiter present stopped inactive early not_ended unresumed reached
        (waiting_iff.mpr waiting) ((pending_eq waiting).trans enqueued)
  | returned gone early ending_eq resumed reached awake =>
      exact .returned gone early ending_eq resumed reached (mt waiting_iff.mp awake)
  | dropped gone early not_ended unresumed awake =>
      exact .dropped gone early not_ended unresumed (mt waiting_iff.mp awake)
  | aborted gone late ending_eq awake =>
      exact .aborted gone late ending_eq (mt waiting_iff.mp awake)

theorem observe (stage : Stage before coroutine sleeper) (now : UInt64) :
    Stage before coroutine (sleeper.observe now) := by
  have kept : sleeper.reached = true → (sleeper.observe now).reached = true := by
    intro reached
    simp [Sleeper.observe, reached]
  cases stage with
  | sleeping awaiter present attached unstopped early not_ended unresumed waiting unqueued =>
      exact .sleeping awaiter present attached unstopped early not_ended unresumed waiting unqueued
  | fired awaiter present stopped inactive early not_ended unresumed reached waiting enqueued =>
      exact .fired awaiter present stopped inactive early not_ended unresumed (kept reached)
        waiting enqueued
  | returned gone early ending_eq resumed reached awake =>
      exact .returned gone early ending_eq resumed (kept reached) awake
  | dropped gone early not_ended unresumed awake =>
      exact .dropped gone early not_ended unresumed awake
  | aborted gone late ending_eq awake => exact .aborted gone late ending_eq awake

theorem awake_of_gone (stage : Stage before coroutine sleeper) (gone : sleeper.awaiter = none) :
    before.status coroutine ≠ .waiting () := by
  cases stage with
  | sleeping _ present | fired _ present => simp [gone] at present
  | returned _ _ _ _ _ awake | dropped _ _ _ _ awake | aborted _ _ _ awake => exact awake

end Stage

/-- What holds of one call: its coroutine is resumed at most once and not before the timer is due,
and then it returns. -/
structure Works (sleeper : Sleeper) : Prop where
  verified : sleeper.ending ≠ some .aborted
  once : sleeper.resumed ≤ 1
  due : sleeper.resumed ≠ 0 ∨ sleeper.ending.isSome = true → sleeper.reached = true

namespace State

variable {state : State} {coroutine : Handle}

/-- What holds of all calls in every reachable state. -/
structure Invariant (state : State) : Prop where
  tolerant : state.runtime.Tolerant
  stage : ∀ coroutine sleeper, state.sleeper coroutine = some sleeper →
    Stage state.runtime coroutine sleeper
  known : ∀ coroutine, state.runtime.status coroutine = .waiting () →
    (state.sleeper coroutine).isSome = true
  /-- A timer that has reached its due time is known to have done so. -/
  observed : ∀ coroutine sleeper, state.sleeper coroutine = some sleeper →
    ∀ awaiter, sleeper.awaiter = some awaiter → awaiter.timer.timeout ≤ state.now →
      sleeper.reached = true
  no_fault : state.fault = false

theorem frame_eq_some {sleeper : Sleeper} {awaiter : Awaiter} :
    state.frame coroutine = some (sleeper, awaiter) ↔
      state.sleeper coroutine = some sleeper ∧ sleeper.awaiter = some awaiter := by
  simp [frame, Option.bind_eq_some_iff]

namespace Invariant

theorem update (invariant : state.Invariant) {sleeper : Sleeper} {after : State}
    (sleeper_eq : after.sleeper = (state.setSleeper coroutine sleeper).sleeper)
    (apart : Request.Apart state.runtime after.runtime coroutine)
    (tolerant : after.runtime.Tolerant) (stage : Stage after.runtime coroutine sleeper)
    (now_eq : after.now = state.now)
    (observed : ∀ awaiter, sleeper.awaiter = some awaiter →
      awaiter.timer.timeout ≤ state.now → sleeper.reached = true)
    (fault_eq : after.fault = state.fault) : after.Invariant := by
  have changed : ∀ other, after.sleeper other =
      if other = coroutine then some sleeper else state.sleeper other := by
    intro other
    simp [sleeper_eq, setSleeper, Function.update_apply]
  refine ⟨tolerant, ?_, ?_, ?_, fault_eq.trans invariant.no_fault⟩
  · intro other found found_eq
    rw [changed] at found_eq
    split at found_eq
    · rename_i same
      subst same
      exact Option.some.inj found_eq ▸ stage
    · rename_i differs
      exact (invariant.stage other found found_eq).keep (apart.waiting_iff other differs)
        (apart.pending_eq other differs)
  · intro other waiting
    rw [changed]
    split
    · rfl
    · rename_i differs
      exact invariant.known other ((apart.waiting_iff other differs).mp waiting)
  · intro other found found_eq
    rw [changed] at found_eq
    rw [now_eq]
    split at found_eq
    · exact Option.some.inj found_eq ▸ observed
    · exact invariant.observed other found found_eq

theorem undisturbed (invariant : state.Invariant) {runtime : Runtime Unit}
    (tolerant : runtime.Tolerant) (unchanged : Runtime.Undisturbed state.runtime runtime) :
    ({ state with runtime } : State).Invariant := by
  refine ⟨tolerant, ?_, ?_, invariant.observed, invariant.no_fault⟩
  · intro coroutine sleeper found
    exact (invariant.stage coroutine sleeper found).keep (unchanged.waiting_iff coroutine ())
      (unchanged.pending_eq coroutine ())
  · intro coroutine waiting
    exact invariant.known coroutine ((unchanged.waiting_iff coroutine ()).mp waiting)

theorem sleep (invariant : state.Invariant) (running : state.runtime.status coroutine = .running)
    (millis : UInt64) : (state.sleep coroutine millis).Invariant := by
  have ready_iff : ((Awaiter.create state.now millis false).isReady state.now).1 = true ↔
      UvTimer.dueTime state.now millis ≤ state.now := by
    rw [Awaiter.isReady, beq_iff_eq, UvTimer.getDueIn_eq_zero]
    rfl
  have unqueued := invariant.tolerant.pending_of_running running
  unfold State.sleep
  dsimp only
  split
  · rename_i ready
    have late : UvTimer.dueTime state.now millis ≤ state.now := ready_iff.mp ready
    rw [UvTimer.dueTime_le] at late
    apply invariant.update
    · rfl
    · exact (Request.Apart.refl _ _).setStatus _
    · exact invariant.tolerant.setStatus _ (.inr rfl)
    · apply Stage.aborted
      · rfl
      · simpa [Sleeper.Early, ← or_iff_not_imp_left] using late
      · rfl
      · simp [finish, leave]
    · rfl
    · simp
    · rfl
  · rename_i not_ready
    have early : ¬UvTimer.dueTime state.now millis ≤ state.now := ready_iff.not.mp not_ready
    apply invariant.update
    · rfl
    · exact (Request.Apart.refl _ _).setStatus _
    · exact invariant.tolerant.setStatus _ (.inl unqueued)
    · apply Stage.sleeping
      · rfl
      · rfl
      · rfl
      · rwa [UvTimer.dueTime_le, not_or] at early
      · rfl
      · rfl
      · exact Runtime.setStatus_status_self _
      · exact unqueued
    · rfl
    · rintro _ ⟨⟩ due
      exact absurd due early
    · rfl

theorem updateTime (invariant : state.Invariant) (now : UInt64) :
    (state.updateTime now).Invariant := by
  have found_before : ∀ coroutine sleeper, (state.updateTime now).sleeper coroutine = some sleeper →
      ∃ before, state.sleeper coroutine = some before ∧ before.observe now = sleeper := by
    intro coroutine sleeper found
    exact Option.map_eq_some_iff.mp found
  refine ⟨invariant.tolerant, ?_, ?_, ?_, invariant.no_fault⟩
  · intro coroutine sleeper found
    rcases found_before coroutine sleeper found with ⟨before, before_found, rfl⟩
    exact (invariant.stage coroutine before before_found).observe now
  · intro coroutine waiting
    exact Option.isSome_map.trans (invariant.known coroutine waiting)
  · intro coroutine sleeper found awaiter present due
    rcases found_before coroutine sleeper found with ⟨before, before_found, rfl⟩
    have timer_eq : before.timer = some awaiter.timer := congrArg (Option.map Awaiter.timer) present
    have due_now : awaiter.timer.timeout ≤ now := due
    simp [Sleeper.observe, timer_eq, due_now]

theorem fire (invariant : state.Invariant) {sleeper : Sleeper} {awaiter : Awaiter}
    (framed : state.frame coroutine = some (sleeper, awaiter))
    (due : awaiter.timer.Due state.now) : (state.fire coroutine).Invariant := by
  rcases frame_eq_some.mp framed with ⟨found, present⟩
  have reached := invariant.observed coroutine sleeper found awaiter present due.2
  unfold State.fire
  rw [framed]
  cases invariant.stage coroutine sleeper found with
  | sleeping _ present' attached unstopped early not_ended unresumed waiting unqueued =>
      obtain rfl := Option.some.inj (present.symm.trans present')
      simp only [Awaiter.onSingleTimerDone, Awaiter.stop, unstopped, Awaiter.resume, attached,
        Bool.false_eq_true, if_false, Option.elim_some]
      apply invariant.update
      · rfl
      · exact Request.Apart.enqueue _ _
      · exact invariant.tolerant.enqueue_waiting waiting
      · apply Stage.fired
        · rfl
        · rfl
        · rfl
        · exact early
        · exact not_ended
        · exact unresumed
        · exact reached
        · exact waiting
        · exact Runtime.pending_enqueue_self.trans (by rw [unqueued])
      · rfl
      · exact fun _ _ _ => reached
      · rfl
  | fired _ present' _ inactive =>
      obtain rfl := Option.some.inj (present.symm.trans present')
      simp [due.1] at inactive
  | returned gone | dropped gone | aborted gone => simp [gone] at present

theorem resume (invariant : state.Invariant) {runtime : Runtime Unit} {sleeper : Sleeper}
    (popped : state.runtime.getNext = (some coroutine, runtime))
    (found : state.sleeper coroutine = some sleeper) {awaiter : Awaiter}
    (present : sleeper.awaiter = some awaiter) :
    (({ state with runtime } : State).finish coroutine
      { sleeper with resumed := sleeper.resumed + 1 } awaiter).Invariant := by
  rcases Runtime.getNext_popped popped with ⟨status_eq, -, popped_pending, pending_le, -⟩
  have tolerant := invariant.tolerant.dequeue status_eq pending_le
  cases invariant.stage coroutine sleeper found with
  | sleeping _ _ _ _ _ _ _ _ unqueued => omega
  | fired _ present' stopped _ early _ unresumed reached =>
      obtain rfl := Option.some.inj (present.symm.trans present')
      simp only [finish, Awaiter.awaitResume, stopped, Bool.not_true, Bool.not_false, if_true]
      apply invariant.update
      · rfl
      · exact (Request.Apart.getNext popped).setStatus _
      · exact tolerant.setStatus _ (.inr rfl)
      · apply Stage.returned
        · rfl
        · exact early
        · rfl
        · exact congrArg (· + 1) unresumed
        · exact reached
        · simp [leave]
      · rfl
      · exact fun _ _ _ => reached
      · rfl
  | returned gone | dropped gone | aborted gone => simp [gone] at present

theorem resumeNext (invariant : state.Invariant) : state.resumeNext.Invariant := by
  unfold State.resumeNext
  rcases popped : state.runtime.getNext with ⟨_ | next, runtime⟩
  · rcases invariant.tolerant.resume_nothing popped with ⟨tolerant, unchanged⟩
    exact invariant.undisturbed tolerant unchanged
  · rcases Runtime.getNext_popped popped with ⟨status_eq, live, popped_pending, -, -⟩
    simp only [State.resume, status_eq]
    cases status : state.runtime.status next with
    | running =>
        have unqueued := invariant.tolerant.pending_of_running status
        omega
    | done => exact absurd status live
    | elsewhere =>
        rcases invariant.tolerant.resume_elsewhere popped status with ⟨tolerant, unchanged⟩
        exact invariant.undisturbed tolerant unchanged
    | waiting point =>
        rcases Option.isSome_iff_exists.mp (invariant.known next status) with ⟨sleeper, found⟩
        rcases present : sleeper.awaiter with _ | awaiter
        · exact absurd status ((invariant.stage next sleeper found).awake_of_gone present)
        have framed : ({ state with runtime } : State).frame next = some (sleeper, awaiter) :=
          frame_eq_some.mpr ⟨found, present⟩
        simp only [framed]
        exact invariant.resume popped found present

theorem drop (invariant : state.Invariant) (coroutine : Handle) :
    (state.drop coroutine).Invariant := by
  unfold State.drop
  rcases framed : state.frame coroutine with _ | ⟨sleeper, awaiter⟩
  · exact invariant
  · rcases frame_eq_some.mp framed with ⟨found, present⟩
    have untouched : sleeper.Early ∧ sleeper.resumed = 0 := by
      cases invariant.stage coroutine sleeper found with
      | sleeping _ _ _ _ early _ unresumed | fired _ _ _ _ early _ unresumed =>
          exact ⟨early, unresumed⟩
      | returned gone | dropped gone | aborted gone => simp [gone] at present
    apply invariant.update
    · rfl
    · exact (Request.Apart.cancel _ _).setStatus _
    · exact (invariant.tolerant.cancel coroutine).setStatus _ (.inr rfl)
    · apply Stage.dropped
      · rfl
      · exact untouched.1
      · rfl
      · exact untouched.2
      · simp [leave]
    · rfl
    · simp
    · rfl

theorem step (invariant : state.Invariant) {action : Action} (enabled : action.Enabled state) :
    (action.perform state).Invariant := by
  cases action with
  | sleep coroutine millis => exact invariant.sleep enabled.2 millis
  | updateTime now => exact invariant.updateTime now
  | fire coroutine =>
      rcases Option.any_eq_true _ _ |>.mp enabled with ⟨⟨sleeper, awaiter⟩, framed, due⟩
      exact invariant.fire framed (of_decide_eq_true due)
  | resumeNext => exact invariant.resumeNext
  | drop coroutine => exact invariant.drop coroutine
  | other action =>
      rcases invariant.tolerant.other enabled with ⟨tolerant, unchanged⟩
      exact invariant.undisturbed tolerant unchanged

end Invariant

theorem invariant_of_reachable (reached : system.Reachable state) : state.Invariant := by
  refine TransitionSystem.Reachable.invariant State.Invariant ?_ ?_ reached
  · rintro _ ⟨now, rfl⟩
    exact ⟨Runtime.Tolerant.empty _, by simp, by simp, by simp, rfl⟩
  · exact fun _ _ invariant enabled => invariant.step enabled

/-- A call works if and only if its timer is not due at the moment it is started. -/
theorem works_iff_early (reached : system.Reachable state) {sleeper : Sleeper}
    (found : state.sleeper coroutine = some sleeper) : Works sleeper ↔ sleeper.Early := by
  cases (invariant_of_reachable reached).stage coroutine sleeper found with
  | sleeping _ _ _ _ early not_ended unresumed | dropped _ early not_ended unresumed =>
      refine iff_of_true ⟨by simp [not_ended], by omega, ?_⟩ early
      rintro (resumed | ended)
      · exact absurd unresumed resumed
      · simp [not_ended] at ended
  | fired _ _ _ _ early not_ended unresumed reached =>
      exact iff_of_true ⟨by simp [not_ended], by omega, fun _ => reached⟩ early
  | returned _ early ending_eq resumed reached =>
      exact iff_of_true ⟨by simp [ending_eq], by omega, fun _ => reached⟩ early
  | aborted _ late ending_eq => exact iff_of_false (fun works => works.verified ending_eq) late

/-- A call with a timeout near the largest one is dropped after its timer was due, another one
returns. -/
theorem works_second_of_two :
    ∃ state sleeper, system.Reachable state ∧ state.sleeper 1 = some sleeper ∧
      sleeper.ending = some .returned ∧ (Works sleeper ↔ sleeper.Early) := by
  have start : system.Reachable ({ now := 5 } : State) := .start ⟨5, rfl⟩
  have long := start.step (Action.sleep 0 (-3)) ⟨rfl, rfl⟩ trivial
  have short := long.step (Action.sleep 1 20) ⟨rfl, rfl⟩ trivial
  have late := short.step (Action.updateTime (-1)) trivial trivial
  have long_fired := late.step (Action.fire 0) rfl trivial
  have short_fired := long_fired.step (Action.fire 1) rfl trivial
  have dropped := short_fired.step (Action.drop 0) trivial trivial
  have returned := dropped.step Action.resumeNext trivial trivial
  exact ⟨_, _, returned, rfl, rfl, @works_iff_early _ 1 returned _ rfl⟩

theorem sleep_zero_aborts :
    ¬∀ state, system.Reachable state → ∀ coroutine sleeper,
      state.sleeper coroutine = some sleeper → Works sleeper := by
  intro always
  have start : system.Reachable ({ now := 5 } : State) := .start ⟨5, rfl⟩
  have called := start.step (Action.sleep 0 0) ⟨rfl, rfl⟩ trivial
  exact absurd rfl (always _ called 0 _ rfl).verified

end State

end Sleep

end Uvco.Timer
