import Uvco.Timer

/-!
# Timers and the clock of the loop

This file embeds the whole `TimerAwaiter` of `uvco/timer.cc`, together with the
`uv_timer_t` that it owns. libuv counts time in milliseconds, in 64 bits; a due time
that does not fit is the largest one. The timer remembers how often it was stopped and
closed, and whether it was used after `closeHandle` had taken it.
-/

namespace Uvco.Timer

/-- A `uv_timer_t`. -/
structure UvTimer where
  /-- The loop time at which it is due. -/
  timeout : UInt64
  /-- `repeat`; zero for a timer that fires once. -/
  interval : UInt64
  active : Bool := true
  stopCalls : ℕ := 0
  closeCalls : ℕ := 0
  misused : Bool := false
deriving DecidableEq, Repr

namespace UvTimer

variable (timer : UvTimer) (now : UInt64)

/-- The due time of `uv_timer_start`. -/
def dueTime (millis : UInt64) : UInt64 :=
  if now + millis < millis then -1 else now + millis

/-- `uv_timer_start` with a new timer. -/
def start (millis interval : UInt64) : UvTimer where
  timeout := dueTime now millis
  interval := interval

/-- `uv_timer_get_due_in`. -/
def getDueIn : UInt64 :=
  if timer.timeout ≤ now then 0 else timer.timeout - now

/-- The handle is used, which it must not be once it is closed. -/
def access : UvTimer :=
  { timer with misused := timer.misused || decide (0 < timer.closeCalls) }

/-- `uv_timer_stop`. -/
def stop : UvTimer :=
  { timer.access with active := false, stopCalls := timer.stopCalls + 1 }

/-- `uv_close`. -/
def close : UvTimer :=
  { timer.access with active := false, closeCalls := timer.closeCalls + 1 }

/-- libuv runs a timer that is due: it is armed again only if it repeats. -/
def expire : UvTimer :=
  if timer.interval = 0 then { timer with active := false }
  else { timer with timeout := dueTime now timer.interval }

/-- libuv may run the timer. -/
def Due : Prop :=
  timer.active = true ∧ timer.timeout ≤ now

instance : Decidable (timer.Due now) :=
  inferInstanceAs (Decidable (_ ∧ _))

variable {timer now}

theorem access_eq (not_closed : timer.closeCalls = 0) : timer.access = timer := by
  cases timer
  simp_all [access]

theorem getDueIn_eq_zero : timer.getDueIn now = 0 ↔ timer.timeout ≤ now := by
  rw [getDueIn]
  split
  · rename_i due
    simp [due]
  · rename_i early
    rw [iff_false_right early]
    intro difference
    have late := UInt64.le_of_lt (UInt64.not_le.mp early)
    have positive := congrArg UInt64.toNat difference
    rw [UInt64.toNat_sub_of_le _ _ late] at positive
    rw [UInt64.le_iff_toNat_le] at early
    change _ = 0 at positive
    omega

/-- The due time is the sum of loop time and timeout, or the largest time. -/
theorem toNat_dueTime (now millis : UInt64) :
    (dueTime now millis).toNat = min (now.toNat + millis.toNat) (UInt64.size - 1) := by
  have now_lt := now.toNat_lt_size
  have millis_lt := millis.toNat_lt_size
  rw [dueTime]
  split
  · rename_i overflow
    rw [UInt64.lt_iff_toNat_lt, UInt64.toNat_add] at overflow
    change UInt64.size - 1 = _
    simp only [UInt64.size] at *
    omega
  · rename_i fits
    rw [UInt64.lt_iff_toNat_lt, UInt64.toNat_add] at fits
    rw [UInt64.toNat_add]
    simp only [UInt64.size] at *
    omega

/-- A timer is due at once if its timeout is zero, or if the clock has reached its end. -/
theorem dueTime_le {millis : UInt64} : dueTime now millis ≤ now ↔ millis = 0 ∨ now = -1 := by
  have now_lt := now.toNat_lt_size
  rw [UInt64.le_iff_toNat_le, toNat_dueTime, ← UInt64.toNat_inj, ← UInt64.toNat_inj]
  change _ ↔ millis.toNat = 0 ∨ now.toNat = UInt64.size - 1
  omega

end UvTimer

/-- `class TimerAwaiter`. `close()` releases `timer_` where it sets `closed_`. -/
structure Awaiter extends TimerAwaiter where
  timer : UvTimer
deriving DecidableEq, Repr

namespace Awaiter

variable (awaiter : Awaiter) (now : UInt64)

/-- The constructor. -/
def create (millis : UInt64) (repeating : Bool) : Awaiter where
  timer := .start now millis (if repeating then millis else 0)

/-- `isReady()`, and the timer after it was asked. -/
def isReady : Bool × Awaiter :=
  (awaiter.timer.getDueIn now == 0, { awaiter with timer := awaiter.timer.access })

/-- `stop()`, which does something only once. -/
def stop : Awaiter :=
  if awaiter.stopped then awaiter
  else { awaiter with stopped := true, timer := awaiter.timer.stop }

/-- `close()`, which does something only once. -/
def close : Awaiter :=
  if awaiter.closed then awaiter
  else
    let stopped := ({ awaiter with closed := true } : Awaiter).stop
    { stopped with timer := stopped.timer.close }

/-- `~TimerAwaiter`. -/
def destroy : Awaiter :=
  awaiter.stop.close

/-- `await_suspend` up to `Loop::getNext()`. -/
def awaitSuspend (handle : Handle) : Awaiter :=
  { awaiter with handle := some handle }

/-- `await_resume`: whether the timer was not stopped. -/
def awaitResume : Bool × Awaiter :=
  (!awaiter.stopped, { awaiter with handle := none })

/-- `resume()`, and the coroutine that it enqueues. -/
def resume : Option Handle × Awaiter :=
  (awaiter.handle, { awaiter with handle := none })

/-- The callback of a timer that fires once. -/
def onSingleTimerDone : Option Handle × Awaiter :=
  ({ awaiter with timer := awaiter.timer.expire now } : Awaiter).stop.resume

/-- The callback of a timer that repeats. -/
def onMultiTimerFired : Option Handle × Awaiter :=
  ({ awaiter with timer := awaiter.timer.expire now } : Awaiter).resume

/-- The timer was neither stopped nor closed, and will be due if it is not. -/
structure Open (awaiter : Awaiter) (now : UInt64) : Prop where
  stopped_eq : awaiter.stopped = false
  closed_eq : awaiter.closed = false
  used_well : awaiter.timer.misused = false
  calls : awaiter.timer.stopCalls = 0 ∧ awaiter.timer.closeCalls = 0
  armed : awaiter.timer.interval ≠ 0 ∧ awaiter.timer.active = true ∨
    awaiter.timer.interval = 0 ∧ awaiter.timer.timeout ≤ now

/-- The timer was stopped and closed, each once. -/
structure Closed (awaiter : Awaiter) : Prop where
  stopped_eq : awaiter.stopped = true
  closed_eq : awaiter.closed = true
  used_well : awaiter.timer.misused = false
  calls : awaiter.timer.stopCalls = 1 ∧ awaiter.timer.closeCalls = 1
  inactive : awaiter.timer.active = false

variable {awaiter : Awaiter} {now : UInt64}

theorem Open.create (now millis : UInt64) : (Awaiter.create now millis true).Open now := by
  refine ⟨rfl, rfl, rfl, ⟨rfl, rfl⟩, ?_⟩
  by_cases zero : millis = 0
  · exact .inr ⟨zero, UvTimer.dueTime_le.mpr (.inl zero)⟩
  · exact .inl ⟨zero, rfl⟩

theorem Open.isReady (is_open : awaiter.Open now) :
    (awaiter.isReady now).2 = awaiter ∧
      ((awaiter.isReady now).1 = false → awaiter.timer.interval ≠ 0) := by
  refine ⟨?_, fun not_ready => ?_⟩
  · rw [Awaiter.isReady, UvTimer.access_eq is_open.calls.2]
  · rw [Awaiter.isReady, beq_eq_false_iff_ne, Ne, UvTimer.getDueIn_eq_zero] at not_ready
    rcases is_open.armed with ⟨repeats, -⟩ | ⟨-, due⟩
    · exact repeats
    · exact absurd due not_ready

theorem Open.updateTime (is_open : awaiter.Open now) {later : UInt64} (forward : now ≤ later) :
    awaiter.Open later :=
  ⟨is_open.stopped_eq, is_open.closed_eq, is_open.used_well, is_open.calls,
    is_open.armed.imp_right fun ⟨zero, due⟩ => ⟨zero, UInt64.le_trans due forward⟩⟩

theorem Open.setHandle (is_open : awaiter.Open now) (handle : Option Handle) :
    ({ awaiter with handle } : Awaiter).Open now :=
  ⟨is_open.stopped_eq, is_open.closed_eq, is_open.used_well, is_open.calls, is_open.armed⟩

theorem Closed.setHandle (is_closed : awaiter.Closed) (handle : Option Handle) :
    ({ awaiter with handle } : Awaiter).Closed :=
  ⟨is_closed.stopped_eq, is_closed.closed_eq, is_closed.used_well, is_closed.calls,
    is_closed.inactive⟩

theorem Open.onMultiTimerFired (is_open : awaiter.Open now) :
    (awaiter.onMultiTimerFired now).1 = awaiter.handle ∧
      (awaiter.onMultiTimerFired now).2.handle = none ∧
      (awaiter.onMultiTimerFired now).2.Open now ∧
      (awaiter.onMultiTimerFired now).2.timer.interval = awaiter.timer.interval := by
  rcases is_open with ⟨stopped_eq, closed_eq, used_well, calls, armed⟩
  unfold Awaiter.onMultiTimerFired UvTimer.expire
  split
  · rename_i zero
    refine ⟨rfl, rfl, ⟨stopped_eq, closed_eq, used_well, calls, ?_⟩, rfl⟩
    exact armed.imp_left fun repeats => absurd zero repeats.1
  · rename_i repeats
    refine ⟨rfl, rfl, ⟨stopped_eq, closed_eq, used_well, calls, .inl ⟨repeats, ?_⟩⟩, rfl⟩
    rcases armed with ⟨-, active⟩ | ⟨zero, -⟩
    · exact active
    · exact absurd zero repeats

theorem Open.stop_close (is_open : awaiter.Open now) : awaiter.stop.close.Closed := by
  rcases is_open with ⟨stopped_eq, closed_eq, used_well, ⟨stopCalls, closeCalls⟩, -⟩
  simp only [Awaiter.stop, Awaiter.close, stopped_eq, closed_eq, Bool.false_eq_true, if_false,
    if_true]
  constructor <;>
    simp [UvTimer.stop, UvTimer.close, UvTimer.access, used_well, stopCalls, closeCalls]

theorem Closed.stop_close (is_closed : awaiter.Closed) : awaiter.stop.close = awaiter := by
  simp [Awaiter.stop, Awaiter.close, is_closed.stopped_eq, is_closed.closed_eq]

theorem stop_close_handle (awaiter : Awaiter) : awaiter.stop.close.handle = awaiter.handle := by
  unfold Awaiter.close Awaiter.stop
  split <;> split <;> rfl

theorem stop_close_interval (awaiter : Awaiter) :
    awaiter.stop.close.timer.interval = awaiter.timer.interval := by
  unfold Awaiter.close Awaiter.stop
  split <;> split <;> rfl

end Awaiter

end Uvco.Timer
