import Uvco.Loop

/-!
# Timers

`TimerAwaiter` of `uvco/timer.cc`, as `sleep()` uses it. The timers that libuv has
armed are a list of addresses: `uv_timer_t::data` points to the awaiter, so a timer
is named by the address of its awaiter, and an armed timer whose awaiter is gone
would run into freed memory.

`close()` releases `timer_` where it sets `closed_`, so one flag stands for both.
-/

namespace Uvco

/-- `uv_timer_stop`. -/
def uvTimerStop (armed : List Handle) (address : Handle) : List Handle :=
  armed.filter (· ≠ address)

/-- `class TimerAwaiter`, as far as its coroutine is concerned. -/
structure TimerAwaiter where
  handle : Option Handle := none
  closed : Bool := false
  stopped : Bool := false
deriving DecidableEq, Repr

namespace TimerAwaiter

variable (awaiter : TimerAwaiter) (address : Handle) (armed : List Handle)

/-- The constructor, which starts the timer. -/
def create : TimerAwaiter × List Handle :=
  ({}, address :: armed)

/-- `stop()`, which does something only once. -/
def stop : TimerAwaiter × List Handle :=
  if !awaiter.stopped then ({ awaiter with stopped := true }, uvTimerStop armed address)
  else (awaiter, armed)

/-- `uv_close` in `closeHandle` stops the timer, too. -/
def close : TimerAwaiter × List Handle :=
  if awaiter.closed then (awaiter, armed)
  else
    let (awaiter, armed) := ({ awaiter with closed := true } : TimerAwaiter).stop address armed
    (awaiter, uvTimerStop armed address)

/-- `~TimerAwaiter`. -/
def destroy : List Handle :=
  let (awaiter, armed) := awaiter.stop address armed
  (awaiter.close address armed).2

/-- `await_suspend` up to `Loop::getNext()`. -/
def awaitSuspend (handle : Handle) : TimerAwaiter :=
  { awaiter with handle := some handle }

/-- `await_resume`: whether the timer was not stopped. -/
def awaitResume : Bool × TimerAwaiter :=
  (!awaiter.stopped, { awaiter with handle := none })

/-- `resume()`: the coroutine is enqueued, if it waits. -/
def resume (loop : Loop) : TimerAwaiter × Loop :=
  match awaiter.handle with
  | some handle => ({ awaiter with handle := none }, loop.enqueue handle)
  | none => (awaiter, loop)

/-- What `onSingleTimerDone` does with the awaiter it finds in the timer. -/
def onSingleTimerDone (loop : Loop) : TimerAwaiter × List Handle × Loop :=
  let (awaiter, armed) := awaiter.stop address armed
  let (awaiter, loop) := awaiter.resume loop
  (awaiter, armed, loop)

variable {awaiter address armed}

theorem mem_uvTimerStop {other : Handle} :
    other ∈ uvTimerStop armed address ↔ other ∈ armed ∧ other ≠ address := by
  simp [uvTimerStop]

theorem mem_destroy (not_closed : awaiter.closed = false) {other : Handle} :
    other ∈ awaiter.destroy address armed ↔ other ∈ armed ∧ other ≠ address := by
  cases stopped : awaiter.stopped <;>
    simp [destroy, close, stop, not_closed, stopped, mem_uvTimerStop]

theorem onSingleTimerDone_spec (awaiter : TimerAwaiter) (address : Handle) (armed : List Handle)
    (loop : Loop) :
    (awaiter.onSingleTimerDone address armed loop).1.handle = none ∧
      (awaiter.onSingleTimerDone address armed loop).1.closed = awaiter.closed ∧
      (∀ other ∈ (awaiter.onSingleTimerDone address armed loop).2.1, other ∈ armed) ∧
      (awaiter.onSingleTimerDone address armed loop).2.2 =
        (match awaiter.handle with
          | some handle => loop.enqueue handle
          | none => loop) := by
  cases stopped : awaiter.stopped <;> cases handle_eq : awaiter.handle <;>
    simp_all [onSingleTimerDone, stop, resume, mem_uvTimerStop]

end TimerAwaiter

end Uvco
