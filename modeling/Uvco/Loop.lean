import Mathlib.Data.List.Count

/-!
# The scheduler queue and the loop that owns it

This file embeds `uvco/loop/scheduler.{h,cc}` and the part of `uvco/loop/loop.cc`
that every other component calls: `enqueue`, `cancel` and `getNext`.

A coroutine handle is the address of a frame; `nullptr` is `none`. The queue
`resumable_` therefore holds optional handles, and a cancelled entry stays in
the queue as a null tombstone. `std::noop_coroutine()` is the result `none` of
`getNextInner`: resuming it does nothing.

Whether a coroutine is `done()` is a property of its frame, not of the queue, so
it is a parameter of the operations that ask for it.
-/

namespace Uvco

/-- The address of a coroutine frame. -/
abbrev Handle := ℕ

/-- `class Scheduler`. -/
structure Scheduler where
  /-- `std::deque<std::coroutine_handle<>> resumable_`. -/
  resumable : List (Option Handle) := []
deriving DecidableEq, Repr

namespace Scheduler

/-- No entry is left, not even a blank one. -/
def empty (scheduler : Scheduler) : Bool :=
  scheduler.resumable.isEmpty

/-- `Scheduler::enqueue`. -/
def enqueue (scheduler : Scheduler) (handle : Handle) : Scheduler :=
  { resumable := scheduler.resumable ++ [some handle] }

/-- `Scheduler::cancel` blanks all entries of a handle; the others keep their places. -/
def cancel (scheduler : Scheduler) (handle : Handle) : Scheduler :=
  { resumable := scheduler.resumable.map fun it => if it = some handle then none else it }

/-- The loop of `getNextInner`: pop until a handle that is neither null nor done. -/
def popRunnable (done : Handle → Bool) :
    List (Option Handle) → Option Handle × List (Option Handle)
  | [] => (none, [])
  | none :: rest => popRunnable done rest
  | some handle :: rest =>
      if done handle then popRunnable done rest else (some handle, rest)

/-- The next runnable coroutine, or `none` for `std::noop_coroutine()`. -/
def getNextInner (scheduler : Scheduler) (done : Handle → Bool) : Option Handle × Scheduler :=
  let (next, rest) := popRunnable done scheduler.resumable
  (next, { resumable := rest })

/-- `useSymmetricHandoff` is true: hand control to the next runnable coroutine. -/
def getNext (scheduler : Scheduler) (done : Handle → Bool) : Option Handle × Scheduler :=
  scheduler.getNextInner done

/-- The number of pending entries of a coroutine. -/
def pending (scheduler : Scheduler) (handle : Handle) : ℕ :=
  scheduler.resumable.count (some handle)

theorem pending_pos {scheduler : Scheduler} {handle : Handle} :
    0 < scheduler.pending handle ↔ some handle ∈ scheduler.resumable :=
  List.count_pos_iff

theorem pending_eq_zero {scheduler : Scheduler} {handle : Handle} :
    scheduler.pending handle = 0 ↔ some handle ∉ scheduler.resumable :=
  List.count_eq_zero

@[simp]
theorem pending_enqueue (scheduler : Scheduler) (enqueued handle : Handle) :
    (scheduler.enqueue enqueued).pending handle =
      scheduler.pending handle + if enqueued = handle then 1 else 0 := by
  simp [pending, enqueue, List.count_append, List.count_singleton]

@[simp]
theorem mem_enqueue (scheduler : Scheduler) (enqueued handle : Handle) :
    some handle ∈ (scheduler.enqueue enqueued).resumable ↔
      some handle ∈ scheduler.resumable ∨ handle = enqueued := by
  simp [enqueue]

@[simp]
theorem mem_cancel (scheduler : Scheduler) (cancelled handle : Handle) :
    some handle ∈ (scheduler.cancel cancelled).resumable ↔
      some handle ∈ scheduler.resumable ∧ handle ≠ cancelled := by
  simp only [cancel, List.mem_map]
  constructor
  · rintro ⟨entry, entry_mem, entry_eq⟩
    split at entry_eq
    · simp at entry_eq
    · rename_i differs
      subst entry_eq
      exact ⟨entry_mem, fun same => differs (by rw [same])⟩
  · rintro ⟨handle_mem, differs⟩
    exact ⟨some handle, handle_mem, by simp [differs]⟩

theorem pending_cancel (scheduler : Scheduler) (cancelled handle : Handle) :
    (scheduler.cancel cancelled).pending handle =
      if handle = cancelled then 0 else scheduler.pending handle := by
  unfold pending cancel
  induction scheduler.resumable with
  | nil => simp
  | cons entry rest ih =>
      simp only [List.map_cons, List.count_cons, ih]
      by_cases same : handle = cancelled
      · subst handle
        by_cases hit : entry = some cancelled <;> simp [hit]
      · by_cases hit : entry = some cancelled
        · subst entry
          simp [same, Ne.symm same]
        · simp [hit, same]

@[simp]
theorem pending_cancel_self (scheduler : Scheduler) (handle : Handle) :
    (scheduler.cancel handle).pending handle = 0 := by
  simp [pending_cancel]

theorem pending_cancel_of_ne (scheduler : Scheduler) {cancelled handle : Handle}
    (differs : handle ≠ cancelled) :
    (scheduler.cancel cancelled).pending handle = scheduler.pending handle := by
  simp [pending_cancel, differs]

/-- There is nothing to cancel. -/
theorem cancel_of_pending_eq_zero {scheduler : Scheduler} {handle : Handle}
    (not_queued : scheduler.pending handle = 0) : scheduler.cancel handle = scheduler := by
  have absent := pending_eq_zero.mp not_queued
  have unchanged : ∀ entry ∈ scheduler.resumable,
      (if entry = some handle then none else entry) = id entry := by
    intro entry entry_mem
    split
    · rename_i same
      exact absurd (same ▸ entry_mem) absent
    · rfl
  rw [cancel, List.map_congr_left unchanged, List.map_id]

/-- What `getNextInner` pops: null and finished entries, then the coroutine it returns. -/
theorem popRunnable_some {done : Handle → Bool} {entries rest : List (Option Handle)}
    {next : Handle} (popped : popRunnable done entries = (some next, rest)) :
    ∃ skipped, entries = skipped ++ some next :: rest ∧ done next = false ∧
      ∀ handle, some handle ∈ skipped → done handle = true := by
  induction entries with
  | nil => simp [popRunnable] at popped
  | cons entry entries ih =>
      rcases entry with _ | handle
      · simp only [popRunnable] at popped
        rcases ih popped with ⟨skipped, rfl, next_live, skipped_done⟩
        exact ⟨none :: skipped, rfl, next_live, by simpa using skipped_done⟩
      · simp only [popRunnable] at popped
        split at popped
        · rename_i handle_done
          rcases ih popped with ⟨skipped, rfl, next_live, skipped_done⟩
          refine ⟨some handle :: skipped, rfl, next_live, ?_⟩
          intro other other_mem
          rcases List.mem_cons.mp other_mem with same | older
          · rw [Option.some.inj same]
            exact handle_done
          · exact skipped_done other older
        · rename_i handle_live
          simp only [Prod.mk.injEq, Option.some.injEq] at popped
          rcases popped with ⟨rfl, rfl⟩
          exact ⟨[], rfl, by simpa using handle_live, by simp⟩

/-- When `getNextInner` finds nothing to run, it has emptied the queue. -/
theorem popRunnable_none {done : Handle → Bool} {entries rest : List (Option Handle)}
    (popped : popRunnable done entries = (none, rest)) :
    rest = [] ∧ ∀ handle, some handle ∈ entries → done handle = true := by
  induction entries with
  | nil =>
      simp only [popRunnable, Prod.mk.injEq, true_and] at popped
      exact ⟨popped.symm, by simp⟩
  | cons entry entries ih =>
      rcases entry with _ | handle
      · simp only [popRunnable] at popped
        rcases ih popped with ⟨rest_nil, entries_done⟩
        exact ⟨rest_nil, by simpa using entries_done⟩
      · simp only [popRunnable] at popped
        split at popped
        · rename_i handle_done
          rcases ih popped with ⟨rest_nil, entries_done⟩
          refine ⟨rest_nil, ?_⟩
          intro other other_mem
          rcases List.mem_cons.mp other_mem with same | older
          · rw [Option.some.inj same]
            exact handle_done
          · exact entries_done other older
        · simp at popped

end Scheduler

/-- The part of `class Loop` that the coroutine machinery uses, with libuv's stop flag. -/
structure Loop where
  scheduler : Scheduler := {}
  /-- uvco's own `stopped_`. -/
  stopped : Bool := false
  /-- `stop_flag` of the `uv_loop_t`. -/
  stopFlag : Bool := false
deriving DecidableEq, Repr

namespace Loop

/-- `uv_stop()`. -/
def uvStop (loop : Loop) : Loop :=
  { loop with stopFlag := true }

/-- `Loop::enqueue`; the first one makes the loop return from its poll. -/
def enqueue (loop : Loop) (handle : Handle) : Loop :=
  let loop := { loop with scheduler := loop.scheduler.enqueue handle }
  if !loop.stopped then { loop.uvStop with stopped := true } else loop

/-- `Loop::cancel`. -/
def cancel (loop : Loop) (handle : Handle) : Loop :=
  { loop with scheduler := loop.scheduler.cancel handle }

/-- `Loop::getNext`: the next coroutine that is not done, if there is one. -/
def getNext (loop : Loop) (done : Handle → Bool) : Option Handle × Loop :=
  let (next, scheduler) := loop.scheduler.getNext done
  (next, { loop with scheduler })

@[simp]
theorem enqueue_scheduler (loop : Loop) (handle : Handle) :
    (loop.enqueue handle).scheduler = loop.scheduler.enqueue handle := by
  unfold enqueue
  dsimp only
  split <;> rfl

@[simp]
theorem enqueue_stopped (loop : Loop) (handle : Handle) : (loop.enqueue handle).stopped = true := by
  unfold enqueue
  dsimp only
  split
  · rfl
  · rename_i already_stopped
    simpa using already_stopped

@[simp]
theorem enqueue_stopFlag (loop : Loop) (handle : Handle) :
    (loop.enqueue handle).stopFlag = (loop.stopFlag || !loop.stopped) := by
  unfold enqueue
  dsimp only
  split
  · rename_i not_stopped
    simp [uvStop, not_stopped]
  · rename_i already_stopped
    have stopped : loop.stopped = true := by simpa using already_stopped
    simp [stopped]

@[simp]
theorem cancel_scheduler (loop : Loop) (handle : Handle) :
    (loop.cancel handle).scheduler = loop.scheduler.cancel handle := rfl

theorem getNext_some {loop after : Loop} {done : Handle → Bool} {next : Handle}
    (popped : loop.getNext done = (some next, after)) :
    ∃ skipped, loop.scheduler.resumable = skipped ++ some next :: after.scheduler.resumable ∧
      done next = false ∧ ∀ handle, some handle ∈ skipped → done handle = true := by
  simp only [getNext, Scheduler.getNext, Scheduler.getNextInner, Prod.mk.injEq] at popped
  rcases popped with ⟨next_eq, rfl⟩
  exact Scheduler.popRunnable_some (Prod.ext next_eq rfl)

theorem getNext_none {loop after : Loop} {done : Handle → Bool}
    (popped : loop.getNext done = (none, after)) :
    after.scheduler.resumable = [] ∧
      ∀ handle, some handle ∈ loop.scheduler.resumable → done handle = true := by
  simp only [getNext, Scheduler.getNext, Scheduler.getNextInner, Prod.mk.injEq] at popped
  rcases popped with ⟨next_eq, rfl⟩
  exact Scheduler.popRunnable_none (Prod.ext next_eq rfl)

end Loop

end Uvco
