import Uvco.Combinators.WaitAny

/-!
# `race` and `raceIgnore`

This file embeds `race` and `raceIgnore` of `uvco/combinators.h` together with the
coroutines of their arguments. `raceIgnore()` awaits a `SelectSet` of its arguments
itself; `race()` awaits the promise of a `waitAny()` that does.

The arguments are parameters of the coroutine and live in its frame. The frame
outlives the end of the coroutine, since `final_suspend` always suspends, and is
destroyed only when the returned promise is. Until then the coroutines of arguments
that were not ready go on.
-/

namespace Uvco.Race

variable {T E : Type}

/-- How far `race()` or `raceIgnore()` has come. -/
inductive Phase where
  /-- It was not called yet. -/
  | idle
  /-- The arguments are being selected from. -/
  | selecting
  /-- `race()` is suspended until the promise of its `waitAny()` is ready. -/
  | awaiting
  /-- The returned promise is ready. -/
  | ready
  /-- The returned promise was destroyed, and the arguments with it. -/
  | dropped
deriving DecidableEq, Repr

/-- One call of `race()` or `raceIgnore()` with its arguments. -/
structure State (T E : Type) where
  /-- This is `raceIgnore()`. -/
  ignoresResults : Bool
  /-- The coroutine of `race()` or `raceIgnore()`. -/
  racer : Handle
  /-- The coroutines of the arguments. -/
  arguments : List Handle
  /-- The `co_await` on the set, in `raceIgnore()` or in the `waitAny()` of `race()`. -/
  select : Select.State T E
  phase : Phase := .idle
  /-- What `waitAny()` has ended with. -/
  report : Option (WaitAny.Report T E) := none
  /-- How often a coroutine was resumed since the call has returned. -/
  steps : Handle → ℕ := fun _ => 0

namespace State

variable (state : State T E)

/-- Replaces the loop and the coroutines. -/
def setRuntime (runtime : Runtime Unit) : State T E :=
  { state with select := { state.select with runtime } }

/-- `race()` or `raceIgnore()` ends; its frame stays. -/
def finish : State T E :=
  { state.setRuntime (state.select.runtime.setStatus state.racer .done) with phase := .ready }

/-- `waitAny()` behind its `co_await`: it ends, and the coroutine that awaits it is enqueued. -/
def waitAnyEnd : State T E :=
  let (report, members) := WaitAny.collect state.select.result state.select.members []
  let runtime := state.select.runtime.setStatus state.select.selector .done
  { state with
    select := { state.select with
      members
      runtime := if state.phase = .awaiting then runtime.enqueue state.racer else runtime }
    report := some report }

/-- What follows the `co_await` on the set, if that has ended. -/
def settle : State T E :=
  if state.select.phase = .completed ∧ state.report = none ∧
      (state.phase = .selecting ∨ state.phase = .awaiting) then
    if state.ignoresResults then state.finish else state.waitAnyEnd
  else
    state

/-- Call `race()` or `raceIgnore()`. -/
def call : State T E :=
  ({ state with select := state.select.select, phase := .selecting } : State T E).settle

/-- The scheduler resumes the next coroutine; the racer goes on when its set has been selected. -/
def resumeNext : State T E :=
  let next := state.select.runtime.getNext.1
  let after : State T E := { state with
    select := state.select.resumeNext
    steps := fun handle => state.steps handle + if next = some handle then 1 else 0 }
  if state.phase = .awaiting ∧ next = some state.racer then after.finish else after.settle

/-- `race()` arrives at its `co_await` on the promise of `waitAny()`. -/
def await : State T E :=
  if state.report.isSome then state.finish
  else
    ({ state.setRuntime (state.select.runtime.setStatus state.racer .elsewhere) with
        phase := .awaiting } : State T E).resumeNext

/-- The coroutine of an argument ends, and resolves its promise. -/
def finishArgument (index : ℕ) (outcome : Outcome T E) : State T E :=
  match state.arguments[index]? with
  | some handle =>
      let state := state.setRuntime (state.select.runtime.setStatus handle .done)
      { state with select := state.select.resolve index outcome }
  | none => state

/-- Destroy the coroutine of an argument, unless it has ended. -/
def destroyArgument (runtime : Runtime Unit) (handle : Handle) : Runtime Unit :=
  if runtime.done handle then runtime else (runtime.cancel handle).setStatus handle .done

/-- Drop the returned promise: the frame is destroyed, and with it the arguments. -/
def drop : State T E :=
  { state.setRuntime (state.arguments.foldl destroyArgument state.select.runtime) with
    phase := .dropped }

/-- The coroutines of the arguments that have not ended. -/
def losers : List Handle :=
  (state.arguments.zip state.select.members).filterMap fun (handle, member) =>
    if member.state = .finished then none else some handle

end State

/-- What the caller, the arguments and the scheduler can do next. -/
inductive Action (T E : Type) where
  | call
  | await
  | resumeNext
  | finishArgument (index : ℕ) (outcome : Outcome T E)
  | drop
  /-- A coroutine does something that does not involve the race. -/
  | other (action : Runtime.Action)

namespace Action

/-- An argument ends while it runs, and nothing of the race happens after the promise is dropped. -/
def Enabled (state : State T E) : Action T E → Prop
  | .call => state.phase = .idle ∧
      (Select.Action.select : Select.Action T E).Enabled state.select ∧
      state.select.runtime.status state.racer = .running
  | .await => state.phase = .selecting ∧ state.ignoresResults = false ∧
      state.select.runtime.status state.racer = .running
  | .resumeNext => True
  | .finishArgument index outcome => state.phase ≠ .dropped ∧
      (∃ handle, state.arguments[index]? = some handle ∧
        state.select.runtime.status handle = .running) ∧
      (Select.Action.resolve index outcome).Enabled state.select
  | .drop => state.phase = .ready
  | .other action => action.Enabled state.select.runtime ∧ action.subject ≠ state.racer ∧
      action.subject ≠ state.select.selector ∧
      ∀ handle, action = .finish handle → handle ∉ state.arguments

/-- The state after an action. -/
def perform (state : State T E) : Action T E → State T E
  | .call => state.call
  | .await => state.await
  | .resumeNext => state.resumeNext
  | .finishArgument index outcome => state.finishArgument index outcome
  | .drop => state.drop
  | .other action =>
      { state.setRuntime (action.perform state.select.runtime) with
        steps := fun handle => state.steps handle + if action = .resume handle then 1 else 0 }

end Action

/-- All programs around one call of `race()` or `raceIgnore()`. The arguments of `race()` have
values; `raceIgnore()` itself awaits the set. -/
def system (T E : Type) : TransitionSystem (State T E) (Action T E) where
  Initial state := ∃ ignoresResults racer selector arguments members,
    arguments.Nodup ∧ racer ∉ arguments ∧ selector ∉ arguments ∧
      members.length = arguments.length ∧
      (∀ member ∈ members, member = .typed {} ∨ ignoresResults = true ∧ member = .void {}) ∧
      (selector = racer ↔ ignoresResults = true) ∧
      state = { ignoresResults, racer, arguments, select := { selector, members } }
  Enabled state action := action.Enabled state
  perform state action := action.perform state

namespace State

/-- From now on, no coroutine of an argument that was not ready executes another step. -/
def Stopped (state : State T E) : Prop :=
  ∀ after, (system T E).Steps state after →
    ∀ handle ∈ state.losers, after.steps handle = state.steps handle

/-! ## The invariant -/

/-- What holds of a race in every reachable state. -/
structure Invariant (state : State T E) : Prop where
  select : state.select.Invariant
  arguments_once : state.arguments.Nodup
  racer_apart : state.racer ∉ state.arguments
  selector_apart : state.select.selector ∉ state.arguments
  selector_iff : state.select.selector = state.racer ↔ state.ignoresResults = true
  same_length : state.select.members.length = state.arguments.length
  /-- An argument is resolved when its coroutine has ended. -/
  producers : state.phase ≠ .dropped → ∀ (index : ℕ) handle (member : Member T E),
    state.arguments[index]? = some handle → state.select.members[index]? = some member →
    (state.select.runtime.status handle = .done ↔ member.state = .finished)
  idle : state.phase = .idle → state.report = none ∧ state.select.phase = .before
  reported : state.report.isSome → state.select.phase = .completed
  awaiting : state.phase = .awaiting → state.ignoresResults = false ∧
    state.select.runtime.status state.racer = .elsewhere ∧
    (state.report = none → state.select.runtime.pending state.racer = 0)
  ended : state.phase = .ready ∨ state.phase = .dropped →
    state.select.phase = .completed ∧ state.select.runtime.status state.racer = .done

/-- What follows the `co_await` on the set has been done. -/
def Settled (state : State T E) : Prop :=
  state.select.phase = .completed →
    state.report.isSome ∨ state.phase = .ready ∨ state.phase = .dropped

theorem finished_iff_of_profile {before after : List (Member T E)}
    (profiles_eq : after.map Member.profile = before.map Member.profile) {index : ℕ}
    {member : Member T E} (at_index : after[index]? = some member) :
    ∃ other, before[index]? = some other ∧
      (member.state = .finished ↔ other.state = .finished) := by
  have at_profile : (before.map Member.profile)[index]? = some member.profile := by
    rw [← profiles_eq, List.getElem?_map, at_index, Option.map_some]
  rw [List.getElem?_map, Option.map_eq_some_iff] at at_profile
  rcases at_profile with ⟨other, at_other, profile_eq⟩
  refine ⟨other, at_other, ?_⟩
  cases member <;> cases other <;> simp_all [Member.profile, Member.state]

namespace Invariant

variable {state : State T E}

/-- The `co_await` on the set goes on, which leaves results and ended coroutines alone. -/
theorem setSelect (invariant : state.Invariant) {select : Select.State T E}
    (select_invariant : select.Invariant)
    (profiles_eq : select.members.map Member.profile = state.select.members.map Member.profile)
    (selector_eq : select.selector = state.select.selector)
    (done_iff : ∀ handle ∈ state.arguments, select.runtime.status handle = .done ↔
      state.select.runtime.status handle = .done)
    (idle : state.phase = .idle → select.phase = .before)
    (still_completed : state.select.phase = .completed → select.phase = .completed)
    (awaiting : state.phase = .awaiting → select.runtime.status state.racer = .elsewhere ∧
      (state.report = none → select.runtime.pending state.racer = 0))
    (ended : state.phase = .ready ∨ state.phase = .dropped →
      select.runtime.status state.racer = .done) :
    ({ state with select } : State T E).Invariant := by
  constructor
  · exact select_invariant
  · exact invariant.arguments_once
  · exact invariant.racer_apart
  · rw [selector_eq]
    exact invariant.selector_apart
  · rw [selector_eq]
    exact invariant.selector_iff
  · have length_eq := congrArg List.length profiles_eq
    rw [List.length_map, List.length_map] at length_eq
    exact length_eq.trans invariant.same_length
  · intro not_dropped index handle member at_handle at_member
    rcases finished_iff_of_profile profiles_eq at_member with ⟨before, at_before, finished_iff⟩
    rw [finished_iff, done_iff handle (List.mem_of_getElem? at_handle)]
    exact invariant.producers not_dropped index handle before at_handle at_before
  · exact fun is_idle => ⟨(invariant.idle is_idle).1, idle is_idle⟩
  · exact fun reported => still_completed (invariant.reported reported)
  · exact fun is_awaiting => ⟨(invariant.awaiting is_awaiting).1, awaiting is_awaiting⟩
  · exact fun has_ended => ⟨still_completed (invariant.ended has_ended).1, ended has_ended⟩

theorem finish (invariant : state.Invariant) (completed : state.select.phase = .completed)
    (running : state.select.runtime.status state.racer = .running)
    (not_dropped : state.phase ≠ .dropped) : state.finish.Invariant ∧ state.finish.Settled := by
  have select_invariant : ({ state.select with
      runtime := state.select.runtime.setStatus state.racer .done } : Select.State T E).Invariant :=
    invariant.select.other (.finish state.racer) running
  refine ⟨?_, fun _ => .inr (.inl rfl)⟩
  constructor
  · exact select_invariant
  · exact invariant.arguments_once
  · exact invariant.racer_apart
  · exact invariant.selector_apart
  · exact invariant.selector_iff
  · exact invariant.same_length
  · intro _ index handle member at_handle at_member
    have differs : handle ≠ state.racer := by
      rintro rfl
      exact invariant.racer_apart (List.mem_of_getElem? at_handle)
    change (state.select.runtime.setStatus state.racer .done).status handle = .done ↔ _
    rw [Runtime.setStatus_status_of_ne _ differs]
    exact invariant.producers not_dropped index handle member at_handle at_member
  · simp [State.finish]
  · exact fun _ => completed
  · simp [State.finish]
  · exact fun _ => ⟨completed, Runtime.setStatus_status_self _⟩

/-- `waitAny()` is on the stack and ends. -/
theorem waitAnyEnd (invariant : state.Invariant) (completed : state.select.phase = .completed)
    (running : state.select.runtime.status state.select.selector = .running)
    (no_report : state.report = none)
    (in_race : state.phase = .selecting ∨ state.phase = .awaiting)
    (not_ignoring : state.ignoresResults = false) :
    state.waitAnyEnd.Invariant ∧ state.waitAnyEnd.Settled := by
  have apart : state.select.selector ≠ state.racer := by
    rw [Ne, invariant.selector_iff, not_ignoring]
    simp
  have done_invariant := invariant.select.other (.finish state.select.selector) running
  have collected_idle : ∀ member ∈
      (WaitAny.collect state.select.result state.select.members []).2,
      member.Valid ∧ member.state ≠ .waitedOn :=
    WaitAny.collect_idle fun member => invariant.select.idle completed
  have racer_status : ∀ status, state.select.runtime.status state.racer = status →
      (state.select.runtime.setStatus state.select.selector .done).status state.racer = status := by
    intro status status_eq
    rw [Runtime.setStatus_status_of_ne _ (Ne.symm apart)]
    exact status_eq
  have argument_done : ∀ handle ∈ state.arguments,
      (state.waitAnyEnd.select.runtime.status handle = .done ↔
        state.select.runtime.status handle = .done) := by
    intro handle argument
    have differs : handle ≠ state.select.selector :=
      fun same => invariant.selector_apart (same ▸ argument)
    have status_eq : state.waitAnyEnd.select.runtime.status handle =
        (state.select.runtime.setStatus state.select.selector .done).status handle := by
      simp only [State.waitAnyEnd]
      split <;> rfl
    rw [status_eq, Runtime.setStatus_status_of_ne _ differs]
  have select_invariant : state.waitAnyEnd.select.Invariant := by
    rcases in_race with selecting | awaiting
    · simp only [State.waitAnyEnd, selecting, reduceCtorEq, if_false]
      exact done_invariant.setMembers completed collected_idle
    · rcases invariant.awaiting awaiting with ⟨-, suspended, not_queued⟩
      simp only [State.waitAnyEnd, awaiting, if_true]
      refine (done_invariant.other (.wake state.racer) ⟨?_, ?_⟩).setMembers completed collected_idle
      · exact racer_status _ suspended
      · exact not_queued no_report
  refine ⟨?_, fun _ => .inl rfl⟩
  constructor
  · exact select_invariant
  · exact invariant.arguments_once
  · exact invariant.racer_apart
  · exact invariant.selector_apart
  · exact invariant.selector_iff
  · exact (WaitAny.collect_length ..).trans invariant.same_length
  · intro not_dropped index handle member at_handle at_member
    rcases WaitAny.collect_keeps at_member with ⟨before, at_before, state_eq, -⟩
    rw [argument_done handle (List.mem_of_getElem? at_handle), state_eq]
    exact invariant.producers not_dropped index handle before at_handle at_before
  · intro idle
    change state.phase = .idle at idle
    simp [idle] at in_race
  · exact fun _ => completed
  · intro awaiting
    change state.phase = .awaiting at awaiting
    refine ⟨not_ignoring, ?_, by simp [State.waitAnyEnd]⟩
    simp only [State.waitAnyEnd, awaiting, if_true]
    exact racer_status _ (invariant.awaiting awaiting).2.1
  · intro ended
    change state.phase = .ready ∨ state.phase = .dropped at ended
    rcases in_race with selecting | awaiting <;> simp_all

theorem settle (invariant : state.Invariant)
    (running : state.select.phase = .completed → state.report = none →
      state.phase = .selecting ∨ state.phase = .awaiting →
      state.select.runtime.status state.select.selector = .running) :
    state.settle.Invariant ∧ state.settle.Settled := by
  unfold State.settle
  split
  · rename_i ending
    rcases ending with ⟨completed, no_report, in_race⟩
    have selector_running := running completed no_report in_race
    split
    · rename_i ignoring
      have same := invariant.selector_iff.mpr ignoring
      refine invariant.finish completed (same ▸ selector_running) ?_
      rcases in_race with selecting | awaiting <;> simp_all
    · rename_i not_ignoring
      rw [Bool.not_eq_true] at not_ignoring
      exact invariant.waitAnyEnd completed selector_running no_report in_race not_ignoring
  · rename_i not_ending
    refine ⟨invariant, ?_⟩
    intro completed
    cases phase_eq : state.phase with
    | idle => simp [(invariant.idle phase_eq).2] at completed
    | ready => exact .inr (.inl rfl)
    | dropped => exact .inr (.inr rfl)
    | selecting | awaiting =>
        left
        by_contra missing
        exact not_ending ⟨completed, by simpa using missing, by simp [phase_eq]⟩

/-- While the set is selected from, nothing is required of the racing coroutine. -/
theorem selecting (invariant : state.Invariant) (not_dropped : state.phase ≠ .dropped) :
    ({ state with phase := .selecting } : State T E).Invariant where
  __ := invariant
  producers := fun _ => invariant.producers not_dropped
  idle := by simp
  awaiting := by simp
  ended := by simp

theorem setSteps (invariant : state.Invariant) (steps : Handle → ℕ) :
    ({ state with steps } : State T E).Invariant where
  __ := invariant

theorem call (invariant : state.Invariant) (enabled : (Action.call : Action T E).Enabled state) :
    state.call.Invariant ∧ state.call.Settled := by
  rcases enabled with ⟨idle, enabled, -⟩
  rcases invariant.select.select_keeps enabled with ⟨profiles_eq, selector_eq, done_iff⟩
  have selecting := (invariant.selecting (by simp [idle])).setSelect
    (invariant.select.select enabled) profiles_eq selector_eq (fun handle _ => done_iff handle)
    (by simp) (by simp [enabled.1]) (by simp) (by simp)
  refine selecting.settle ?_
  intro completed _ _
  change state.select.select.phase = .completed at completed
  change state.select.select.runtime.status state.select.select.selector = .running
  rcases invariant.select.select_cases enabled with ⟨-, unfolded⟩ |
    ⟨registered, registered_invariant, suspended, -, -, -, -, not_queued, -, unfolded⟩
  · rw [unfolded, Select.State.finish_eq]
    exact enabled.2
  · rw [unfolded] at completed
    rcases registered_invariant.resumeNext_cases with ⟨-, -, queued, -⟩ | ⟨runtime, resumed_eq, -⟩
    · simp [not_queued] at queued
    · simp [resumed_eq, suspended] at completed

/-- The status and the entries of a coroutine that is not handed out stay as they are. -/
theorem resumeNext_other (invariant : state.Invariant) {handle : Handle}
    (not_next : state.select.runtime.getNext.1 ≠ some handle) :
    state.select.resumeNext.runtime.status handle = state.select.runtime.status handle ∧
      state.select.resumeNext.runtime.pending handle = state.select.runtime.pending handle := by
  unfold Select.State.resumeNext
  rcases popped : state.select.runtime.getNext with ⟨_ | next, runtime⟩
  · rcases invariant.select.consistent.resume_nothing popped with ⟨-, unchanged⟩
    exact unchanged handle
  · have differs : handle ≠ next := by
      rintro rfl
      simp [popped] at not_next
    rcases invariant.select.consistent.getNext_some popped with ⟨status_eq, -, -, pending_eq⟩
    simp only [Select.State.resume, status_eq]
    have unchanged : (runtime.setStatus next .running).status handle =
        state.select.runtime.status handle ∧
          (runtime.setStatus next .running).pending handle =
            state.select.runtime.pending handle := by
      rw [Runtime.setStatus_status_of_ne _ differs, status_eq]
      exact ⟨rfl, pending_eq handle differs⟩
    cases next_status : state.select.runtime.status next with
    | running | done => exact ⟨by rw [status_eq], pending_eq handle differs⟩
    | elsewhere => exact unchanged
    | waiting point =>
        obtain rfl := invariant.select.selector_only next next_status
        dsimp only
        rw [Select.State.finish_eq]
        cases suspended : state.select.set.suspended with
        | none => exact unchanged
        | some cancelled =>
            have cancelled_eq : cancelled = state.select.selector := by
              cases invariant.select.progress with
              | suspended _ set_eq => simpa [set_eq] using suspended.symm
              | before _ _ waits | completed _ waits => exact absurd next_status waits
              | destroyed _ done => simp [done] at next_status
            refine ⟨unchanged.1, ?_⟩
            rw [cancelled_eq]
            exact (Runtime.pending_cancel_of_ne differs).trans unchanged.2

theorem resumeNext (invariant : state.Invariant) (settled : state.Settled) :
    state.resumeNext.Invariant ∧ state.resumeNext.Settled := by
  rcases invariant.select.resumeNext_keeps with ⟨profiles_eq, selector_eq, done_iff⟩
  have select_invariant := invariant.select.resumeNext
  have cases := invariant.select.resumeNext_cases
  have still_completed : state.select.phase = .completed →
      state.select.resumeNext.phase = .completed := by
    intro completed
    exact (invariant.select.resumeNext_phase (by simp [completed])).trans completed
  have still_before : state.select.phase = .before →
      state.select.resumeNext.phase = .before := by
    intro before
    exact (invariant.select.resumeNext_phase (by simp [before])).trans before
  unfold State.resumeNext
  dsimp only
  split
  · -- The promise of `waitAny()` is ready, and `race()` ends.
    rename_i resumes_racer
    rcases resumes_racer with ⟨awaiting, next_eq⟩
    rcases invariant.awaiting awaiting with ⟨not_ignoring, suspended, not_queued⟩
    have queued : state.select.runtime.pending state.racer ≠ 0 := by
      have popped : state.select.runtime.getNext =
          (some state.racer, state.select.runtime.getNext.2) := Prod.ext next_eq rfl
      rcases invariant.select.consistent.getNext_some popped with ⟨-, -, pending_eq, -⟩
      omega
    have reported : state.report.isSome := by
      rw [Option.isSome_iff_ne_none]
      exact fun missing => queued (not_queued missing)
    have running : state.select.resumeNext.runtime.status state.racer = .running := by
      rcases cases with ⟨-, next_selector, -⟩ | ⟨runtime, resumed_eq, resumed_status⟩
      · rw [next_eq, Option.some.injEq] at next_selector
        simp [invariant.selector_iff.mp next_selector.symm] at not_ignoring
      · rw [resumed_eq]
        exact (resumed_status state.racer next_eq).2
    have selecting := ((invariant.selecting (by simp [awaiting])).setSelect select_invariant
      profiles_eq selector_eq (fun handle _ => done_iff handle) (by simp) still_completed
      (by simp) (by simp)).setSteps (fun handle => state.steps handle +
        if state.select.runtime.getNext.1 = some handle then 1 else 0)
    exact selecting.finish (still_completed (invariant.reported reported)) running (by simp)
  · rename_i not_racer
    have moved := (invariant.setSelect select_invariant profiles_eq selector_eq
      (fun handle _ => done_iff handle) (fun idle => still_before (invariant.idle idle).2)
      still_completed ?_ ?_).setSteps (fun handle =>
        state.steps handle + if state.select.runtime.getNext.1 = some handle then 1 else 0)
    · refine moved.settle ?_
      intro completed no_report in_race
      change state.select.resumeNext.runtime.status state.select.resumeNext.selector = .running
      rcases cases with ⟨-, -, -, -, same, running, -⟩ | ⟨runtime, resumed_eq, -⟩
      · rw [same]
        exact running
      · -- The `co_await` on the set had ended before, and what follows was done then.
        have was_completed : state.select.phase = .completed := by
          change state.select.resumeNext.phase = .completed at completed
          rw [resumed_eq] at completed
          exact completed
        change state.report = none at no_report
        change state.phase = .selecting ∨ state.phase = .awaiting at in_race
        rcases settled was_completed with reported | ready | dropped
        · simp [no_report] at reported
        · simp [ready] at in_race
        · simp [dropped] at in_race
    · intro awaiting
      rcases invariant.awaiting awaiting with ⟨-, suspended, not_queued⟩
      rcases invariant.resumeNext_other (fun next_eq => not_racer ⟨awaiting, next_eq⟩) with
        ⟨status_eq, pending_eq⟩
      rw [status_eq, pending_eq]
      exact ⟨suspended, not_queued⟩
    · intro ended
      rw [done_iff]
      exact (invariant.ended ended).2

theorem await (invariant : state.Invariant) (settled : state.Settled)
    (enabled : (Action.await : Action T E).Enabled state) :
    state.await.Invariant ∧ state.await.Settled := by
  rcases enabled with ⟨selecting, not_ignoring, running⟩
  unfold State.await
  split
  · rename_i reported
    exact invariant.finish (invariant.reported reported) running (by simp [selecting])
  · rename_i not_reported
    have apart : state.racer ∉ state.arguments := invariant.racer_apart
    have suspended_invariant : ({ state.setRuntime
        (state.select.runtime.setStatus state.racer .elsewhere) with
          phase := .awaiting } : State T E).Invariant := by
      constructor
      · exact invariant.select.other (.suspend state.racer) running
      · exact invariant.arguments_once
      · exact apart
      · exact invariant.selector_apart
      · exact invariant.selector_iff
      · exact invariant.same_length
      · intro _ index handle member at_handle at_member
        have differs : handle ≠ state.racer :=
          fun same => apart (same ▸ List.mem_of_getElem? at_handle)
        change (state.select.runtime.setStatus state.racer .elsewhere).status handle = .done ↔ _
        rw [Runtime.setStatus_status_of_ne _ differs]
        exact invariant.producers (by simp [selecting]) index handle member at_handle at_member
      · simp
      · exact invariant.reported
      · intro _
        exact ⟨not_ignoring, Runtime.setStatus_status_self _,
          fun _ => invariant.select.consistent.pending_of_running running⟩
      · simp
    refine suspended_invariant.resumeNext ?_
    intro completed
    rcases settled completed with reported | ready | dropped
    · exact absurd reported not_reported
    · simp [selecting] at ready
    · simp [selecting] at dropped

/-- The end of an argument: its member is resolved, and at most the selecting coroutine is
enqueued. -/
theorem finishArgument_eq (invariant : state.Invariant) {index : ℕ} (outcome : Outcome T E)
    {ending : Handle} {member : Member T E} (at_ending : state.arguments[index]? = some ending)
    (running : state.select.runtime.status ending = .running)
    (at_member : state.select.members[index]? = some member)
    (unfinished : member.state ≠ .finished) :
    ∃ resolved runtime wakeups,
      state.finishArgument index outcome = { state with
        select := { state.select with
          members := state.select.members.set index resolved
          runtime
          wakeups } } ∧
        resolved.state = .finished ∧
        ({ state.select with
          members := state.select.members.set index resolved
          runtime
          wakeups } : Select.State T E).Invariant ∧
        runtime.status = (state.select.runtime.setStatus ending .done).status ∧
        ∀ handle ≠ state.select.selector,
          runtime.pending handle = state.select.runtime.pending handle := by
  have ended_invariant := invariant.select.other (.finish ending) running
  have select_invariant : (Select.State.resolve _ index outcome).Invariant :=
    ended_invariant.resolve ⟨member, at_member, unfinished⟩
  rcases ended_invariant.resolve_eq outcome at_member unfinished with
    ⟨resolved, -, finished, resolved_eq⟩
  rw [resolved_eq] at select_invariant
  refine ⟨resolved, _, _, ?_, finished, select_invariant, ?_, ?_⟩
  · simp only [State.finishArgument, at_ending]
    exact congrArg (fun select => ({ state with select } : State T E)) resolved_eq
  · split <;> rfl
  · intro handle differs
    split
    · exact Runtime.pending_enqueue_of_ne differs
    · rfl

theorem finishArgument (invariant : state.Invariant) (settled : state.Settled) {index : ℕ}
    {outcome : Outcome T E} (enabled : (Action.finishArgument index outcome).Enabled state) :
    (state.finishArgument index outcome).Invariant ∧
      (state.finishArgument index outcome).Settled := by
  rcases enabled with ⟨not_dropped, ⟨ending, at_ending, running⟩, member, at_member, unfinished⟩
  rcases invariant.finishArgument_eq outcome at_ending running at_member unfinished with
    ⟨resolved, runtime, wakeups, unfolded, finished, select_invariant, status_eq, pending_eq⟩
  have racer_status : runtime.status state.racer = state.select.runtime.status state.racer := by
    rw [status_eq]
    refine Runtime.setStatus_status_of_ne _ fun same => ?_
    exact invariant.racer_apart (same ▸ List.mem_of_getElem? at_ending)
  rw [unfolded]
  refine ⟨?_, settled⟩
  constructor
  · exact select_invariant
  · exact invariant.arguments_once
  · exact invariant.racer_apart
  · exact invariant.selector_apart
  · exact invariant.selector_iff
  · exact List.length_set.trans invariant.same_length
  · intro _ other handle after at_handle at_after
    dsimp only at at_handle at_after ⊢
    rw [status_eq]
    by_cases same : other = index
    · subst same
      rw [List.getElem?_set_self (List.getElem?_eq_some_iff.mp at_member).1,
        Option.some.injEq] at at_after
      rw [at_ending, Option.some.injEq] at at_handle
      rw [← at_after, ← at_handle, finished]
      simp
    · have differs : handle ≠ ending := by
        rintro rfl
        have in_range := (List.getElem?_eq_some_iff.mp at_handle).1
        rw [List.getElem?_inj in_range invariant.arguments_once |>.mp
          (at_handle.trans at_ending.symm)] at same
        exact same rfl
      rw [List.getElem?_set_ne (Ne.symm same)] at at_after
      rw [Runtime.setStatus_status_of_ne _ differs]
      exact invariant.producers not_dropped other handle after at_handle at_after
  · exact invariant.idle
  · exact invariant.reported
  · intro awaiting
    rcases invariant.awaiting awaiting with ⟨not_ignoring, suspended, not_queued⟩
    have differs : state.racer ≠ state.select.selector := by
      intro same
      simp [invariant.selector_iff.mp same.symm] at not_ignoring
    refine ⟨not_ignoring, racer_status.trans suspended, fun missing => ?_⟩
    exact (pending_eq state.racer differs).trans (not_queued missing)
  · intro ended
    exact ⟨(invariant.ended ended).1, racer_status.trans (invariant.ended ended).2⟩

theorem destroyArguments {select : Select.State T E} (invariant : select.Invariant)
    {handles : List Handle} (apart : select.selector ∉ handles) :
    ({ select with
      runtime := handles.foldl State.destroyArgument select.runtime } :
        Select.State T E).Invariant ∧
      ∀ handle ∉ handles, (handles.foldl State.destroyArgument select.runtime).status handle =
        select.runtime.status handle := by
  induction handles generalizing select with
  | nil => exact ⟨invariant, fun _ _ => rfl⟩
  | cons first rest ih =>
      rw [List.mem_cons, not_or] at apart
      rcases apart with ⟨first_apart, rest_apart⟩
      have destroyed : ({ select with
          runtime := State.destroyArgument select.runtime first } : Select.State T E).Invariant ∧
          ∀ handle ≠ first, (State.destroyArgument select.runtime first).status handle =
            select.runtime.status handle := by
        unfold State.destroyArgument
        split
        · exact ⟨invariant, fun _ _ => rfl⟩
        · rename_i not_done
          have first_not_done : select.runtime.status first ≠ .done := by
            intro done
            simp [Runtime.done, done] at not_done
          refine ⟨invariant.unrelated ⟨?_, ?_, ?_, ?_⟩ first_not_done, ?_⟩
          · exact (invariant.consistent.cancel first).setStatus _ Runtime.pending_cancel_self
          · exact fun _ waiting => first_apart (invariant.selector_only first waiting).symm
          · simp
          · intro handle differs
            exact ⟨Runtime.setStatus_status_of_ne _ differs,
              Runtime.pending_cancel_of_ne differs⟩
          · intro handle differs
            exact Runtime.setStatus_status_of_ne _ differs
      rcases ih destroyed.1 rest_apart with ⟨rest_invariant, rest_status⟩
      refine ⟨rest_invariant, ?_⟩
      intro handle other
      rw [List.mem_cons, not_or] at other
      exact (rest_status handle other.2).trans (destroyed.2 handle other.1)

theorem drop (invariant : state.Invariant) (ready : state.phase = .ready) :
    state.drop.Invariant ∧ state.drop.Settled := by
  rcases destroyArguments invariant.select invariant.selector_apart with
    ⟨select_invariant, status_eq⟩
  rcases invariant.ended (.inl ready) with ⟨completed, done⟩
  refine ⟨?_, fun _ => .inr (.inr rfl)⟩
  constructor
  · exact select_invariant
  · exact invariant.arguments_once
  · exact invariant.racer_apart
  · exact invariant.selector_apart
  · exact invariant.selector_iff
  · exact invariant.same_length
  · simp [State.drop]
  · simp [State.drop]
  · exact fun _ => completed
  · simp [State.drop]
  · exact fun _ => ⟨completed, (status_eq state.racer invariant.racer_apart).trans done⟩

theorem other (invariant : state.Invariant) (settled : state.Settled) {action : Runtime.Action}
    (enabled : (Action.other action : Action T E).Enabled state) :
    ((Action.other action : Action T E).perform state).Invariant ∧
      ((Action.other action : Action T E).perform state).Settled := by
  rcases enabled with ⟨enabled, not_racer, -, not_argument⟩
  have unrelated := invariant.select.consistent.other enabled
  rcases unrelated.unchanged state.racer (Ne.symm not_racer) with ⟨status_eq, pending_eq⟩
  have done_iff : ∀ handle ∈ state.arguments,
      ((action.perform state.select.runtime).status handle = .done ↔
        state.select.runtime.status handle = .done) := by
    intro handle argument
    by_cases same : handle = action.subject
    · cases action with
      | finish subject => exact absurd argument (not_argument handle (same ▸ rfl))
      | suspend subject | wake subject | resume subject =>
          simp_all [Runtime.Action.subject, Runtime.Action.perform, Runtime.Action.Enabled]
    · rw [(unrelated.unchanged handle same).1]
  refine ⟨(invariant.setSelect (invariant.select.other action enabled) rfl rfl done_iff
    (fun idle => (invariant.idle idle).2) id ?_ ?_).setSteps _, settled⟩
  · intro awaiting
    dsimp only
    rw [status_eq, pending_eq]
    exact (invariant.awaiting awaiting).2
  · intro ended
    exact status_eq.trans (invariant.ended ended).2

theorem step (invariant : state.Invariant) (settled : state.Settled) {action : Action T E}
    (enabled : action.Enabled state) :
    (action.perform state).Invariant ∧ (action.perform state).Settled := by
  cases action with
  | call => exact invariant.call enabled
  | await => exact invariant.await settled enabled
  | resumeNext => exact invariant.resumeNext settled
  | finishArgument index outcome => exact invariant.finishArgument settled enabled
  | drop => exact invariant.drop enabled
  | other action => exact invariant.other settled enabled

theorem initially (initial : (system T E).Initial state) : state.Invariant ∧ state.Settled := by
  rcases initial with ⟨ignoresResults, racer, selector, arguments, members, once, racer_apart,
    selector_apart, same_length, fresh, selector_iff, rfl⟩
  have idle : ∀ member ∈ members, member.Valid ∧ member.state = .init := by
    intro member member_mem
    rcases fresh member member_mem with rfl | ⟨-, rfl⟩
    · exact ⟨Member.valid_typed, rfl⟩
    · exact ⟨Member.valid_void, rfl⟩
  have select_invariant : ({ selector, members } : Select.State T E).Invariant :=
    Select.State.invariant_of_reachable (.start ⟨selector, members, fun member member_mem =>
      ⟨(idle member member_mem).1, by simp [(idle member member_mem).2]⟩, rfl⟩)
  refine ⟨?_, fun completed => by simp at completed⟩
  constructor
  · exact select_invariant
  · exact once
  · exact racer_apart
  · exact selector_apart
  · exact selector_iff
  · exact same_length
  · intro _ index handle member _ at_member
    simp [(idle member (List.mem_of_getElem? at_member)).2]
  · exact fun _ => ⟨rfl, rfl⟩
  · simp
  · simp
  · simp

end Invariant

theorem invariant_of_reachable {state : State T E} (reached : (system T E).Reachable state) :
    state.Invariant ∧ state.Settled :=
  reached.invariant (fun state => state.Invariant ∧ state.Settled)
    (fun _ initial => Invariant.initially initial)
    (fun _ _ holds enabled => holds.1.step holds.2 enabled)

/-! ## Losers go on -/

theorem resumeNext_of_ready {state : State T E} (ready : state.phase = .ready) :
    state.resumeNext = { state with
      select := state.select.resumeNext
      steps := fun handle => state.steps handle +
        if state.select.runtime.getNext.1 = some handle then 1 else 0 } := by
  simp [resumeNext, settle, ready]

/-- After the `co_await` on the set, the coroutine that is handed out just runs. -/
theorem Invariant.resumeNext_select {state : State T E} (invariant : state.Invariant)
    (completed : state.select.phase = .completed) {next : Handle} {runtime : Runtime Unit}
    (popped : state.select.runtime.getNext = (some next, runtime)) :
    state.select.resumeNext =
      { state.select with runtime := runtime.setStatus next .running } := by
  rcases invariant.select.resumeNext_cases with ⟨suspended, -⟩ | ⟨_, -, resumed_status⟩
  · simp [completed] at suspended
  · have elsewhere := (resumed_status next (by rw [popped])).1
    rcases invariant.select.consistent.getNext_some popped with ⟨status_eq, -⟩
    simp [Select.State.resumeNext, popped, Select.State.resume, status_eq, elsewhere]

/-- A coroutine in the scheduler queue is resumed after those in front of it. -/
theorem Invariant.exists_resumed {state : State T E} (invariant : state.Invariant)
    (settled : state.Settled) (ready : state.phase = .ready) {handle : Handle}
    (queued : 0 < state.select.runtime.pending handle) :
    ∃ after, (system T E).Steps state after ∧ state.steps handle < after.steps handle := by
  -- The induction is on the length of the queue.
  induction length_eq : state.select.runtime.loop.scheduler.resumable.length
    using Nat.strongRecOn generalizing state with
  | _ length ih =>
    subst length_eq
    have first_step : (system T E).Steps state state.resumeNext :=
      .single ⟨.resumeNext, trivial, trivial, rfl⟩
    rcases popped : state.select.runtime.getNext with ⟨_ | next, runtime⟩
    · have nothing := ((invariant.select.consistent.getNext_none popped).2 handle).1
      omega
    · have unfolded := resumeNext_of_ready ready
      rw [popped] at unfolded
      by_cases same : next = handle
      · refine ⟨_, first_step, ?_⟩
        simp [unfolded, same]
      · have not_next : state.select.runtime.getNext.1 ≠ some handle := by
          simpa [popped] using same
        have shorter := Runtime.getNext_shorter popped
        rcases invariant.resumeNext settled with ⟨after_invariant, after_settled⟩
        have after_queued : 0 < state.resumeNext.select.runtime.pending handle := by
          rw [unfolded]
          exact Nat.lt_of_lt_of_eq queued (invariant.resumeNext_other not_next).2.symm
        have after_shorter : state.resumeNext.select.runtime.loop.scheduler.resumable.length <
            state.select.runtime.loop.scheduler.resumable.length := by
          rw [unfolded, invariant.resumeNext_select (invariant.ended (.inl ready)).1 popped]
          exact shorter
        have after_ready : state.resumeNext.phase = .ready := by
          rw [unfolded]
          exact ready
        rcases ih _ after_shorter after_invariant after_settled after_ready after_queued rfl with
          ⟨after, steps, counted⟩
        refine ⟨after, first_step.trans steps, ?_⟩
        simpa [unfolded, same] using counted

/-- A suspended coroutine is enqueued, unless it is in the queue already, and then resumed. -/
theorem Invariant.exists_resumed_of_suspended {state : State T E} (invariant : state.Invariant)
    (settled : state.Settled) (ready : state.phase = .ready) {handle : Handle}
    (argument : handle ∈ state.arguments)
    (suspended : state.select.runtime.status handle = .elsewhere) :
    ∃ after, (system T E).Steps state after ∧ state.steps handle < after.steps handle := by
  rcases Nat.eq_zero_or_pos (state.select.runtime.pending handle) with not_queued | queued
  · have enabled : (Action.other (.wake handle) : Action T E).Enabled state :=
      ⟨⟨suspended, not_queued⟩, fun same => invariant.racer_apart (same ▸ argument),
        fun same => invariant.selector_apart (same ▸ argument), by simp⟩
    rcases invariant.other settled enabled with ⟨woken_invariant, woken_settled⟩
    have queued : 0 < (state.select.runtime.enqueue handle).pending handle := by simp
    rcases woken_invariant.exists_resumed woken_settled ready queued with ⟨after, steps, counted⟩
    exact ⟨after, .head ⟨.other _, enabled, trivial, rfl⟩ steps,
      by simpa [Action.perform] using counted⟩
  · exact invariant.exists_resumed settled ready queued

/-- The coroutine of a loser is resumed in some run. -/
theorem Invariant.exists_step_of_loser {state : State T E} (invariant : state.Invariant)
    (settled : state.Settled) (ready : state.phase = .ready) {handle : Handle}
    (argument : handle ∈ state.arguments)
    (not_done : state.select.runtime.status handle ≠ .done) :
    ∃ after, (system T E).Steps state after ∧ state.steps handle < after.steps handle := by
  have not_selector : handle ≠ state.select.selector :=
    fun same => invariant.selector_apart (same ▸ argument)
  cases status_eq : state.select.runtime.status handle with
  | done => exact absurd status_eq not_done
  | waiting point => exact absurd (invariant.select.selector_only handle status_eq) not_selector
  | elsewhere => exact invariant.exists_resumed_of_suspended settled ready argument status_eq
  | running =>
      have enabled : (Action.other (.suspend handle) : Action T E).Enabled state :=
        ⟨status_eq, fun same => invariant.racer_apart (same ▸ argument), not_selector, by simp⟩
      rcases invariant.other settled enabled with ⟨suspended_invariant, suspended_settled⟩
      rcases suspended_invariant.exists_resumed_of_suspended suspended_settled ready argument
        (Runtime.setStatus_status_self _) with ⟨after, steps, counted⟩
      exact ⟨after, .head ⟨.other _, enabled, trivial, rfl⟩ steps,
        by simpa [Action.perform] using counted⟩

theorem Invariant.loser_not_done {state : State T E} (invariant : state.Invariant)
    (not_dropped : state.phase ≠ .dropped) {handle : Handle} (loser : handle ∈ state.losers) :
    handle ∈ state.arguments ∧ state.select.runtime.status handle ≠ .done := by
  rw [losers, List.mem_filterMap] at loser
  rcases loser with ⟨⟨argument, member⟩, paired, kept⟩
  dsimp only at kept
  split at kept
  · simp at kept
  · rename_i unfinished
    obtain rfl := Option.some.inj kept
    rcases List.mem_iff_getElem?.mp paired with ⟨index, at_index⟩
    rw [List.getElem?_zip_eq_some] at at_index
    refine ⟨List.mem_of_getElem? at_index.1, ?_⟩
    rw [Ne, invariant.producers not_dropped index _ _ at_index.1 at_index.2]
    exact unfinished

/-- When the returned promise is ready, the coroutines of the arguments execute no further
step in any run if and only if all arguments have finished: nothing stops a loser before the
returned promise is destroyed. -/
theorem stopped_iff_no_losers {state : State T E} (reached : (system T E).Reachable state)
    (ready : state.phase = .ready) : state.Stopped ↔ state.losers = [] := by
  rcases invariant_of_reachable reached with ⟨invariant, settled⟩
  constructor
  · intro stopped
    rw [List.eq_nil_iff_forall_not_mem]
    intro handle loser
    rcases invariant.loser_not_done (by simp [ready]) loser with ⟨argument, not_done⟩
    rcases invariant.exists_step_of_loser settled ready argument not_done with
      ⟨after, steps, counted⟩
    exact Nat.ne_of_gt counted (stopped after steps handle loser)
  · intro no_losers after _ handle loser
    simp [no_losers] at loser

/-- Both arguments of `race()` have finished when it is called. -/
theorem stopped_two_finished :
    (([.finishArgument 0 (.value 7), .finishArgument 1 (.value 8), .call, .await] :
      List (Action ℕ String)).foldl Action.perform
        { ignoresResults := false, racer := 0, arguments := [2, 3],
          select := { selector := 1, members := [.typed {}, .typed {}] } }).Stopped := by
  have start : (system ℕ String).Reachable
      { ignoresResults := false, racer := 0, arguments := [2, 3],
        select := { selector := 1, members := [.typed {}, .typed {}] } } :=
    .start ⟨false, 0, 1, [2, 3], [.typed {}, .typed {}], by decide, by decide, by decide, rfl,
      by simp, by decide, rfl⟩
  have first := start.step (Action.finishArgument 0 (.value 7))
    ⟨by decide, ⟨2, rfl, rfl⟩, _, rfl, by decide⟩ trivial
  have second := first.step (Action.finishArgument 1 (.value 8))
    ⟨by decide, ⟨3, rfl, rfl⟩, _, rfl, by decide⟩ trivial
  have called := second.step Action.call ⟨rfl, ⟨rfl, rfl⟩, rfl⟩ trivial
  have awaited := called.step Action.await ⟨rfl, rfl, rfl⟩ trivial
  exact (stopped_iff_no_losers awaited rfl).mpr rfl

/-- The promise of `raceIgnore()` is ready, and the loser is woken and executes a step. -/
theorem loser_executes_step : ¬∀ state, (system ℕ String).Reachable state →
    state.phase = .ready → state.Stopped := by
  intro always
  have start : (system ℕ String).Reachable
      { ignoresResults := true, racer := 0, arguments := [1, 2],
        select := { selector := 0, members := [.void {}, .void {}] } } :=
    .start ⟨true, 0, 0, [1, 2], [.void {}, .void {}], by decide, by decide, by decide, rfl,
      by simp, by decide, rfl⟩
  have first := start.step (Action.other (.suspend 1)) ⟨rfl, by decide, by decide, by simp⟩ trivial
  have second := first.step (Action.other (.suspend 2)) ⟨rfl, by decide, by decide, by simp⟩
    trivial
  have called := second.step Action.call ⟨rfl, ⟨rfl, rfl⟩, rfl⟩ trivial
  have woken := called.step (Action.other (.wake 1))
    ⟨⟨rfl, rfl⟩, by decide, by decide, by simp⟩ trivial
  have resumed := woken.step Action.resumeNext trivial trivial
  have won := resumed.step (Action.finishArgument 0 (.value 7))
    ⟨by decide, ⟨1, rfl, rfl⟩, _, rfl, by decide⟩ trivial
  have raced := won.step Action.resumeNext trivial trivial
  have loser_steps := always _ raced rfl _ (.head ⟨.other (.wake 2),
    ⟨⟨rfl, rfl⟩, by decide, by decide, by simp⟩, trivial, rfl⟩
    (.single ⟨.resumeNext, trivial, trivial, rfl⟩)) 2 (by decide)
  exact absurd loser_steps (by decide)

end State

end Uvco.Race
