import Uvco.Library.Transition
import Uvco.Runtime
import Uvco.Select.Basic

/-!
# Awaiting a `SelectSet`

One coroutine awaits a set of promises that nobody else waits for, while their
producers end in any order, other coroutines take results that are available, and
unrelated coroutines come and go in the scheduler queue. The awaiting coroutine
may be destroyed while it is suspended.

Every member that resolves enqueues the selecting coroutine once more; the first
of these entries resumes it, and `await_resume` cancels the others.
-/

namespace Uvco.Select

variable {T E : Type}

/-- How far the `co_await` on the set has come. -/
inductive Phase where
  | before
  | suspended
  | completed
  | threw
  /-- The selecting coroutine was destroyed while it was suspended. -/
  | destroyed
deriving DecidableEq, Repr

/-- A coroutine that awaits a set, with the promises in it. -/
structure State (T E : Type) where
  selector : Handle
  /-- The cores of the promises in the set. -/
  members : List (Member T E)
  set : SelectSet := {}
  /-- The only suspension point described here is `co_await` on the set. -/
  runtime : Runtime Unit := {}
  phase : Phase := .before
  /-- The list that the `co_await` returned. -/
  result : List ℕ := []
  /-- How many members have resolved while the selecting coroutine was suspended. -/
  wakeups : ℕ := 0
  /-- How often the selecting coroutine was resumed from this `co_await`. -/
  resumptions : ℕ := 0

namespace State

variable (state : State T E)

/-- `await_resume`, and the destructor of the set. -/
def finish : State T E :=
  let (result, members, set, loop) :=
    SelectSet.awaitResume state.members state.set state.runtime.loop
  { state with
    members := SelectSet.destroy members set
    set
    runtime := { state.runtime with loop }
    phase := .completed
    result }

/-- A coroutine goes on where it was suspended. -/
def resume (handle : Handle) : State T E :=
  let running := { state with runtime := state.runtime.setStatus handle .running }
  match state.runtime.status handle with
  | .waiting () => { running with resumptions := state.resumptions + 1 }.finish
  | .elsewhere => running
  | .running | .done => state

/-- The scheduler resumes the next coroutine, if there is one. -/
def resumeNext : State T E :=
  let (next, runtime) := state.runtime.getNext
  match next with
  | some handle => ({ state with runtime } : State T E).resume handle
  | none => { state with runtime }

/-- `co_await` on the set in the selecting coroutine. -/
def select : State T E :=
  let (isReady, set) := SelectSet.awaitReady state.members state.set
  if isReady then ({ state with set } : State T E).finish
  else
    match SelectSet.awaitSuspend state.members set state.selector with
    | (members, set, none) =>
        ({ state with
            members
            set
            runtime := state.runtime.setStatus state.selector (.waiting ())
            phase := .suspended } : State T E).resumeNext
    | (members, set, some _) =>
        { state with members := SelectSet.destroy members set, set, phase := .threw }

/-- The producer of a member ends. -/
def resolve (index : ℕ) (outcome : Outcome T E) : State T E :=
  match state.members[index]? with
  | some member =>
      let (member, loop) := member.resolve state.runtime.loop outcome
      { state with
        members := state.members.set index member
        runtime := { state.runtime with loop }
        wakeups := if state.phase = .suspended then state.wakeups + 1 else state.wakeups }
  | none => state

/-- Another coroutine takes the result of a member by `co_await`. -/
def consume (index : ℕ) : State T E :=
  match state.members[index]? with
  | some member => { state with members := state.members.set index member.awaitResume }
  | none => state

/-- The selecting coroutine is destroyed: it is cancelled, and the set is destroyed with it. -/
def destroy : State T E :=
  { state with
    members := SelectSet.destroy state.members state.set
    runtime := (state.runtime.cancel state.selector).setStatus state.selector .done
    phase := .destroyed }

/-- The state in which the coroutine can await a new set of the same promises. -/
def restart (members : List (Member T E)) : State T E :=
  { selector := state.selector, members, runtime := state.runtime }

end State

/-- What the selecting coroutine, the promises and the scheduler can do next. -/
inductive Action (T E : Type) where
  | select
  | resolve (index : ℕ) (outcome : Outcome T E)
  | consume (index : ℕ)
  /-- A turn of `Scheduler::runAll`. -/
  | resumeNext
  | destroy
  /-- A coroutine does something that does not involve the set. -/
  | other (action : Runtime.Action)

namespace Action

/-- Promises are resolved once; a result is consumed only if it is there. -/
def Enabled (state : State T E) : Action T E → Prop
  | .select => state.phase = .before ∧ state.runtime.status state.selector = .running
  | .resolve index _ => ∃ member, state.members[index]? = some member ∧ member.state ≠ .finished
  | .consume index => ∃ member, state.members[index]? = some member ∧ member.awaitReady = true
  | .resumeNext => True
  | .destroy => state.phase = .suspended
  | .other action => action.Enabled state.runtime

/-- The state after an action. -/
def perform (state : State T E) : Action T E → State T E
  | .select => state.select
  | .resolve index outcome => state.resolve index outcome
  | .consume index => state.consume index
  | .resumeNext => state.resumeNext
  | .destroy => state.destroy
  | .other action => { state with runtime := action.perform state.runtime }

end Action

/-- All programs around one `co_await` on a set of promises that nobody else waits for. -/
def system (T E : Type) : TransitionSystem (State T E) (Action T E) where
  Initial state := ∃ selector members,
    (∀ member ∈ members, member.Valid ∧ member.state ≠ .waitedOn) ∧ state = { selector, members }
  Enabled state action := action.Enabled state
  perform state action := action.perform state

namespace State

/-! ## The invariant -/

/-- Nobody waits for any member. -/
def Released (state : State T E) : Prop :=
  ∀ member ∈ state.members, member.state ≠ .waitedOn

/-- What holds in each phase. -/
inductive Progress (state : State T E) : Prop where
  | before (phase_eq : state.phase = .before) (set_eq : state.set = {})
      (not_waiting : state.runtime.status state.selector ≠ .waiting ())
      (released : state.Released) (never : state.resumptions = 0) (no_wakeups : state.wakeups = 0)
  | suspended (phase_eq : state.phase = .suspended)
      (set_eq : state.set = { suspended := some state.selector, resumed := false })
      (waiting : state.runtime.status state.selector = .waiting ())
      (registered : ∀ member ∈ state.members,
        member.state = .finished ∨ member.waitingHandle = some state.selector)
      (wakeups : state.runtime.pending state.selector = state.wakeups)
      (never : state.resumptions = 0)
  | completed (phase_eq : state.phase = .completed)
      (not_waiting : state.runtime.status state.selector ≠ .waiting ())
      (released : state.Released) (once : state.resumptions ≤ 1)
  | destroyed (phase_eq : state.phase = .destroyed)
      (done : state.runtime.status state.selector = .done) (released : state.Released)
      (never : state.resumptions = 0)

/-- What holds of a set in every reachable state. -/
structure Invariant (state : State T E) : Prop where
  consistent : state.runtime.Consistent
  selector_only : ∀ handle, state.runtime.status handle = .waiting () → handle = state.selector
  valid : ∀ member ∈ state.members, member.Valid
  progress : state.Progress

theorem Invariant.setRuntime {state : State T E} (invariant : state.Invariant)
    {runtime : Runtime Unit} (consistent : runtime.Consistent)
    (waiting_iff : ∀ handle, runtime.status handle = .waiting () ↔
      state.runtime.status handle = .waiting ())
    (pending_eq : ∀ handle, state.runtime.status handle = .waiting () →
      runtime.pending handle = state.runtime.pending handle)
    (still_done : ∀ handle, state.runtime.status handle = .done → runtime.status handle = .done) :
    ({ state with runtime } : State T E).Invariant where
  consistent := consistent
  selector_only := fun handle waiting =>
    invariant.selector_only handle ((waiting_iff handle).mp waiting)
  valid := invariant.valid
  progress := by
    cases invariant.progress with
    | before phase_eq set_eq not_waiting released never no_wakeups =>
        exact .before phase_eq set_eq (fun waiting => not_waiting ((waiting_iff _).mp waiting))
          released never no_wakeups
    | suspended phase_eq set_eq waiting registered wakeups never =>
        exact .suspended phase_eq set_eq ((waiting_iff _).mpr waiting) registered
          ((pending_eq _ waiting).trans wakeups) never
    | completed phase_eq not_waiting released once =>
        exact .completed phase_eq (fun waiting => not_waiting ((waiting_iff _).mp waiting))
          released once
    | destroyed phase_eq done released never =>
        exact .destroyed phase_eq (still_done _ done) released never

theorem Invariant.unrelated {state : State T E} (invariant : state.Invariant)
    {runtime : Runtime Unit} {subject : Handle}
    (unrelated : Runtime.Unrelated state.runtime runtime subject)
    (not_done : state.runtime.status subject ≠ .done) :
    ({ state with runtime } : State T E).Invariant := by
  refine invariant.setRuntime unrelated.consistent (fun handle => unrelated.waiting_iff handle ())
    (fun handle waiting => unrelated.pending_eq waiting) ?_
  exact fun handle is_done => unrelated.done not_done is_done

theorem finished_of_ready {member : Member T E} (valid : member.Valid)
    (ready : member.ready = true) : member.state = .finished := by
  by_contra unfinished
  simp [valid.unresolved unfinished] at ready

theorem finish_eq (state : State T E) :
    state.finish = { state with
      members := state.members.map fun member =>
        if member.ready then member else member.resetHandle
      set := { suspended := none, resumed := true }
      runtime := match state.set.suspended with
        | some suspended => state.runtime.cancel suspended
        | none => state.runtime
      phase := .completed
      result := SelectSet.readyIndices state.members } := by
  cases suspended : state.set.suspended <;>
    simp [finish, SelectSet.awaitResume_eq, SelectSet.destroy, suspended, Runtime.cancel]

theorem reset_members {members : List (Member T E)} (valid : ∀ member ∈ members, member.Valid)
    {member : Member T E}
    (reset_mem : member ∈ members.map fun member =>
      if member.ready then member else member.resetHandle) :
    member.Valid ∧ member.state ≠ .waitedOn := by
  rcases List.mem_map.mp reset_mem with ⟨before, before_mem, rfl⟩
  have before_valid := valid before before_mem
  by_cases ready : before.ready = true
  · rw [if_pos ready]
    exact ⟨before_valid, by simp [finished_of_ready before_valid ready]⟩
  · rw [if_neg ready]
    rcases before_valid.resetHandle with ⟨reset_valid, -, -, state_eq⟩
    refine ⟨reset_valid, ?_⟩
    rw [state_eq]
    split <;> simp_all

theorem Invariant.finish {state : State T E} (valid : ∀ member ∈ state.members, member.Valid)
    (consistent : state.finish.runtime.Consistent)
    (nobody : ∀ handle, state.runtime.status handle ≠ .waiting ())
    (once : state.resumptions ≤ 1) : state.finish.Invariant := by
  have nobody_after : ∀ handle, state.finish.runtime.status handle ≠ .waiting () := by
    intro handle
    rw [finish_eq]
    cases state.set.suspended <;> exact nobody handle
  refine ⟨consistent, fun handle waiting => absurd waiting (nobody_after handle), ?_, ?_⟩
  · intro member member_mem
    rw [finish_eq] at member_mem
    exact (reset_members valid member_mem).1
  · refine .completed ?_ (nobody_after _) ?_ ?_
    · rw [finish_eq]
    · intro member member_mem
      rw [finish_eq] at member_mem
      exact (reset_members valid member_mem).2
    · rw [finish_eq]
      exact once

/-- The selecting coroutine is resumed by the first of its entries, and the others are
cancelled. -/
theorem Invariant.resume_selector {state : State T E} (invariant : state.Invariant)
    {handle : Handle} {runtime : Runtime Unit}
    (popped : state.runtime.getNext = (some handle, runtime))
    (waiting : state.runtime.status handle = .waiting ()) :
    let resumed := ({ state with
      runtime := runtime.setStatus handle .running
      resumptions := state.resumptions + 1 } : State T E).finish
    state.phase = .suspended ∧ resumed.Invariant ∧ resumed.runtime.pending state.selector = 0 ∧
      resumed.result = SelectSet.readyIndices state.members ∧ resumed.resumptions = 1 := by
  have status_eq := (invariant.consistent.getNext_some popped).1
  have consistent := invariant.consistent.getNext
  rw [popped] at consistent
  obtain rfl := invariant.selector_only handle waiting
  cases invariant.progress with
  | before _ _ not_waiting | completed _ not_waiting => exact absurd waiting not_waiting
  | destroyed _ done => simp [done] at waiting
  | suspended phase_eq set_eq _ registered wakeups never =>
      have runtime_eq : ({ state with
          runtime := runtime.setStatus state.selector .running
          resumptions := state.resumptions + 1 } : State T E).finish.runtime =
          (runtime.cancel state.selector).setStatus state.selector .running := by
        rw [finish_eq, set_eq]
        rfl
      refine ⟨phase_eq, Invariant.finish invariant.valid ?_ ?_ ?_, ?_, ?_, ?_⟩
      · rw [runtime_eq]
        exact (consistent.cancel state.selector).setStatus _ Runtime.pending_cancel_self
      · intro other other_waiting
        by_cases same : other = state.selector
        · simp [same] at other_waiting
        · change (runtime.setStatus state.selector .running).status other = _ at other_waiting
          rw [Runtime.setStatus_status_of_ne _ same, status_eq] at other_waiting
          exact same (invariant.selector_only other other_waiting)
      · change state.resumptions + 1 ≤ 1
        omega
      · rw [runtime_eq]
        exact Runtime.pending_cancel_self
      · rw [finish_eq]
      · rw [finish_eq]
        exact congrArg (· + 1) never

theorem Invariant.resumeNext {state : State T E} (invariant : state.Invariant) :
    state.resumeNext.Invariant := by
  unfold State.resumeNext
  rcases popped : state.runtime.getNext with ⟨_ | handle, runtime⟩
  · rcases invariant.consistent.resume_nothing popped with ⟨consistent, unchanged⟩
    exact invariant.setRuntime consistent (fun handle => by rw [(unchanged handle).1])
      (fun handle _ => (unchanged handle).2) (fun handle done => (unchanged handle).1.trans done)
  · rcases invariant.consistent.getNext_some popped with ⟨status_eq, suspended, -, -⟩
    simp only [State.resume, status_eq]
    cases handle_status : state.runtime.status handle with
    | running | done => simp [handle_status, Status.isSuspended] at suspended
    | elsewhere =>
        exact invariant.unrelated (invariant.consistent.resume_elsewhere popped handle_status)
          (by simp [handle_status])
    | waiting point => exact (invariant.resume_selector popped handle_status).2.1

/-- A turn of the scheduler resumes the selecting coroutine, which ends the `co_await`, or
something else. -/
theorem Invariant.resumeNext_cases {state : State T E} (invariant : state.Invariant) :
    (state.phase = .suspended ∧ state.runtime.getNext.1 = some state.selector ∧
        0 < state.runtime.pending state.selector ∧ state.resumeNext.phase = .completed ∧
        state.resumeNext.selector = state.selector ∧
        state.resumeNext.runtime.status state.selector = .running ∧
        state.resumeNext.result = SelectSet.readyIndices state.members ∧
        state.resumeNext.members = state.members.map fun member =>
          if member.ready then member else member.resetHandle) ∨
      ∃ runtime, state.resumeNext = { state with runtime } ∧
        ∀ handle, state.runtime.getNext.1 = some handle →
          state.runtime.status handle = .elsewhere ∧ runtime.status handle = .running := by
  unfold State.resumeNext
  rcases popped : state.runtime.getNext with ⟨_ | handle, runtime⟩
  · exact .inr ⟨runtime, rfl, by simp⟩
  · rcases invariant.consistent.getNext_some popped with ⟨status_eq, suspended, next_pending, -⟩
    simp only [State.resume, status_eq]
    cases handle_status : state.runtime.status handle with
    | running | done => simp [handle_status, Status.isSuspended] at suspended
    | elsewhere =>
        right
        refine ⟨_, rfl, ?_⟩
        intro other same
        obtain rfl := Option.some.inj same
        exact ⟨handle_status, Runtime.setStatus_status_self _⟩
    | waiting point =>
        left
        have phase_eq := (invariant.resume_selector popped handle_status).1
        obtain rfl := invariant.selector_only handle handle_status
        refine ⟨phase_eq, rfl, by omega, ?_⟩
        dsimp only
        rw [finish_eq]
        refine ⟨rfl, rfl, ?_, rfl, rfl⟩
        cases state.set.suspended <;> exact Runtime.setStatus_status_self _

theorem Invariant.register {state : State T E} (invariant : state.Invariant)
    (phase_eq : state.phase = .before) (running : state.runtime.status state.selector = .running)
    (not_ready : state.members.any Member.ready = false) :
    ∃ registered, SelectSet.register state.selector state.members = (registered, none) ∧
      ({ state with
        members := registered
        set := { suspended := some state.selector, resumed := false }
        runtime := state.runtime.setStatus state.selector (.waiting ())
        phase := .suspended } : State T E).Invariant := by
  have not_queued := invariant.consistent.pending_of_running running
  cases invariant.progress with
  | suspended other_phase | completed other_phase | destroyed other_phase =>
      simp [phase_eq] at other_phase
  | before _ set_eq not_waiting released never no_wakeups =>
      have idle : ∀ member ∈ state.members,
          member.Valid ∧ member.state ≠ .waitedOn ∧ member.ready = false := by
        intro member member_mem
        refine ⟨invariant.valid member member_mem, released member member_mem, ?_⟩
        simpa using List.any_eq_false.mp not_ready member member_mem
      rcases SelectSet.register_of_idle state.selector idle with
        ⟨registered, register_eq, all_registered⟩
      refine ⟨registered, register_eq, invariant.consistent.setStatus _ not_queued, ?_,
        fun member member_mem => (all_registered member member_mem).1, ?_⟩
      · intro handle waiting
        by_cases same : handle = state.selector
        · exact same
        · change (state.runtime.setStatus state.selector (.waiting ())).status handle = _ at waiting
          rw [Runtime.setStatus_status_of_ne _ same] at waiting
          exact invariant.selector_only handle waiting
      · refine .suspended rfl rfl (Runtime.setStatus_status_self _) ?_ ?_ never
        · exact fun member member_mem => (all_registered member member_mem).2
        · exact not_queued.trans no_wakeups.symm

/-- A `co_await` on the set ends at once, or the selecting coroutine is registered, not enqueued
yet, and hands control to the next coroutine. -/
theorem Invariant.select_cases {state : State T E} (invariant : state.Invariant)
    (enabled : (Action.select : Action T E).Enabled state) :
    (state.members.any Member.ready = true ∧ state.select = ({ state with
        set := { suspended := none, resumed := true } } : State T E).finish) ∨
      ∃ registered : State T E, registered.Invariant ∧ registered.phase = .suspended ∧
        registered.selector = state.selector ∧
        registered.runtime = state.runtime.setStatus state.selector (.waiting ()) ∧
        registered.wakeups = 0 ∧
        registered.members.map Member.profile = state.members.map Member.profile ∧
        registered.runtime.pending registered.selector = 0 ∧
        state.members.any Member.ready = false ∧ state.select = registered.resumeNext := by
  rcases enabled with ⟨phase_eq, running⟩
  have not_queued := invariant.consistent.pending_of_running running
  cases invariant.progress with
  | suspended other_phase | completed other_phase | destroyed other_phase =>
      simp [phase_eq] at other_phase
  | before _ set_eq _ _ _ no_wakeups =>
      cases ready : state.members.any Member.ready with
      | true =>
          left
          simp [State.select, SelectSet.awaitReady, ready, set_eq]
      | false =>
          right
          rcases invariant.register phase_eq running ready with
            ⟨registered, register_eq, registered_invariant⟩
          refine ⟨_, registered_invariant, rfl, rfl, rfl, no_wakeups, ?_, not_queued, rfl, ?_⟩
          · have kept := SelectSet.register_profile state.selector state.members
            rw [register_eq] at kept
            exact kept
          · simp [State.select, SelectSet.awaitReady, ready, set_eq, SelectSet.awaitSuspend,
            register_eq]

theorem Invariant.select {state : State T E} (invariant : state.Invariant)
    (enabled : (Action.select : Action T E).Enabled state) : state.select.Invariant := by
  rcases invariant.select_cases enabled with
    ⟨-, unfolded⟩ | ⟨registered, registered_invariant, -, -, -, -, -, -, -, unfolded⟩
  · rw [unfolded]
    cases invariant.progress with
    | suspended other_phase | completed other_phase | destroyed other_phase =>
        simp [enabled.1] at other_phase
    | before _ _ not_waiting _ never =>
        refine Invariant.finish invariant.valid ?_ ?_ (by simp [never])
        · rw [finish_eq]
          exact invariant.consistent
        · intro handle waiting
          exact not_waiting (invariant.selector_only handle waiting ▸ waiting)
  · rw [unfolded]
    exact registered_invariant.resumeNext

/-- Neither the results nor the ends of coroutines are affected by a turn of the scheduler. -/
theorem Invariant.resumeNext_phase {state : State T E} (invariant : state.Invariant)
    (not_suspended : state.phase ≠ .suspended) : state.resumeNext.phase = state.phase := by
  rcases invariant.resumeNext_cases with ⟨suspended, -⟩ | ⟨runtime, resumed_eq, -⟩
  · exact absurd suspended not_suspended
  · rw [resumed_eq]

theorem Invariant.resumeNext_keeps {state : State T E} (invariant : state.Invariant) :
    state.resumeNext.members.map Member.profile = state.members.map Member.profile ∧
      state.resumeNext.selector = state.selector ∧
      ∀ handle, state.resumeNext.runtime.status handle = .done ↔
        state.runtime.status handle = .done := by
  unfold State.resumeNext
  rcases popped : state.runtime.getNext with ⟨_ | next, runtime⟩
  · rcases invariant.consistent.resume_nothing popped with ⟨-, unchanged⟩
    exact ⟨rfl, rfl, fun handle => by rw [(unchanged handle).1]⟩
  · rcases invariant.consistent.getNext_some popped with ⟨status_eq, suspended, -, -⟩
    have not_done : state.runtime.status next ≠ .done := by
      intro done
      simp [done, Status.isSuspended] at suspended
    have done_iff : ∀ handle, (runtime.setStatus next .running).status handle = .done ↔
        state.runtime.status handle = .done := by
      intro handle
      by_cases same : handle = next
      · subst same
        simp [not_done]
      · rw [Runtime.setStatus_status_of_ne _ same, status_eq]
    simp only [State.resume, status_eq]
    cases next_status : state.runtime.status next with
    | running | done => simp [next_status, Status.isSuspended] at suspended
    | elsewhere => exact ⟨rfl, rfl, done_iff⟩
    | waiting point =>
        dsimp only
        rw [finish_eq]
        refine ⟨SelectSet.checked_profile _, rfl, ?_⟩
        cases state.set.suspended <;> exact done_iff

/-- Nor by a `co_await` on the set. -/
theorem Invariant.select_keeps {state : State T E} (invariant : state.Invariant)
    (enabled : (Action.select : Action T E).Enabled state) :
    state.select.members.map Member.profile = state.members.map Member.profile ∧
      state.select.selector = state.selector ∧
      ∀ handle, state.select.runtime.status handle = .done ↔
        state.runtime.status handle = .done := by
  rcases invariant.select_cases enabled with ⟨-, unfolded⟩ |
    ⟨registered, registered_invariant, -, selector_eq, runtime_eq, -, profile_eq, -, -, unfolded⟩
  · rw [unfolded, finish_eq]
    exact ⟨SelectSet.checked_profile _, rfl, fun handle => Iff.rfl⟩
  · rcases registered_invariant.resumeNext_keeps with ⟨kept, same_selector, done_iff⟩
    rw [unfolded, kept, profile_eq, same_selector, selector_eq]
    refine ⟨rfl, rfl, fun handle => ?_⟩
    rw [done_iff, runtime_eq]
    by_cases same : handle = state.selector
    · simp [same, enabled.2]
    · rw [Runtime.setStatus_status_of_ne _ same]

theorem Invariant.setMember {state : State T E} (invariant : state.Invariant) (index : ℕ)
    {member : Member T E} (valid : member.Valid) (finished : member.state = .finished) :
    ({ state with members := state.members.set index member } : State T E).Invariant := by
  have cases_of_mem : ∀ other ∈ state.members.set index member,
      other ∈ state.members ∨ other = member :=
    fun other other_mem => List.mem_or_eq_of_mem_set other_mem
  have released_after : state.Released → ∀ other ∈ state.members.set index member,
      other.state ≠ .waitedOn := by
    intro released other other_mem
    rcases cases_of_mem other other_mem with older | rfl
    · exact released other older
    · simp [finished]
  refine ⟨invariant.consistent, invariant.selector_only, ?_, ?_⟩
  · intro other other_mem
    rcases cases_of_mem other other_mem with older | rfl
    · exact invariant.valid other older
    · exact valid
  · cases invariant.progress with
    | before phase_eq set_eq not_waiting released never no_wakeups =>
        exact .before phase_eq set_eq not_waiting (released_after released) never no_wakeups
    | suspended phase_eq set_eq waiting registered wakeups never =>
        refine .suspended phase_eq set_eq waiting ?_ wakeups never
        intro other other_mem
        rcases cases_of_mem other other_mem with older | rfl
        · exact registered other older
        · exact .inl finished
    | completed phase_eq not_waiting released once =>
        exact .completed phase_eq not_waiting (released_after released) once
    | destroyed phase_eq done released never =>
        exact .destroyed phase_eq done (released_after released) never

/-- The end of a producer: the selecting coroutine is enqueued if it is suspended. -/
theorem Invariant.resolve_eq {state : State T E} (invariant : state.Invariant) {index : ℕ}
    {member : Member T E} (outcome : Outcome T E) (at_index : state.members[index]? = some member)
    (unfinished : member.state ≠ .finished) :
    ∃ after : Member T E, after.Valid ∧ after.state = .finished ∧
      state.resolve index outcome = { state with
        members := state.members.set index after
        runtime := if state.phase = .suspended then state.runtime.enqueue state.selector
          else state.runtime
        wakeups := if state.phase = .suspended then state.wakeups + 1 else state.wakeups } := by
  have member_mem := List.mem_of_getElem? at_index
  have valid := invariant.valid member member_mem
  rcases valid.resolve state.runtime.loop outcome unfinished with
    ⟨loop_eq, after_valid, -, finished, -⟩
  refine ⟨(member.resolve state.runtime.loop outcome).1, after_valid, finished, ?_⟩
  have runtime_eq : ({ state.runtime with
      loop := (member.resolve state.runtime.loop outcome).2 } : Runtime Unit) =
      if state.phase = .suspended then state.runtime.enqueue state.selector
        else state.runtime := by
    rw [loop_eq]
    cases invariant.progress with
    | before phase_eq _ _ released | completed phase_eq _ released
    | destroyed phase_eq _ released =>
        simp [phase_eq, valid.nobody (released member member_mem)]
    | suspended phase_eq _ _ registered =>
        rcases registered member member_mem with is_finished | waiting
        · exact absurd is_finished unfinished
        · simp [phase_eq, waiting, Runtime.enqueue]
  simp only [State.resolve, at_index]
  rw [runtime_eq]

theorem Invariant.resolve {state : State T E} (invariant : state.Invariant) {index : ℕ}
    {outcome : Outcome T E} (enabled : (Action.resolve index outcome).Enabled state) :
    (state.resolve index outcome).Invariant := by
  rcases enabled with ⟨member, at_index, unfinished⟩
  rcases invariant.resolve_eq outcome at_index unfinished with ⟨after, valid, finished, after_eq⟩
  have replaced := invariant.setMember index valid finished
  rw [after_eq]
  by_cases suspended : state.phase = .suspended
  · simp only [suspended, if_true]
    cases replaced.progress with
    | before phase_eq | completed phase_eq | destroyed phase_eq => simp [suspended] at phase_eq
    | suspended phase_eq set_eq waiting registered wakeups never =>
        refine ⟨invariant.consistent.enqueue_waiting waiting, invariant.selector_only,
          replaced.valid, .suspended rfl set_eq waiting registered ?_ never⟩
        have before : state.runtime.pending state.selector = state.wakeups := wakeups
        exact Runtime.pending_enqueue_self.trans (by rw [before])
  · simp only [suspended, if_false]
    exact replaced

theorem Invariant.consume {state : State T E} (invariant : state.Invariant) {index : ℕ}
    (enabled : (Action.consume index : Action T E).Enabled state) :
    (state.consume index).Invariant := by
  rcases enabled with ⟨member, at_index, ready⟩
  have valid := invariant.valid member (List.mem_of_getElem? at_index)
  have finished := finished_of_ready valid (valid.ready_eq.trans ready)
  rcases valid.awaitResume finished with ⟨after_valid, -, after_finished⟩
  simp only [State.consume, at_index]
  exact invariant.setMember index after_valid after_finished

/-- The destructor of the set puts every pending member back into state `init`. -/
theorem Invariant.destroy {state : State T E} (invariant : state.Invariant)
    (enabled : state.phase = .suspended) : state.destroy.Invariant := by
  cases invariant.progress with
  | before phase_eq | completed phase_eq | destroyed phase_eq => simp [enabled] at phase_eq
  | suspended _ set_eq waiting registered wakeups never =>
      have members_eq : state.destroy.members = state.members.map Member.resetHandle := by
        simp [State.destroy, SelectSet.destroy, set_eq]
      have reset : ∀ member ∈ state.destroy.members,
          member.Valid ∧ member.state ≠ .waitedOn := by
        intro member member_mem
        rw [members_eq] at member_mem
        rcases List.mem_map.mp member_mem with ⟨before, before_mem, rfl⟩
        rcases (invariant.valid before before_mem).resetHandle with ⟨valid, -, -, state_eq⟩
        refine ⟨valid, ?_⟩
        rw [state_eq]
        split <;> simp_all
      refine ⟨(invariant.consistent.cancel _).setStatus _ Runtime.pending_cancel_self, ?_,
        fun member member_mem => (reset member member_mem).1, ?_⟩
      · intro handle handle_waiting
        by_cases same : handle = state.selector
        · exact same
        · change ((state.runtime.cancel state.selector).setStatus state.selector .done).status
            handle = _ at handle_waiting
          rw [Runtime.setStatus_status_of_ne _ same] at handle_waiting
          exact invariant.selector_only handle handle_waiting
      · exact .destroyed rfl (Runtime.setStatus_status_self _)
          (fun member member_mem => (reset member member_mem).2) never

theorem Invariant.other {state : State T E} (invariant : state.Invariant)
    (action : Runtime.Action) (enabled : action.Enabled state.runtime) :
    ({ state with runtime := action.perform state.runtime } : State T E).Invariant := by
  refine invariant.unrelated (invariant.consistent.other enabled) ?_
  cases action <;> simp_all [Runtime.Action.Enabled, Runtime.Action.subject]

/-- The promises may change as long as nobody waits for them. -/
theorem Invariant.setMembers {state : State T E} (invariant : state.Invariant)
    (completed : state.phase = .completed) {members : List (Member T E)}
    (idle : ∀ member ∈ members, member.Valid ∧ member.state ≠ .waitedOn) :
    ({ state with members } : State T E).Invariant := by
  refine ⟨invariant.consistent, invariant.selector_only,
    fun member member_mem => (idle member member_mem).1, ?_⟩
  cases invariant.progress with
  | before phase_eq | suspended phase_eq | destroyed phase_eq => simp [completed] at phase_eq
  | completed _ not_waiting _ once =>
      exact .completed completed not_waiting (fun member member_mem => (idle member member_mem).2)
        once

theorem Invariant.idle {state : State T E} (invariant : state.Invariant)
    (completed : state.phase = .completed) {member : Member T E}
    (member_mem : member ∈ state.members) : member.Valid ∧ member.state ≠ .waitedOn := by
  refine ⟨invariant.valid member member_mem, ?_⟩
  cases invariant.progress with
  | before phase_eq | suspended phase_eq | destroyed phase_eq => simp [completed] at phase_eq
  | completed _ _ released => exact released member member_mem

theorem Invariant.step {state : State T E} (invariant : state.Invariant) {action : Action T E}
    (enabled : action.Enabled state) : (action.perform state).Invariant := by
  cases action with
  | select => exact invariant.select enabled
  | resolve index outcome => exact invariant.resolve enabled
  | consume index => exact invariant.consume enabled
  | resumeNext => exact invariant.resumeNext
  | destroy => exact invariant.destroy enabled
  | other action => exact invariant.other action enabled

theorem invariant_of_reachable {state : State T E} (reached : (system T E).Reachable state) :
    state.Invariant := by
  refine TransitionSystem.Reachable.invariant State.Invariant ?_ ?_ reached
  · rintro _ ⟨selector, members, idle, rfl⟩
    refine ⟨.empty _, by simp,
      fun member member_mem => (idle member member_mem).1, ?_⟩
    exact .before rfl rfl (by simp) (fun member member_mem => (idle member member_mem).2) rfl rfl
  · exact fun _ _ invariant enabled => invariant.step enabled

/-- After the `co_await` has ended, the promises can be selected from again. -/
theorem Invariant.restart {state : State T E} (invariant : state.Invariant)
    (completed : state.phase = .completed) {members : List (Member T E)}
    (idle : ∀ member ∈ members, member.Valid ∧ member.state ≠ .waitedOn) :
    (state.restart members).Invariant := by
  refine ⟨invariant.consistent, invariant.selector_only,
    fun member member_mem => (idle member member_mem).1, ?_⟩
  cases invariant.progress with
  | before phase_eq | suspended phase_eq | destroyed phase_eq => simp [completed] at phase_eq
  | completed _ not_waiting =>
      exact .before rfl rfl not_waiting (fun member member_mem => (idle member member_mem).2) rfl
        rfl

/-! ## The protocol -/

/-- What a `SelectSet` guarantees in a state, and for every step from it. -/
structure Protocol (state : State T E) : Prop where
  never_throws : state.phase ≠ .threw
  /-- If the result of a member is available, the `co_await` returns without suspending. -/
  at_once : (Action.select : Action T E).Enabled state → state.members.any Member.ready = true →
    state.select.phase = .completed ∧
      state.select.runtime.status state.selector = .running
  /-- Otherwise the selecting coroutine suspends; it has not been enqueued. -/
  suspends : (Action.select : Action T E).Enabled state → state.members.any Member.ready = false →
    state.select.phase = .suspended ∧ state.select.runtime.pending state.selector = 0 ∧
      state.select.members.map Member.profile = state.members.map Member.profile
  /-- While it is suspended, every pending member refers to it. -/
  registered : state.phase = .suspended → state.runtime.status state.selector = .waiting () ∧
    ∀ member ∈ state.members, member.state ≠ .finished →
      member.state = .waitedOn ∧ member.waitingHandle = some state.selector
  /-- A member that resolves meanwhile enqueues it. -/
  resolves : ∀ index outcome, (Action.resolve index outcome).Enabled state →
    state.phase = .suspended →
    (state.resolve index outcome).runtime.pending state.selector =
      state.runtime.pending state.selector + 1
  /-- When the scheduler hands it out, it runs and the `co_await` returns. -/
  resumes : state.phase = .suspended → state.runtime.getNext.1 = some state.selector →
    state.resumeNext.phase = .completed ∧
      state.resumeNext.runtime.status state.selector = .running
  /-- The `co_await` returns the members whose result is available when it resumes, in order, and
  leaves no entry of the selecting coroutine in the scheduler queue, which was resumed once if it
  was suspended. -/
  returned : ∀ action : Action T E, action.Enabled state → state.phase ≠ .completed →
    (action.perform state).phase = .completed →
    (action.perform state).result = SelectSet.readyIndices state.members ∧
      (action.perform state).runtime.pending state.selector = 0 ∧
      (action.perform state).resumptions = if state.phase = .suspended then 1 else 0
  /-- Neither does the destruction of the selecting coroutine. -/
  dropped : (Action.destroy : Action T E).Enabled state →
    state.destroy.phase = .destroyed ∧ state.destroy.runtime.pending state.selector = 0
  /-- Afterwards no member refers to the selecting coroutine, pending members can be awaited or
  selected again, and nothing enqueues it but what it suspends in later. -/
  released : state.phase = .completed ∨ state.phase = .destroyed →
    (∀ member ∈ state.members, member.waitingHandle = none ∧
      (member.state ≠ .finished → member.state = .init ∧
        ∀ handle, ∃ registered, member.setHandle handle = .ok registered)) ∧
    (0 < state.runtime.pending state.selector →
      state.runtime.status state.selector = .elsewhere)
  /-- While it is suspended, every member that resolves enqueues it. -/
  woken : state.phase = .suspended →
    state.runtime.pending state.selector = state.wakeups ∧ state.resumptions = 0
  /-- It is never resumed from this `co_await` a second time. -/
  once : state.resumptions ≤ 1

/-- A turn of the scheduler ends the `co_await` only by resuming the selecting coroutine. -/
theorem Invariant.resumeNext_completed {state : State T E} (invariant : state.Invariant)
    (not_yet : state.phase ≠ .completed) (completes : state.resumeNext.phase = .completed) :
    state.phase = .suspended ∧ 0 < state.runtime.pending state.selector ∧
      state.resumeNext.result = SelectSet.readyIndices state.members ∧
      state.resumeNext.runtime.pending state.selector = 0 ∧ state.resumeNext.resumptions = 1 := by
  unfold State.resumeNext at completes ⊢
  rcases popped : state.runtime.getNext with ⟨_ | handle, runtime⟩
  · rw [popped] at completes
    exact absurd completes not_yet
  · rcases invariant.consistent.getNext_some popped with ⟨status_eq, suspended, next_pending, -⟩
    simp only [popped, State.resume, status_eq] at completes ⊢
    cases handle_status : state.runtime.status handle with
    | running | done => simp [handle_status, Status.isSuspended] at suspended
    | elsewhere =>
        rw [handle_status] at completes
        exact absurd completes not_yet
    | waiting point =>
        rcases invariant.resume_selector popped handle_status with
          ⟨phase_eq, -, unqueued, result_eq, once⟩
        obtain rfl := invariant.selector_only handle handle_status
        exact ⟨phase_eq, by omega, result_eq, unqueued, once⟩

theorem Invariant.select_completed {state : State T E} (invariant : state.Invariant)
    (enabled : (Action.select : Action T E).Enabled state)
    (completes : state.select.phase = .completed) :
    state.select.result = SelectSet.readyIndices state.members ∧
      state.select.runtime.pending state.selector = 0 ∧ state.select.resumptions = 0 := by
  rcases invariant.select_cases enabled with
    ⟨-, unfolded⟩ |
      ⟨registered, registered_invariant, suspended, -, -, -, -, not_queued, -, unfolded⟩
  · have not_queued := invariant.consistent.pending_of_running enabled.2
    cases invariant.progress with
    | suspended other_phase | completed other_phase | destroyed other_phase =>
        simp [enabled.1] at other_phase
    | before _ _ _ _ never =>
        rw [unfolded, finish_eq]
        exact ⟨rfl, not_queued, never⟩
  · -- The coroutine has just suspended, so it is not in the queue.
    rw [unfolded] at completes
    have queued :=
      (registered_invariant.resumeNext_completed (by simp [suspended]) completes).2.1
    simp [not_queued] at queued

theorem Invariant.returned {state : State T E} (invariant : state.Invariant)
    {action : Action T E} (enabled : action.Enabled state) (not_yet : state.phase ≠ .completed)
    (completes : (action.perform state).phase = .completed) :
    (action.perform state).result = SelectSet.readyIndices state.members ∧
      (action.perform state).runtime.pending state.selector = 0 ∧
      (action.perform state).resumptions = if state.phase = .suspended then 1 else 0 := by
  cases action with
  | select =>
      rw [enabled.1]
      exact invariant.select_completed enabled completes
  | resolve index outcome =>
      rcases enabled with ⟨member, at_index, -⟩
      simp only [Action.perform, State.resolve, at_index] at completes
      exact absurd completes not_yet
  | consume index =>
      rcases enabled with ⟨member, at_index, -⟩
      simp only [Action.perform, State.consume, at_index] at completes
      exact absurd completes not_yet
  | resumeNext =>
      rcases invariant.resumeNext_completed not_yet completes with ⟨phase_eq, -, completed⟩
      rw [phase_eq]
      exact completed
  | destroy => simp [Action.perform, State.destroy] at completes
  | other action => exact absurd completes not_yet

theorem Invariant.released {state : State T E} (invariant : state.Invariant)
    (ended : state.phase = .completed ∨ state.phase = .destroyed) :
    (∀ member ∈ state.members, member.waitingHandle = none ∧
      (member.state ≠ .finished → member.state = .init ∧
        ∀ handle, ∃ registered, member.setHandle handle = .ok registered)) ∧
    (0 < state.runtime.pending state.selector →
      state.runtime.status state.selector = .elsewhere) := by
  obtain ⟨released, not_waiting⟩ : state.Released ∧
      state.runtime.status state.selector ≠ .waiting () := by
    cases invariant.progress with
    | before phase_eq | suspended phase_eq => simp [phase_eq] at ended
    | completed _ not_waiting released => exact ⟨released, not_waiting⟩
    | destroyed _ done released => exact ⟨released, by simp [done]⟩
  refine ⟨fun member member_mem => ?_, fun queued => ?_⟩
  · have valid := invariant.valid member member_mem
    have not_waited := released member member_mem
    refine ⟨valid.nobody not_waited, fun unfinished => ?_⟩
    have is_init : member.state = .init := by
      cases state_eq : member.state <;> simp_all
    refine ⟨is_init, fun handle => ?_⟩
    rcases valid.setHandle handle is_init with ⟨registered, set_eq, -⟩
    exact ⟨registered, set_eq⟩
  · have suspended := invariant.consistent.queued state.selector queued
    cases status_eq : state.runtime.status state.selector <;>
      simp_all [Status.isSuspended]

theorem Invariant.at_once {state : State T E} (invariant : state.Invariant)
    (enabled : (Action.select : Action T E).Enabled state)
    (ready : state.members.any Member.ready = true) :
    state.select.phase = .completed ∧
      state.select.runtime.status state.selector = .running := by
  rcases invariant.select_cases enabled with
    ⟨-, unfolded⟩ | ⟨_, -, -, -, -, -, -, -, not_ready, -⟩
  · rw [unfolded, finish_eq]
    exact ⟨rfl, enabled.2⟩
  · simp [not_ready] at ready

theorem Invariant.suspends {state : State T E} (invariant : state.Invariant)
    (enabled : (Action.select : Action T E).Enabled state)
    (not_ready : state.members.any Member.ready = false) :
    state.select.phase = .suspended ∧ state.select.runtime.pending state.selector = 0 ∧
      state.select.members.map Member.profile = state.members.map Member.profile := by
  rcases invariant.select_cases enabled with
    ⟨ready, -⟩ | ⟨registered, registered_invariant, suspended, selector_eq, -, no_wakeups, -,
      not_queued, -, unfolded⟩
  · simp [not_ready] at ready
  · have phase_eq : state.select.phase = .suspended ∧ state.select.wakeups = 0 := by
      rw [unfolded]
      rcases registered_invariant.resumeNext_cases with
        ⟨-, -, queued, -⟩ | ⟨runtime, resumed_eq, -⟩
      · simp [not_queued] at queued
      · rw [resumed_eq]
        exact ⟨suspended, no_wakeups⟩
    rcases invariant.select_keeps enabled with ⟨kept, same_selector, -⟩
    refine ⟨phase_eq.1, ?_, kept⟩
    cases (invariant.select enabled).progress with
    | before other_phase | completed other_phase | destroyed other_phase =>
        simp [phase_eq.1] at other_phase
    | suspended _ _ _ _ wakeups =>
        rw [same_selector] at wakeups
        exact wakeups.trans phase_eq.2

theorem Invariant.registered {state : State T E} (invariant : state.Invariant)
    (suspended : state.phase = .suspended) :
    state.runtime.status state.selector = .waiting () ∧
      ∀ member ∈ state.members, member.state ≠ .finished →
        member.state = .waitedOn ∧ member.waitingHandle = some state.selector := by
  cases invariant.progress with
  | before phase_eq | completed phase_eq | destroyed phase_eq => simp [suspended] at phase_eq
  | suspended _ _ waiting registered =>
      refine ⟨waiting, fun member member_mem unfinished => ?_⟩
      have handle_eq := (registered member member_mem).resolve_left unfinished
      refine ⟨(invariant.valid member member_mem).waiting_iff.mp ?_, handle_eq⟩
      rw [handle_eq]
      rfl

theorem Invariant.resolves {state : State T E} (invariant : state.Invariant) {index : ℕ}
    {outcome : Outcome T E} (enabled : (Action.resolve index outcome).Enabled state)
    (suspended : state.phase = .suspended) :
    (state.resolve index outcome).runtime.pending state.selector =
      state.runtime.pending state.selector + 1 := by
  rcases enabled with ⟨member, at_index, unfinished⟩
  rcases invariant.resolve_eq outcome at_index unfinished with ⟨_, -, -, after_eq⟩
  rw [after_eq, if_pos suspended]
  exact Runtime.pending_enqueue_self

theorem Invariant.resumes {state : State T E} (invariant : state.Invariant)
    (suspended : state.phase = .suspended)
    (next : state.runtime.getNext.1 = some state.selector) :
    state.resumeNext.phase = .completed ∧
      state.resumeNext.runtime.status state.selector = .running := by
  rcases invariant.resumeNext_cases with
    ⟨-, -, -, completed, -, running, -⟩ | ⟨_, -, handed_out⟩
  · exact ⟨completed, running⟩
  · have waiting := (invariant.registered suspended).1
    simp [(handed_out _ next).1] at waiting

/-- Every reachable state keeps to the protocol of `SelectSet`. -/
theorem select_protocol_of_reachable {state : State T E} (reached : (system T E).Reachable state) :
    state.Protocol := by
  have invariant := invariant_of_reachable reached
  refine ⟨?_, invariant.at_once, invariant.suspends, invariant.registered,
    fun _ _ => invariant.resolves, invariant.resumes, fun action => invariant.returned,
    fun _ => ⟨rfl, Runtime.pending_cancel_self⟩, invariant.released, ?_, ?_⟩
  · cases invariant.progress with
    | before phase_eq | suspended phase_eq | completed phase_eq | destroyed phase_eq =>
        simp [phase_eq]
  · intro suspended
    cases invariant.progress with
    | before phase_eq | completed phase_eq | destroyed phase_eq => simp [suspended] at phase_eq
    | suspended _ _ _ _ wakeups never => exact ⟨wakeups, never⟩
  · cases invariant.progress with
    | before _ _ _ _ never | suspended _ _ _ _ _ never | destroyed _ _ _ never => omega
    | completed _ _ _ once => exact once

/-- Two pending members resolve before the selecting coroutine runs. -/
theorem select_protocol_both_ready :
    (([.select, .resolve 0 (.value 7), .resolve 1 (.exception "error"), .resumeNext] :
      List (Action ℕ String)).foldl Action.perform
        { selector := 0, members := [.typed {}, .void {}] }).Protocol := by
  have start : (system ℕ String).Reachable
      { selector := 0, members := [.typed {}, .void {}] } := by
    refine .start ⟨0, [.typed {}, .void {}], ?_, rfl⟩
    intro member member_mem
    simp only [List.mem_cons, List.not_mem_nil, or_false] at member_mem
    rcases member_mem with rfl | rfl
    · exact ⟨Member.valid_typed, by decide⟩
    · exact ⟨Member.valid_void, by decide⟩
  have suspended := start.step Action.select ⟨rfl, rfl⟩ trivial
  have first := suspended.step (Action.resolve 0 (.value 7)) ⟨_, rfl, by decide⟩ trivial
  have second := first.step (Action.resolve 1 (.exception "error")) ⟨_, rfl, by decide⟩ trivial
  exact select_protocol_of_reachable (second.step Action.resumeNext trivial trivial)

end State

end Uvco.Select
