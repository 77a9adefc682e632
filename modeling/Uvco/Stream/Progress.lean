import Uvco.Stream.Registration

/-!
# What a step does to an operation

An operation begins, is called back, and ends: it is resumed by the scheduler or
by `close()`, or its promise is dropped. `Progress` lists these possibilities for
one suspension point, and `step_progress` shows that every step of every run is
one of them. What an operation reports is read off this list.
-/

namespace Uvco.Stream

/-- The action lets libuv call back for an operation, with a status. -/
def Action.CallsBack (action : Action) (point : Point) (status : Int) : Prop :=
  match action, point with
  | .onInStreamRead nread, .read => nread = status
  | .onOutStreamWrite _ completionStatus, .write => completionStatus = status
  | _, _ => False

/-- The action calls the function of an operation; `start` is the result of starting it. -/
def Action.Calls (action : Action) (point : Point) (coroutine : Handle) (start : Int) : Prop :=
  match action, point with
  | .read reader _ _ _, .read => reader = coroutine ∧ start = 0
  | .write writer status, .write => writer = coroutine ∧ start = status
  | _, _ => False

/-- The action is only possible while the operation is suspended. -/
def Action.Settles (action : Action) (point : Point) : Prop :=
  match action, point with
  | .onInStreamRead _, .read => True
  | .drop dropped, point => dropped = point
  | _, _ => False

namespace State

variable {state : State} {point : Point}

/-- The operations of one kind that were suspended and have ended. -/
def endedAt (state : State) (point : Point) : List Ended :=
  state.ended.filter (·.point = point)

/-- What a step does to the operation at a suspension point. -/
inductive Progress (before : State) (action : Action) (after : State) (point : Point) : Prop
  | idle (uninvolved : ¬action.Settles point)
      (same : after.awaiter point = before.awaiter point)
      (ended_eq : after.endedAt point = before.endedAt point)
  /-- It is suspended. -/
  | begins (awaiter : Awaiter) (start : Int)
      (calls : action.Calls point awaiter.coroutine start) (accepted : 0 ≤ start)
      (fresh : before.runtime.status awaiter.coroutine = .running)
      (nobody : before.awaiter point = none) (found : after.awaiter point = some awaiter)
      (started : awaiter.started = start) (no_status : awaiter.status = none)
      (ended_eq : after.endedAt point = before.endedAt point)
  /-- Its callback is called. -/
  | reported (awaiter : Awaiter) (status : Int) (calls : action.CallsBack point status)
      (found : before.awaiter point = some awaiter) (no_status : awaiter.status = none)
      (after_eq : after.awaiter point = some { awaiter with
        handle := none
        status := some status
        callbacks := awaiter.callbacks + 1 })
      (ended_eq : after.endedAt point = before.endedAt point)
  /-- Its promise is dropped. -/
  | dropped (awaiter : Awaiter) (drops : action = .drop point)
      (found : before.awaiter point = some awaiter) (gone : after.awaiter point = none)
      (ended_eq : after.endedAt point = before.endedAt point)
  /-- The scheduler resumes it. -/
  | resumed (awaiter : Awaiter) (status : Int) (resumes : action = .resumeNext)
      (found : before.awaiter point = some awaiter) (is_reported : awaiter.status = some status)
      (not_closed : awaiter.closes = 0) (gone : after.awaiter point = none)
      (ended_eq : after.endedAt point =
        before.endedAt point ++ [⟨point, awaiter, Stream.reported point awaiter status⟩])
  /-- It is resumed by `close()`. -/
  | closed (awaiter : Awaiter) (closes : action = .close)
      (found : before.awaiter point = some awaiter) (not_closed : awaiter.closes = 0)
      (gone : after.awaiter point = none)
      (ended_eq : after.endedAt point =
        before.endedAt point ++ [⟨point, awaiter.closed, interrupted point awaiter.closed⟩])

theorem endedAt_of_ended {before after : State} (ended_eq : after.ended = before.ended)
    (point : Point) : after.endedAt point = before.endedAt point := by
  rw [endedAt, ended_eq, endedAt]

/-- The other operation does not take part. -/
theorem Progress.other {before after : State} {action : Action} {changed : Point}
    (uninvolved : ¬action.Settles point) (differs : point ≠ changed)
    (awaiter_eq : after.awaiter = Function.update before.awaiter changed (after.awaiter changed))
    {more : List Ended} (ended_eq : after.ended = before.ended ++ more)
    (own : ∀ ended ∈ more, ended.point = changed) : Progress before action after point := by
  refine .idle uninvolved ?_ ?_
  · rw [awaiter_eq, Function.update_of_ne differs]
  · have none_here : more.filter (·.point = point) = [] := by
      rw [List.filter_eq_nil_iff]
      intro ended ended_mem
      simp [own ended ended_mem, Ne.symm differs]
    rw [endedAt, ended_eq, List.filter_append, none_here, List.append_nil, endedAt]

theorem refuse_frame (state : State) (point : Point) (awaiter : Awaiter)
    (exception : UvcoException) :
    (state.refuse point awaiter exception).awaiter = Function.update state.awaiter point none ∧
      (state.refuse point awaiter exception).ended = state.ended := by
  exact ⟨state.leave_awaiter point awaiter, (state.leave_frame point awaiter).2.2.1⟩

/-- A function that throws before it suspends leaves no trace. -/
theorem Progress.refused {before after : State} {action : Action} {changed : Point}
    (uninvolved : ¬action.Settles point) (nobody : before.awaiter changed = none)
    (awaiter_eq : after.awaiter = Function.update before.awaiter changed none)
    (ended_eq : after.ended = before.ended) : Progress before action after point := by
  refine .idle uninvolved ?_ (endedAt_of_ended ended_eq point)
  rw [awaiter_eq]
  by_cases same : point = changed
  · rw [same, Function.update_self, nobody]
  · rw [Function.update_of_ne same]

theorem read_progress {coroutine : Handle} {readable : Bool} {ready start : Int}
    (enabled : (Action.read coroutine readable ready start).Enabled state) (point : Point) :
    Progress state (.read coroutine readable ready start)
      (state.read coroutine readable ready start) point := by
  rcases enabled with ⟨-, nobody, running⟩
  unfold read
  dsimp only
  split
  · rcases state.refuse_frame .read { coroutine } (readStartError ready) with
      ⟨awaiter_eq, ended_eq⟩
    exact .refused id nobody awaiter_eq ended_eq
  split
  · refine .refused id nobody ?_ (refuse_frame _ _ _ _).2
    rw [(refuse_frame _ _ _ _).1]
    simp [suspend, setRegistered, setAwaiter]
  rename_i started
  cases point with
  | read =>
      refine .begins { coroutine, handle := some coroutine } 0 ⟨rfl, rfl⟩ (Int.le_refl 0) running
        nobody ?_ rfl rfl rfl
      simp [suspend, setRegistered, setAwaiter]
  | write =>
      refine .idle id ?_ rfl
      simp [suspend, setRegistered, setAwaiter]

theorem write_progress {coroutine : Handle} {status : Int}
    (enabled : (Action.write coroutine status).Enabled state) (point : Point) :
    Progress state (.write coroutine status) (state.write coroutine status) point := by
  rcases enabled with ⟨-, nobody, running⟩
  unfold write
  dsimp only
  split
  · exact .refused id nobody (refuse_frame _ _ _ _).1 (refuse_frame _ _ _ _).2
  rename_i accepted
  cases point with
  | write =>
      refine .begins { coroutine, handle := some coroutine, started := status } status ⟨rfl, rfl⟩
        (Int.not_lt.mp accepted) running nobody ?_ rfl rfl rfl
      simp [suspend, setRegistered, setAwaiter]
  | read =>
      refine .idle id ?_ rfl
      simp [suspend, setRegistered, setAwaiter]

/-- libuv is led to a suspended coroutine. -/
theorem Invariant.report_progress {action : Action} {target : Handle} {status : Int}
    {called : State} {changed : Point} (invariant : state.Invariant)
    (target_mem : target ∈ state.targets changed) (calls : action.CallsBack changed status)
    (uninvolved : point ≠ changed → ¬action.Settles point)
    (awaiter_eq : called.awaiter = state.awaiter) (ended_eq : called.ended = state.ended) :
    Progress state action (called.report changed target status) point := by
  rcases invariant.waits_of_target target_mem with ⟨awaiter, waits, rfl, -⟩
  have found : called.awaiter changed = some awaiter := by
    rw [awaiter_eq]
    exact waits.found
  simp only [State.report, found, if_true, waits.handle_eq]
  by_cases same : point = changed
  · subst same
    refine .reported awaiter status calls waits.found waits.no_status ?_
      (endedAt_of_ended ended_eq point)
    simp [setAwaiter]
  · refine .idle (uninvolved same) ?_ (endedAt_of_ended ended_eq point)
    simp [setAwaiter, same, awaiter_eq]

theorem Invariant.callback_progress (invariant : state.Invariant) {action : Action}
    (enabled : action.Enabled state) (point : Point) :
    (∃ nread, action = .onInStreamRead nread) ∨
        (∃ index status, action = .onOutStreamWrite index status) →
      Progress state action (action.perform state) point := by
  rintro (⟨nread, rfl⟩ | ⟨index, status, rfl⟩)
  · have data_set : state.data.isSome = true := invariant.reading.symm.trans enabled
    rcases Option.isSome_iff_exists.mp data_set with ⟨target, data_eq⟩
    have target_mem : target ∈ state.targets .read := by simp [targets, data_eq]
    simp only [Action.perform, State.onInStreamRead, data_eq]
    apply invariant.report_progress target_mem
    case uninvolved => cases point <;> simp [Action.Settles]
    all_goals exact rfl
  · simp only [Action.perform, State.onOutStreamWrite]
    split
    · rename_i target found
      have target_mem : target ∈ state.targets .write :=
        List.reduceOption_mem_iff.mpr (List.mem_of_getElem? found)
      apply invariant.report_progress target_mem
      case uninvolved => exact fun _ => id
      all_goals exact rfl
    · exact .idle id rfl rfl
    · exact .idle id rfl rfl

/-- The operation that a coroutine ends with, if the scheduler hands it out. -/
theorem Invariant.resume_progress (invariant : state.Invariant) (drained : state.Drained)
    (point : Point) : Progress state .resumeNext state.resumeNext point := by
  unfold State.resumeNext
  rcases popped : state.runtime.getNext with ⟨_ | handle, runtime⟩
  · exact .idle id rfl rfl
  rcases Runtime.getNext_popped popped with ⟨status_eq, -, popped_pending, -, -⟩
  simp only [resume, status_eq]
  cases handle_status : state.runtime.status handle with
  | running => exact .idle id rfl rfl
  | done => exact .idle id rfl rfl
  | elsewhere => exact .idle id rfl rfl
  | waiting resumed =>
      rcases (invariant.stage resumed).of_registered
        (invariant.known handle resumed handle_status) with ⟨awaiter, awaits, rfl⟩
      rcases (invariant.stage resumed).of_found awaits.found with waits | queued
      · have unqueued := waits.unqueued
        omega
      have is_open : state.isOpen = true := by
        by_contra closed
        have no_awaiter := drained (by simpa using closed) resumed
        simp [awaits.found] at no_awaiter
      rcases Option.isSome_iff_exists.mp queued.reported with ⟨status, is_reported⟩
      have outcome_eq := outcome_reported { state with runtime } resumed is_open is_reported
      have departed := awaitResume_departed outcome_eq
      simp only [awaits.found]
      by_cases same : point = resumed
      · subst same
        refine .resumed awaiter status rfl awaits.found is_reported awaits.not_closed ?_ ?_
        · rw [departed.no_awaiter, Function.update_self]
        · rw [endedAt, departed.ended]
          simp [endedAt]
      · refine .other id same ?_ departed.ended (by simp)
        rw [departed.no_awaiter, Function.update_self]

theorem Invariant.close_progress (invariant : state.Invariant) (point : Point) :
    Progress state .close state.close point := by
  rcases invariant.closed with ⟨closed, ended_eq⟩
  have endedAt_eq : state.close.endedAt point = state.endedAt point ++
      (state.awaiter point).toList.map
        fun awaiter => ⟨point, awaiter.closed, interrupted point awaiter.closed⟩ := by
    rw [endedAt, ended_eq, List.filter_append, List.filter_append, endedAt]
    cases point <;> cases state.awaiter .read <;> cases state.awaiter .write <;> simp
  cases found : state.awaiter point with
  | none =>
      refine .idle id ((closed.no_awaiter point).trans found.symm) ?_
      simpa [found] using endedAt_eq
  | some awaiter =>
      have not_closed : awaiter.closes = 0 := by
        rcases (invariant.stage point).of_found found with waits | queued
        · exact waits.not_closed
        · exact queued.not_closed
      refine .closed awaiter rfl found not_closed (closed.no_awaiter point) ?_
      simpa [found] using endedAt_eq

theorem drop_progress {dropped : Point} (enabled : (Action.drop dropped).Enabled state)
    (point : Point) : Progress state (.drop dropped) (state.drop dropped) point := by
  rcases Option.isSome_iff_exists.mp enabled with ⟨awaiter, found⟩
  simp only [drop, found]
  have ended_eq := (leave_frame { state with runtime := state.runtime.cancel awaiter.coroutine }
    dropped awaiter).2.2.1
  by_cases same : point = dropped
  · subst same
    refine .dropped awaiter rfl found ?_ (endedAt_of_ended ended_eq point)
    simp
  · refine .idle (Ne.symm same) ?_ (endedAt_of_ended ended_eq point)
    simp [same]

/-- On a closed stream, nothing happens any more. -/
theorem Closed.progress (closed : state.Closed) {action : Action} (enabled : action.Enabled state)
    (point : Point) : Progress state action (action.perform state) point := by
  refine .idle ?_ ?_ (endedAt_of_ended ?_ point)
  · intro settles
    cases action with
    | onInStreamRead nread => simp [Action.Enabled, closed.stopped] at enabled
    | drop dropped => simp [Action.Enabled, closed.no_awaiter] at enabled
    | _ => cases point <;> exact settles
  · rw [closed.no_awaiter, (closed.step enabled).no_awaiter]
  cases action with
  | read coroutine readable ready start =>
      have is_open := enabled.1
      simp [closed.closed] at is_open
  | write coroutine status =>
      have is_open := enabled.1
      simp [closed.closed] at is_open
  | onInStreamRead nread => simp [Action.Enabled, closed.stopped] at enabled
  | onOutStreamWrite index status =>
      simp only [Action.perform, State.onOutStreamWrite]
      split
      · simp [report, closed.no_awaiter]
      · rfl
      · rfl
  | close => rw [Action.perform, closed.close_eq]
  | drop dropped => simp [Action.Enabled, closed.no_awaiter] at enabled
  | resumeNext =>
      simp only [Action.perform, State.resumeNext]
      split
      · unfold resume
        split
        · simp [closed.no_awaiter]
        all_goals rfl
      · rfl
  | other action => rfl

theorem reachable_perform (reached : system.Reachable state) {action : Action}
    (enabled : action.Enabled state) : system.Reachable (action.perform state) :=
  reached.step action enabled trivial

/-- Every step of every run. -/
theorem step_progress (reached : system.Reachable state) {action : Action}
    (enabled : action.Enabled state) (point : Point) :
    Progress state action (action.perform state) point := by
  rcases open_or_closed_of_reachable reached with ⟨invariant, drained⟩ | closed
  case inr => exact closed.progress enabled point
  cases action with
  | read coroutine readable ready start => exact read_progress enabled point
  | write coroutine status => exact write_progress enabled point
  | onInStreamRead nread => exact invariant.callback_progress enabled point (.inl ⟨nread, rfl⟩)
  | onOutStreamWrite index status =>
      exact invariant.callback_progress enabled point (.inr ⟨index, status, rfl⟩)
  | close => exact invariant.close_progress point
  | drop dropped => exact drop_progress enabled point
  | resumeNext => exact invariant.resume_progress drained point
  | other action => exact .idle id rfl rfl

end State

end Uvco.Stream
