import Uvco.Stream.Transfer

/-!
# What is delivered to the calls of `read()`

The status that an operation ends with was passed to its callback. Only `onInStreamRead`
delivers data to a `read()`, and a `read()` is suspended whenever it is called.
-/

namespace Uvco.Stream

namespace State

variable {before after : State} {action : Stream.Action} {point : Point}

/-- A status was stored before the step, or the callback is called in it. -/
theorem Progress.of_status (progress : Progress before action after point) {awaiter : Awaiter}
    {status : Int} (found : after.awaiter point = some awaiter)
    (is_reported : awaiter.status = some status) :
    (∃ earlier, before.awaiter point = some earlier ∧ earlier.status = some status) ∨
      action.CallsBack point status := by
  cases progress with
  | idle _ same => exact .inl ⟨awaiter, same.symm.trans found, is_reported⟩
  | begins begun _ _ _ _ _ begun_found _ no_status =>
      obtain rfl := Option.some.inj (begun_found.symm.trans found)
      exact nomatch no_status.symm.trans is_reported
  | reported called other calls _ _ after_eq =>
      obtain rfl := Option.some.inj (after_eq.symm.trans found)
      obtain rfl := Option.some.inj is_reported
      exact .inr calls
  | dropped _ _ _ gone => exact nomatch gone.symm.trans found
  | resumed _ _ _ _ _ _ gone => exact nomatch gone.symm.trans found
  | closed _ _ _ _ gone => exact nomatch gone.symm.trans found

/-- What an operation ends with was stored before it ended. -/
theorem Progress.of_ended (progress : Progress before action after point) {ended : Ended}
    (ended_mem : ended ∈ after.endedAt point) :
    ended ∈ before.endedAt point ∨
      ∃ awaiter, before.awaiter point = some awaiter ∧ awaiter.status = ended.awaiter.status := by
  cases progress with
  | idle _ _ ended_eq => exact .inl (ended_eq ▸ ended_mem)
  | begins _ _ _ _ _ _ _ _ _ ended_eq => exact .inl (ended_eq ▸ ended_mem)
  | reported _ _ _ _ _ _ ended_eq => exact .inl (ended_eq ▸ ended_mem)
  | dropped _ _ _ _ ended_eq => exact .inl (ended_eq ▸ ended_mem)
  | resumed awaiter _ _ found _ _ _ ended_eq =>
      rw [ended_eq, List.mem_append, List.mem_singleton] at ended_mem
      rcases ended_mem with earlier | rfl
      · exact .inl earlier
      · exact .inr ⟨awaiter, found, rfl⟩
  | closed awaiter _ found _ _ ended_eq =>
      rw [ended_eq, List.mem_append, List.mem_singleton] at ended_mem
      rcases ended_mem with earlier | rfl
      · exact .inl earlier
      · exact .inr ⟨awaiter, found, rfl⟩

theorem Progress.endedAt_subset (progress : Progress before action after point) {ended : Ended}
    (ended_mem : ended ∈ before.endedAt point) : ended ∈ after.endedAt point := by
  cases progress with
  | idle _ _ ended_eq => exact ended_eq ▸ ended_mem
  | begins _ _ _ _ _ _ _ _ _ ended_eq => exact ended_eq ▸ ended_mem
  | reported _ _ _ _ _ _ ended_eq => exact ended_eq ▸ ended_mem
  | dropped _ _ _ _ ended_eq => exact ended_eq ▸ ended_mem
  | resumed _ _ _ _ _ _ _ ended_eq => exact ended_eq ▸ List.mem_append_left _ ended_mem
  | closed _ _ _ _ _ ended_eq => exact ended_eq ▸ List.mem_append_left _ ended_mem

end State

namespace Transfer

variable {transfer : Transfer}

/-- The step that the stream takes, if it takes one. -/
def Action.onStream : Action → Option Stream.Action
  | .read coroutine _ readable ready start => some (.read coroutine readable ready start)
  | .readClosed _ => none
  | .onInStreamRead nread _ => some (.onInStreamRead nread)
  | .drop => some (.drop .read)
  | .stream action => some action

theorem Action.onStream_enabled {action : Action} (enabled : action.Enabled transfer)
    {onStream : Stream.Action} (is_step : action.onStream = some onStream) :
    onStream.Enabled transfer.stream ∧
      (action.perform transfer).stream = onStream.perform transfer.stream := by
  cases action with
  | readClosed request => exact nomatch is_step
  | onInStreamRead nread chunk =>
      obtain rfl := Option.some.inj is_step
      exact ⟨enabled.1, rfl⟩
  | stream action =>
      obtain rfl := Option.some.inj is_step
      exact ⟨enabled.1, rfl⟩
  | read coroutine request readable ready start =>
      obtain rfl := Option.some.inj is_step
      exact ⟨enabled, rfl⟩
  | drop =>
      obtain rfl := Option.some.inj is_step
      exact ⟨enabled, rfl⟩

theorem Action.onStream_callsBack {action : Action} (enabled : action.Enabled transfer)
    {onStream : Stream.Action} (is_step : action.onStream = some onStream) {status : Int}
    (calls : onStream.CallsBack .read status) : ∃ chunk, action = .onInStreamRead status chunk := by
  cases action with
  | readClosed request => exact nomatch is_step
  | onInStreamRead nread chunk =>
      obtain rfl := Option.some.inj is_step
      obtain rfl : nread = status := calls
      exact ⟨chunk, rfl⟩
  | stream action =>
      obtain rfl := Option.some.inj is_step
      cases action with
      | onInStreamRead nread => exact enabled.2.elim
      | _ => exact calls.elim
  | read coroutine request readable ready start =>
      obtain rfl := Option.some.inj is_step
      exact calls.elim
  | drop =>
      obtain rfl := Option.some.inj is_step
      exact calls.elim

/-- A call of `read()` that ends, ends on the stream. -/
theorem finished_perform {action : Action} {call : Reading × Ended}
    (call_mem : call ∈ (action.perform transfer).finished) :
    call ∈ transfer.finished ∨ call.2 ∈ (action.perform transfer).stream.endedAt .read := by
  have follows : ∀ (called : Transfer) (after : State), called.finished = transfer.finished →
      call ∈ (called.follow after).finished →
      call ∈ transfer.finished ∨ call.2 ∈ after.endedAt .read := by
    intro called after finished_eq follow_mem
    rcases List.mem_append.mp follow_mem with earlier | latest
    · exact .inl (finished_eq ▸ earlier)
    · rcases List.mem_flatMap.mp latest with ⟨reading, -, ended_mem⟩
      rcases List.mem_map.mp ended_mem with ⟨ended, drop_mem, rfl⟩
      exact .inr (List.mem_of_mem_drop drop_mem)
  cases action with
  | readClosed request => exact .inl call_mem
  | _ =>
      refine follows _ _ ?_ call_mem
      rfl

/-- The calls of `read()` have ended on the stream. -/
theorem endedAt_of_finished (reached : system.Reachable transfer) :
    ∀ call ∈ transfer.finished, call.2 ∈ transfer.stream.endedAt .read := by
  induction reached with
  | start initial =>
      obtain rfl := initial
      exact fun _ call_mem => nomatch call_mem
  | step action reached enabled _ ih =>
      intro call call_mem
      rcases finished_perform call_mem with earlier | ended_mem
      · have ended_before := ih call earlier
        cases is_step : action.onStream with
        | none =>
            cases action with
            | readClosed request => exact ended_before
            | _ => exact nomatch is_step
        | some onStream =>
            rcases Action.onStream_enabled enabled is_step with ⟨possible, stream_eq⟩
            have progress :=
              State.step_progress (logged_of_reachable reached).reached possible .read
            change call.2 ∈ (action.perform _).stream.endedAt .read
            rw [stream_eq]
            exact progress.endedAt_subset ended_before
      · exact ended_mem

/-- Only `onInStreamRead` delivers something. -/
theorem delivered_perform {action : Action}
    (no_callback : ∀ nread chunk, action ≠ .onInStreamRead nread chunk) :
    (action.perform transfer).delivered = transfer.delivered := by
  cases action with
  | onInStreamRead nread chunk => exact absurd rfl (no_callback nread chunk)
  | _ => rfl

/-- Whenever `onInStreamRead` is called, a `read()` is suspended. -/
theorem delivered_onInStreamRead (logged : transfer.Logged) {nread : Int} {chunk : List Byte}
    (enabled : (Action.onInStreamRead nread chunk).Enabled transfer) :
    ∃ number, (transfer.onInStreamRead nread chunk).delivered =
      transfer.delivered ++ [(number, chunk)] := by
  have active : transfer.stream.active = true := enabled.1
  have registered : transfer.stream.ReadRegistered := by
    rcases State.open_or_closed_of_reachable logged.reached with ⟨invariant, -⟩ | closed
    · exact invariant.readRegistered
    · exact closed.readRegistered
  rcases registered.started active with ⟨awaiter, found, -⟩
  rcases logged.current_of_found found with ⟨reading, current⟩
  refine ⟨reading.number, ?_⟩
  simp [Transfer.onInStreamRead, follow, current]

end Transfer

end Uvco.Stream
