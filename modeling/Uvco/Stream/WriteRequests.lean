import Uvco.Stream.Progress

/-!
# The write requests of a stream

libuv keeps the write requests of a stream in a list. `uv_write` appends one, and its
completion removes one; no other step does more than to reset the data pointers of
requests. If no coroutine is suspended in `write()`, no request has a data pointer.
-/

namespace Uvco.Stream

/-- The data pointers of some requests may have been reset. -/
structure Cleared (before after : List (Option Handle)) : Prop where
  length_eq : after.length = before.length
  of_data : ∀ (index : ℕ) (target : Handle), after[index]? = some (some target) →
    before[index]? = some (some target)

namespace Cleared

theorem refl (requests : List (Option Handle)) : Cleared requests requests :=
  ⟨rfl, fun _ _ => id⟩

theorem trans {first second third : List (Option Handle)} (before : Cleared first second)
    (after : Cleared second third) : Cleared first third :=
  ⟨after.length_eq.trans before.length_eq,
    fun index target found => before.of_data index target (after.of_data index target found)⟩

end Cleared

namespace State

variable (state : State) (point : Point)

theorem leave_cleared (awaiter : Awaiter) :
    Cleared state.requests (state.leave point awaiter).requests := by
  cases point with
  | read =>
      simp only [leave, leaveRead]
      split <;> exact .refl _
  | write =>
      simp only [leave, leaveWrite]
      split
      · refine ⟨List.length_map _, fun index target found => ?_⟩
        change (state.requests.map _)[index]? = _ at found
        rw [List.getElem?_map, Option.map_eq_some_iff] at found
        rcases found with ⟨data, data_eq, kept⟩
        split at kept
        · cases kept
        · rw [data_eq, kept]
      · exact .refl _

theorem awaitResume_cleared (awaiter : Awaiter) :
    Cleared state.requests (state.awaitResume point awaiter).requests := by
  unfold awaitResume
  split
  · exact state.leave_cleared point awaiter
  · exact .refl _

theorem resume_cleared (handle : Handle) :
    Cleared state.requests (state.resume handle).requests := by
  unfold resume
  split
  · split
    · exact state.awaitResume_cleared _ _
    · exact .refl _
  all_goals exact .refl _

theorem resumeNext_cleared : Cleared state.requests state.resumeNext.requests := by
  unfold resumeNext
  split
  · rename_i handle runtime _
    exact ({ state with runtime } : State).resume_cleared handle
  · exact .refl _

theorem resumeRegistered_cleared :
    Cleared state.requests (state.resumeRegistered point).requests := by
  unfold resumeRegistered
  split
  · rename_i handle awaiter _ _
    exact ({ state.unregister point awaiter with
      resumedQueued := state.resumedQueued || decide (0 < state.runtime.pending handle) } :
        State).resume_cleared handle
  all_goals exact .refl _

theorem close_cleared : Cleared state.requests state.close.requests := by
  unfold close
  have released : Cleared state.requests
      (if state.isOpen then state.release else state).requests := by
    split <;> exact .refl _
  exact (released.trans (resumeRegistered_cleared _ .read)).trans
    (resumeRegistered_cleared _ .write)

theorem drop_cleared : Cleared state.requests (state.drop point).requests := by
  unfold drop
  split
  · rename_i awaiter _
    exact ({ state with runtime := state.runtime.cancel awaiter.coroutine } : State).leave_cleared
      point awaiter
  · exact .refl _

theorem refuse_cleared (awaiter : Awaiter) (exception : UvcoException) :
    Cleared state.requests (state.refuse point awaiter exception).requests :=
  state.leave_cleared point awaiter

theorem read_cleared (coroutine : Handle) (readable : Bool) (ready start : Int) :
    Cleared state.requests (state.read coroutine readable ready start).requests := by
  let suspended : State := { state.suspend .read { coroutine } with
    data := some coroutine
    fault := state.fault || state.data.isSome }
  unfold read
  dsimp only
  split
  · exact state.refuse_cleared .read _ _
  split
  · exact suspended.refuse_cleared .read _ _
  · exact .refl _

theorem report_frame (target : Handle) (status : Int) :
    (state.report point target status).requests = state.requests ∧
      (state.report point target status).isOpen = state.isOpen := by
  unfold report
  split
  · split
    · split <;> exact ⟨rfl, rfl⟩
    · exact ⟨rfl, rfl⟩
  · exact ⟨rfl, rfl⟩

theorem onInStreamRead_requests (nread : Int) :
    (state.onInStreamRead nread).requests = state.requests := by
  unfold onInStreamRead
  split
  · exact (report_frame _ .read _ _).1
  · rfl

theorem onInStreamRead_isOpen (nread : Int) :
    (state.onInStreamRead nread).isOpen = state.isOpen := by
  unfold onInStreamRead
  split
  · exact (report_frame _ .read _ _).2
  · rfl

theorem onOutStreamWrite_requests (index : ℕ) (status : Int) :
    (state.onOutStreamWrite index status).requests = state.requests.eraseIdx index := by
  unfold onOutStreamWrite
  dsimp only
  split
  · exact (report_frame _ .write _ _).1
  all_goals rfl

theorem onOutStreamWrite_isOpen (index : ℕ) (status : Int) :
    (state.onOutStreamWrite index status).isOpen = state.isOpen := by
  unfold onOutStreamWrite
  dsimp only
  split
  · exact (report_frame _ .write _ _).2
  all_goals rfl

/-- Without a data pointer, nobody is called back. -/
theorem onOutStreamWrite_awaiter {index : ℕ} (status : Int)
    (no_data : ∀ target, state.requests[index]? ≠ some (some target)) :
    (state.onOutStreamWrite index status).awaiter = state.awaiter := by
  unfold onOutStreamWrite
  dsimp only
  split
  · rename_i target found
    exact absurd found (no_data target)
  all_goals rfl

theorem resumeNext_isOpen : state.resumeNext.isOpen = state.isOpen := by
  unfold resumeNext
  split
  · rename_i handle runtime _
    exact (({ state with runtime } : State).resume_frame handle).2.1
  · rfl

theorem resumeRegistered_isOpen : (state.resumeRegistered point).isOpen = state.isOpen := by
  unfold resumeRegistered
  split
  · exact (resume_frame _ _).2.1
  all_goals rfl

theorem close_isOpen : state.close.isOpen = false := by
  unfold close
  dsimp only
  rw [resumeRegistered_isOpen, resumeRegistered_isOpen]
  split
  · rfl
  · simpa using ‹¬state.isOpen = true›

theorem drop_isOpen : (state.drop point).isOpen = state.isOpen := by
  unfold drop
  split
  · rename_i awaiter _
    exact ({ state with runtime := state.runtime.cancel awaiter.coroutine } : State).leave_frame
      point awaiter |>.2.1
  · rfl

theorem write_requests (coroutine : Handle) {status : Int} (accepted : 0 ≤ status) :
    (state.write coroutine status).requests = state.requests ++ [some coroutine] := by
  unfold write
  rw [if_neg (Int.not_lt.mpr accepted)]

theorem write_refused (coroutine : Handle) {status : Int} (refused : status < 0) :
    Cleared state.requests (state.write coroutine status).requests := by
  unfold write
  rw [if_pos refused]
  exact state.refuse_cleared .write _ _

theorem write_awaiter (coroutine : Handle) {status : Int} (accepted : 0 ≤ status) :
    (state.write coroutine status).awaiter .write =
      some { coroutine, handle := some coroutine, started := status } := by
  unfold write
  rw [if_neg (Int.not_lt.mpr accepted)]
  simp [suspend, setRegistered, setAwaiter]

variable {state point}

/-- If no coroutine is suspended, libuv does not lead a callback to one. -/
theorem no_target_of_nobody (reached : system.Reachable state)
    (nobody : state.awaiter point = none) : state.targets point = [] := by
  rcases open_or_closed_of_reachable reached with ⟨invariant, -⟩ | closed
  · exact ((invariant.stage point).of_none nobody).2
  · rcases closed.operation point with ⟨-, -, no_target⟩ | ⟨awaiter, awaits, -⟩
    · exact no_target
    · exact nomatch nobody.symm.trans awaits.found

/-- Of the write requests, only that of the suspended `write()` has a data pointer. -/
theorem data_of_nobody (reached : system.Reachable state)
    (nobody : state.awaiter .write = none) (index : ℕ) (target : Handle) :
    state.requests[index]? ≠ some (some target) := by
  intro found
  have target_mem : target ∈ state.targets .write :=
    List.reduceOption_mem_iff.mpr (List.mem_of_getElem? found)
  rw [no_target_of_nobody reached nobody] at target_mem
  exact nomatch target_mem

end State

end Uvco.Stream
