import Uvco.Udp.Stage

/-!
# Closing a UDP socket

`close()` puts `UV_ECANCELED` into the buffer of the receiver and resumes it, if it
waits. That is the only stage of a receiver in which `close()` works: a receiver
that was enqueued already goes on with a closing handle, or has no space left in its
buffer, and a generator suspended at `co_yield` asks libuv about a null handle.
-/

namespace Uvco.Udp

variable {Packet : Type}

namespace State

/-- `close()` is called while nobody receives, or the receiver waits in its awaiter. -/
def ClosesSafely (state : State Packet) : Action Packet → Prop
  | .close => ∀ receiver ∈ state.receiver, receiver.handle.isSome = true
  | .receiveOneFrom .. | .receiveMany .. | .onReceiveOne _ | .send _ | .follow _ => True

/-- A receiver that waits when `close()` is called has then obtained the packets in its buffer, and
after them `UV_ECANCELED`. -/
def Cancels (state : State Packet) (receiver : Receiver Packet) : Prop :=
  state.close.receiver = none ∧
    if receiver.many then
      state.close.promise.yielded = state.promise.yielded ++ packets receiver.buffer.toList ∧
        state.close.promise.ended = some (.threw (recvError UV_ECANCELED))
    else
      state.close.outcomes = state.outcomes ++
        (packets receiver.buffer.toList).map .ok ++ [.error (recvError UV_ECANCELED)]

theorem takeItem_error {state : State Packet} {receiver : Receiver Packet} {status : Int}
    {rest : List (QueueItem Packet)} (contents : receiver.buffer.toList = .error status :: rest) :
    state.takeItem receiver =
      if receiver.many then state.finishMany (.threw (recvError status))
      else state.finishOne receiver.coroutine (.error (recvError status)) := by
  have not_empty : receiver.buffer.empty = false := by
    rw [← Bool.not_eq_true, BoundedQueue.empty_iff, contents]
    simp
  rcases BoundedQueue.get_spec not_empty with ⟨item, buffer, get_eq, contents_eq, -⟩
  obtain rfl : .error status = item := by
    rw [contents, List.cons.injEq] at contents_eq
    exact contents_eq.1
  simp [takeItem, not_empty, get_eq]

/-- `close()` while the receiver waits: it is resumed and takes `UV_ECANCELED`. -/
theorem close_of_waiting {state : State Packet} {receiver : Receiver Packet}
    (is_open : state.isOpen = true) (receiver_eq : state.receiver = some receiver)
    (data_eq : state.dataSet = true) (registered : receiver.handle = some receiver.coroutine)
    (empty : receiver.buffer.toList = []) (positive : 0 < receiver.buffer.capacity) :
    let resumed := ({ state with
      promise := (MultiPromise.Action.other (.resume receiver.coroutine)).perform
        state.promise } : State Packet).resetData
    state.close =
      (if receiver.many then resumed.finishMany (.threw (recvError UV_ECANCELED))
        else resumed.finishOne receiver.coroutine (.error (recvError UV_ECANCELED))).release := by
  have space : receiver.buffer.hasSpace = true := by
    rw [BoundedQueue.hasSpace_iff, empty]
    exact positive
  rcases BoundedQueue.put_spec space (.error UV_ECANCELED) with ⟨buffer, put_eq, contents, -⟩
  rw [empty, List.nil_append] at contents
  simp only [close, is_open, if_true, data_eq, receiver_eq, put_eq, registered, awaitResume]
  rw [takeItem_error contents]

theorem Invariant.close_waiting {state : State Packet} (invariant : state.Invariant)
    {receiver : Receiver Packet} (is_open : state.isOpen = true)
    (receiver_eq : state.receiver = some receiver) (data_eq : state.dataSet = true)
    (owned : Owned state.promise receiver) (registered : receiver.handle = some receiver.coroutine)
    (empty : receiver.buffer.toList = [])
    (status : state.promise.runtime.status receiver.coroutine = .elsewhere)
    (not_queued : state.promise.runtime.pending receiver.coroutine = 0) :
    state.close.Invariant ∧ state.close.isOpen = false ∧
      state.close.closeThrew = state.closeThrew ∧ state.close.closes = state.closes + 1 ∧
      state.Cancels receiver := by
  have enabled : (MultiPromise.Action.other (.resume receiver.coroutine)).Enabled
      state.promise := ⟨⟨status, not_queued⟩, by simp⟩
  have promise := invariant.promise.step enabled
  have close_eq := close_of_waiting is_open receiver_eq data_eq registered empty owned.capacity
  have running : (state.promise.runtime.setStatus receiver.coroutine .running).status
      receiver.coroutine = .running := Runtime.setStatus_status_self _
  have no_fault : (state.fault || !state.isOpen) = false := by
    simp [invariant.no_fault, is_open]
  unfold Cancels
  cases many : receiver.many with
  | true =>
      have generator_eq := owned.many many
      rcases promise.finish_spec (.threw (recvError UV_ECANCELED)) (generator_eq ▸ running) with
        ⟨-, -, yielded_eq, ended_eq, -⟩
      simp only [many, if_true] at close_eq
      rw [close_eq]
      refine ⟨Invariant.release ?_ rfl, rfl, ?_, ?_, rfl, ?_, ?_⟩
      · apply Invariant.finishMany
        · exact promise
        · exact no_fault
        · exact is_open
        · exact generator_eq ▸ running
      · simp [State.release, State.finishMany, resetData, is_open]
      · simp [State.release, State.finishMany, resetData, is_open]
      · rw [empty]
        exact yielded_eq.trans (List.append_nil _).symm
      · exact ended_eq
  | false =>
      rcases owned.one many with ⟨differs, idle⟩
      simp only [many, Bool.false_eq_true, if_false] at close_eq
      rw [close_eq]
      refine ⟨Invariant.release ?_ rfl, rfl, rfl, rfl, rfl, ?_⟩
      · apply Invariant.finishOne
        · exact promise
        · exact no_fault
        · exact is_open
        · exact differs
        · simp only [GeneratorIdle, resetData, MultiPromise.Action.perform,
            Runtime.Action.perform, Runtime.setStatus_status_of_ne _ (Ne.symm differs)]
          exact idle
        · exact running
      · rw [empty]
        exact congrArg (· ++ _) (List.append_nil _).symm

/-- A safe call of `close()` closes the handle of an open socket. -/
theorem Invariant.close {state : State Packet} (invariant : state.Invariant)
    (safe : state.ClosesSafely .close) :
    state.close.Invariant ∧ state.close.isOpen = false ∧
      state.close.closeThrew = state.closeThrew ∧
      state.close.closes = state.closes + if state.isOpen then 1 else 0 := by
  cases is_open : state.isOpen with
  | false => simp [State.close, is_open, invariant]
  | true =>
      cases invariant.stage with
      | idle receiver_eq data_eq generator =>
          have close_eq : state.close = state.release := by
            simp [State.close, is_open, data_eq]
          rw [close_eq]
          exact ⟨invariant.release receiver_eq, rfl, rfl, rfl⟩
      | waiting receiver receiver_eq data_eq owned registered empty status not_queued =>
          rcases invariant.close_waiting is_open receiver_eq data_eq owned registered empty status
            not_queued with ⟨after_invariant, closed, returned, counted, -⟩
          exact ⟨after_invariant, closed, returned, counted⟩
      | queued receiver receiver_eq _ _ unregistered
      | yielding receiver receiver_eq _ _ unregistered =>
          have registered := safe receiver receiver_eq
          simp [unregistered] at registered

theorem invariant_of_reachableVia {state : State Packet}
    (reached : (system Packet).ReachableVia ClosesSafely state) :
    state.Invariant ∧ state.closeThrew = false ∧
      state.closes = if state.isOpen then 0 else 1 := by
  refine reached.invariant (fun state => state.Invariant ∧ state.closeThrew = false ∧
    state.closes = if state.isOpen then 0 else 1) ?_ ?_
  · intro state initial
    refine ⟨Invariant.initially initial, ?_⟩
    rcases initial with ⟨generator, rfl⟩
    exact ⟨rfl, rfl⟩
  · rintro state action ⟨invariant, returned, counted⟩ enabled safe
    by_cases is_close : action = .close
    · subst is_close
      rcases invariant.close safe with ⟨after_invariant, closed, returned_eq, counted_eq⟩
      refine ⟨after_invariant, returned_eq.trans returned, ?_⟩
      change state.close.closes = if state.close.isOpen then 0 else 1
      rw [counted_eq, counted, closed]
      cases state.isOpen <;> rfl
    · have unchanged := state.socket_of_not_close is_close
      simp only [socket, Prod.mk.injEq] at unchanged
      rcases unchanged with ⟨open_eq, threw_eq, closes_eq⟩
      refine ⟨invariant.step enabled is_close, threw_eq.trans returned, ?_⟩
      change (action.perform state).closes = if (action.perform state).isOpen then 0 else 1
      rw [closes_eq, open_eq]
      exact counted

end State

end Uvco.Udp
