import Uvco.Udp.Receive

/-!
# The receiver of a UDP socket

A receiver is suspended in its awaiter with an empty buffer, or was enqueued from
there after something arrived, or, in `receiveMany()`, is suspended at `co_yield`.
The data pointer is set in the first two stages only.
-/

namespace Uvco.Udp

variable {Packet : Type}

namespace State

/-- No generator of `receiveMany()` is suspended. -/
def GeneratorIdle (promise : MultiPromise.State Packet UvcoException) : Prop :=
  promise.runtime.status promise.generator = .running ∨
    promise.runtime.status promise.generator = .done

/-- The coroutine that the receiver belongs to. -/
structure Owned (promise : MultiPromise.State Packet UvcoException)
    (receiver : Receiver Packet) : Prop where
  many : receiver.many = true → receiver.coroutine = promise.generator
  one : receiver.many = false → receiver.coroutine ≠ promise.generator ∧ GeneratorIdle promise
  capacity : 0 < receiver.buffer.capacity

/-- How far the receiver has got. -/
inductive Stage (state : State Packet) : Prop where
  | idle (receiver_eq : state.receiver = none) (data_eq : state.dataSet = false)
      (generator : GeneratorIdle state.promise)
  | waiting (receiver : Receiver Packet) (receiver_eq : state.receiver = some receiver)
      (data_eq : state.dataSet = true) (owned : Owned state.promise receiver)
      (registered : receiver.handle = some receiver.coroutine)
      (empty : receiver.buffer.toList = [])
      (status : state.promise.runtime.status receiver.coroutine = .elsewhere)
      (not_queued : state.promise.runtime.pending receiver.coroutine = 0)
  | queued (receiver : Receiver Packet) (receiver_eq : state.receiver = some receiver)
      (data_eq : state.dataSet = true) (owned : Owned state.promise receiver)
      (unregistered : receiver.handle = none) (filled : receiver.buffer.toList ≠ [])
      (status : state.promise.runtime.status receiver.coroutine = .elsewhere)
      (queued_once : state.promise.runtime.pending receiver.coroutine = 1)
  | yielding (receiver : Receiver Packet) (receiver_eq : state.receiver = some receiver)
      (data_eq : state.dataSet = false) (owned : Owned state.promise receiver)
      (unregistered : receiver.handle = none) (many : receiver.many = true)
      (status : state.promise.runtime.status receiver.coroutine = .waiting .atYield)

/-- The stage is one of the receiver and the data pointer. -/
theorem Stage.congr {before after : State Packet} (stage : before.Stage)
    (promise_eq : after.promise = before.promise) (receiver_eq : after.receiver = before.receiver)
    (data_eq : after.dataSet = before.dataSet) : after.Stage := by
  cases stage with
  | idle no_receiver data_reset generator =>
      exact .idle (receiver_eq.trans no_receiver) (data_eq.trans data_reset)
        (promise_eq ▸ generator)
  | waiting receiver found data_set owned registered empty status not_queued =>
      exact .waiting receiver (receiver_eq.trans found) (data_eq.trans data_set)
        (promise_eq ▸ owned) registered empty (promise_eq ▸ status) (promise_eq ▸ not_queued)
  | queued receiver found data_set owned unregistered filled status queued_once =>
      exact .queued receiver (receiver_eq.trans found) (data_eq.trans data_set)
        (promise_eq ▸ owned) unregistered filled (promise_eq ▸ status) (promise_eq ▸ queued_once)
  | yielding receiver found data_reset owned unregistered many status =>
      exact .yielding receiver (receiver_eq.trans found) (data_eq.trans data_reset)
        (promise_eq ▸ owned) unregistered many (promise_eq ▸ status)

theorem Stage.idle_of_none {state : State Packet} (stage : state.Stage)
    (no_receiver : state.receiver = none) :
    state.dataSet = false ∧ GeneratorIdle state.promise := by
  cases stage with
  | idle _ data_eq generator => exact ⟨data_eq, generator⟩
  | waiting _ receiver_eq | queued _ receiver_eq | yielding _ receiver_eq =>
      simp [no_receiver] at receiver_eq

/-- What holds of a socket in every run that meets the condition. -/
structure Invariant (state : State Packet) : Prop where
  promise : state.promise.Invariant
  stage : state.Stage
  no_fault : state.fault = false
  closed : state.isOpen = false → state.receiver = none ∧ state.receiving = false

namespace Invariant

variable {state : State Packet} {receiver : Receiver Packet}

theorem awaitSuspend (promise : state.promise.Invariant) (no_fault : state.fault = false)
    (is_open : state.isOpen = true) (owned : Owned state.promise receiver)
    (empty : receiver.buffer.toList = [])
    (running : state.promise.runtime.status receiver.coroutine = .running) :
    (state.awaitSuspend receiver).Invariant := by
  have enabled : (MultiPromise.Action.other (.suspend receiver.coroutine)).Enabled
      state.promise := ⟨running, by simp⟩
  constructor
  · exact promise.step enabled
  · refine .waiting _ rfl rfl ?_ rfl empty (Runtime.setStatus_status_self _)
      (promise.consistent.pending_of_running running)
    refine ⟨owned.many, ?_, owned.capacity⟩
    intro one
    rcases owned.one one with ⟨differs, idle⟩
    refine ⟨differs, ?_⟩
    simp only [GeneratorIdle, State.awaitSuspend, MultiPromise.Action.perform,
      Runtime.Action.perform, Runtime.setStatus_status_of_ne _ (Ne.symm differs)]
    exact idle
  · simp [State.awaitSuspend, no_fault, is_open]
  · simp [State.awaitSuspend, is_open]

theorem finishMany (promise : state.promise.Invariant) (no_fault : state.fault = false)
    (is_open : state.isOpen = true)
    (running : state.promise.runtime.status state.promise.generator = .running)
    (ending : MultiPromise.Ending UvcoException) : (state.finishMany ending).Invariant := by
  rcases promise.finish_spec ending running with ⟨finished, generator_eq, -, -, done⟩
  simp only [State.finishMany, is_open, if_true]
  constructor
  · exact finished
  · refine .idle rfl rfl (.inr ?_)
    dsimp only
    rw [generator_eq]
    exact done
  · exact no_fault
  · exact fun _ => ⟨rfl, rfl⟩

theorem finishOne (promise : state.promise.Invariant) (no_fault : state.fault = false)
    (is_open : state.isOpen = true) {coroutine : Handle}
    (differs : coroutine ≠ state.promise.generator) (idle : GeneratorIdle state.promise)
    (running : state.promise.runtime.status coroutine = .running)
    (outcome : Except UvcoException Packet) : (state.finishOne coroutine outcome).Invariant := by
  have enabled : (MultiPromise.Action.other (.finish coroutine)).Enabled state.promise :=
    ⟨running, by simpa using differs⟩
  constructor
  · exact promise.step enabled
  · refine .idle rfl rfl ?_
    simp only [GeneratorIdle, State.finishOne, MultiPromise.Action.perform,
      Runtime.Action.perform, Runtime.setStatus_status_of_ne _ (Ne.symm differs)]
    exact idle
  · simp [State.finishOne, resetData, no_fault, is_open]
  · simp [State.finishOne, resetData, is_open]

theorem takeItem (promise : state.promise.Invariant) (no_fault : state.fault = false)
    (is_open : state.isOpen = true) (data_reset : state.dataSet = false)
    (owned : Owned state.promise receiver) (unregistered : receiver.handle = none)
    (running : state.promise.runtime.status receiver.coroutine = .running) :
    (state.takeItem receiver).Invariant := by
  unfold State.takeItem
  cases many : receiver.many with
  | true =>
      have generator_eq := owned.many many
      rw [generator_eq] at running
      simp only [if_true]
      cases empty : receiver.buffer.empty with
      | true => exact finishMany promise no_fault is_open running _
      | false =>
          rcases BoundedQueue.get_spec empty with ⟨item, buffer, get_eq, -, capacity_eq⟩
          simp only [Bool.false_eq_true, if_false, get_eq]
          cases item with
          | error status => exact finishMany promise no_fault is_open running _
          | packet packet =>
              rcases promise.yield_spec packet running with
                ⟨yielded, after_generator, -, -, at_yield⟩
              constructor
              · exact yielded
              · refine .yielding _ rfl data_reset ⟨?_, ?_, ?_⟩ unregistered rfl ?_
                · exact fun _ => generator_eq.trans after_generator.symm
                · simp
                · exact Nat.lt_of_lt_of_eq owned.capacity capacity_eq.symm
                · dsimp only
                  rw [generator_eq]
                  exact at_yield
              · exact no_fault
              · simp [is_open]
  | false =>
      rcases owned.one many with ⟨differs, idle⟩
      simp only [Bool.false_eq_true, if_false]
      cases empty : receiver.buffer.empty with
      | true => exact finishOne promise no_fault is_open differs idle running _
      | false =>
          rcases BoundedQueue.get_spec empty with ⟨item, buffer, get_eq, -, -⟩
          simp only [Bool.false_eq_true, if_false, get_eq]
          cases item with
          | error status | packet packet =>
              exact finishOne promise no_fault is_open differs idle running _

theorem awaitResume (promise : state.promise.Invariant) (no_fault : state.fault = false)
    (is_open : state.isOpen = true) (owned : Owned state.promise receiver)
    (unregistered : receiver.handle = none)
    (running : state.promise.runtime.status receiver.coroutine = .running) :
    (state.awaitResume receiver).Invariant := by
  have still_no_fault : state.resetData.fault = false := by simp [resetData, no_fault, is_open]
  exact takeItem promise still_no_fault is_open rfl owned unregistered running

theorem loop (promise : state.promise.Invariant) (no_fault : state.fault = false)
    (is_open : state.isOpen = true) (owned : Owned state.promise receiver)
    (unregistered : receiver.handle = none) (many : receiver.many = true)
    (running : state.promise.runtime.status receiver.coroutine = .running) :
    (state.loop receiver).Invariant := by
  simp only [State.loop, is_open, if_true]
  split
  · split
    · rename_i empty
      exact awaitSuspend promise no_fault is_open owned
        ((BoundedQueue.empty_iff _).mp empty) running
    · exact awaitResume promise no_fault is_open owned unregistered running
  · exact finishMany promise no_fault is_open (owned.many many ▸ running) _

theorem generatorIdle_foreign {before after : MultiPromise.State Packet UvcoException}
    (idle : GeneratorIdle before) (foreign : before.Foreign after) : GeneratorIdle after := by
  have not_resumed : ¬before.Resumed after := by
    intro resumed
    have suspended := foreign.was_suspended resumed
    rcases idle with running | done
    · exact resumed.1 running
    · simp [done, Status.isSuspended] at suspended
  simp only [GeneratorIdle, foreign.generator_eq, foreign.stays not_resumed]
  exact idle

theorem owned_foreign {before after : MultiPromise.State Packet UvcoException}
    (owned : Owned before receiver) (foreign : before.Foreign after) : Owned after receiver := by
  refine ⟨fun many => (owned.many many).trans foreign.generator_eq.symm, fun one => ?_,
    owned.capacity⟩
  rcases owned.one one with ⟨differs, idle⟩
  refine ⟨?_, generatorIdle_foreign idle foreign⟩
  rw [foreign.generator_eq]
  exact differs

theorem follow (invariant : state.Invariant)
    {action : MultiPromise.Action Packet UvcoException}
    (enabled : (Action.follow action).Enabled state) : (state.follow action).Invariant := by
  rcases enabled with ⟨enabled, is_foreign, receiver_foreign⟩
  have promise := invariant.promise.step enabled
  have foreign := invariant.promise.foreign enabled is_foreign
  have is_open : ∀ receiver, state.receiver = some receiver → state.isOpen = true := by
    intro receiver receiver_eq
    by_contra closed
    simp [(invariant.closed (by simpa using closed)).1] at receiver_eq
  unfold State.follow
  cases invariant.stage with
  | idle receiver_eq data_eq generator =>
      simp only [receiver_eq]
      exact ⟨promise, .idle rfl data_eq (generatorIdle_foreign generator foreign),
        invariant.no_fault, fun closed => ⟨rfl, (invariant.closed closed).2⟩⟩
  | waiting receiver receiver_eq data_eq owned registered empty status not_queued =>
      have undisturbed := invariant.promise.undisturbed enabled
        (receiver_foreign receiver receiver_eq) status
      rcases undisturbed with ⟨still_suspended, pending_eq⟩ | ⟨-, queued⟩
      · simp only [receiver_eq, status, still_suspended]
        exact ⟨promise, .waiting receiver rfl data_eq (owned_foreign owned foreign) registered
          empty still_suspended (pending_eq.trans not_queued), invariant.no_fault,
          by simp [is_open receiver receiver_eq]⟩
      · omega
  | queued receiver receiver_eq data_eq owned unregistered filled status queued_once =>
      have undisturbed := invariant.promise.undisturbed enabled
        (receiver_foreign receiver receiver_eq) status
      rcases undisturbed with ⟨still_suspended, pending_eq⟩ | ⟨running, -⟩
      · simp only [receiver_eq, status, still_suspended]
        exact ⟨promise, .queued receiver rfl data_eq (owned_foreign owned foreign) unregistered
          filled still_suspended (pending_eq.trans queued_once), invariant.no_fault,
          by simp [is_open receiver receiver_eq]⟩
      · simp only [receiver_eq, status, running]
        apply awaitResume
        · exact promise
        · exact invariant.no_fault
        · exact is_open receiver receiver_eq
        · exact owned_foreign owned foreign
        · exact unregistered
        · exact running
  | yielding receiver receiver_eq data_eq owned unregistered many status =>
      have generator_eq := owned.many many
      by_cases resumed : state.promise.Resumed (action.perform state.promise)
      · have running := resumed.2
        rw [← generator_eq] at running
        simp only [receiver_eq, status, running]
        apply loop
        · exact promise
        · exact invariant.no_fault
        · exact is_open receiver receiver_eq
        · exact owned_foreign owned foreign
        · exact unregistered
        · exact many
        · exact running
      · have stays := foreign.stays resumed
        rw [← generator_eq, status] at stays
        simp only [receiver_eq, status, stays]
        exact ⟨promise, .yielding receiver rfl data_eq (owned_foreign owned foreign) unregistered
          many stays, invariant.no_fault, by simp [is_open receiver receiver_eq]⟩

/-- What the callback puts into the buffer is appended. -/
theorem receive_cases (receiver : Receiver Packet) (item : QueueItem Packet) :
    ∃ buffer, receiver.receive item = { receiver with buffer } ∧
      buffer.capacity = receiver.buffer.capacity ∧
      buffer.toList =
        receiver.buffer.toList ++ if receiver.buffer.hasSpace then [item] else [] := by
  unfold Receiver.receive
  split
  · rename_i space
    rcases BoundedQueue.put_spec space item with ⟨buffer, put_eq, contents, capacity_eq⟩
    simp only [put_eq]
    exact ⟨buffer, rfl, capacity_eq, contents⟩
  · exact ⟨receiver.buffer, rfl, rfl, (List.append_nil _).symm⟩

theorem onReceiveOne (invariant : state.Invariant) {received : Received Packet}
    (enabled : (Action.onReceiveOne received).Enabled state) :
    (state.onReceiveOne received).Invariant := by
  have is_open : state.isOpen = true := by
    by_contra closed
    have stopped := (invariant.closed (by simpa using closed)).2
    change state.receiving = true at enabled
    simp [stopped] at enabled
  unfold State.onReceiveOne
  cases invariant.stage with
  | idle receiver_eq data_eq generator =>
      simp only [data_eq, Bool.false_eq_true, if_false]
      exact ⟨invariant.promise, .idle receiver_eq rfl generator, invariant.no_fault,
        by simp [is_open]⟩
  | waiting receiver receiver_eq data_eq owned registered empty status not_queued =>
      simp only [data_eq, receiver_eq, if_true]
      cases received.item with
      | none =>
          exact ⟨invariant.promise, .waiting receiver rfl rfl owned registered empty status
            not_queued, invariant.no_fault, by simp [is_open]⟩
      | some item =>
          have wake : (MultiPromise.Action.other (.wake receiver.coroutine)).Enabled
              state.promise := ⟨⟨status, not_queued⟩, by simp⟩
          rcases receive_cases receiver item with ⟨buffer, received_eq, capacity_eq, contents⟩
          have space : receiver.buffer.hasSpace = true := by
            rw [BoundedQueue.hasSpace_iff, empty]
            exact owned.capacity
          simp only [registered, received_eq]
          constructor
          · exact invariant.promise.step wake
          · refine .queued _ rfl rfl ⟨owned.many, owned.one, ?_⟩ rfl ?_ status ?_
            · exact Nat.lt_of_lt_of_eq owned.capacity capacity_eq.symm
            · simp [contents, space]
            · exact Runtime.pending_enqueue_self.trans (by rw [not_queued])
          · exact invariant.no_fault
          · simp [is_open]
  | queued receiver receiver_eq data_eq owned unregistered filled status queued_once =>
      simp only [data_eq, receiver_eq, if_true]
      cases received.item with
      | none =>
          exact ⟨invariant.promise, .queued receiver rfl rfl owned unregistered filled status
            queued_once, invariant.no_fault, by simp [is_open]⟩
      | some item =>
          rcases receive_cases receiver item with ⟨buffer, received_eq, capacity_eq, contents⟩
          simp only [unregistered, received_eq]
          refine ⟨invariant.promise, .queued _ rfl rfl ⟨owned.many, owned.one, ?_⟩ rfl ?_ status
            queued_once, invariant.no_fault, by simp [is_open]⟩
          · exact Nat.lt_of_lt_of_eq owned.capacity capacity_eq.symm
          · simp [contents, filled]
  | yielding receiver receiver_eq data_eq owned unregistered many status =>
      simp only [data_eq, Bool.false_eq_true, if_false]
      exact ⟨invariant.promise, .yielding receiver receiver_eq rfl owned unregistered many status,
        invariant.no_fault, by simp [is_open]⟩

theorem receiveOneFrom (invariant : state.Invariant) {coroutine : Handle} {capacity : ℕ}
    {capacity_lt : capacity < 2 ^ 32} {status : Int}
    (enabled : (Action.receiveOneFrom coroutine capacity capacity_lt status).Enabled state) :
    (state.receiveOneFrom coroutine capacity capacity_lt status).Invariant := by
  rcases enabled with ⟨is_open, no_receiver, positive, differs, running⟩
  have idle := (invariant.stage.idle_of_none (Option.isNone_iff_eq_none.mp no_receiver)).2
  unfold State.receiveOneFrom
  split
  · apply awaitSuspend
    · exact invariant.promise
    · exact invariant.no_fault
    · exact is_open
    · exact ⟨by simp, fun _ => ⟨differs, idle⟩, positive⟩
    · rfl
    · exact running
  · exact finishOne invariant.promise invariant.no_fault is_open differs idle running _

/-- The generator of another `receiveMany()` can be started. -/
theorem started (invariant : state.Invariant) {generator : Handle} {capacity : ℕ}
    {capacity_lt : capacity < 2 ^ 32} {status : Int}
    (enabled : (Action.receiveMany generator capacity capacity_lt status).Enabled state) :
    (MultiPromise.State.started state.promise.runtime generator :
      MultiPromise.State Packet UvcoException).Invariant := by
  rcases enabled with ⟨-, no_receiver, -, running, nobody⟩
  have idle := (invariant.stage.idle_of_none (Option.isNone_iff_eq_none.mp no_receiver)).2
  refine MultiPromise.State.started_invariant invariant.promise.consistent ?_ running
  intro handle point waiting
  cases point with
  | awaits => exact nobody handle waiting
  | atYield =>
      rw [invariant.promise.generator_only handle waiting] at waiting
      rcases idle with is_running | done
      · simp [is_running] at waiting
      · simp [done] at waiting

theorem receiveMany (invariant : state.Invariant) {generator : Handle} {capacity : ℕ}
    {capacity_lt : capacity < 2 ^ 32} {status : Int}
    (enabled : (Action.receiveMany generator capacity capacity_lt status).Enabled state) :
    (state.receiveMany generator capacity capacity_lt status).Invariant := by
  have started := invariant.started enabled
  rcases enabled with ⟨is_open, -, large, running, -⟩
  unfold State.receiveMany
  dsimp only
  split
  · apply loop
    · exact started
    · exact invariant.no_fault
    · exact is_open
    · exact ⟨fun _ => rfl, by simp, Nat.lt_of_lt_of_le (by decide) large⟩
    · rfl
    · rfl
    · exact running
  · apply finishMany
    · exact started
    · exact invariant.no_fault
    · exact is_open
    · exact running

theorem release (invariant : state.Invariant) (no_receiver : state.receiver = none) :
    state.release.Invariant :=
  ⟨invariant.promise, .idle no_receiver rfl (invariant.stage.idle_of_none no_receiver).2,
    invariant.no_fault, fun _ => ⟨no_receiver, rfl⟩⟩

/-- Everything but `close()` keeps the invariant. -/
theorem step (invariant : state.Invariant) {action : Action Packet}
    (enabled : action.Enabled state) (not_close : action ≠ .close) :
    (action.perform state).Invariant := by
  cases action with
  | receiveOneFrom coroutine capacity capacity_lt status =>
      exact invariant.receiveOneFrom enabled
  | receiveMany generator capacity capacity_lt status => exact invariant.receiveMany enabled
  | onReceiveOne received => exact invariant.onReceiveOne enabled
  | send sending =>
      exact ⟨invariant.promise, invariant.stage.congr rfl rfl rfl, invariant.no_fault,
        invariant.closed⟩
  | close => exact absurd rfl not_close
  | follow action => exact invariant.follow enabled

theorem initially (initial : (system Packet).Initial state) : state.Invariant := by
  rcases initial with ⟨generator, rfl⟩
  exact ⟨MultiPromise.State.initial_invariant generator, .idle rfl rfl (.inl rfl), rfl, by simp⟩

end Invariant

/-! ## Open sockets -/

/-- What only `close()` changes. -/
def socket (state : State Packet) : Bool × Bool × ℕ :=
  (state.isOpen, state.closeThrew, state.closes)

theorem finishMany_socket (state : State Packet) (ending : MultiPromise.Ending UvcoException) :
    (state.finishMany ending).socket = state.socket := by
  unfold finishMany
  split <;> rfl

theorem takeItem_socket (state : State Packet) (receiver : Receiver Packet) :
    (state.takeItem receiver).socket = state.socket := by
  unfold takeItem
  split
  · split
    · exact state.finishMany_socket _
    · rfl
  · split
    · split <;> rfl
    · split
      · exact state.finishMany_socket _
      · rfl
    · rfl

theorem loop_socket (state : State Packet) (receiver : Receiver Packet) :
    (state.loop receiver).socket = state.socket := by
  unfold loop
  split
  · split
    · split
      · rfl
      · exact takeItem_socket _ receiver
    · exact state.finishMany_socket _
  · rfl

theorem follow_socket (state : State Packet)
    (action : MultiPromise.Action Packet UvcoException) :
    (state.follow action).socket = state.socket := by
  unfold follow
  dsimp only
  split
  · rfl
  · split
    · exact takeItem_socket _ _
    · exact loop_socket _ _
    · rfl

theorem onReceiveOne_socket (state : State Packet) (received : Received Packet) :
    (state.onReceiveOne received).socket = state.socket := by
  unfold onReceiveOne
  dsimp only
  split
  · split
    · split <;> rfl
    · rfl
    · rfl
  · rfl

theorem socket_of_not_close (state : State Packet) {action : Action Packet}
    (not_close : action ≠ .close) : (action.perform state).socket = state.socket := by
  cases action with
  | receiveOneFrom coroutine capacity capacity_lt status =>
      change (state.receiveOneFrom coroutine capacity capacity_lt status).socket = _
      unfold receiveOneFrom
      split <;> rfl
  | receiveMany generator capacity capacity_lt status =>
      change (state.receiveMany generator capacity capacity_lt status).socket = _
      unfold receiveMany
      dsimp only
      split
      · exact loop_socket _ _
      · exact finishMany_socket _ _
  | onReceiveOne received => exact state.onReceiveOne_socket received
  | send sending => rfl
  | close => exact absurd rfl not_close
  | follow action => exact state.follow_socket action

/-- Unless `close()` throws, the socket is closed afterwards. -/
theorem close_cases {state : State Packet} (is_open : state.isOpen = true) :
    state.close.isOpen = false ∨ state.close = { state with closeThrew := true } := by
  unfold close
  rw [if_pos is_open]
  split
  · split
    · left
      split <;> rfl
    · exact .inr rfl
  · exact .inl rfl
  · exact .inl rfl

/-- As long as the socket is open, nothing has gone wrong. -/
theorem invariant_of_isOpen {state : State Packet} (reached : (system Packet).Reachable state)
    (is_open : state.isOpen = true) : state.Invariant := by
  induction reached with
  | start initial => exact Invariant.initially initial
  | @step state action reached enabled _ ih =>
      change (action.perform state).isOpen = true at is_open
      change (action.perform state).Invariant
      by_cases is_close : action = .close
      · subst is_close
        change state.close.isOpen = true at is_open
        change state.close.Invariant
        cases was_open : state.isOpen with
        | false => simp [close, was_open] at is_open
        | true =>
            have invariant := ih was_open
            rcases close_cases was_open with closed | threw
            · simp [closed] at is_open
            · rw [threw]
              exact ⟨invariant.promise, invariant.stage.congr rfl rfl rfl, invariant.no_fault,
                invariant.closed⟩
      · have open_eq := congrArg Prod.fst (state.socket_of_not_close is_close)
        exact (ih (open_eq.symm.trans is_open)).step enabled is_close

end State

end Uvco.Udp
