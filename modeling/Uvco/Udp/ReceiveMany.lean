import Uvco.Udp.Stage

/-!
# What `receiveMany()` yields

`receiveMany()` yields every packet that arrives while its generator is suspended in
the awaiter, or enqueued from there, unless its buffer is full. A packet that arrives
while the generator is suspended at `co_yield` finds a null data pointer: the callback
takes that for a cancellation, drops the packet and stops receiving.
-/

namespace Uvco.Udp

variable {Packet : Type}

namespace State

/-- `receiveMany()` is neither stopped nor closed, and libuv reports no error. -/
def Undisturbed : Action Packet → Prop
  | .onReceiveOne (.packet _) | .onReceiveOne .nothing | .send _ | .follow _ => True
  | .onReceiveOne (.error _) | .receiveOneFrom .. | .receiveMany .. | .close => False

/-- Callbacks find the data pointer set. -/
def FindsAwaiter (state : State Packet) : Action Packet → Prop
  | .onReceiveOne _ => state.dataSet = true
  | .receiveOneFrom .. | .receiveMany .. | .send _ | .close | .follow _ => True

/-- The step does not end the receiving, and the callback finds the awaiter. -/
def KeepsPackets (state : State Packet) (action : Action Packet) : Prop :=
  Undisturbed action ∧ state.FindsAwaiter action

/-- The packets that were put into the buffer. -/
def keptPackets (state : State Packet) : List Packet :=
  (state.arrivals.filter Arrival.kept).map Arrival.packet

/-- Every packet that was kept is yielded, and only a full buffer drops any. -/
structure ReceivesAll (state : State Packet) : Prop where
  /-- What was yielded and what is in the buffer are the packets that were kept, in order. -/
  in_order : ∃ receiver, state.receiver = some receiver ∧ receiver.many = true ∧
    state.promise.yielded ++ packets receiver.buffer.toList = state.keptPackets ∧
    (receiver.buffer.toList ≠ [] →
      state.promise.runtime.status state.promise.generator = .waiting .atYield ∨
        state.promise.runtime.pending state.promise.generator = 1)
  drops_only_full : ∀ arrival ∈ state.arrivals, arrival.kept = false →
    packetQueueSize ≤ arrival.buffered
  endless : state.promise.ended = none
  receives : state.receiving = true
  /-- The consumers obtain what is yielded, and nothing else. -/
  obtained : state.promise.obtained =
      state.promise.values.map (fun packet => .returned (some packet)) ∧
    state.promise.yielded = state.promise.values ++ state.promise.inSlot

/-! ## The invariant -/

/-- What holds of the packets while `receiveMany()` is undisturbed; `left` are those in the
buffer. -/
structure Accounted (state : State Packet) (receiver : Receiver Packet) (left : List Packet) :
    Prop where
  receiver_eq : state.receiver = some receiver
  many : receiver.many = true
  capacity : packetQueueSize ≤ receiver.buffer.capacity
  contents : receiver.buffer.toList = left.map .packet
  in_order : state.promise.yielded ++ left = state.keptPackets
  drops_only_full : ∀ arrival ∈ state.arrivals, arrival.kept = false →
    packetQueueSize ≤ arrival.buffered
  receives : state.receiving = true
  is_open : state.isOpen = true

namespace Accounted

variable {state : State Packet} {receiver : Receiver Packet} {left : List Packet}

/-- A packet moves from the buffer to the slot. -/
theorem takeItem (accounted : state.Accounted receiver left) (filled : left ≠ [])
    (promise : state.promise.Invariant)
    (running : state.promise.runtime.status state.promise.generator = .running) :
    ∃ after left, (state.takeItem receiver).Accounted after left := by
  cases left with
  | nil => exact absurd rfl filled
  | cons packet rest =>
      have contents := accounted.contents
      rw [List.map_cons] at contents
      have not_empty : receiver.buffer.empty = false := by
        rw [← Bool.not_eq_true, BoundedQueue.empty_iff, contents]
        simp
      rcases BoundedQueue.get_spec not_empty with ⟨item, buffer, get_eq, contents_eq, capacity_eq⟩
      rw [contents, List.cons.injEq] at contents_eq
      rcases contents_eq with ⟨rfl, rest_eq⟩
      have taken_eq : state.takeItem receiver = { state with
          promise := state.promise.yield packet
          receiver := some { receiver with buffer } } := by
        simp [State.takeItem, not_empty, get_eq, accounted.many]
      rcases promise.yield_spec packet running with ⟨-, -, yielded_eq, -⟩
      rw [taken_eq]
      refine ⟨_, rest, rfl, accounted.many, ?_, rest_eq.symm, ?_, accounted.drops_only_full,
        accounted.receives, accounted.is_open⟩
      · exact Nat.le_trans accounted.capacity (Nat.le_of_eq capacity_eq.symm)
      · change (state.promise.yield packet).yielded ++ rest = state.keptPackets
        rw [yielded_eq, List.append_assoc]
        exact accounted.in_order

theorem resetData (accounted : state.Accounted receiver left) :
    state.resetData.Accounted receiver left :=
  ⟨accounted.receiver_eq, accounted.many, accounted.capacity, accounted.contents,
    accounted.in_order, accounted.drops_only_full, accounted.receives, accounted.is_open⟩

theorem loop (accounted : state.Accounted receiver left) (promise : state.promise.Invariant)
    (running : state.promise.runtime.status state.promise.generator = .running) :
    ∃ after left, (state.loop receiver).Accounted after left := by
  simp only [State.loop, accounted.is_open, uvIsActive, accounted.receives, Bool.true_or, if_true]
  split
  · exact ⟨_, left, rfl, accounted.many, accounted.capacity, accounted.contents,
      accounted.in_order, accounted.drops_only_full, accounted.receives, accounted.is_open⟩
  · rename_i not_empty
    have filled : left ≠ [] := by
      rintro rfl
      rw [BoundedQueue.empty_iff, accounted.contents] at not_empty
      exact not_empty rfl
    exact accounted.resetData.takeItem filled promise running

/-- A step of the `MultiPromise` that does not resume the receiver. -/
theorem setPromise (accounted : state.Accounted receiver left)
    {promise : MultiPromise.State Packet UvcoException}
    (yielded_eq : promise.yielded = state.promise.yielded) :
    ({ state with promise } : State Packet).Accounted receiver left where
  __ := accounted
  in_order := by
    change promise.yielded ++ left = state.keptPackets
    rw [yielded_eq]
    exact accounted.in_order

theorem follow (accounted : state.Accounted receiver left) (invariant : state.Invariant)
    {action : MultiPromise.Action Packet UvcoException}
    (enabled : (Action.follow action).Enabled state) :
    ∃ after left, (state.follow action).Accounted after left := by
  rcases enabled with ⟨enabled, is_foreign, -⟩
  have promise := invariant.promise.step enabled
  have foreign := invariant.promise.foreign enabled is_foreign
  have moved := accounted.setPromise foreign.yielded_eq
  have receiver_eq := accounted.receiver_eq
  unfold State.follow
  cases invariant.stage with
  | idle no_receiver => simp [receiver_eq] at no_receiver
  | waiting found found_eq _ owned _ _ status not_queued =>
      obtain rfl : receiver = found := Option.some.inj (receiver_eq.symm.trans found_eq)
      rw [← owned.many accounted.many] at is_foreign
      rcases invariant.promise.undisturbed enabled is_foreign status with
        ⟨still_suspended, -⟩ | ⟨-, queued⟩
      · simp only [receiver_eq, status, still_suspended] at moved ⊢
        exact ⟨receiver, left, moved⟩
      · omega
  | queued found found_eq _ owned _ filled status _ =>
      obtain rfl : receiver = found := Option.some.inj (receiver_eq.symm.trans found_eq)
      have generator_eq := owned.many accounted.many
      rw [← generator_eq] at is_foreign
      rcases invariant.promise.undisturbed enabled is_foreign status with
        ⟨still_suspended, -⟩ | ⟨running, -⟩
      · simp only [receiver_eq, status, still_suspended] at moved ⊢
        exact ⟨receiver, left, moved⟩
      · simp only [receiver_eq, status, running] at moved ⊢
        have left_filled : left ≠ [] := by
          rintro rfl
          exact filled accounted.contents
        rw [generator_eq, ← foreign.generator_eq] at running
        exact moved.resetData.takeItem left_filled promise running
  | yielding found found_eq _ owned _ many status =>
      obtain rfl : receiver = found := Option.some.inj (receiver_eq.symm.trans found_eq)
      have generator_eq := owned.many many
      by_cases resumed : state.promise.Resumed (action.perform state.promise)
      · have running := resumed.2
        rw [← generator_eq] at running
        simp only [receiver_eq, status, running] at moved ⊢
        rw [generator_eq, ← foreign.generator_eq] at running
        exact moved.loop promise running
      · have stays := foreign.stays resumed
        rw [← generator_eq, status] at stays
        simp only [receiver_eq, status, stays] at moved ⊢
        exact ⟨receiver, left, moved⟩

/-- A packet that arrives is appended to the buffer, or the buffer is full. -/
theorem arrived (accounted : state.Accounted receiver left) {after : State Packet}
    {holder : Receiver Packet} {packet : Packet} (receiver_eq : after.receiver = some holder)
    (many : holder.many = true) (capacity_eq : holder.buffer.capacity = receiver.buffer.capacity)
    (contents : holder.buffer.toList = receiver.buffer.toList ++
      if receiver.buffer.hasSpace then [.packet packet] else [])
    (yielded_eq : after.promise.yielded = state.promise.yielded)
    (arrivals_eq : after.arrivals = state.arrivals ++
      [{ packet, buffered := receiver.buffer.size, kept := receiver.buffer.hasSpace }])
    (receives : after.receiving = true) (is_open : after.isOpen = true) :
    after.Accounted holder (left ++ if receiver.buffer.hasSpace then [packet] else []) := by
  refine ⟨receiver_eq, many, ?_, ?_, ?_, ?_, receives, is_open⟩
  · rw [capacity_eq]
    exact accounted.capacity
  · rw [contents, accounted.contents, List.map_append]
    split <;> rfl
  · rw [yielded_eq, ← List.append_assoc, accounted.in_order]
    simp only [keptPackets, arrivals_eq, List.filter_append, List.map_append]
    cases receiver.buffer.hasSpace <;> rfl
  · intro arrival arrival_mem dropped
    rw [arrivals_eq, List.mem_append, List.mem_singleton] at arrival_mem
    rcases arrival_mem with earlier | rfl
    · exact accounted.drops_only_full arrival earlier dropped
    · have full : ¬receiver.buffer.hasSpace = true := by simpa using dropped
      rw [BoundedQueue.hasSpace_iff, Nat.not_lt, ← BoundedQueue.size_eq_length] at full
      exact Nat.le_trans accounted.capacity full

theorem onReceiveOne (accounted : state.Accounted receiver left) {received : Received Packet}
    (undisturbed : Undisturbed (.onReceiveOne received)) (data_set : state.dataSet = true) :
    ∃ after left, (state.onReceiveOne received).Accounted after left := by
  cases received with
  | error status => exact undisturbed.elim
  | nothing =>
      simp only [State.onReceiveOne, data_set, accounted.receiver_eq, Received.item, if_true]
      exact ⟨receiver, left, rfl, accounted.many, accounted.capacity, accounted.contents,
        accounted.in_order, accounted.drops_only_full, accounted.receives, accounted.is_open⟩
  | packet packet =>
      rcases Invariant.receive_cases receiver (.packet packet) with
        ⟨buffer, received_eq, capacity_eq, contents⟩
      have many := accounted.many
      have receives : (state.receiving && receiver.many) = true := by
        simp [accounted.receives, many]
      simp only [State.onReceiveOne, data_set, accounted.receiver_eq, Received.item, if_true,
        received_eq, recordArrival, Bool.true_and]
      cases receiver.handle with
      | some handle =>
          exact ⟨_, _, accounted.arrived rfl many capacity_eq contents rfl rfl receives
            accounted.is_open⟩
      | none =>
          exact ⟨_, _, accounted.arrived rfl many capacity_eq contents rfl rfl receives
            accounted.is_open⟩

theorem step (accounted : state.Accounted receiver left) (invariant : state.Invariant)
    {action : Action Packet} (enabled : action.Enabled state)
    (allowed : state.KeepsPackets action) :
    ∃ after left, (action.perform state).Accounted after left := by
  cases action with
  | receiveOneFrom _ _ _ _ | receiveMany _ _ _ _ | close => exact allowed.1.elim
  | onReceiveOne received => exact accounted.onReceiveOne allowed.1 allowed.2
  | send sending =>
      exact ⟨receiver, left, accounted.receiver_eq, accounted.many, accounted.capacity,
        accounted.contents, accounted.in_order, accounted.drops_only_full, accounted.receives,
        accounted.is_open⟩
  | follow action => exact accounted.follow invariant enabled

end Accounted

theorem Accounted.receivesAll {state : State Packet} {receiver : Receiver Packet}
    {left : List Packet} (accounted : state.Accounted receiver left)
    (invariant : state.Invariant) : state.ReceivesAll := by
  have receiver_eq := accounted.receiver_eq
  have packets_eq : packets receiver.buffer.toList = left := by
    rw [accounted.contents, packets, List.filterMap_map]
    exact List.filterMap_some
  have in_order : state.promise.yielded ++ packets receiver.buffer.toList = state.keptPackets := by
    rw [packets_eq]
    exact accounted.in_order
  have suspended : state.promise.runtime.status receiver.coroutine ≠ .done ∧
      (receiver.buffer.toList ≠ [] →
        state.promise.runtime.status receiver.coroutine = .waiting .atYield ∨
          state.promise.runtime.pending receiver.coroutine = 1) ∧
      receiver.coroutine = state.promise.generator := by
    cases invariant.stage with
    | idle no_receiver => simp [receiver_eq] at no_receiver
    | waiting found found_eq _ owned _ empty status =>
        obtain rfl : receiver = found := Option.some.inj (receiver_eq.symm.trans found_eq)
        exact ⟨by simp [status], fun filled => absurd empty filled, owned.many accounted.many⟩
    | queued found found_eq _ owned _ _ status queued_once =>
        obtain rfl : receiver = found := Option.some.inj (receiver_eq.symm.trans found_eq)
        exact ⟨by simp [status], fun _ => .inr queued_once, owned.many accounted.many⟩
    | yielding found found_eq _ owned _ _ status =>
        obtain rfl : receiver = found := Option.some.inj (receiver_eq.symm.trans found_eq)
        exact ⟨by simp [status], fun _ => .inl status, owned.many accounted.many⟩
  rcases suspended with ⟨not_done, prompt, generator_eq⟩
  rw [generator_eq] at not_done prompt
  have open_ := invariant.promise.open_of_not_done not_done
  refine ⟨⟨receiver, receiver_eq, accounted.many, in_order, prompt⟩, accounted.drops_only_full,
    open_, accounted.receives, ?_⟩
  rcases invariant.promise.transported.values_eq with ⟨endings, obtained_eq, yielded_eq, -, ends⟩
  refine ⟨?_, yielded_eq⟩
  have no_endings : endings = [] := by
    rw [List.eq_nil_iff_forall_not_mem]
    intro entry entry_mem
    rcases ends entry entry_mem with ⟨ending, ended_eq, -⟩
    simp [open_] at ended_eq
  rw [obtained_eq, no_endings, List.append_nil]

/-- From a successful start of `receiveMany()` on, as long as it is not disturbed and callbacks find
the data pointer set, no packet is lost and the generator does not end. -/
theorem receivesAll_of_stepsVia {before state : State Packet}
    (reached : (system Packet).Reachable before) {generator : Handle} {capacity : ℕ}
    {capacity_lt : capacity < 2 ^ 32}
    (enabled : (Action.receiveMany generator capacity capacity_lt 0).Enabled before)
    (steps : (system Packet).StepsVia KeepsPackets
      (before.receiveMany generator capacity capacity_lt 0) state) : state.ReceivesAll := by
  have invariant := (invariant_of_isOpen reached enabled.1).receiveMany enabled
  have started_eq : before.receiveMany generator capacity capacity_lt 0 =
      ({ before with
          promise := .started before.promise.runtime generator
          arrivals := []
          receiving := true } : State Packet).awaitSuspend
        { coroutine := generator, many := true, buffer := .create capacity capacity_lt } := by
    have empty : (BoundedQueue.create capacity capacity_lt :
        BoundedQueue (QueueItem Packet)).empty = true := rfl
    simp [State.receiveMany, loop, uvIsActive, enabled.1, empty]
  have started : ∃ receiver left,
      (before.receiveMany generator capacity capacity_lt 0).Accounted receiver left := by
    rw [started_eq]
    exact ⟨_, [], rfl, rfl, enabled.2.2.1, rfl, rfl, by simp [awaitSuspend], rfl, enabled.1⟩
  have kept := steps.preserve
    (fun state => state.Invariant ∧ ∃ receiver left, state.Accounted receiver left) ?_
    ⟨invariant, started⟩
  · rcases kept with ⟨after_invariant, receiver, left, accounted⟩
    exact accounted.receivesAll after_invariant
  · rintro state action ⟨invariant, receiver, left, accounted⟩ enabled allowed
    refine ⟨invariant.step enabled ?_, accounted.step invariant enabled allowed⟩
    rintro rfl
    exact allowed.1

/-- A consumer awaits, two packets arrive, and the consumer obtains the first one. -/
theorem receivesAll_two_packets :
    (([.receiveMany 0 128 (by decide) 0, .follow (.coAwait 1), .onReceiveOne (.packet 7),
        .onReceiveOne (.packet 8), .follow .resumeNext, .follow .resumeNext] :
      List (Action ℕ)).foldl Action.perform { promise := .initial 0 }).ReceivesAll := by
  have start : (system ℕ).Reachable { promise := .initial 0 } := .start ⟨0, rfl⟩
  have enabled : (Action.receiveMany 0 128 (by decide) 0).Enabled
      ({ promise := .initial 0 } : State ℕ) := ⟨rfl, rfl, by decide, rfl,
    (invariant_of_isOpen start rfl).promise.nobody_awaits rfl rfl⟩
  have received := start.step (Action.receiveMany 0 128 (by decide) 0) enabled trivial
  have nobody := (invariant_of_isOpen received rfl).promise.nobody_awaits rfl rfl
  refine receivesAll_of_stepsVia start enabled ?_
  refine .head ⟨.follow (.coAwait 1), ⟨⟨by decide, rfl, nobody⟩, trivial, fun _ _ => trivial⟩,
    ⟨trivial, trivial⟩, rfl⟩ ?_
  refine .head ⟨.onReceiveOne (.packet 7), rfl, ⟨trivial, rfl⟩, rfl⟩ ?_
  refine .head ⟨.onReceiveOne (.packet 8), rfl, ⟨trivial, rfl⟩, rfl⟩ ?_
  refine .head ⟨.follow .resumeNext, ⟨trivial, trivial, fun _ _ => trivial⟩, ⟨trivial, trivial⟩,
    rfl⟩ ?_
  exact .single ⟨.follow .resumeNext, ⟨trivial, trivial, fun _ _ => trivial⟩, ⟨trivial, trivial⟩,
    rfl⟩

/-- A packet that arrives while the generator is suspended at `co_yield` is lost, and receiving
stops. -/
theorem packet_lost_at_yield :
    ¬∀ before state : State ℕ, (system ℕ).Reachable before →
      (Action.receiveMany 0 128 (by decide) 0).Enabled before →
      (system ℕ).StepsVia (fun _ action => Undisturbed action)
        (before.receiveMany 0 128 (by decide) 0) state → state.ReceivesAll := by
  intro always
  have start : (system ℕ).Reachable { promise := .initial 0 } := .start ⟨0, rfl⟩
  have enabled : (Action.receiveMany 0 128 (by decide) 0).Enabled
      ({ promise := .initial 0 } : State ℕ) := ⟨rfl, rfl, by decide, rfl,
    (invariant_of_isOpen start rfl).promise.nobody_awaits rfl rfl⟩
  have lost := always _ _ start enabled
    (.head ⟨.onReceiveOne (.packet 7), rfl, trivial, rfl⟩
      (.head ⟨.follow .resumeNext, ⟨trivial, trivial, fun _ _ => trivial⟩, trivial, rfl⟩
        (.single ⟨.onReceiveOne (.packet 8), rfl, trivial, rfl⟩)))
  exact absurd lost.receives (by decide)

end State

end Uvco.Udp
