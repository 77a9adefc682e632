import Mathlib.Algebra.Group.Nat.Defs
import Mathlib.Data.List.Basic
import Mathlib.Data.List.TakeDrop
import Uvco.Exception

/-!
# The bounded FIFO queue

This file embeds `uvco/bounded_queue.h`. The queue is a ring over a
`std::vector` whose storage is reserved once: while the vector is shorter than
its capacity an element is appended, afterwards the element at `head` is
overwritten. Elements that were taken out stay in the vector.

`Ring` is the object as the source lays it out, with the 32-bit arithmetic of
its `unsigned` members and with the accesses that could fail: `at()` outside of
the vector, and a modulo by zero. `Ring.WellFormed` relates the four members;
`BoundedQueue` carries it, and `toList` reads off the FIFO contents.
-/

namespace Uvco

/-- How an operation of the queue can fail. -/
inductive QueueFault where
  /-- A `UvcoException` thrown by the queue itself. -/
  | thrown (exception : UvcoException)
  /-- `std::out_of_range`, thrown by `std::vector::at`. -/
  | outOfRange
  /-- `%` with a zero divisor. -/
  | moduloByZero
deriving DecidableEq, Repr

/-- Wrap-around of the `unsigned` type. -/
def toUnsigned (value : ℕ) : ℕ :=
  value % 2 ^ 32

/-- `unsigned` remainder. -/
def unsignedMod (value modulus : ℕ) : Except QueueFault ℕ :=
  if modulus = 0 then .error .moduloByZero else .ok (value % modulus)

/-- `std::vector::at`, for reading. -/
def vectorAt {T : Type} (vector : List T) (index : ℕ) : Except QueueFault T :=
  match vector[index]? with
  | some element => .ok element
  | none => .error .outOfRange

/-- `std::vector::at`, for updating the element in place. -/
def vectorUpdateAt {T : Type} (vector : List T) (index : ℕ) (update : T → T) :
    Except QueueFault (List T) :=
  if index < vector.length then .ok (vector.modify index update) else .error .outOfRange

/-- The data members of `class BoundedQueue`. -/
structure Ring (T : Type) where
  /-- `std::vector<T> queue_`. -/
  queue : List T
  /-- `queue_.capacity()`, fixed by the constructor's `reserve`. -/
  capacity : ℕ
  head : ℕ
  tail : ℕ
  size : ℕ
deriving DecidableEq, Repr

namespace Ring

variable {T : Type}

/-- `size() == 0`. -/
def empty (ring : Ring T) : Bool :=
  ring.size == 0

/-- `size() < capacity()`. -/
def hasSpace (ring : Ring T) : Bool :=
  ring.size < ring.capacity

/-- `put`; its assertion is looked at in `CheckedRing.store`. -/
def put (ring : Ring T) (element : T) : Except QueueFault (Ring T) := do
  if !ring.hasSpace then
    throw (.thrown (.ofStatus UV_EBUSY "queue is full"))
  let queue ←
    if ring.queue.length < ring.capacity then
      pure (ring.queue ++ [element])
    else
      vectorUpdateAt ring.queue ring.head (fun _ => element)
  let head ← unsignedMod (toUnsigned (ring.head + 1)) ring.capacity
  return { ring with queue, head, size := toUnsigned (ring.size + 1) }

/-- `get`; `tail_` moves on, and the element stays in the vector. -/
def get (ring : Ring T) : Except QueueFault (T × Ring T) := do
  if ring.empty then
    throw (.thrown (.ofStatus UV_EAGAIN "queue is empty"))
  let element ← vectorAt ring.queue ring.tail
  let tail ← unsignedMod (toUnsigned (ring.tail + 1)) ring.capacity
  return (element, { ring with tail, size := ring.size - 1 })

/-- The loop of `forEach`, for the `remaining` elements from position `index` on. -/
def forEachFrom (function : T → T) (capacity : ℕ) :
    (remaining index : ℕ) → List T → Except QueueFault (List T)
  | 0, _, queue => pure queue
  | remaining + 1, index, queue => do
      let queue ← vectorUpdateAt queue index function
      let index ← unsignedMod (toUnsigned (index + 1)) capacity
      forEachFrom function capacity remaining index queue

/-- `forEach`, with a function that updates elements and does not throw. -/
def forEach (ring : Ring T) (function : T → T) : Except QueueFault (Ring T) := do
  let queue ← forEachFrom function ring.capacity ring.size ring.tail ring.queue
  return { ring with queue }

/-- The vector read cyclically from the next element to be popped. -/
def cycle (queue : List T) (tail : ℕ) : List T :=
  queue.drop tail ++ queue.take tail

/-- The FIFO contents, oldest element first. -/
def toList (ring : Ring T) : List T :=
  (cycle ring.queue ring.tail).take ring.size

/-- How the members are related between two operations. -/
structure WellFormed (ring : Ring T) : Prop where
  capacity_lt : ring.capacity < 2 ^ 32
  size_le : ring.size ≤ ring.capacity
  length_le : ring.queue.length ≤ ring.capacity
  tail_lt : ring.tail < max 1 ring.capacity
  /-- Until the vector is full, `head_` is its end and `tail_` the number of popped elements. -/
  growing : ring.queue.length < ring.capacity →
    ring.tail + ring.size = ring.queue.length ∧ ring.head = ring.queue.length
  /-- Once the vector is full, `head_` follows `tail_` at distance `size_`. -/
  wrapped : ring.queue.length = ring.capacity →
    ring.head = (ring.tail + ring.size) % ring.capacity

/-! ## Reading the vector cyclically -/

theorem length_cycle {queue : List T} {tail : ℕ} :
    (cycle queue tail).length = queue.length := by
  simp only [cycle, List.length_append, List.length_drop, List.length_take]
  omega

/-- The position of the element `offset` places after `tail`, as in `(tail + offset) % length`. -/
def position (length tail offset : ℕ) : ℕ :=
  if tail + offset < length then tail + offset else tail + offset - length

theorem position_eq_mod {length tail offset : ℕ} (tail_lt : tail < length)
    (offset_lt : offset < length) : (tail + offset) % length = position length tail offset := by
  unfold position
  split
  · exact Nat.mod_eq_of_lt ‹_›
  · rw [Nat.mod_eq_sub_mod (by omega)]
    exact Nat.mod_eq_of_lt (by omega)

theorem getElem?_cycle {queue : List T} {tail offset : ℕ} (tail_le : tail ≤ queue.length)
    (offset_lt : offset < queue.length) :
    (cycle queue tail)[offset]? = queue[position queue.length tail offset]? := by
  unfold cycle position
  rw [List.getElem?_append, List.getElem?_drop, List.getElem?_take, List.length_drop]
  grind

theorem cycle_modify {queue : List T} {tail offset : ℕ} (function : T → T)
    (tail_le : tail ≤ queue.length) (offset_lt : offset < queue.length) :
    cycle (queue.modify (position queue.length tail offset) function) tail =
      (cycle queue tail).modify offset function := by
  apply List.ext_getElem?
  intro index
  unfold cycle position
  simp only [List.getElem?_append, List.getElem?_drop, List.getElem?_take, List.getElem?_modify,
    List.length_drop, List.length_modify]
  split
  · grind
  · grind

theorem take_succ_modify {queue : List T} {index : ℕ} (function : T → T)
    (index_lt : index < queue.length) :
    (queue.modify index function).take (index + 1) =
      queue.take index ++ [function queue[index]] := by
  rw [List.take_succ_eq_append_getElem (by simpa using index_lt), List.take_modify,
    List.modify_eq_self (by rw [List.length_take]; omega), List.getElem_modify_eq]

theorem cycle_next {queue : List T} {tail capacity : ℕ} (tail_lt : tail < queue.length)
    (length_le : queue.length ≤ capacity) :
    cycle queue tail =
        queue[tail] :: (cycle queue tail).tail ∧
      cycle queue ((tail + 1) % capacity) = (cycle queue tail).tail ++ [queue[tail]] := by
  have first : cycle queue tail = queue[tail] :: (queue.drop (tail + 1) ++ queue.take tail) := by
    rw [cycle, List.drop_eq_getElem_cons tail_lt, List.cons_append]
  refine ⟨by rw [first, List.tail_cons], ?_⟩
  rw [first, List.tail_cons]
  by_cases last : tail + 1 = capacity
  · have full : queue.length = tail + 1 := by omega
    rw [last, Nat.mod_self, cycle, List.drop_zero, List.take_zero, List.append_nil,
      List.drop_eq_nil_of_le (by omega), List.nil_append]
    conv_lhs => rw [← List.take_length (l := queue), full, List.take_succ_eq_append_getElem tail_lt]
  · rw [Nat.mod_eq_of_lt (by omega), cycle, List.take_succ_eq_append_getElem tail_lt,
      List.append_assoc]

/-! ## The operations on a well-formed ring -/

theorem size_le_length {ring : Ring T} (wellFormed : ring.WellFormed) :
    ring.size ≤ ring.queue.length := by
  have length_le := wellFormed.length_le
  by_cases full : ring.queue.length = ring.capacity
  · rw [full]
    exact wellFormed.size_le
  · have := (wellFormed.growing (by omega)).1
    omega

theorem length_toList {ring : Ring T} (wellFormed : ring.WellFormed) :
    ring.toList.length = ring.size := by
  have := size_le_length wellFormed
  rw [toList, List.length_take, length_cycle]
  omega

/-- The position `head_` points to is the one `size_` places after `tail_`. -/
theorem head_eq_position {ring : Ring T} (wellFormed : ring.WellFormed)
    (full : ring.queue.length = ring.capacity) (space : ring.size < ring.capacity) :
    ring.head = position ring.queue.length ring.tail ring.size := by
  have tail_lt := wellFormed.tail_lt
  rw [wellFormed.wrapped full, full]
  exact position_eq_mod (by omega) space

theorem put_full {ring : Ring T} (full : ring.hasSpace = false) (element : T) :
    ring.put element = .error (.thrown (.ofStatus UV_EBUSY "queue is full")) := by
  simp [put, full, throw, throwThe, MonadExceptOf.throw, bind, Except.bind]

theorem get_empty {ring : Ring T} (empty : ring.empty = true) :
    ring.get = .error (.thrown (.ofStatus UV_EAGAIN "queue is empty")) := by
  simp [get, empty, throw, throwThe, MonadExceptOf.throw, bind, Except.bind]

theorem head_lt_length {ring : Ring T} (wellFormed : ring.WellFormed)
    (full : ring.queue.length = ring.capacity) (space : ring.size < ring.capacity) :
    ring.head < ring.queue.length := by
  have tail_lt := wellFormed.tail_lt
  rw [head_eq_position wellFormed full space]
  unfold position
  split <;> omega

theorem head_lt_capacity {ring : Ring T} (wellFormed : ring.WellFormed)
    (space : ring.size < ring.capacity) : ring.head < ring.capacity := by
  have length_le := wellFormed.length_le
  by_cases full : ring.queue.length = ring.capacity
  · have := head_lt_length wellFormed full space
    omega
  · have := (wellFormed.growing (by omega)).2
    omega

/-- Growing phase: `push_back` at the position `head_` points to. -/
theorem put_growing {ring : Ring T} (wellFormed : ring.WellFormed)
    (space : ring.size < ring.capacity) (grows : ring.queue.length < ring.capacity) (element : T) :
    ring.put element = .ok { ring with
      queue := ring.queue ++ [element]
      head := (ring.head + 1) % ring.capacity
      size := ring.size + 1 } := by
  have capacity_lt := wellFormed.capacity_lt
  have head_lt := head_lt_capacity wellFormed space
  have has_space : ring.hasSpace = true := decide_eq_true space
  have head_wraps : toUnsigned (ring.head + 1) = ring.head + 1 := Nat.mod_eq_of_lt (by omega)
  have size_wraps : toUnsigned (ring.size + 1) = ring.size + 1 := Nat.mod_eq_of_lt (by omega)
  simp [put, has_space, grows, unsignedMod, head_wraps, size_wraps,
    show ring.capacity ≠ 0 by omega, pure, Except.pure, bind, Except.bind]

/-- Wrapped phase: the element at `head_` is overwritten. -/
theorem put_wrapped {ring : Ring T} (wellFormed : ring.WellFormed)
    (space : ring.size < ring.capacity) (full : ring.queue.length = ring.capacity) (element : T) :
    ring.put element = .ok { ring with
      queue := ring.queue.modify ring.head (fun _ => element)
      head := (ring.head + 1) % ring.capacity
      size := ring.size + 1 } := by
  have capacity_lt := wellFormed.capacity_lt
  have head_lt := head_lt_length wellFormed full space
  have has_space : ring.hasSpace = true := decide_eq_true space
  have head_wraps : toUnsigned (ring.head + 1) = ring.head + 1 := Nat.mod_eq_of_lt (by omega)
  have size_wraps : toUnsigned (ring.size + 1) = ring.size + 1 := Nat.mod_eq_of_lt (by omega)
  have grown : ¬ring.queue.length < ring.capacity := by omega
  simp [put, has_space, grown, vectorUpdateAt, head_lt, unsignedMod, head_wraps, size_wraps,
    show ring.capacity ≠ 0 by omega, pure, Except.pure, bind, Except.bind]

/-- `put` on a queue with space appends the element. -/
theorem put_spec {ring : Ring T} (wellFormed : ring.WellFormed)
    (space : ring.hasSpace = true) (element : T) :
    ∃ after, ring.put element = .ok after ∧ after.WellFormed ∧
      after.toList = ring.toList ++ [element] ∧ after.capacity = ring.capacity := by
  have size_lt : ring.size < ring.capacity := by simpa [hasSpace] using space
  have tail_lt := wellFormed.tail_lt
  by_cases grows : ring.queue.length < ring.capacity
  · rcases wellFormed.growing grows with ⟨tail_size, head_eq⟩
    refine ⟨_, put_growing wellFormed size_lt grows element, ?_, ?_, rfl⟩
    · constructor
      · exact wellFormed.capacity_lt
      · exact size_lt
      · simp only [List.length_append, List.length_singleton]
        omega
      · exact tail_lt
      · intro grows_on
        simp only [List.length_append, List.length_singleton] at grows_on ⊢
        exact ⟨by omega, by rw [head_eq, Nat.mod_eq_of_lt grows_on]⟩
      · intro _
        simp only
        rw [← Nat.add_assoc, tail_size, head_eq]
    · have contents : ring.toList = ring.queue.drop ring.tail := by
        rw [toList, cycle, List.take_append_of_le_length (by rw [List.length_drop]; omega)]
        exact List.take_of_length_le (by rw [List.length_drop]; omega)
      have new_length : (ring.queue.drop ring.tail ++ [element]).length = ring.size + 1 := by
        simp only [List.length_append, List.length_drop, List.length_singleton]
        omega
      rw [contents]
      simp only [toList, cycle]
      rw [List.drop_append_of_le_length (by omega), List.take_append_of_le_length (by omega)]
      exact List.take_of_length_le (by omega)
  · have full : ring.queue.length = ring.capacity := by
      have := wellFormed.length_le
      omega
    refine ⟨_, put_wrapped wellFormed size_lt full element, ?_, ?_, rfl⟩
    · constructor
      · exact wellFormed.capacity_lt
      · exact size_lt
      · simp only [List.length_modify]
        omega
      · exact tail_lt
      · intro grows_on
        simp only [List.length_modify] at grows_on
        exact absurd grows_on grows
      · intro _
        simp only
        rw [wellFormed.wrapped full, Nat.mod_add_mod, Nat.add_assoc]
    · have size_lt_cycle : ring.size < (cycle ring.queue ring.tail).length := by
        rw [length_cycle, full]
        exact size_lt
      simp only [toList]
      rw [head_eq_position wellFormed full size_lt, cycle_modify _ (by omega) (by omega),
        take_succ_modify _ size_lt_cycle]

theorem tail_lt_length {ring : Ring T} (wellFormed : ring.WellFormed) (size_pos : 0 < ring.size) :
    ring.tail < ring.queue.length := by
  have size_le := wellFormed.size_le
  have tail_lt := wellFormed.tail_lt
  have length_le := wellFormed.length_le
  by_cases full : ring.queue.length = ring.capacity
  · omega
  · have := (wellFormed.growing (by omega)).1
    omega

theorem get_nonempty {ring : Ring T} (wellFormed : ring.WellFormed) (size_pos : 0 < ring.size)
    (tail_lt : ring.tail < ring.queue.length) :
    ring.get = .ok (ring.queue[ring.tail], { ring with
      tail := (ring.tail + 1) % ring.capacity
      size := ring.size - 1 }) := by
  have size_le := wellFormed.size_le
  have capacity_lt := wellFormed.capacity_lt
  have length_le := wellFormed.length_le
  have nonempty : ring.empty = false := by
    rw [empty, beq_eq_false_iff_ne]
    omega
  have tail_wraps : toUnsigned (ring.tail + 1) = ring.tail + 1 := Nat.mod_eq_of_lt (by omega)
  simp [get, nonempty, vectorAt, tail_lt, unsignedMod, tail_wraps,
    show ring.capacity ≠ 0 by omega, pure, Except.pure, bind, Except.bind]

/-- `get` on a non-empty queue removes and returns the oldest element. -/
theorem get_spec {ring : Ring T} (wellFormed : ring.WellFormed)
    (nonempty : ring.empty = false) :
    ∃ element after, ring.get = .ok (element, after) ∧ after.WellFormed ∧
      ring.toList = element :: after.toList ∧ after.capacity = ring.capacity := by
  have size_pos : 0 < ring.size := by
    simp only [empty, beq_eq_false_iff_ne, ne_eq] at nonempty
    omega
  have size_le := wellFormed.size_le
  have length_le := wellFormed.length_le
  have size_le_length := size_le_length wellFormed
  have tail_lt_length := tail_lt_length wellFormed size_pos
  rcases cycle_next tail_lt_length length_le with ⟨cycle_eq, cycle_after⟩
  refine ⟨_, _, get_nonempty wellFormed size_pos tail_lt_length, ?_, ?_, rfl⟩
  · constructor
    · exact wellFormed.capacity_lt
    · simp only
      omega
    · exact length_le
    · simp only
      have := Nat.mod_lt (ring.tail + 1) (show 0 < ring.capacity by omega)
      omega
    · intro grows
      rcases wellFormed.growing grows with ⟨tail_size, head_eq⟩
      simp only at grows ⊢
      rw [Nat.mod_eq_of_lt (by omega)]
      exact ⟨by omega, head_eq⟩
    · intro full
      simp only at full ⊢
      rw [Nat.mod_add_mod, wellFormed.wrapped full]
      congr 1
      omega
  · simp only [toList]
    have tail_length : (cycle ring.queue ring.tail).tail.length = ring.queue.length - 1 := by
      rw [List.length_tail, length_cycle]
    rw [cycle_after, List.take_append_of_le_length (by omega)]
    conv_lhs => rw [cycle_eq, show ring.size = (ring.size - 1) + 1 by omega, List.take_succ_cons]

/-- Where the loop of `forEach` is after `offset` elements, and where it goes from there. -/
theorem visited_position {ring : Ring T} (wellFormed : ring.WellFormed) {offset : ℕ}
    (offset_lt : offset < ring.size) :
    (ring.tail + offset) % max 1 ring.capacity = position ring.queue.length ring.tail offset ∧
      position ring.queue.length ring.tail offset < ring.queue.length ∧
      position ring.queue.length ring.tail offset + 1 < 2 ^ 32 ∧
      (position ring.queue.length ring.tail offset + 1) % ring.capacity =
        (ring.tail + (offset + 1)) % max 1 ring.capacity := by
  have size_le := wellFormed.size_le
  have tail_lt := wellFormed.tail_lt
  have length_le := wellFormed.length_le
  have capacity_lt := wellFormed.capacity_lt
  have size_le_length := size_le_length wellFormed
  have tail_lt_length := tail_lt_length wellFormed (by omega)
  have capacity_max : max 1 ring.capacity = ring.capacity := by omega
  have index_eq : (ring.tail + offset) % max 1 ring.capacity =
      position ring.queue.length ring.tail offset := by
    rw [capacity_max]
    by_cases full : ring.queue.length = ring.capacity
    · rw [full]
      exact position_eq_mod (by omega) (by omega)
    · have := (wellFormed.growing (by omega)).1
      rw [Nat.mod_eq_of_lt (by omega), position, if_pos (by omega)]
  have index_lt : position ring.queue.length ring.tail offset < ring.queue.length := by
    unfold position
    split <;> omega
  refine ⟨index_eq, index_lt, by omega, ?_⟩
  rw [← index_eq, capacity_max, Nat.mod_add_mod, Nat.add_assoc]

/-- The loop of `forEach` updates the elements it passes and no other. -/
theorem forEachFrom_spec {ring : Ring T} (wellFormed : ring.WellFormed) (function : T → T)
    (remaining offset : ℕ) (queue : List T) (counts : offset + remaining = ring.size)
    (same_length : queue.length = ring.queue.length) :
    ∃ after, forEachFrom function ring.capacity remaining
        ((ring.tail + offset) % max 1 ring.capacity) queue = .ok after ∧
      after.length = ring.queue.length ∧
      cycle after ring.tail =
        (cycle queue ring.tail).take offset ++
          (((cycle queue ring.tail).drop offset).take remaining).map function ++
          (cycle queue ring.tail).drop ring.size := by
  induction remaining generalizing offset queue with
  | zero =>
      refine ⟨queue, rfl, same_length, ?_⟩
      have offset_eq : offset = ring.size := by omega
      simp [offset_eq]
  | succ remaining ih =>
      have size_le := wellFormed.size_le
      have size_le_length := size_le_length wellFormed
      have tail_lt_length := tail_lt_length wellFormed (by omega)
      rcases visited_position wellFormed (show offset < ring.size by omega) with
        ⟨index_eq, index_lt, index_bounded, next_index⟩
      rw [← same_length] at index_eq index_lt index_bounded next_index
      have index_wraps : toUnsigned (position queue.length ring.tail offset + 1) =
          position queue.length ring.tail offset + 1 := Nat.mod_eq_of_lt index_bounded
      rcases ih (offset + 1) (queue.modify (position queue.length ring.tail offset) function)
        (by omega) (by simpa using same_length) with ⟨after, loop_eq, after_length, after_cycle⟩
      refine ⟨after, ?_, after_length, ?_⟩
      · rw [forEachFrom, index_eq]
        simp only [vectorUpdateAt, index_lt, if_true, unsignedMod, index_wraps, next_index,
          show ring.capacity ≠ 0 by omega, if_false, bind, Except.bind]
        exact loop_eq
      · rw [after_cycle, cycle_modify function (by omega) (by omega)]
        have offset_lt : offset < (cycle queue ring.tail).length := by
          rw [length_cycle]
          omega
        rw [take_succ_modify function offset_lt, List.drop_modify_of_lt _ _ _ _ (by omega),
          List.drop_modify_of_lt _ _ _ _ (by omega), List.drop_eq_getElem_cons offset_lt,
          List.take_succ_cons, List.map_cons]
        simp

/-- `forEach` applies its function to the contained elements, oldest first. -/
theorem forEach_spec {ring : Ring T} (wellFormed : ring.WellFormed) (function : T → T) :
    ∃ after, ring.forEach function = .ok after ∧ after.WellFormed ∧
      after.toList = ring.toList.map function ∧ after.capacity = ring.capacity ∧
      after.size = ring.size := by
  have index_eq : ring.tail % max 1 ring.capacity = ring.tail :=
    Nat.mod_eq_of_lt wellFormed.tail_lt
  rcases forEachFrom_spec wellFormed function ring.size 0 ring.queue (by omega) rfl with
    ⟨queue, loop_eq, same_length, contents⟩
  rw [Nat.add_zero, index_eq] at loop_eq
  refine ⟨{ ring with queue }, ?_, ?_, ?_, rfl, rfl⟩
  · simp [forEach, loop_eq, pure, Except.pure, bind, Except.bind]
  · constructor
    · exact wellFormed.capacity_lt
    · exact wellFormed.size_le
    · simp only [same_length]
      exact wellFormed.length_le
    · exact wellFormed.tail_lt
    · simp only [same_length]
      exact wellFormed.growing
    · simp only [same_length]
      exact wellFormed.wrapped
  · have length_eq := length_toList wellFormed
    simp only [toList] at length_eq ⊢
    rw [contents, List.take_zero, List.nil_append, List.drop_zero,
      List.take_append_of_le_length (by simp only [List.length_map]; omega)]
    exact List.take_of_length_le (by simp only [List.length_map]; omega)

theorem WellFormed.put {ring after : Ring T} (wellFormed : ring.WellFormed) {element : T}
    (outcome : ring.put element = .ok after) : after.WellFormed := by
  cases space : ring.hasSpace with
  | false => simp [put_full space] at outcome
  | true =>
      rcases put_spec wellFormed space element with ⟨result, put_eq, result_wellFormed, -⟩
      rw [put_eq, Except.ok.injEq] at outcome
      exact outcome ▸ result_wellFormed

theorem WellFormed.get {ring after : Ring T} (wellFormed : ring.WellFormed) {element : T}
    (outcome : ring.get = .ok (element, after)) : after.WellFormed := by
  cases isEmpty : ring.empty with
  | true => simp [get_empty isEmpty] at outcome
  | false =>
      rcases get_spec wellFormed isEmpty with ⟨_, result, get_eq, result_wellFormed, -⟩
      simp only [get_eq, Except.ok.injEq, Prod.mk.injEq] at outcome
      exact outcome.2 ▸ result_wellFormed

theorem WellFormed.forEach {ring after : Ring T} (wellFormed : ring.WellFormed)
    {function : T → T} (outcome : ring.forEach function = .ok after) : after.WellFormed := by
  rcases forEach_spec wellFormed function with ⟨result, forEach_eq, result_wellFormed, -⟩
  rw [forEach_eq, Except.ok.injEq] at outcome
  exact outcome ▸ result_wellFormed

end Ring

/-- `class BoundedQueue`: a ring between two operations. -/
structure BoundedQueue (T : Type) extends Ring T where
  wellFormed : toRing.WellFormed

namespace BoundedQueue

variable {T : Type}

/-- The constructor; `capacity` is what the vector reports after `reserve`. -/
def create (capacity : ℕ) (capacity_lt : capacity < 2 ^ 32) : BoundedQueue T where
  queue := []
  capacity := capacity
  head := 0
  tail := 0
  size := 0
  wellFormed := by
    constructor
    · exact capacity_lt
    · exact Nat.zero_le _
    · exact Nat.zero_le _
    · exact Nat.lt_of_lt_of_le Nat.zero_lt_one (Nat.le_max_left _ _)
    · exact fun _ => ⟨rfl, rfl⟩
    · exact fun _ => (Nat.zero_mod _).symm

/-- A failed `put` leaves no queue behind, so the caller keeps the old one. -/
def put (queue : BoundedQueue T) (element : T) : Except QueueFault (BoundedQueue T) :=
  match outcome : queue.toRing.put element with
  | .ok after => .ok ⟨after, queue.wellFormed.put outcome⟩
  | .error fault => .error fault

/-- `get` for a queue that carries its invariant. -/
def get (queue : BoundedQueue T) : Except QueueFault (T × BoundedQueue T) :=
  match outcome : queue.toRing.get with
  | .ok (element, after) => .ok (element, ⟨after, queue.wellFormed.get outcome⟩)
  | .error fault => .error fault

/-- `forEach` never fails on a well-formed ring, so it returns the queue itself. -/
def forEach (queue : BoundedQueue T) (function : T → T) : BoundedQueue T :=
  match outcome : queue.toRing.forEach function with
  | .ok after => ⟨after, queue.wellFormed.forEach outcome⟩
  | .error fault => False.elim (by
      rcases Ring.forEach_spec queue.wellFormed function with ⟨after, forEach_eq, -⟩
      rw [forEach_eq] at outcome
      exact Except.noConfusion rfl rfl (heq_of_eq outcome))

/-- The FIFO contents, oldest element first. -/
def toList (queue : BoundedQueue T) : List T :=
  queue.toRing.toList

theorem size_eq_length (queue : BoundedQueue T) : queue.size = queue.toList.length :=
  (Ring.length_toList queue.wellFormed).symm

theorem empty_iff (queue : BoundedQueue T) : queue.empty = true ↔ queue.toList = [] := by
  rw [Ring.empty, beq_iff_eq, size_eq_length, List.length_eq_zero_iff]

theorem hasSpace_iff (queue : BoundedQueue T) :
    queue.hasSpace = true ↔ queue.toList.length < queue.capacity := by
  rw [Ring.hasSpace, decide_eq_true_eq, size_eq_length]

theorem length_le_capacity (queue : BoundedQueue T) :
    queue.toList.length ≤ queue.capacity := by
  rw [← size_eq_length]
  exact queue.wellFormed.size_le

@[simp]
theorem toList_create (capacity : ℕ) (capacity_lt : capacity < 2 ^ 32) :
    (create capacity capacity_lt : BoundedQueue T).toList = [] := rfl

theorem put_spec {queue : BoundedQueue T} (space : queue.hasSpace = true) (element : T) :
    ∃ after, queue.put element = .ok after ∧ after.toList = queue.toList ++ [element] ∧
      after.capacity = queue.capacity := by
  rcases Ring.put_spec queue.wellFormed space element with
    ⟨after, put_eq, after_wellFormed, contents, capacity_eq⟩
  refine ⟨⟨after, after_wellFormed⟩, ?_, contents, capacity_eq⟩
  unfold put
  split
  · rename_i other other_eq
    rw [put_eq, Except.ok.injEq] at other_eq
    subst other_eq
    rfl
  · rename_i fault fault_eq
    simp [put_eq] at fault_eq

theorem put_full {queue : BoundedQueue T} (full : queue.hasSpace = false) (element : T) :
    queue.put element = .error (.thrown (.ofStatus UV_EBUSY "queue is full")) := by
  unfold put
  split
  · rename_i after after_eq
    simp [Ring.put_full full] at after_eq
  · rename_i fault fault_eq
    rw [Ring.put_full full, Except.error.injEq] at fault_eq
    rw [fault_eq]

theorem get_spec {queue : BoundedQueue T} (nonempty : queue.empty = false) :
    ∃ element after, queue.get = .ok (element, after) ∧
      queue.toList = element :: after.toList ∧ after.capacity = queue.capacity := by
  rcases Ring.get_spec queue.wellFormed nonempty with
    ⟨element, after, get_eq, after_wellFormed, contents, capacity_eq⟩
  refine ⟨element, ⟨after, after_wellFormed⟩, ?_, contents, capacity_eq⟩
  unfold get
  split
  · rename_i other_element other other_eq
    simp only [get_eq, Except.ok.injEq, Prod.mk.injEq] at other_eq
    rcases other_eq with ⟨rfl, rfl⟩
    rfl
  · rename_i fault fault_eq
    simp [get_eq] at fault_eq

theorem get_empty {queue : BoundedQueue T} (empty : queue.empty = true) :
    queue.get = .error (.thrown (.ofStatus UV_EAGAIN "queue is empty")) := by
  unfold get
  split
  · rename_i element after after_eq
    simp [Ring.get_empty empty] at after_eq
  · rename_i fault fault_eq
    rw [Ring.get_empty empty, Except.error.injEq] at fault_eq
    rw [fault_eq]

theorem forEach_spec (queue : BoundedQueue T) (function : T → T) :
    (queue.forEach function).toList = queue.toList.map function ∧
      (queue.forEach function).capacity = queue.capacity := by
  rcases Ring.forEach_spec queue.wellFormed function with
    ⟨after, forEach_eq, after_wellFormed, contents, capacity_eq, -⟩
  unfold forEach
  split
  · rename_i other other_eq
    rw [forEach_eq, Except.ok.injEq] at other_eq
    subst other_eq
    exact ⟨contents, capacity_eq⟩
  · rename_i fault fault_eq
    simp [forEach_eq] at fault_eq

@[simp]
theorem toList_forEach (queue : BoundedQueue T) (function : T → T) :
    (queue.forEach function).toList = queue.toList.map function :=
  (queue.forEach_spec function).1

end BoundedQueue

end Uvco
