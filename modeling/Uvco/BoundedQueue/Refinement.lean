import Uvco.BoundedQueue
import Uvco.Library.ObjectRefinement
import Uvco.Library.StdVector

/-!
# The bounded queue as a bounded list

`CheckedRing` is `class BoundedQueue` with its `std::vector` and with everything that must
not happen in it: an access out of range, a modulo by zero, an `unsigned` that wraps
around, a failed assertion, a reallocation. None of them happens in any sequence of
operations, and the results are those of a list of bounded length.
-/

namespace Uvco

universe u

/-- What an operation of the queue must not run into. -/
inductive QueueHazard where
  /-- `std::out_of_range`, thrown by `std::vector::at`. -/
  | outOfRange
  | moduloByZero
  /-- `BOOST_ASSERT(tail_ <= head_)`. -/
  | assertion
  /-- The vector allocates other storage, so that `capacity()` changes. -/
  | reallocation
  | wrapAround
deriving DecidableEq, Repr

/-- `class BoundedQueue` with the storage of its vector. -/
structure CheckedRing (T : Type) where
  queue : StdVector T
  head : ℕ := 0
  tail : ℕ := 0
  size : ℕ := 0

namespace CheckedRing

variable {T S E : Type}

/-- The constructor; `reserve` may reserve more than it is asked for. -/
def create (requested reserved : ℕ) : CheckedRing T where
  queue := .reserve requested reserved

/-- `++` of an `unsigned`. -/
def increment (value : ℕ) : Except QueueHazard ℕ :=
  if value + 1 < 2 ^ 32 then .ok (value + 1) else .error .wrapAround

/-- `--` of an `unsigned`. -/
def decrement (value : ℕ) : Except QueueHazard ℕ :=
  if value = 0 then .error .wrapAround else .ok (value - 1)

/-- `%` of two `unsigned` values. -/
def remainder (value modulus : ℕ) : Except QueueHazard ℕ :=
  if modulus = 0 then .error .moduloByZero else .ok (value % modulus)

/-- `std::vector::at`, for reading. -/
def elementAt (vector : StdVector T) (index : ℕ) : Except QueueHazard T :=
  match vector.entries[index]? with
  | some element => .ok element
  | none => .error .outOfRange

/-- `std::vector::at`, for writing. -/
def assignAt (vector : StdVector T) (index : ℕ) (element : T) : Except QueueHazard (StdVector T) :=
  if index < vector.entries.length then
    .ok { vector with
      entries := vector.entries.modify index fun _ => element
      fits := by rw [List.length_modify]; exact vector.fits }
  else .error .outOfRange

/-- `std::vector::push_back`. -/
def pushBack (vector : StdVector T) (element : T) : Except QueueHazard (StdVector T) :=
  if vector.Full then .error .reallocation else .ok (vector.emplaceBack element 0)

variable (ring : CheckedRing T)

/-- `capacity()`, converted to `unsigned`. -/
def capacity : ℕ :=
  toUnsigned ring.queue.capacity

/-- `size() == 0`. -/
def empty : Bool :=
  ring.size == 0

/-- `size() < capacity()`. -/
def hasSpace : Bool :=
  ring.size < ring.capacity

/-- What `put` does to the vector. -/
def store (element : T) : Except QueueHazard (StdVector T) :=
  if ring.queue.entries.length < ring.capacity then
    if ring.tail ≤ ring.head then pushBack ring.queue element else .error .assertion
  else assignAt ring.queue ring.head element

/-- `put`, with the exception that it throws. -/
def put (element : T) : Except QueueHazard (Option UvcoException × CheckedRing T) :=
  if ring.hasSpace then do
    let queue ← ring.store element
    let head ← remainder (← increment ring.head) ring.capacity
    let size ← increment ring.size
    return (none, { ring with queue, head, size })
  else
    return (some (.ofStatus UV_EBUSY "queue is full"), ring)

/-- `get`, with its result or the exception that it throws. -/
def get : Except QueueHazard (Except UvcoException T × CheckedRing T) :=
  if ring.empty then
    return (.error (.ofStatus UV_EAGAIN "queue is empty"), ring)
  else do
    let element ← elementAt ring.queue ring.tail
    let tail ← remainder (← increment ring.tail) ring.capacity
    let size ← decrement ring.size
    return (.ok element, { ring with tail, size })

/-- What is passed to `forEach`: it updates an element in place and a state of its own, and may
throw. -/
abbrev Visitor (T S E : Type) :=
  S → T → (S × T) × Option E

/-- The loop of `forEach`; `count` is `i`. An exception of the visitor ends it. -/
def forEachFrom (function : Visitor T S E) (capacity : ℕ) :
    (remaining count index : ℕ) → S → StdVector T →
      Except QueueHazard ((S × Option E) × StdVector T)
  | 0, _, _, state, queue => return ((state, none), queue)
  | remaining + 1, count, index, state, queue => do
      let element ← elementAt queue index
      let ((state, element), thrown) := function state element
      let queue ← assignAt queue index element
      match thrown with
      | some exception => return ((state, some exception), queue)
      | none =>
          let index ← remainder (← increment index) capacity
          let count ← increment count
          forEachFrom function capacity remaining count index state queue

/-- `forEach`; the vector is written back even if the visitor throws. -/
def forEach (function : Visitor T S E) (state : S) :
    Except QueueHazard ((S × Option E) × CheckedRing T) := do
  let (result, queue) ← forEachFrom function ring.capacity ring.size 0 ring.tail state ring.queue
  return (result, { ring with queue })

end CheckedRing

/-! ## The specification -/

/-- The public operations of the queue. -/
inductive QueueOperation (T S E : Type) where
  | put (element : T)
  | get
  | forEach (function : CheckedRing.Visitor T S E) (state : S)

/-- What the caller of an operation sees. -/
inductive QueueResult (T S E : Type) where
  | done
  | obtained (element : T)
  | threw (exception : UvcoException)
  /-- The state that the visitor ends with, and what it has thrown. -/
  | visited (state : S) (thrown : Option E)

/-- A visitor is applied to elements in turn, until it throws. -/
def visit {T S E : Type} (function : CheckedRing.Visitor T S E) (state : S) :
    List T → (S × Option E) × List T
  | [] => ((state, none), [])
  | element :: rest =>
      let ((state, element), thrown) := function state element
      match thrown with
      | some exception => ((state, some exception), element :: rest)
      | none =>
          let (result, rest) := visit function state rest
          (result, element :: rest)

/-- A list of at most `capacity` elements, the oldest first. -/
def boundedList (T S E : Type) (capacity : ℕ) :
    SpecifiedObject (List T) (QueueOperation T S E) (QueueResult T S E) where
  apply contents
    | .put element =>
        if contents.length < capacity then (.done, contents ++ [element])
        else (.threw (.ofStatus UV_EBUSY "queue is full"), contents)
    | .get =>
        match contents with
        | [] => (.threw (.ofStatus UV_EAGAIN "queue is empty"), [])
        | oldest :: rest => (.obtained oldest, rest)
    | .forEach function state =>
        let ((state, thrown), contents) := visit function state contents
        (.visited state thrown, contents)

/-- The queue itself. -/
def checkedQueue (T S E : Type) :
    HazardousObject (CheckedRing T) (QueueOperation T S E) (QueueResult T S E) QueueHazard where
  apply ring
    | .put element => do
        let (thrown, ring) ← ring.put element
        return (thrown.elim .done .threw, ring)
    | .get => do
        let (result, ring) ← ring.get
        match result with
        | .ok element => return (.obtained element, ring)
        | .error exception => return (.threw exception, ring)
    | .forEach function state => do
        let ((state, thrown), ring) ← ring.forEach function state
        return (.visited state thrown, ring)

namespace CheckedRing

variable {T S E : Type} {ring : CheckedRing T}

/-- The ring without what is only checked. -/
def toRing (ring : CheckedRing T) : Ring T where
  queue := ring.queue.entries
  capacity := ring.queue.capacity
  head := ring.head
  tail := ring.tail
  size := ring.size

/-- The ring holds these elements, in the storage that the constructor has reserved. -/
structure Represents (capacity : ℕ) (ring : CheckedRing T) (contents : List T) : Prop where
  wellFormed : ring.toRing.WellFormed
  contents_eq : ring.toRing.toList = contents
  capacity_eq : ring.queue.capacity = capacity
  allocated_once : ring.queue.epoch = 0

theorem increment_of_lt {value : ℕ} (bounded : value + 1 < 2 ^ 32) :
    increment value = .ok (value + 1) :=
  if_pos bounded

theorem remainder_of_pos (value : ℕ) {modulus : ℕ} (positive : 0 < modulus) :
    remainder value modulus = .ok (value % modulus) :=
  if_neg (Nat.ne_of_gt positive)

theorem capacity_eq (wellFormed : ring.toRing.WellFormed) :
    ring.capacity = ring.queue.capacity :=
  Nat.mod_eq_of_lt wellFormed.capacity_lt

theorem hasSpace_iff (wellFormed : ring.toRing.WellFormed) :
    ring.hasSpace = true ↔ ring.size < ring.queue.capacity := by
  rw [hasSpace, capacity_eq wellFormed, decide_eq_true_eq]

/-- In the growing phase an element is appended to a vector with reserved storage; in the wrapped
phase the position is in range. -/
theorem store_spec (wellFormed : ring.toRing.WellFormed)
    (space : ring.size < ring.queue.capacity) (element : T) :
    ∃ queue, ring.store element = .ok queue ∧ queue.capacity = ring.queue.capacity ∧
      queue.epoch = ring.queue.epoch ∧
      ring.toRing.put element = .ok { ring.toRing with
        queue := queue.entries
        head := (ring.head + 1) % ring.queue.capacity
        size := ring.size + 1 } := by
  have fits := wellFormed.length_le
  by_cases grows : ring.queue.entries.length < ring.queue.capacity
  · rcases wellFormed.growing grows with ⟨tail_size, head_eq⟩
    have asserted : ring.tail ≤ ring.head := by
      change ring.tail + ring.size = ring.queue.entries.length at tail_size
      change ring.head = ring.queue.entries.length at head_eq
      omega
    have not_full : ¬ring.queue.Full := Nat.ne_of_lt grows
    rcases StdVector.emplaceBack_of_not_full not_full element 0 with ⟨capacity_kept, epoch_kept⟩
    refine ⟨ring.queue.emplaceBack element 0, ?_, capacity_kept, epoch_kept, ?_⟩
    · rw [store, capacity_eq wellFormed, if_pos grows, if_pos asserted, pushBack, if_neg not_full]
    · rw [StdVector.entries_emplaceBack]
      exact Ring.put_growing wellFormed space grows element
  · have full : ring.queue.entries.length = ring.queue.capacity := by
      change ring.queue.entries.length ≤ ring.queue.capacity at fits
      omega
    have in_range : ring.head < ring.queue.entries.length :=
      Ring.head_lt_length wellFormed full space
    refine ⟨{ ring.queue with
      entries := ring.queue.entries.modify ring.head fun _ => element
      fits := by rw [List.length_modify]; exact ring.queue.fits }, ?_, rfl, rfl, ?_⟩
    · rw [store, capacity_eq wellFormed, if_neg grows, assignAt]
      exact if_pos in_range
    · exact Ring.put_wrapped wellFormed space full element

theorem put_refines {capacity : ℕ} {contents : List T}
    (represents : Represents capacity ring contents) (element : T) :
    ∃ after, (checkedQueue T S E).apply ring (.put element) =
        .ok (((boundedList T S E capacity).apply contents (.put element)).1, after) ∧
      Represents capacity after ((boundedList T S E capacity).apply contents (.put element)).2 := by
  have wellFormed := represents.wellFormed
  have capacity_lt := wellFormed.capacity_lt
  have length_eq := Ring.length_toList wellFormed
  rw [represents.contents_eq] at length_eq
  change contents.length = ring.size at length_eq
  change ring.queue.capacity < 2 ^ 32 at capacity_lt
  by_cases space : ring.size < ring.queue.capacity
  · have has_space : ring.hasSpace = true := (hasSpace_iff wellFormed).mpr space
    have specified : contents.length < capacity := by
      rw [length_eq, ← represents.capacity_eq]
      exact space
    rcases store_spec wellFormed space element with
      ⟨queue, store_eq, capacity_kept, epoch_kept, put_eq⟩
    rcases Ring.put_spec wellFormed (decide_eq_true space) element with
      ⟨stored, stored_eq, stored_wellFormed, stored_contents, -⟩
    obtain rfl := Except.ok.inj (put_eq.symm.trans stored_eq)
    have head_lt : ring.head < ring.queue.capacity := Ring.head_lt_capacity wellFormed space
    have head_next := increment_of_lt (show ring.head + 1 < 2 ^ 32 by omega)
    have size_next := increment_of_lt (show ring.size + 1 < 2 ^ 32 by omega)
    have wrapped := remainder_of_pos (ring.head + 1) (show 0 < ring.queue.capacity by omega)
    refine ⟨{ ring with
      queue
      head := (ring.head + 1) % ring.queue.capacity
      size := ring.size + 1 }, ?_, ?_⟩
    · simp only [checkedQueue, boundedList, put, has_space, if_true, store_eq, head_next, size_next,
        wrapped, capacity_eq wellFormed, specified, bind, Except.bind]
      rfl
    · simp only [boundedList, specified, if_true]
      constructor
      · rw [toRing, capacity_kept]
        exact stored_wellFormed
      · rw [← represents.contents_eq, ← stored_contents, toRing, capacity_kept]
        rfl
      · exact capacity_kept.trans represents.capacity_eq
      · exact epoch_kept.trans represents.allocated_once
  · have no_space : ring.hasSpace = false := by
      rw [← Bool.not_eq_true, hasSpace_iff wellFormed]
      exact space
    have specified : ¬contents.length < capacity := by
      rw [length_eq, ← represents.capacity_eq]
      exact space
    refine ⟨ring, ?_, ?_⟩
    · simp only [checkedQueue, boundedList, put, no_space, specified]
      rfl
    · simp only [boundedList, specified, if_false]
      exact represents

theorem elementAt_of_lt {vector : StdVector T} {index : ℕ}
    (in_range : index < vector.entries.length) :
    elementAt vector index = .ok vector.entries[index] := by
  simp only [elementAt, List.getElem?_eq_getElem in_range]

theorem get_refines {capacity : ℕ} {contents : List T}
    (represents : Represents capacity ring contents) :
    ∃ after, (checkedQueue T S E).apply ring .get =
        .ok (((boundedList T S E capacity).apply contents .get).1, after) ∧
      Represents capacity after ((boundedList T S E capacity).apply contents .get).2 := by
  have wellFormed := represents.wellFormed
  have length_eq := Ring.length_toList wellFormed
  rw [represents.contents_eq] at length_eq
  change contents.length = ring.size at length_eq
  cases contents with
  | nil =>
      have is_empty : ring.empty = true := by
        rw [empty, beq_iff_eq, ← length_eq, List.length_nil]
      refine ⟨ring, ?_, represents⟩
      simp only [checkedQueue, boundedList, get, is_empty, if_true]
      rfl
  | cons oldest rest =>
      have size_pos : 0 < ring.size := by
        rw [← length_eq]
        exact Nat.succ_pos _
      have not_empty : ring.empty = false := by
        rw [empty, beq_eq_false_iff_ne]
        omega
      have size_le : ring.size ≤ ring.queue.capacity := wellFormed.size_le
      have capacity_lt : ring.queue.capacity < 2 ^ 32 := wellFormed.capacity_lt
      have length_le : ring.queue.entries.length ≤ ring.queue.capacity := wellFormed.length_le
      have in_range : ring.tail < ring.queue.entries.length :=
        Ring.tail_lt_length wellFormed size_pos
      rcases Ring.get_spec wellFormed not_empty with
        ⟨element, taken, taken_eq, taken_wellFormed, taken_contents, -⟩
      rw [Ring.get_nonempty wellFormed size_pos in_range, Except.ok.injEq, Prod.mk.injEq]
        at taken_eq
      rcases taken_eq with ⟨rfl, rfl⟩
      rw [represents.contents_eq, List.cons.injEq] at taken_contents
      rcases taken_contents with ⟨oldest_eq, rest_eq⟩
      have tail_next := increment_of_lt (show ring.tail + 1 < 2 ^ 32 by omega)
      have wrapped := remainder_of_pos (ring.tail + 1) (show 0 < ring.queue.capacity by omega)
      have size_before : decrement ring.size = .ok (ring.size - 1) := if_neg (Nat.ne_of_gt size_pos)
      refine ⟨{ ring with
        tail := (ring.tail + 1) % ring.queue.capacity
        size := ring.size - 1 }, ?_, ?_⟩
      · simp only [checkedQueue, boundedList, get, not_empty, elementAt_of_lt in_range, tail_next,
          wrapped, size_before, capacity_eq wellFormed, oldest_eq, bind, Except.bind]
        rfl
      · exact ⟨taken_wellFormed, rest_eq.symm, represents.capacity_eq, represents.allocated_once⟩

theorem visit_length (function : Visitor T S E) (state : S) (contents : List T) :
    (visit function state contents).2.length = contents.length := by
  induction contents generalizing state with
  | nil => rfl
  | cons element rest ih =>
      rcases called : function state element with ⟨⟨after, updated⟩, _ | exception⟩
      · simp only [visit, called, List.length_cons, ih]
      · simp only [visit, called, List.length_cons]

theorem assignAt_of_lt {vector : StdVector T} {index : ℕ}
    (in_range : index < vector.entries.length) (element : T) :
    ∃ after, assignAt vector index element = .ok after ∧
      after.entries = vector.entries.modify index (fun _ => element) ∧
      after.capacity = vector.capacity ∧ after.epoch = vector.epoch :=
  ⟨_, if_pos in_range, rfl, rfl, rfl⟩

/-- The element that `forEach` visits at an offset; the vector may have been changed before, but
not its length. -/
theorem visited_element (wellFormed : ring.toRing.WellFormed) {offset : ℕ}
    (offset_lt : offset < ring.size) {queue : StdVector T}
    (same_length : queue.entries.length = ring.queue.entries.length) :
    ∃ (index_lt : Ring.position queue.entries.length ring.tail offset < queue.entries.length)
      (in_cycle : offset < (Ring.cycle queue.entries ring.tail).length),
      (ring.tail + offset) % max 1 ring.queue.capacity =
        Ring.position queue.entries.length ring.tail offset ∧
      Ring.position queue.entries.length ring.tail offset + 1 < 2 ^ 32 ∧
      (Ring.position queue.entries.length ring.tail offset + 1) % ring.queue.capacity =
        (ring.tail + (offset + 1)) % max 1 ring.queue.capacity ∧
      queue.entries[Ring.position queue.entries.length ring.tail offset] =
        (Ring.cycle queue.entries ring.tail)[offset] := by
  have size_le_length : ring.size ≤ ring.queue.entries.length := Ring.size_le_length wellFormed
  have tail_lt : ring.tail < ring.queue.entries.length :=
    Ring.tail_lt_length wellFormed (show 0 < ring.size by omega)
  rcases Ring.visited_position wellFormed offset_lt with
    ⟨index_eq, index_lt, index_bounded, next_index⟩
  change (ring.tail + offset) % max 1 ring.queue.capacity =
    Ring.position ring.queue.entries.length ring.tail offset at index_eq
  change Ring.position ring.queue.entries.length ring.tail offset <
    ring.queue.entries.length at index_lt
  change Ring.position ring.queue.entries.length ring.tail offset + 1 < 2 ^ 32 at index_bounded
  change (Ring.position ring.queue.entries.length ring.tail offset + 1) %
    ring.queue.capacity = (ring.tail + (offset + 1)) % max 1 ring.queue.capacity at next_index
  rw [← same_length] at index_eq index_lt index_bounded next_index
  have in_cycle : offset < (Ring.cycle queue.entries ring.tail).length := by
    rw [Ring.length_cycle]
    omega
  refine ⟨index_lt, in_cycle, index_eq, index_bounded, next_index, ?_⟩
  have at_position : (Ring.cycle queue.entries ring.tail)[offset]? =
      queue.entries[Ring.position queue.entries.length ring.tail offset]? :=
    Ring.getElem?_cycle (by omega) (by omega)
  rw [List.getElem?_eq_getElem in_cycle, List.getElem?_eq_getElem index_lt,
    Option.some.injEq] at at_position
  exact at_position.symm

/-- The loop of `forEach` visits the elements that it has not passed yet, oldest first. -/
theorem forEachFrom_spec (wellFormed : ring.toRing.WellFormed) (function : Visitor T S E)
    (remaining offset : ℕ) (state : S) (queue : StdVector T)
    (counts : offset + remaining = ring.size)
    (same_length : queue.entries.length = ring.queue.entries.length) :
    ∃ after visited, visited = visit function state
        (((Ring.cycle queue.entries ring.tail).drop offset).take remaining) ∧
      forEachFrom function ring.queue.capacity remaining offset
        ((ring.tail + offset) % max 1 ring.queue.capacity) state queue = .ok (visited.1, after) ∧
      after.capacity = queue.capacity ∧ after.epoch = queue.epoch ∧
      after.entries.length = queue.entries.length ∧
      Ring.cycle after.entries ring.tail = (Ring.cycle queue.entries ring.tail).take offset ++
        visited.2 ++ (Ring.cycle queue.entries ring.tail).drop ring.size := by
  induction remaining generalizing offset state queue with
  | zero =>
      have offset_eq : offset = ring.size := by omega
      refine ⟨queue, _, rfl, rfl, rfl, rfl, rfl, ?_⟩
      simp [visit, offset_eq]
  | succ remaining ih =>
      have size_le : ring.size ≤ ring.queue.capacity := wellFormed.size_le
      have capacity_lt : ring.queue.capacity < 2 ^ 32 := wellFormed.capacity_lt
      have size_le_length : ring.size ≤ ring.queue.entries.length := Ring.size_le_length wellFormed
      have tail_lt : ring.tail < ring.queue.entries.length :=
        Ring.tail_lt_length wellFormed (show 0 < ring.size by omega)
      rcases visited_element wellFormed (show offset < ring.size by omega) same_length with
        ⟨index_lt, offset_lt, index_eq, index_bounded, next_index, element_eq⟩
      have left_eq : ((Ring.cycle queue.entries ring.tail).drop offset).take (remaining + 1) =
          (Ring.cycle queue.entries ring.tail)[offset] ::
            ((Ring.cycle queue.entries ring.tail).drop (offset + 1)).take remaining := by
        rw [List.drop_eq_getElem_cons offset_lt, List.take_succ_cons]
      rcases called : function state (Ring.cycle queue.entries ring.tail)[offset] with
        ⟨⟨next_state, updated⟩, thrown⟩
      rcases assignAt_of_lt index_lt updated with
        ⟨assigned, assign_eq, entries_eq, capacity_kept, epoch_kept⟩
      have assigned_cycle : Ring.cycle assigned.entries ring.tail =
          (Ring.cycle queue.entries ring.tail).modify offset (fun _ => updated) := by
        rw [entries_eq]
        exact Ring.cycle_modify _ (by omega) (by omega)
      have assigned_length : assigned.entries.length = queue.entries.length := by
        rw [entries_eq, List.length_modify]
      rw [left_eq, index_eq]
      cases thrown with
      | some exception =>
          refine ⟨assigned, _, rfl, ?_, capacity_kept, epoch_kept, assigned_length, ?_⟩
          · simp only [forEachFrom, elementAt_of_lt index_lt, element_eq, called, assign_eq, visit,
              bind, Except.bind, pure, Except.pure]
          · have rest_eq : (Ring.cycle queue.entries ring.tail).drop (offset + 1) =
                ((Ring.cycle queue.entries ring.tail).drop (offset + 1)).take remaining ++
                  (Ring.cycle queue.entries ring.tail).drop ring.size := by
              have split := List.take_append_drop remaining
                ((Ring.cycle queue.entries ring.tail).drop (offset + 1))
              rw [List.drop_drop, show offset + 1 + remaining = ring.size by omega] at split
              exact split.symm
            rw [assigned_cycle, List.modify_eq_take_cons_drop offset_lt]
            simp only [visit, called, List.append_assoc, List.cons_append]
            rw [← rest_eq]
      | none =>
          rcases ih (offset + 1) next_state assigned (by omega)
            (assigned_length.trans same_length) with
            ⟨after, visited, visited_eq, loop_eq, after_capacity, after_epoch, after_length,
              after_cycle⟩
          rw [assigned_cycle, List.drop_modify_of_lt _ _ _ _ (by omega)] at visited_eq
          rw [assigned_cycle, Ring.take_succ_modify _ offset_lt,
            List.drop_modify_of_lt _ _ _ _ (by omega)] at after_cycle
          refine ⟨after, _, rfl, ?_, after_capacity.trans capacity_kept,
            after_epoch.trans epoch_kept, after_length.trans assigned_length, ?_⟩
          · have index_next := increment_of_lt index_bounded
            have count_next := increment_of_lt (show offset + 1 < 2 ^ 32 by omega)
            have wrapped := remainder_of_pos
              (Ring.position queue.entries.length ring.tail offset + 1)
              (show 0 < ring.queue.capacity by omega)
            simp only [forEachFrom, elementAt_of_lt index_lt, element_eq, called, assign_eq, visit,
              index_next, count_next, wrapped, next_index, loop_eq, visited_eq, bind, Except.bind]
          · rw [after_cycle, visited_eq]
            simp only [visit, called, List.append_assoc, List.cons_append, List.nil_append]

theorem forEach_refines {capacity : ℕ} {contents : List T}
    (represents : Represents capacity ring contents) (function : Visitor T S E) (state : S) :
    ∃ after, (checkedQueue T S E).apply ring (.forEach function state) =
        .ok (((boundedList T S E capacity).apply contents (.forEach function state)).1, after) ∧
      Represents capacity after
        ((boundedList T S E capacity).apply contents (.forEach function state)).2 := by
  have wellFormed := represents.wellFormed
  have tail_lt : ring.tail < max 1 ring.queue.capacity := wellFormed.tail_lt
  rcases forEachFrom_spec wellFormed function ring.size 0 state ring.queue (by omega) rfl with
    ⟨queue, visited, visited_eq, loop_eq, capacity_kept, epoch_kept, length_kept, contents_after⟩
  have contents_before : (Ring.cycle ring.queue.entries ring.tail).take ring.size = contents :=
    represents.contents_eq
  rw [List.drop_zero, contents_before] at visited_eq
  subst visited_eq
  rw [Nat.add_zero, Nat.mod_eq_of_lt tail_lt] at loop_eq
  rw [List.take_zero, List.nil_append] at contents_after
  have length_eq : contents.length = ring.size := by
    rw [← represents.contents_eq]
    exact Ring.length_toList wellFormed
  refine ⟨{ ring with queue }, ?_, ?_, ?_, ?_, ?_⟩
  · simp only [checkedQueue, boundedList, forEach, capacity_eq wellFormed, loop_eq, bind,
      Except.bind]
    rfl
  · constructor
    · change queue.capacity < 2 ^ 32
      rw [capacity_kept]
      exact wellFormed.capacity_lt
    · change ring.size ≤ queue.capacity
      rw [capacity_kept]
      exact wellFormed.size_le
    · exact queue.fits
    · change ring.tail < max 1 queue.capacity
      rw [capacity_kept]
      exact tail_lt
    · intro grows
      change queue.entries.length < queue.capacity at grows
      rw [length_kept, capacity_kept] at grows
      change ring.tail + ring.size = queue.entries.length ∧ ring.head = queue.entries.length
      rw [length_kept]
      exact wellFormed.growing grows
    · intro full
      change queue.entries.length = queue.capacity at full
      rw [length_kept, capacity_kept] at full
      change ring.head = (ring.tail + ring.size) % queue.capacity
      rw [capacity_kept]
      exact wellFormed.wrapped full
  · change (Ring.cycle queue.entries ring.tail).take ring.size = _
    have visited_length : (visit function state contents).2.length = ring.size :=
      (visit_length function state contents).trans length_eq
    rw [contents_after, List.take_append_of_le_length (Nat.le_of_eq visited_length.symm)]
    exact List.take_of_length_le (Nat.le_of_eq visited_length)
  · exact capacity_kept.trans represents.capacity_eq
  · exact epoch_kept.trans represents.allocated_once

theorem create_represents {requested reserved : ℕ} (capacity_lt : max requested reserved < 2 ^ 32) :
    Represents (max requested reserved) (create requested reserved : CheckedRing T) [] where
  wellFormed := (BoundedQueue.create (max requested reserved) capacity_lt).wellFormed
  contents_eq := rfl
  capacity_eq := rfl
  allocated_once := rfl

/-- No operation runs into a hazard, and the results are those of a bounded list. -/
theorem refines_boundedList {requested reserved : ℕ}
    (capacity_lt : max requested reserved < 2 ^ 32) (operations : List (QueueOperation T S E)) :
    let specified := (boundedList T S E (max requested reserved)).run [] operations
    ∃ after, (checkedQueue T S E).run (create requested reserved) operations =
        .ok (specified.1, after) ∧
      Represents (max requested reserved) after specified.2 ∧
      specified.2.length ≤ max requested reserved := by
  have refines : ∀ ring contents operation,
      Represents (max requested reserved) ring contents →
      ∃ after, (checkedQueue T S E).apply ring operation =
          .ok (((boundedList T S E (max requested reserved)).apply contents operation).1, after) ∧
        Represents (max requested reserved) after
          ((boundedList T S E (max requested reserved)).apply contents operation).2 := by
    intro ring contents operation represents
    cases operation with
    | put element => exact put_refines represents element
    | get => exact get_refines represents
    | forEach function state => exact forEach_refines represents function state
  rcases HazardousObject.run_refines refines operations (create_represents capacity_lt) with
    ⟨after, run_eq, represents⟩
  refine ⟨after, run_eq, represents, ?_⟩
  rw [← represents.contents_eq, ← represents.capacity_eq,
    Ring.length_toList represents.wellFormed]
  exact represents.wellFormed.size_le

/-- A third element is refused until the first one is taken; then the ring wraps around. -/
theorem refines_boundedList_two :
    ∃ after, (checkedQueue ℕ ℕ String).run (create 2 0) [.put 7, .put 8, .put 9, .get, .put 9,
        .forEach (fun sum element => ((sum + element, element + 1), none)) 0, .get] =
      .ok ([.done, .done, .threw (.ofStatus UV_EBUSY "queue is full"), .obtained 7, .done,
        .visited 17 none, .obtained 9], after) := by
  rcases refines_boundedList (show max 2 0 < 2 ^ 32 by decide)
    [.put 7, .put 8, .put 9, .get, .put 9,
      .forEach (fun sum element => ((sum + element, element + 1), (none : Option String))) 0, .get]
    with ⟨after, run_eq, -⟩
  exact ⟨after, run_eq⟩

end CheckedRing

end Uvco
