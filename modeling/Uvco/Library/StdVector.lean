import Mathlib.Data.Nat.Notation

/-!
# `std::vector` and its iterators

The contents of a `std::vector` with its capacity. An operation that invalidates
all iterators starts a new epoch; an iterator belongs to the epoch it was obtained
in. How much a full vector grows is left to the implementation.
-/

universe u

/-- A `std::vector`: its elements, and when its iterators were invalidated. -/
structure StdVector (α : Type u) where
  entries : List α := []
  capacity : ℕ
  /-- How often all iterators were invalidated. -/
  epoch : ℕ := 0
  fits : entries.length ≤ capacity

namespace StdVector

variable {α : Type u}

/-- An iterator that is not past the end. -/
structure Iterator where
  epoch : ℕ
  index : ℕ
deriving DecidableEq, Repr

/-- No operation has invalidated the iterator. -/
def Iterator.Valid (iterator : Iterator) (vector : StdVector α) : Prop :=
  iterator.epoch = vector.epoch

instance (iterator : Iterator) (vector : StdVector α) : Decidable (iterator.Valid vector) :=
  inferInstanceAs (Decidable (_ = _))

/-- `++iterator`. -/
def Iterator.next (iterator : Iterator) : Iterator :=
  { iterator with index := iterator.index + 1 }

/-- An empty vector after `reserve(count)`, which may reserve more. -/
def reserve (count capacity : ℕ) : StdVector α where
  capacity := max count capacity
  fits := Nat.zero_le _

variable (vector : StdVector α)

/-- `begin()`. -/
def begin : Iterator where
  epoch := vector.epoch
  index := 0

/-- There is no space for another element. -/
def Full : Prop :=
  vector.entries.length = vector.capacity

instance : Decidable vector.Full :=
  inferInstanceAs (Decidable (_ = _))

/-- Append an element; a full vector is reallocated, and the new capacity is up to `grown`. -/
def emplaceBack (value : α) (grown : ℕ) : StdVector α :=
  if space : vector.entries.length < vector.capacity then
    { vector with
      entries := vector.entries ++ [value]
      fits := by rw [List.length_append]; exact space }
  else
    { entries := vector.entries ++ [value]
      capacity := max grown (vector.entries.length + 1)
      epoch := vector.epoch + 1
      fits := by rw [List.length_append]; exact Nat.le_max_right .. }

/-- `clear()`, which keeps the capacity and invalidates all iterators. -/
def clear : StdVector α where
  capacity := vector.capacity
  epoch := vector.epoch + 1
  fits := Nat.zero_le _

variable {vector}

@[simp]
theorem entries_emplaceBack (value : α) (grown : ℕ) :
    (vector.emplaceBack value grown).entries = vector.entries ++ [value] := by
  unfold emplaceBack
  split <;> rfl

@[simp]
theorem begin_valid : vector.begin.Valid vector := rfl

@[simp]
theorem Iterator.next_valid {iterator : Iterator} : iterator.next.Valid vector ↔
    iterator.Valid vector := Iff.rfl

/-- A vector that is not full keeps its storage. -/
theorem emplaceBack_of_not_full (not_full : ¬vector.Full) (value : α) (grown : ℕ) :
    (vector.emplaceBack value grown).capacity = vector.capacity ∧
      (vector.emplaceBack value grown).epoch = vector.epoch := by
  have space : vector.entries.length < vector.capacity :=
    Nat.lt_of_le_of_ne vector.fits not_full
  simp only [emplaceBack, space, dif_pos, and_self]

/-- Iterators survive an append to a vector that is not full. -/
theorem Iterator.Valid.emplaceBack {iterator : Iterator} (valid : iterator.Valid vector)
    (not_full : ¬vector.Full) (value : α) (grown : ℕ) :
    iterator.Valid (vector.emplaceBack value grown) := by
  rw [Iterator.Valid, (emplaceBack_of_not_full not_full value grown).2]
  exact valid

end StdVector
