import Mathlib.Data.Nat.Notation
import Uvco.Library.Transition

/-!
# Bounded first-in-first-out buffers

A buffer of bounded capacity with its history: everything that was ever put in
and everything that was ever taken out. Whatever implements such a buffer has
the properties below as soon as its steps are matched by puts and takes.
-/

universe u

/-- A bounded buffer with its history. -/
structure Fifo (T : Type u) where
  capacity : ℕ
  /-- The values in the buffer, the oldest first. -/
  held : List T := []
  /-- All values put in, in order. -/
  accepted : List T := []
  /-- All values taken out, in order. -/
  delivered : List T := []

namespace Fifo

variable {T : Type u}

/-- One operation on the queue. -/
inductive Step (T : Type u) where
  | put (value : T)
  | take

/-- Adds a value at the end. -/
def put (fifo : Fifo T) (value : T) : Fifo T :=
  { fifo with held := fifo.held ++ [value], accepted := fifo.accepted ++ [value] }

/-- Removes the oldest value, if there is one. -/
def take (fifo : Fifo T) : Fifo T :=
  { fifo with held := fifo.held.tail, delivered := fifo.delivered ++ fifo.held.head?.toList }

variable (T) in
/-- A value is put in only if there is space, and taken only if there is one. -/
def system : TransitionSystem (Fifo T) (Step T) where
  Initial fifo := fifo.held = [] ∧ fifo.accepted = [] ∧ fifo.delivered = []
  Enabled fifo
    | .put _ => fifo.held.length < fifo.capacity
    | .take => fifo.held ≠ []
  perform fifo
    | .put value => fifo.put value
    | .take => fifo.take

/-- Nothing is lost, duplicated or reordered, and the capacity is kept. -/
theorem delivered_append_held {fifo : Fifo T} (reached : (system T).Reachable fifo) :
    fifo.delivered ++ fifo.held = fifo.accepted ∧ fifo.held.length ≤ fifo.capacity := by
  refine TransitionSystem.Reachable.invariant
    (fun fifo => fifo.delivered ++ fifo.held = fifo.accepted ∧
      fifo.held.length ≤ fifo.capacity) ?_ ?_ reached
  · rintro start ⟨held, accepted, delivered⟩
    simp [held, accepted, delivered]
  · rintro before step ⟨order, bounded⟩ enabled
    cases step with
    | put value =>
        have space : before.held.length < before.capacity := enabled
        refine ⟨?_, ?_⟩
        · change before.delivered ++ (before.held ++ [value]) = before.accepted ++ [value]
          rw [← List.append_assoc, order]
        · change (before.held ++ [value]).length ≤ before.capacity
          rw [List.length_append, List.length_singleton]
          omega
    | take =>
        have nonempty : before.held ≠ [] := enabled
        rcases List.exists_cons_of_ne_nil nonempty with ⟨oldest, rest, held_eq⟩
        refine ⟨?_, ?_⟩
        · change before.delivered ++ before.held.head?.toList ++ before.held.tail = before.accepted
          rw [← order, held_eq]
          simp
        · change before.held.tail.length ≤ before.capacity
          rw [List.length_tail]
          omega

end Fifo
