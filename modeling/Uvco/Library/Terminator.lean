import Mathlib.Init

/-!
# Reading up to a terminator

What a reader obtains who is given the start of some text and reads up to the first
terminator, wherever the text was meant to end.
-/

universe u

variable {α : Type u} [DecidableEq α]

/-- The elements up to the first terminator, which is the last of them, or all elements if there is
no terminator. -/
def readUntil (terminator : α) : List α → List α
  | [] => []
  | first :: rest =>
      if first = terminator then [first] else first :: readUntil terminator rest

namespace ReadUntil

variable {terminator : α} {front : List α}

/-- A terminator inside the text hides what follows the text. -/
theorem append_of_mem (mem : terminator ∈ front) (back : List α) :
    readUntil terminator (front ++ back) = readUntil terminator front := by
  induction front with
  | nil => simp at mem
  | cons first rest ih =>
      by_cases hit : first = terminator
      · simp [readUntil, hit]
      · have rest_mem : terminator ∈ rest :=
          (List.mem_cons.mp mem).resolve_left (Ne.symm hit)
        simp [readUntil, hit, ih rest_mem]

theorem append_of_not_mem (absent : terminator ∉ front) (back : List α) :
    readUntil terminator (front ++ back) = front ++ readUntil terminator back := by
  induction front with
  | nil => rfl
  | cons first rest ih =>
      have first_other : first ≠ terminator := by
        rintro rfl
        exact absent List.mem_cons_self
      have rest_absent : terminator ∉ rest := fun mem => absent (List.mem_cons_of_mem _ mem)
      simp only [List.cons_append, readUntil, first_other, if_false, ih rest_absent]

/-- Two readers of the same text obtain the same if and only if a terminator is in the text, or
what follows the text is the same up to the first terminator. -/
theorem append_eq_iff (front back back' : List α) :
    readUntil terminator (front ++ back) = readUntil terminator (front ++ back') ↔
      terminator ∈ front ∨ readUntil terminator back = readUntil terminator back' := by
  by_cases mem : terminator ∈ front
  · simp [append_of_mem mem, mem]
  · rw [append_of_not_mem mem, append_of_not_mem mem]
    simp [mem]

end ReadUntil
