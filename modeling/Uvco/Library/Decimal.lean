import Mathlib.Data.Nat.Digits.Defs
import Mathlib.Data.Nat.Digits.Lemmas
import Mathlib.Tactic.Common

/-!
# Decimal numbers

Numbers as texts of decimal digits without leading zeros, over any alphabet that has
ten digits.
-/

universe u

/-- The digits of an alphabet. -/
structure DecimalDigits (α : Type u) where
  digit : ℕ → α
  value : α → Option ℕ
  value_digit : ∀ d < 10, value (digit d) = some d

namespace DecimalDigits

variable {α : Type u} (alphabet : DecimalDigits α)

/-- The text of a number. -/
def render (number : ℕ) : List α :=
  if number = 0 then [alphabet.digit 0]
  else (Nat.digits 10 number).reverse.map alphabet.digit

/-- The number with this text. -/
def parse (text : List α) : Option ℕ :=
  if text.isEmpty then none
  else (text.mapM alphabet.value).map fun digits => Nat.ofDigits 10 digits.reverse

theorem mapM_digits {digits : List ℕ} (small : ∀ d ∈ digits, d < 10) :
    (digits.map alphabet.digit).mapM alphabet.value = some digits := by
  induction digits with
  | nil => rfl
  | cons d digits ih =>
      have first := alphabet.value_digit d (small d List.mem_cons_self)
      have rest := ih fun d mem => small d (List.mem_cons_of_mem _ mem)
      simp [first, rest]

theorem render_ne_nil (number : ℕ) : alphabet.render number ≠ [] := by
  unfold render
  split
  · simp
  · rename_i positive
    simpa [Nat.digits_eq_nil_iff_eq_zero] using positive

/-- A text is made of digits. -/
theorem mem_render {number : ℕ} {char : α} (mem : char ∈ alphabet.render number) :
    ∃ d < 10, char = alphabet.digit d := by
  unfold render at mem
  split at mem
  · exact ⟨0, by decide, by simpa using mem⟩
  · rcases List.mem_map.mp mem with ⟨d, d_mem, rfl⟩
    exact ⟨d, Nat.digits_lt_base (by decide) (List.mem_reverse.mp d_mem), rfl⟩

/-- The text of a number is parsed back. -/
theorem parse_render (number : ℕ) : alphabet.parse (alphabet.render number) = some number := by
  have nonempty : (alphabet.render number).isEmpty = false := by
    simpa using alphabet.render_ne_nil number
  rw [parse, nonempty, if_neg Bool.false_ne_true]
  by_cases zero : number = 0
  · have parsed : ([0].map alphabet.digit).mapM alphabet.value = some [0] :=
      alphabet.mapM_digits (by simp)
    rw [render, if_pos zero, ← List.map_singleton, parsed]
    simp [zero]
  · have small : ∀ d ∈ (Nat.digits 10 number).reverse, d < 10 := by
      intro d mem
      exact Nat.digits_lt_base (by decide) (List.mem_reverse.mp mem)
    rw [render, if_neg zero, alphabet.mapM_digits small]
    simp [Nat.ofDigits_digits]

end DecimalDigits
