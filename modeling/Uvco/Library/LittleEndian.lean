import Mathlib.Data.Nat.Notation
import Mathlib.Tactic.Common
import Mathlib.Tactic.Ring

/-!
# Little endian numbers

The bytes of a number in memory, the least significant byte first.
-/

namespace LittleEndian

/-- The last `count` bytes of a number. -/
def bytes : ℕ → ℕ → List UInt8
  | 0, _ => []
  | count + 1, number => UInt8.ofNat number :: bytes count (number / 256)

/-- The number that bytes stand for, the lowest first. -/
def value : List UInt8 → ℕ
  | [] => 0
  | byte :: rest => byte.toNat + 256 * value rest

@[simp]
theorem length_bytes (count number : ℕ) : (bytes count number).length = count := by
  induction count generalizing number with
  | zero => rfl
  | succ count ih => simp [bytes, ih]

theorem value_bytes {count number : ℕ} (bound : number < 256 ^ count) :
    value (bytes count number) = number := by
  induction count generalizing number with
  | zero =>
      rw [pow_zero] at bound
      simp only [bytes, value]
      omega
  | succ count ih =>
      have rest := ih (Nat.div_lt_of_lt_mul (by rwa [Nat.pow_succ'] at bound))
      simp only [bytes, value, rest, UInt8.toNat_ofNat']
      omega

end LittleEndian
