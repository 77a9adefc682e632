import Mathlib.Data.Nat.Notation
import Mathlib.Tactic.Common

/-!
# Percent encoding

Bytes are written as themselves or as `%` with two hexadecimal digits. A decoder that
does not know which bytes are escaped reads them back, if `%` is always escaped.
-/

namespace Percent

/-- `%` -/
def sign : UInt8 := 37

/-- The upper-case digit of a number below 16. -/
def hexDigit (d : ℕ) : UInt8 :=
  if d < 10 then UInt8.ofNat (48 + d) else UInt8.ofNat (55 + d)

/-- The number that an upper-case digit stands for. -/
def hexValue (char : UInt8) : ℕ :=
  if char.toNat < 65 then char.toNat - 48 else char.toNat - 55

theorem hexValue_hexDigit : ∀ d < 16, hexValue (hexDigit d) = d := by
  decide

/-- A byte with its escaped form. -/
def escaped (byte : UInt8) : List UInt8 :=
  [sign, hexDigit (byte.toNat / 16), hexDigit (byte.toNat % 16)]

variable (plain : UInt8 → Bool)

/-- Escapes every byte but the plain ones. -/
def encode (bytes : List UInt8) : List UInt8 :=
  bytes.flatMap fun byte => if plain byte then [byte] else escaped byte

/-- Reads escapes back; what is no escape stands for itself. -/
def decode : List UInt8 → List UInt8
  | first :: high :: low :: rest =>
      if first = sign then UInt8.ofNat (hexValue high * 16 + hexValue low) :: decode rest
      else first :: decode (high :: low :: rest)
  | short => short

theorem decode_escaped (byte : UInt8) (rest : List UInt8) :
    decode (escaped byte ++ rest) = byte :: decode rest := by
  have bound := byte.toNat_lt
  have high := hexValue_hexDigit (byte.toNat / 16) (by omega)
  have low := hexValue_hexDigit (byte.toNat % 16) (by omega)
  have whole : byte.toNat / 16 * 16 + byte.toNat % 16 = byte.toNat := by omega
  simp [escaped, decode, high, low, whole]

theorem decode_cons {byte : UInt8} (other : byte ≠ sign) (rest : List UInt8) :
    decode (byte :: rest) = byte :: decode rest := by
  rcases rest with _ | ⟨high, _ | ⟨low, rest⟩⟩ <;> simp [decode, other]

theorem decode_encode (escaped_sign : plain sign = false) (bytes : List UInt8) :
    decode (encode plain bytes) = bytes := by
  induction bytes with
  | nil => rfl
  | cons byte bytes ih =>
      rw [encode, List.flatMap_cons, ← encode]
      by_cases is_plain : plain byte = true
      · have other : byte ≠ sign := by
          rintro rfl
          simp [is_plain] at escaped_sign
        rw [if_pos is_plain, List.singleton_append, decode_cons other, ih]
      · rw [if_neg is_plain, decode_escaped, ih]

/-- What is written are plain bytes, signs and digits. -/
theorem mem_encode {bytes : List UInt8} {char : UInt8} (mem : char ∈ encode plain bytes) :
    plain char = true ∨ char = sign ∨ ∃ d < 16, char = hexDigit d := by
  rcases List.mem_flatMap.mp mem with ⟨byte, _, written⟩
  have bound := byte.toNat_lt
  by_cases is_plain : plain byte = true
  · left
    rw [if_pos is_plain, List.mem_singleton] at written
    rw [written, is_plain]
  · right
    rw [if_neg is_plain] at written
    simp only [escaped, List.mem_cons, List.not_mem_nil, or_false] at written
    rcases written with is_sign | high | low
    · exact .inl is_sign
    · exact .inr ⟨byte.toNat / 16, by omega, high⟩
    · exact .inr ⟨byte.toNat % 16, by omega, low⟩

end Percent
