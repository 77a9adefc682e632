import Mathlib.Data.List.Basic

/-!
# Messages in a stream

A decoder takes one message from the front of a stream. If it takes every message
back that an encoder has put there, whatever follows, then a stream of messages is
decoded into the messages.
-/

universe u v

variable {Message : Type u} {Symbol : Type v}

/-- Decodes one message after the other, and returns what is left. -/
def decodeAll (decode : List Symbol → Option (Message × List Symbol)) :
    ℕ → List Symbol → List Message × List Symbol
  | 0, stream => ([], stream)
  | fuel + 1, stream =>
      match decode stream with
      | none => ([], stream)
      | some (message, rest) =>
          (message :: (decodeAll decode fuel rest).1, (decodeAll decode fuel rest).2)

namespace Framing

variable {decode : List Symbol → Option (Message × List Symbol)} {Source : Type*}
  {encode : Source → List Symbol} {received : Source → Message}

/-- A stream of messages, with a rest that holds none. -/
theorem decodeAll_eq {sources : List Source} {rest : List Symbol}
    (decoded : ∀ source ∈ sources, ∀ more,
      decode (encode source ++ more) = some (received source, more))
    (incomplete : decode rest = none) {fuel : ℕ} (enough : sources.length ≤ fuel) :
    decodeAll decode fuel (sources.flatMap encode ++ rest) = (sources.map received, rest) := by
  induction sources generalizing fuel with
  | nil => cases fuel <;> simp [decodeAll, incomplete]
  | cons source sources ih =>
      cases fuel with
      | zero => simp at enough
      | succ fuel =>
          have first := decoded source List.mem_cons_self (sources.flatMap encode ++ rest)
          have later := ih (fun source mem => decoded source (List.mem_cons_of_mem _ mem))
            (Nat.le_of_succ_le_succ enough)
          simp only [List.flatMap_cons, List.append_assoc, decodeAll, first, later, List.map_cons]

end Framing
