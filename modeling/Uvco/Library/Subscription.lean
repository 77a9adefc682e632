import Mathlib.Data.List.Infix
import Mathlib.Data.Nat.Notation

/-!
# Subscriptions to a log

Entries are appended to a log; subscribers come and go. A subscription is about the
entries that were appended between two moments, or since a moment. The entries of any
two subscriptions are parts of one list, so that where both are about the same entries,
these are in the same order.
-/

universe u

/-- The lengths of the log when somebody came, and left. -/
structure Subscription where
  entered : ℕ
  left : Option ℕ := none
deriving DecidableEq, Repr

namespace Subscription

variable {Entry : Type u} (subscription : Subscription)

/-- The length of the part of the log that concerns the subscriber. -/
def horizon (log : List Entry) : ℕ :=
  subscription.left.getD log.length

/-- The entries between coming and leaving. -/
def entries (log : List Entry) : List Entry :=
  (log.take (subscription.horizon log)).drop subscription.entered

/-- Somebody leaves, if it was still there. -/
def leave (log : List Entry) : Subscription :=
  { subscription with left := some (subscription.horizon log) }

/-- The moments are in the past, and in order. -/
structure Within (log : List Entry) : Prop where
  ordered : subscription.entered ≤ subscription.horizon log
  past : subscription.horizon log ≤ log.length

/-- Somebody comes. -/
def start (log : List Entry) : Subscription where
  entered := log.length

theorem start_within (log : List Entry) : (start log).Within log :=
  ⟨Nat.le_refl _, Nat.le_refl _⟩

theorem entries_start (log : List Entry) : (start log).entries log = [] := by
  simp [start, entries, horizon]

variable {subscription} {log : List Entry}

theorem Within.leave (within : subscription.Within log) : (subscription.leave log).Within log :=
  ⟨within.ordered, within.past⟩

theorem horizon_of_current (current : subscription.left = none) :
    subscription.horizon log = log.length := by
  simp [horizon, current]

theorem horizon_of_left {moment : ℕ} (left : subscription.left = some moment) :
    subscription.horizon log = moment := by
  simp [horizon, left]

theorem Within.append (within : subscription.Within log) (more : List Entry) :
    subscription.Within (log ++ more) := by
  have ordered := within.ordered
  have past := within.past
  cases left : subscription.left with
  | none =>
      rw [horizon_of_current left] at ordered
      constructor
      · rw [horizon_of_current left, List.length_append]
        omega
      · exact Nat.le_of_eq (horizon_of_current left)
  | some moment =>
      rw [horizon_of_left left] at ordered past
      constructor
      · rwa [horizon_of_left left]
      · rw [horizon_of_left left, List.length_append]
        omega

/-- A current subscriber is concerned by what is appended. -/
theorem entries_append (within : subscription.Within log) (current : subscription.left = none)
    (more : List Entry) :
    subscription.entries (log ++ more) = subscription.entries log ++ more := by
  have ordered := within.ordered
  rw [horizon_of_current current] at ordered
  simp only [entries, horizon_of_current current, List.take_length]
  exact List.drop_append_of_le_length ordered

/-- A former one is not. -/
theorem entries_append_of_left (within : subscription.Within log) {moment : ℕ}
    (left : subscription.left = some moment) (more : List Entry) :
    subscription.entries (log ++ more) = subscription.entries log := by
  have past := within.past
  rw [horizon_of_left left] at past
  simp only [entries, horizon_of_left left]
  rw [List.take_append_of_le_length past]

/-- From when both were there, one subscriber is concerned by the same entries as the other, until
one of them leaves. -/
theorem entries_agree {other : Subscription} (earlier : subscription.entered ≤ other.entered) :
    let rest := (subscription.entries log).drop (other.entered - subscription.entered)
    rest <+: other.entries log ∨ other.entries log <+: rest := by
  have rest_eq : (subscription.entries log).drop (other.entered - subscription.entered) =
      (log.take (subscription.horizon log)).drop other.entered := by
    rw [entries, List.drop_drop]
    congr 1
    omega
  dsimp only
  rw [rest_eq]
  rcases Nat.le_total (subscription.horizon log) (other.horizon log) with first | first
  · exact .inl (List.IsPrefix.drop (List.take_prefix_take_left first) other.entered)
  · exact .inr (List.IsPrefix.drop (List.take_prefix_take_left first) other.entered)

end Subscription
