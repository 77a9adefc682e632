import Mathlib.Data.Nat.Notation

/-!
# Queues whose entries are transmitted piecewise

An outbox takes parcels in order. Only the first parcel that is not settled is being
transmitted, a piece at a time. It is settled when nothing of it is left, or it fails
before; then the next one is transmitted. What was transmitted is therefore made up of
one prefix of every parcel, in the order in which they were put in.
-/

universe u v

namespace Outbox

/-- What became of a parcel. -/
inductive Fate (Failure : Type v) where
  | waiting
  | delivered
  | failed (failure : Failure)
deriving DecidableEq, Repr

/-- Some contents, of which a part was transmitted. -/
structure Parcel (Symbol : Type u) (Failure : Type v) where
  content : List Symbol
  sent : ℕ := 0
  fate : Fate Failure := .waiting
deriving DecidableEq, Repr

namespace Parcel

variable {Symbol : Type u} {Failure : Type v} (parcel : Parcel Symbol Failure)

/-- What was transmitted. -/
def piece : List Symbol :=
  parcel.content.take parcel.sent

/-- What was not. -/
def rest : List Symbol :=
  parcel.content.drop parcel.sent

theorem piece_append_rest : parcel.piece ++ parcel.rest = parcel.content := by
  exact List.take_append_drop parcel.sent parcel.content

theorem piece_eq_content (rest_eq : parcel.rest = []) : parcel.piece = parcel.content := by
  have whole := parcel.piece_append_rest
  rwa [rest_eq, List.append_nil] at whole

/-- A settled parcel is not waiting, and a delivered one was transmitted as a whole. -/
structure Settled : Prop where
  not_waiting : parcel.fate ≠ .waiting
  whole : parcel.fate = .delivered → parcel.rest = []

end Parcel

end Outbox

/-- The parcels that were settled, and the contents of the others, of the first of which a part
may have been transmitted. -/
structure Outbox (Symbol : Type u) (Failure : Type v) where
  settled : List (Outbox.Parcel Symbol Failure)
  waiting : List (List Symbol)
  sent : ℕ
  transmitted : List Symbol
  sound : ∀ parcel ∈ settled, parcel.Settled
  transmitted_eq : transmitted =
    (settled.map Outbox.Parcel.piece).flatten ++ (waiting.headD []).take sent
  sent_le : sent ≤ (waiting.headD []).length

namespace Outbox

variable {Symbol : Type u} {Failure : Type v} (outbox : Outbox Symbol Failure)

/-- Nothing was put in. -/
def empty : Outbox Symbol Failure where
  settled := []
  waiting := []
  sent := 0
  transmitted := []
  sound := nofun
  transmitted_eq := rfl
  sent_le := Nat.le_refl 0

/-- The parcels that are not settled. -/
def unsettled : List (Parcel Symbol Failure) :=
  match outbox.waiting with
  | [] => []
  | content :: others => { content, sent := outbox.sent } :: others.map fun content => { content }

/-- Every parcel, in the order in which they were put in. -/
def parcels : List (Parcel Symbol Failure) :=
  outbox.settled ++ outbox.unsettled

/-- The contents of every parcel. -/
def contents : List (List Symbol) :=
  outbox.parcels.map Parcel.content

/-- A parcel is put in. -/
def submit (content : List Symbol) : Outbox Symbol Failure :=
  { outbox with
    waiting := outbox.waiting ++ [content]
    transmitted_eq := by
      have transmitted_eq := outbox.transmitted_eq
      have sent_le := outbox.sent_le
      cases waiting_eq : outbox.waiting with
      | nil =>
          have nothing_sent : outbox.sent = 0 := by simpa [waiting_eq] using sent_le
          simpa [waiting_eq, nothing_sent] using transmitted_eq
      | cons first others => simpa [waiting_eq] using transmitted_eq
    sent_le := by
      have sent_le := outbox.sent_le
      cases waiting_eq : outbox.waiting with
      | nil =>
          have nothing_sent : outbox.sent = 0 := by simpa [waiting_eq] using sent_le
          simp [nothing_sent]
      | cons first others => simpa [waiting_eq] using sent_le }

/-- At most so many symbols of the first waiting parcel are transmitted. -/
def transmit (count : ℕ) : Outbox Symbol Failure :=
  { outbox with
    sent := min (outbox.sent + count) (outbox.waiting.headD []).length
    transmitted := outbox.transmitted ++
      ((outbox.waiting.headD []).drop outbox.sent).take count
    transmitted_eq := by
      rw [outbox.transmitted_eq, List.append_assoc, ← List.take_add, ← List.take_eq_take_min]
    sent_le := Nat.min_le_right _ _ }

/-- The first waiting parcel is settled. -/
def settle (fate : Fate Failure) (content : List Symbol) (others : List (List Symbol))
    (waiting_eq : outbox.waiting = content :: others)
    (settled : ({ content, sent := outbox.sent, fate } : Parcel Symbol Failure).Settled) :
    Outbox Symbol Failure where
  settled := outbox.settled ++ [{ content, sent := outbox.sent, fate }]
  waiting := others
  sent := 0
  transmitted := outbox.transmitted
  sound := by
    intro parcel parcel_mem
    rcases List.mem_append.mp parcel_mem with earlier | latest
    · exact outbox.sound parcel earlier
    · rwa [List.mem_singleton.mp latest]
  transmitted_eq := by
    rw [outbox.transmitted_eq, waiting_eq]
    simp [Parcel.piece]
  sent_le := Nat.zero_le _

/-- The first waiting parcel is settled if all of it was transmitted. -/
def deliver : Outbox Symbol Failure :=
  match waiting_eq : outbox.waiting with
  | [] => outbox
  | content :: others =>
      if whole : content.drop outbox.sent = [] then
        outbox.settle .delivered content others waiting_eq ⟨nofun, fun _ => whole⟩
      else outbox

/-- The first waiting parcel fails. -/
def fail (failure : Failure) : Outbox Symbol Failure :=
  match waiting_eq : outbox.waiting with
  | [] => outbox
  | content :: others =>
      outbox.settle (.failed failure) content others waiting_eq ⟨nofun, nofun⟩

/-- All parcels that wait fail. -/
def failAll (failure : Failure) : Outbox Symbol Failure where
  settled := outbox.settled ++
    outbox.unsettled.map fun parcel => { parcel with fate := .failed failure }
  waiting := []
  sent := 0
  transmitted := outbox.transmitted
  sound := by
    intro parcel parcel_mem
    rcases List.mem_append.mp parcel_mem with earlier | latest
    · exact outbox.sound parcel earlier
    · rcases List.mem_map.mp latest with ⟨waiting, -, rfl⟩
      exact ⟨nofun, nofun⟩
  transmitted_eq := by
    rw [outbox.transmitted_eq, List.map_append, List.flatten_append]
    unfold unsettled
    cases outbox.waiting with
    | nil => simp
    | cons content others => simp [Parcel.piece, Function.comp_def]
  sent_le := Nat.zero_le _

/-! ## All parcels -/

theorem parcels_length : outbox.parcels.length = outbox.settled.length + outbox.waiting.length := by
  rw [parcels, List.length_append, unsettled]
  cases outbox.waiting <;> simp

theorem unsettled_content : outbox.unsettled.map Parcel.content = outbox.waiting := by
  unfold unsettled
  cases outbox.waiting <;> simp [Function.comp_def]

theorem contents_eq :
    outbox.contents = outbox.settled.map Parcel.content ++ outbox.waiting := by
  rw [contents, parcels, List.map_append, unsettled_content]

theorem contents_length : outbox.contents.length = outbox.parcels.length := by
  rw [contents, List.length_map]

/-- What was transmitted is made up of a prefix of each parcel, in order. -/
theorem transmitted_pieces : outbox.transmitted = (outbox.parcels.map Parcel.piece).flatten := by
  rw [outbox.transmitted_eq, parcels, List.map_append, List.flatten_append, unsettled]
  cases outbox.waiting <;> simp [Parcel.piece, Function.comp_def]

theorem unsettled_rest :
    outbox.waiting.flatten =
      (outbox.waiting.headD []).take outbox.sent ++
        (outbox.unsettled.map Parcel.rest).flatten := by
  unfold unsettled
  cases outbox.waiting with
  | nil => simp
  | cons content others =>
      simp [Parcel.rest, Function.comp_def, ← List.append_assoc, List.take_append_drop]

/-- If no parcel has failed, nothing is missing from what was transmitted. -/
theorem transmitted_rest
    (delivered : ∀ parcel ∈ outbox.settled, parcel.fate = .delivered) :
    outbox.transmitted ++ (outbox.unsettled.map Parcel.rest).flatten =
      outbox.contents.flatten := by
  have pieces_eq : outbox.settled.map Parcel.piece = outbox.settled.map Parcel.content := by
    apply List.map_congr_left
    intro parcel parcel_mem
    exact parcel.piece_eq_content
      ((outbox.sound parcel parcel_mem).whole (delivered parcel parcel_mem))
  rw [outbox.transmitted_eq, pieces_eq, contents_eq, List.flatten_append, unsettled_rest,
    List.append_assoc]

/-- A parcel that was settled is found at the same place among all of them. -/
theorem parcels_of_settled {index : ℕ} {parcel : Parcel Symbol Failure}
    (found : outbox.settled[index]? = some parcel) : outbox.parcels[index]? = some parcel := by
  rw [parcels, List.getElem?_append_left (List.getElem?_eq_some_iff.mp found).1]
  exact found

/-! ## The operations -/

section Operations

variable {outbox}

/-- The outbox goes on: it keeps what was settled and what was transmitted. -/
structure Continues (before after : Outbox Symbol Failure) : Prop where
  settled : before.settled <+: after.settled
  transmitted : before.transmitted <+: after.transmitted
  contents : before.contents <+: after.contents

/-- Nothing is put in. -/
theorem Continues.of_same {before after : Outbox Symbol Failure}
    (contents_eq : after.contents = before.contents) (settled : before.settled <+: after.settled)
    (transmitted : before.transmitted <+: after.transmitted) : Continues before after :=
  ⟨settled, transmitted, contents_eq ▸ List.prefix_rfl⟩

theorem Continues.refl (outbox : Outbox Symbol Failure) : Continues outbox outbox :=
  .of_same rfl List.prefix_rfl List.prefix_rfl

theorem contents_submit (content : List Symbol) :
    (outbox.submit content).contents = outbox.contents ++ [content] := by
  rw [contents_eq, contents_eq, List.append_assoc]
  rfl

theorem contents_transmit (count : ℕ) : (outbox.transmit count).contents = outbox.contents := by
  rw [contents_eq, contents_eq]
  rfl

theorem settle_contents {fate : Fate Failure} {content : List Symbol}
    {others : List (List Symbol)} (waiting_eq : outbox.waiting = content :: others)
    (settled : ({ content, sent := outbox.sent, fate } : Parcel Symbol Failure).Settled) :
    (outbox.settle fate content others waiting_eq settled).contents = outbox.contents := by
  rw [contents_eq, contents_eq, waiting_eq]
  simp [settle]

theorem contents_deliver : outbox.deliver.contents = outbox.contents := by
  unfold deliver
  split
  · rfl
  · split
    · exact settle_contents _ _
    · rfl

theorem contents_fail (failure : Failure) :
    (outbox.fail failure).contents = outbox.contents := by
  unfold fail
  split
  · rfl
  · exact settle_contents _ _

theorem contents_failAll (failure : Failure) :
    (outbox.failAll failure).contents = outbox.contents := by
  rw [contents_eq, contents, parcels, List.map_append]
  simp [failAll, Function.comp_def]

theorem transmitted_deliver : outbox.deliver.transmitted = outbox.transmitted := by
  unfold deliver
  split
  · rfl
  · split <;> rfl

theorem transmitted_fail (failure : Failure) :
    (outbox.fail failure).transmitted = outbox.transmitted := by
  unfold fail
  split <;> rfl

theorem continues_submit (content : List Symbol) : Continues outbox (outbox.submit content) := by
  refine ⟨List.prefix_rfl, List.prefix_rfl, ?_⟩
  rw [contents_submit]
  exact List.prefix_append _ _

theorem continues_transmit (count : ℕ) : Continues outbox (outbox.transmit count) := by
  exact .of_same (contents_transmit count) List.prefix_rfl (List.prefix_append _ _)

theorem continues_deliver : Continues outbox outbox.deliver := by
  refine .of_same contents_deliver ?_ (by simp [transmitted_deliver])
  unfold deliver
  split
  · exact List.prefix_rfl
  · split
    · exact List.prefix_append _ _
    · exact List.prefix_rfl

theorem continues_fail (failure : Failure) : Continues outbox (outbox.fail failure) := by
  refine .of_same (contents_fail failure) ?_ (by simp [transmitted_fail])
  unfold fail
  split
  · exact List.prefix_rfl
  · exact List.prefix_append _ _

theorem continues_failAll (failure : Failure) : Continues outbox (outbox.failAll failure) :=
  .of_same (contents_failAll failure) (List.prefix_append _ _) List.prefix_rfl

theorem waiting_deliver (nothing_waits : outbox.waiting = []) : outbox.deliver.waiting = [] := by
  unfold deliver
  split
  · exact nothing_waits
  · rename_i content others waiting_eq
    exact nomatch nothing_waits.symm.trans waiting_eq

theorem waiting_fail (failure : Failure) (nothing_waits : outbox.waiting = []) :
    (outbox.fail failure).waiting = [] := by
  unfold fail
  split
  · exact nothing_waits
  · rename_i content others waiting_eq
    exact nomatch nothing_waits.symm.trans waiting_eq

theorem Continues.found {before after : Outbox Symbol Failure} (continues : Continues before after)
    {index : ℕ} {parcel : Parcel Symbol Failure} (found : before.settled[index]? = some parcel) :
    after.settled[index]? = some parcel := by
  rcases continues.settled with ⟨more, settled_eq⟩
  rw [← settled_eq, List.getElem?_append_left (List.getElem?_eq_some_iff.mp found).1]
  exact found

end Operations

end Outbox
