import Mathlib.Data.Nat.Notation

/-!
# First-in-first-out queues with cancellation

A ledger lists every entry that was ever put into a queue, in order, with what became
of it. Each entry is settled at most once: it is cancelled while it waits, or its turn
comes and it is served, or skipped because its client needs no service any more.
-/

universe u

namespace Ledger

/-- What became of an entry. -/
inductive Fate where
  | pending
  | cancelled
  /-- Its turn came, but its client needed no service any more. -/
  | skipped
  | served
deriving DecidableEq, Repr

/-- A request for service. -/
structure Entry (Client : Type u) where
  client : Client
  fate : Fate
deriving DecidableEq, Repr

/-- The turn of an entry comes and it is not served. -/
def Entry.pass {Client : Type u} (entry : Entry Client) : Entry Client :=
  if entry.fate = .pending then { entry with fate := .skipped } else entry

end Ledger

/-- Every entry of a queue, in the order in which they were put in. -/
structure Ledger (Client : Type u) where
  entries : List (Ledger.Entry Client) := []
deriving DecidableEq, Repr

namespace Ledger

variable {Client : Type u}

/-- The clients of the entries with a certain fate, in order. -/
def clientsOf (fate : Fate) (entries : List (Entry Client)) : List Client :=
  (entries.filter fun entry => entry.fate = fate).map Entry.client

/-- The clients of all entries, in order. -/
def enqueued (ledger : Ledger Client) : List Client :=
  ledger.entries.map Entry.client

/-- The clients that are still to be served, in order. -/
def pending (ledger : Ledger Client) : List Client :=
  clientsOf .pending ledger.entries

/-- The clients that were served, in order. -/
def served (ledger : Ledger Client) : List Client :=
  clientsOf .served ledger.entries

/-- A client asks to be served, behind all others. -/
def enqueue (ledger : Ledger Client) (client : Client) : Ledger Client :=
  { entries := ledger.entries ++ [⟨client, .pending⟩] }

/-- A pending entry of the client is cancelled; the others stay as they are. -/
def cancelEntry [DecidableEq Client] (client : Client) (entry : Entry Client) : Entry Client :=
  if entry.client = client ∧ entry.fate = .pending then { entry with fate := .cancelled }
  else entry

/-- All pending entries of a client are cancelled. -/
def cancel [DecidableEq Client] (ledger : Ledger Client) (client : Client) : Ledger Client :=
  { entries := ledger.entries.map (cancelEntry client) }

/-- Serves the first pending entry whose client needs service, and skips those before it. -/
def serveFirst (finished : Client → Bool) :
    List (Entry Client) → Option Client × List (Entry Client)
  | [] => (none, [])
  | entry :: rest =>
      if entry.fate = .pending ∧ finished entry.client = false then
        (some entry.client, { entry with fate := .served } :: rest)
      else
        let (client, rest) := serveFirst finished rest
        (client, entry.pass :: rest)

/-- The next client that needs service gets it. -/
def serve (ledger : Ledger Client) (finished : Client → Bool) :
    Option Client × Ledger Client :=
  let (client, entries) := serveFirst finished ledger.entries
  (client, { entries })

/-- The entries are settled from the front: behind a pending entry, none was served or skipped. -/
def InOrder (ledger : Ledger Client) : Prop :=
  ∃ passed left, ledger.entries = passed ++ left ∧
    (∀ entry ∈ passed, entry.fate ≠ .pending) ∧
    ∀ entry ∈ left, entry.fate = .pending ∨ entry.fate = .cancelled

/-! ### Entries with a certain fate -/

@[simp]
theorem clientsOf_nil (fate : Fate) : clientsOf fate ([] : List (Entry Client)) = [] := rfl

@[simp]
theorem clientsOf_cons (fate : Fate) (entry : Entry Client) (rest : List (Entry Client)) :
    clientsOf fate (entry :: rest) =
      (if entry.fate = fate then [entry.client] else []) ++ clientsOf fate rest := by
  by_cases hit : entry.fate = fate <;> simp [clientsOf, hit]

@[simp]
theorem clientsOf_append (fate : Fate) (front back : List (Entry Client)) :
    clientsOf fate (front ++ back) = clientsOf fate front ++ clientsOf fate back := by
  simp [clientsOf]

theorem clientsOf_eq_nil {fate : Fate} {entries : List (Entry Client)}
    (absent : ∀ entry ∈ entries, entry.fate ≠ fate) : clientsOf fate entries = [] := by
  simpa [clientsOf] using absent

theorem served_sublist (ledger : Ledger Client) : ledger.served.Sublist ledger.enqueued := by
  apply List.Sublist.map
  apply List.filter_sublist

/-! ### Putting in -/

@[simp]
theorem enqueued_enqueue (ledger : Ledger Client) (client : Client) :
    (ledger.enqueue client).enqueued = ledger.enqueued ++ [client] := by
  simp [enqueued, enqueue]

@[simp]
theorem pending_enqueue (ledger : Ledger Client) (client : Client) :
    (ledger.enqueue client).pending = ledger.pending ++ [client] := by
  simp [pending, enqueue]

@[simp]
theorem served_enqueue (ledger : Ledger Client) (client : Client) :
    (ledger.enqueue client).served = ledger.served := by
  simp [served, enqueue]

theorem InOrder.enqueue {ledger : Ledger Client} (inOrder : ledger.InOrder) (client : Client) :
    (ledger.enqueue client).InOrder := by
  rcases inOrder with ⟨passed, left, entries_eq, passed_settled, left_waits⟩
  refine ⟨passed, left ++ [⟨client, .pending⟩], ?_, passed_settled, ?_⟩
  · simp [Ledger.enqueue, entries_eq]
  · intro entry entry_mem
    rcases List.mem_append.mp entry_mem with older | newest
    · exact left_waits entry older
    · left
      rw [List.mem_singleton.mp newest]

/-! ### Cancelling -/

section Cancelling

variable [DecidableEq Client]

theorem cancelEntry_client (client : Client) (entry : Entry Client) :
    (cancelEntry client entry).client = entry.client := by
  unfold cancelEntry
  split <;> rfl

/-- Cancelling changes no entry that is settled. -/
theorem cancelEntry_of_settled (client : Client) {entry : Entry Client}
    (settled : entry.fate ≠ .pending) : cancelEntry client entry = entry := by
  simp [cancelEntry, settled]

@[simp]
theorem enqueued_cancel (ledger : Ledger Client) (client : Client) :
    (ledger.cancel client).enqueued = ledger.enqueued := by
  simp [enqueued, cancel, Function.comp_def, cancelEntry_client]

theorem clientsOf_pending_cancel (client : Client) (entries : List (Entry Client)) :
    clientsOf .pending (entries.map (cancelEntry client)) =
      (clientsOf .pending entries).filter fun other => other ≠ client := by
  induction entries with
  | nil => rfl
  | cons entry rest ih =>
      simp only [List.map_cons, clientsOf_cons, List.filter_append, ih, cancelEntry_client]
      congr 1
      by_cases waits : entry.fate = .pending
      · by_cases same : entry.client = client <;> simp [cancelEntry, waits, same]
      · simp [cancelEntry_of_settled client waits, waits]

@[simp]
theorem pending_cancel (ledger : Ledger Client) (client : Client) :
    (ledger.cancel client).pending = ledger.pending.filter fun other => other ≠ client :=
  clientsOf_pending_cancel client ledger.entries

theorem clientsOf_served_cancel (client : Client) (entries : List (Entry Client)) :
    clientsOf .served (entries.map (cancelEntry client)) = clientsOf .served entries := by
  induction entries with
  | nil => rfl
  | cons entry rest ih =>
      simp only [List.map_cons, clientsOf_cons, ih, cancelEntry_client]
      congr 2
      unfold cancelEntry
      split
      · rename_i hit
        simp [hit.2]
      · rfl

@[simp]
theorem served_cancel (ledger : Ledger Client) (client : Client) :
    (ledger.cancel client).served = ledger.served :=
  clientsOf_served_cancel client ledger.entries

theorem InOrder.cancel {ledger : Ledger Client} (inOrder : ledger.InOrder) (client : Client) :
    (ledger.cancel client).InOrder := by
  rcases inOrder with ⟨passed, left, entries_eq, passed_settled, left_waits⟩
  refine ⟨passed, left.map (cancelEntry client), ?_, passed_settled, ?_⟩
  · have passed_kept : passed.map (cancelEntry client) = passed := by
      calc passed.map (cancelEntry client)
        _ = passed.map id := List.map_congr_left fun entry entry_mem =>
            cancelEntry_of_settled client (passed_settled entry entry_mem)
        _ = passed := List.map_id passed
    simp [Ledger.cancel, entries_eq, passed_kept]
  · intro entry entry_mem
    rcases List.mem_map.mp entry_mem with ⟨before, before_mem, rfl⟩
    unfold cancelEntry
    split
    · right
      rfl
    · exact left_waits before before_mem

end Cancelling

/-! ### Serving -/

section Serving

variable {finished : Client → Bool}

theorem Entry.pass_client (entry : Entry Client) : entry.pass.client = entry.client := by
  unfold Entry.pass
  split <;> rfl

theorem Entry.pass_settled (entry : Entry Client) : entry.pass.fate ≠ .pending := by
  unfold Entry.pass
  split
  · simp
  · assumption

theorem Entry.pass_of_settled {entry : Entry Client} (settled : entry.fate ≠ .pending) :
    entry.pass = entry := by
  simp [Entry.pass, settled]

theorem Entry.pass_served (entry : Entry Client) :
    entry.pass.fate = .served ↔ entry.fate = .served := by
  unfold Entry.pass
  split
  · rename_i waits
    simp [waits]
  · rfl

@[simp]
theorem enqueued_serve (ledger : Ledger Client) (finished : Client → Bool) :
    (ledger.serve finished).2.enqueued = ledger.enqueued := by
  unfold serve enqueued
  dsimp only
  induction ledger.entries with
  | nil => rfl
  | cons entry rest ih =>
      unfold serveFirst
      split
      · rfl
      · simp [ih, Entry.pass_client]

/-- The pending entries are those behind the first one whose client was not finished. -/
theorem serveFirst_pending (entries : List (Entry Client)) :
    (serveFirst finished entries).1 = ((clientsOf .pending entries).dropWhile finished).head? ∧
      clientsOf .pending (serveFirst finished entries).2 =
        ((clientsOf .pending entries).dropWhile finished).tail := by
  induction entries with
  | nil => exact ⟨rfl, rfl⟩
  | cons entry rest ih =>
      unfold serveFirst
      by_cases waits : entry.fate = .pending
      · by_cases is_finished : finished entry.client = true
        · simp [waits, is_finished, ih, Entry.pass]
        · simp [waits, is_finished]
      · simp [waits, ih, Entry.pass_of_settled waits]

theorem serve_fst (ledger : Ledger Client) (finished : Client → Bool) :
    (ledger.serve finished).1 = (ledger.pending.dropWhile finished).head? :=
  (serveFirst_pending ledger.entries).1

theorem pending_serve (ledger : Ledger Client) (finished : Client → Bool) :
    (ledger.serve finished).2.pending = (ledger.pending.dropWhile finished).tail :=
  (serveFirst_pending ledger.entries).2

/-- Serving passes over a front of the ledger in which it finds nobody to serve. -/
theorem serveFirst_append (finished : Client → Bool) (front back : List (Entry Client)) :
    (∃ client, (serveFirst finished front).1 = some client ∧
      serveFirst finished (front ++ back) =
        (some client, (serveFirst finished front).2 ++ back)) ∨
    serveFirst finished (front ++ back) = ((serveFirst finished back).1,
      (serveFirst finished front).2 ++ (serveFirst finished back).2) := by
  induction front with
  | nil =>
      right
      rfl
  | cons entry rest ih =>
      by_cases live : entry.fate = .pending ∧ finished entry.client = false
      · left
        exact ⟨entry.client, by simp [serveFirst, live], by simp [serveFirst, live]⟩
      · rcases ih with ⟨client, found, whole⟩ | whole
        · left
          exact ⟨client, by simp [serveFirst, live, found], by simp [serveFirst, live, whole]⟩
        · right
          simp [serveFirst, live, whole]

theorem serveFirst_of_settled {entries : List (Entry Client)}
    (settled : ∀ entry ∈ entries, entry.fate ≠ .pending) :
    serveFirst finished entries = (none, entries) := by
  induction entries with
  | nil => rfl
  | cons entry rest ih =>
      have entry_settled : entry.fate ≠ .pending := settled entry List.mem_cons_self
      have rest_same : serveFirst finished rest = (none, rest) :=
        ih fun other other_mem => settled other (List.mem_cons_of_mem _ other_mem)
      simp [serveFirst, entry_settled, rest_same, Entry.pass_of_settled entry_settled]

/-- Serving the entries that wait splits them into settled ones and ones that wait on. -/
theorem serveFirst_of_waiting (finished : Client → Bool) {entries : List (Entry Client)}
    (waits : ∀ entry ∈ entries, entry.fate = .pending ∨ entry.fate = .cancelled) :
    clientsOf .served (serveFirst finished entries).2 = (serveFirst finished entries).1.toList ∧
      ∃ passed left, (serveFirst finished entries).2 = passed ++ left ∧
        (∀ entry ∈ passed, entry.fate ≠ .pending) ∧
        ∀ entry ∈ left, entry.fate = .pending ∨ entry.fate = .cancelled := by
  induction entries with
  | nil => exact ⟨rfl, [], [], rfl, by simp, by simp⟩
  | cons entry rest ih =>
      have rest_waits : ∀ other ∈ rest, other.fate = .pending ∨ other.fate = .cancelled :=
        fun other other_mem => waits other (List.mem_cons_of_mem _ other_mem)
      by_cases live : entry.fate = .pending ∧ finished entry.client = false
      · have none_served : clientsOf .served rest = [] := by
          apply clientsOf_eq_nil
          intro other other_mem
          rcases rest_waits other other_mem with waiting | cancelled
          · simp [waiting]
          · simp [cancelled]
        have served : serveFirst finished (entry :: rest) =
            (some entry.client, { entry with fate := .served } :: rest) := by
          simp [serveFirst, live]
        rw [served]
        refine ⟨by simp [none_served], [{ entry with fate := .served }], rest, rfl, ?_, rest_waits⟩
        simp
      · rcases ih rest_waits with ⟨served_eq, passed, left, split_eq, passed_settled, left_waits⟩
        have not_served : entry.fate ≠ .served := by
          rcases waits entry List.mem_cons_self with waiting | cancelled
          · simp [waiting]
          · simp [cancelled]
        have passes : serveFirst finished (entry :: rest) =
            ((serveFirst finished rest).1, entry.pass :: (serveFirst finished rest).2) := by
          simp [serveFirst, live]
        rw [passes]
        refine ⟨?_, entry.pass :: passed, left, by simp [split_eq], ?_, left_waits⟩
        · simp [served_eq, Entry.pass_served, not_served]
        · intro other other_mem
          rcases List.mem_cons.mp other_mem with rfl | other_mem
          · exact entry.pass_settled
          · exact passed_settled other other_mem

/-- In a ledger in order, the entry that is served becomes the last one that was served. -/
theorem InOrder.serve {ledger : Ledger Client} (inOrder : ledger.InOrder)
    (finished : Client → Bool) :
    (ledger.serve finished).2.InOrder ∧
      (ledger.serve finished).2.served =
        ledger.served ++ (ledger.serve finished).1.toList := by
  rcases inOrder with ⟨passed, left, entries_eq, passed_settled, left_waits⟩
  have passed_same : serveFirst finished passed = (none, passed) :=
    serveFirst_of_settled passed_settled
  have whole : serveFirst finished (passed ++ left) =
      ((serveFirst finished left).1, passed ++ (serveFirst finished left).2) := by
    rcases serveFirst_append finished passed left with ⟨client, found, -⟩ | whole
    · simp [passed_same] at found
    · simpa [passed_same] using whole
  have none_served : clientsOf .served left = [] := by
    apply clientsOf_eq_nil
    intro entry entry_mem
    rcases left_waits entry entry_mem with waiting | cancelled
    · simp [waiting]
    · simp [cancelled]
  rcases serveFirst_of_waiting finished left_waits with
    ⟨served_eq, front, back, split_eq, front_settled, back_waits⟩
  refine ⟨⟨passed ++ front, back, ?_, ?_, back_waits⟩, ?_⟩
  · simp [Ledger.serve, entries_eq, whole, split_eq]
  · intro entry entry_mem
    rcases List.mem_append.mp entry_mem with older | newer
    · exact passed_settled entry older
    · exact front_settled entry newer
  · simp [Ledger.serve, Ledger.served, entries_eq, whole, served_eq, none_served]

/-- What was served stays so. -/
theorem served_sublist_serveFirst (entries : List (Entry Client)) :
    (clientsOf .served entries).Sublist (clientsOf .served (serveFirst finished entries).2) := by
  induction entries with
  | nil => exact List.Sublist.refl _
  | cons entry rest ih =>
      by_cases live : entry.fate = .pending ∧ finished entry.client = false
      · simp [serveFirst, live]
      · simp [serveFirst, live, Entry.pass_served, Entry.pass_client, ih]

end Serving

/-! ### The fate of one entry -/

section Entries

variable [DecidableEq Client]

/-- An entry of the client waits or was served, behind entries of which at least `before`
of this client were served. -/
def Kept (client : Client) (before : ℕ) (ledger : Ledger Client) : Prop :=
  ∃ front fate back, ledger.entries = front ++ ⟨client, fate⟩ :: back ∧
    before ≤ (clientsOf .served front).count client ∧ (fate = .pending ∨ fate = .served)

theorem kept_enqueue (ledger : Ledger Client) (client : Client) :
    Kept client (ledger.served.count client) (ledger.enqueue client) :=
  ⟨ledger.entries, .pending, [], rfl, Nat.le_refl _, .inl rfl⟩

namespace Kept

variable {client : Client} {before : ℕ} {ledger : Ledger Client}

theorem enqueue (kept : Kept client before ledger) (other : Client) :
    Kept client before (ledger.enqueue other) := by
  rcases kept with ⟨front, fate, back, entries_eq, counted, lives⟩
  refine ⟨front, fate, back ++ [⟨other, .pending⟩], ?_, counted, lives⟩
  simp [Ledger.enqueue, entries_eq]

theorem cancel (kept : Kept client before ledger) {other : Client} (differs : client ≠ other) :
    Kept client before (ledger.cancel other) := by
  rcases kept with ⟨front, fate, back, entries_eq, counted, lives⟩
  refine ⟨front.map (cancelEntry other), fate, back.map (cancelEntry other), ?_, ?_, lives⟩
  · simp [Ledger.cancel, entries_eq, cancelEntry, differs]
  · rw [clientsOf_served_cancel]
    exact counted

/-- An entry is not skipped as long as its client is not finished while it waits. -/
theorem serve (kept : Kept client before ledger) {finished : Client → Bool}
    (live : client ∈ ledger.pending → finished client = false) :
    Kept client before (ledger.serve finished).2 := by
  rcases kept with ⟨front, fate, back, entries_eq, counted, lives⟩
  have counted' : before ≤ (clientsOf .served (serveFirst finished front).2).count client :=
    Nat.le_trans counted (List.Sublist.count_le client (served_sublist_serveFirst front))
  rcases serveFirst_append finished front (⟨client, fate⟩ :: back) with
    ⟨first, -, whole⟩ | whole
  · refine ⟨(serveFirst finished front).2, fate, back, ?_, counted', lives⟩
    simp [Ledger.serve, entries_eq, whole]
  · rcases lives with rfl | rfl
    · have client_live : finished client = false := by
        apply live
        simp [Ledger.pending, entries_eq]
      refine ⟨(serveFirst finished front).2, .served, back, ?_, counted', .inr rfl⟩
      simp [Ledger.serve, entries_eq, whole, serveFirst, client_live]
    · refine ⟨(serveFirst finished front).2, .served, (serveFirst finished back).2, ?_, counted',
        .inr rfl⟩
      simp [Ledger.serve, entries_eq, whole, serveFirst, Entry.pass]

/-- Once nothing waits any more, the entry was served. -/
theorem count_lt (kept : Kept client before ledger) (settled : ledger.pending = []) :
    before < ledger.served.count client := by
  rcases kept with ⟨front, fate, back, entries_eq, counted, lives⟩
  rcases lives with rfl | rfl
  · simp [Ledger.pending, entries_eq] at settled
  · simp only [Ledger.served, entries_eq, clientsOf_append, clientsOf_cons, List.count_append]
    simp only [if_true, List.count_singleton_self]
    omega

end Kept

end Entries

end Ledger
