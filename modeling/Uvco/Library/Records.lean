import Uvco.Library.FirstOccurrence

/-!
# Texts of records

Pairs of texts, written one behind the other: a separator between the two texts of a
pair, another one behind each pair. Such a text is cut at the separators again, if the
separators are not in the texts.
-/

universe u

variable {α : Type u}

/-- The text of some records. -/
def recordsText (between behind : α) (records : List (List α × List α)) : List α :=
  records.flatMap fun record => record.1 ++ between :: record.2 ++ [behind]

namespace Records

variable {between behind : α} {records : List (List α × List α)}

theorem recordsText_eq :
    recordsText between behind records =
      (records.map fun record => record.1 ++ between :: record.2).flatMap (· ++ [behind]) ++
        [] := by
  simp [recordsText, List.flatMap_map]

/-- The texts of a record can be told apart. -/
def Separated (between behind : α) (record : List α × List α) : Prop :=
  between ∉ record.1 ∧ behind ∉ record.1 ∧ behind ∉ record.2

end Records

variable [DecidableEq α]

/-- The records of a text: it is cut at every separator behind a pair, and each pair at its first
separator. -/
def recordsOf (between behind : α) (text : List α) : Option (List (List α × List α)) :=
  let parts := pieces [behind] text
  if parts.2.isEmpty then parts.1.mapM (cut [between]) else none

namespace Records

variable {between behind : α} {records : List (List α × List α)}

theorem mapM_cut (separated : ∀ record ∈ records, Separated between behind record) :
    (records.map fun record => record.1 ++ between :: record.2).mapM (cut [between]) =
      some records := by
  induction records with
  | nil => rfl
  | cons record records ih =>
      have first_one : Before [between] record.1 :=
        Before.singleton_iff.mpr (separated record List.mem_cons_self).1
      have here : cut [between] (record.1 ++ between :: record.2) = some record := by
        simpa using Cut.eq_some (by simp) first_one record.2
      have later := ih fun record mem => separated record (List.mem_cons_of_mem _ mem)
      simp [here, later]

/-- Records are read back from their text. -/
theorem recordsOf_recordsText (different : between ≠ behind)
    (separated : ∀ record ∈ records, Separated between behind record) :
    recordsOf between behind (recordsText between behind records) = some records := by
  have first_ones : ∀ front ∈ records.map fun record => record.1 ++ between :: record.2,
      Before [behind] front := by
    intro front mem
    rcases List.mem_map.mp mem with ⟨record, record_mem, rfl⟩
    have apart := separated record record_mem
    apply Before.singleton_iff.mpr
    simp [apart.2.1, apart.2.2, different.symm]
  have parts : pieces [behind] (recordsText between behind records) =
      (records.map fun record => record.1 ++ between :: record.2, []) := by
    rw [recordsText_eq]
    exact Pieces.eq_of_parts (by simp) first_ones (by simp) le_rfl
  simp [recordsOf, parts, mapM_cut separated]

end Records
