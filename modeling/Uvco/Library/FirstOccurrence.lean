import Mathlib.Data.List.Infix
import Mathlib.Data.Nat.Notation
import Mathlib.Tactic.Common

/-!
# First occurrences of a pattern

Searching a text for the first occurrence of a pattern, cutting the text there, and
cutting it at every occurrence. What is found is described without reference to the
search: the text up to the first occurrence, with all of the pattern but its last
element, has no occurrence yet (`Before`).

The search is stable: what follows the first occurrence does not matter. A text is
therefore cut in the same way however much of it is known.
-/

universe u

variable {α : Type u}

/-- A text before the first occurrence of a pattern that follows it. -/
def Before (pattern front : List α) : Prop :=
  ¬ pattern <:+: front ++ pattern.dropLast

/-- No prefix of the pattern is a suffix of it, apart from the trivial ones. -/
def Unbordered (pattern : List α) : Prop :=
  ∀ border, border <+: pattern → border <:+ pattern → border = [] ∨ border = pattern

namespace Before

variable {pattern front : List α}

theorem nil (nonempty : pattern ≠ []) : Before pattern [] := by
  intro inside
  have shorter := inside.length_le
  have positive := List.length_pos_iff.mpr nonempty
  simp only [List.nil_append, List.length_dropLast] at shorter
  omega

/-- A text without an occurrence may be followed by the pattern if no border of the pattern
makes an earlier one. -/
theorem iff_of_unbordered (unbordered : Unbordered pattern) :
    Before pattern front ↔ ¬ pattern <:+: front := by
  constructor
  · intro first_one inside
    exact first_one (inside.trans (List.prefix_append _ _).isInfix)
  · rintro absent ⟨left, right, split⟩
    have lengths := congrArg List.length split
    simp only [List.length_append, List.length_dropLast] at lengths
    by_cases empty : pattern = []
    · exact absent (empty ▸ List.nil_infix)
    have positive := List.length_pos_iff.mpr empty
    -- An occurrence that is not inside of `front` ends in the pattern behind it.
    rcases List.append_eq_append_iff.mp split with ⟨between, rfl, rest⟩ | ⟨overlap, inner, rest⟩
    · exact absent ⟨left, between, rfl⟩
    · have overlap_prefix : overlap <+: pattern := by
        refine List.IsPrefix.trans ⟨right, ?_⟩ (List.dropLast_prefix pattern)
        exact rest.symm
      have overlap_short : overlap.length < pattern.length := by
        have := congrArg List.length rest
        simp only [List.length_append, List.length_dropLast] at this
        omega
      rcases List.append_eq_append_iff.mp inner with ⟨start, start_eq, pattern_eq⟩ |
        ⟨start, start_eq, pattern_eq⟩
      · rcases unbordered overlap overlap_prefix ⟨start, pattern_eq.symm⟩ with
          none_left | whole
        · apply absent
          subst none_left
          rw [List.append_nil] at pattern_eq
          exact ⟨left, [], by simp [start_eq, pattern_eq]⟩
        · simp [whole] at overlap_short
      · have := congrArg List.length pattern_eq
        simp only [List.length_append] at this
        omega

/-- For a pattern of one element. -/
theorem singleton_iff {separator : α} : Before [separator] front ↔ separator ∉ front := by
  simp [Before, List.singleton_infix_iff]

end Before

/-- Two different elements have no border. -/
theorem Unbordered.pair {first second : α} (different : first ≠ second) :
    Unbordered [first, second] := by
  intro border is_pre is_suf
  rcases border with _ | ⟨head, _ | ⟨next, tail⟩⟩
  · exact .inl rfl
  · rw [List.prefix_cons_iff] at is_pre
    have head_eq : head = first := by simpa using is_pre
    have head_last : head = second := by
      have last := is_suf.getLast (by simp)
      simpa using last
    exact absurd (head_eq.symm.trans head_last) different
  · right
    exact is_pre.eq_of_length_le (by simp)

namespace Occurrence

variable {pattern left right : List α}

/-- A separator that is not in the pattern parts its occurrences. -/
theorem append_cons_iff {separator : α} (absent : separator ∉ pattern) :
    pattern <:+: left ++ separator :: right ↔ pattern <:+: left ∨ pattern <:+: right := by
  constructor
  · intro inside
    induction left with
    | nil =>
        rcases List.infix_cons_iff.mp inside with at_start | later
        · rcases List.prefix_cons_iff.mp at_start with rfl | ⟨tail, rfl, _⟩
          · exact .inl List.nil_infix
          · exact absurd List.mem_cons_self absent
        · exact .inr later
    | cons first left ih =>
        rw [List.cons_append, List.infix_cons_iff] at inside
        rcases inside with at_start | later
        · left
          rw [← List.cons_append] at at_start
          rcases List.prefix_or_prefix_of_prefix at_start (List.prefix_append _ _) with
            short | ⟨tail, rfl⟩
          · exact short.isInfix
          · rw [List.prefix_append_right_inj, List.prefix_cons_iff] at at_start
            rcases at_start with rfl | ⟨tail, rfl, _⟩
            · simp
            · simp at absent
        · rcases ih later with in_left | in_right
          · exact .inl (in_left.trans (List.suffix_cons _ _).isInfix)
          · exact .inr in_right
  · rintro (in_left | in_right)
    · exact in_left.trans (List.prefix_append _ _).isInfix
    · exact in_right.trans ((List.suffix_cons _ _).trans (List.suffix_append _ _)).isInfix

variable {first second : α}

/-- Behind a text without the pair, the doubled pair starts with the next pair. -/
theorem doubled_after (different : first ≠ second) {line rest : List α}
    (free : ¬ [first, second] <:+: line)
    (inside : [first, second, first, second] <:+: line ++ first :: second :: rest) :
    [first, second] <+: rest ∨ [first, second, first, second] <:+: rest := by
  induction line with
  | nil =>
      rw [List.nil_append, List.infix_cons_iff, List.infix_cons_iff] at inside
      rcases inside with here | shifted | later
      · left
        simpa [List.cons_prefix_cons] using here
      · simp [List.cons_prefix_cons, different] at shifted
      · exact .inr later
  | cons head line ih =>
      have line_free : ¬ [first, second] <:+: line := fun mem =>
        free (mem.trans (List.suffix_cons _ _).isInfix)
      rw [List.cons_append, List.infix_cons_iff] at inside
      rcases inside with here | later
      · exfalso
        rcases line with _ | ⟨next, line⟩
        · simp [List.cons_prefix_cons, different.symm] at here
        · apply free
          rw [List.cons_append, List.cons_prefix_cons, List.cons_prefix_cons] at here
          rw [here.1, here.2.1]
          exact ⟨[], line, rfl⟩
      · exact ih line_free later

/-- Lines that are not empty, each ended by a pair, do not contain the doubled pair. -/
theorem not_doubled (different : first ≠ second) {lines : List (List α)}
    (free : ∀ line ∈ lines, line ≠ [] ∧ ¬ [first, second] <:+: line) :
    ¬ [first, second, first, second] <:+: lines.flatMap (· ++ [first, second]) ++ [first] := by
  induction lines with
  | nil =>
      intro inside
      have := inside.length_le
      simp at this
  | cons line lines ih =>
      intro inside
      simp only [List.flatMap_cons, List.append_assoc, List.cons_append, List.nil_append]
        at inside
      rcases doubled_after different (free line List.mem_cons_self).2 inside with next | later
      · rcases lines with _ | ⟨line', lines⟩
        · have := next.length_le
          simp at this
        · rcases free line' (by simp) with ⟨line_ne, line_free⟩
          rcases line' with _ | ⟨head, tail⟩
          · exact line_ne rfl
          · rcases tail with _ | ⟨head', tail⟩
            · simp [List.cons_prefix_cons, different.symm] at next
            · apply line_free
              simp only [List.flatMap_cons, List.cons_append, List.cons_prefix_cons] at next
              rw [← next.1, ← next.2.1]
              exact ⟨[], tail, rfl⟩
      · exact ih (fun line mem => free line (List.mem_cons_of_mem _ mem)) later

end Occurrence

variable [DecidableEq α]

/-- The position of the first occurrence of a pattern. -/
def firstOccurrence (pattern : List α) : List α → Option ℕ
  | [] => if pattern = [] then some 0 else none
  | first :: rest =>
      if pattern <+: first :: rest then some 0
      else (firstOccurrence pattern rest).map (· + 1)

/-- The texts before and behind the first occurrence. -/
def cut (pattern text : List α) : Option (List α × List α) :=
  (firstOccurrence pattern text).map fun position =>
    (text.take position, text.drop (position + pattern.length))

/-- The texts before the occurrences, one behind the other, and what is left. -/
def piecesFrom (pattern : List α) : ℕ → List α → List (List α) × List α
  | 0, text => ([], text)
  | fuel + 1, text =>
      match cut pattern text with
      | none => ([], text)
      | some (front, back) =>
          (front :: (piecesFrom pattern fuel back).1, (piecesFrom pattern fuel back).2)

/-- The text is cut at every occurrence; each cut makes it shorter. -/
def pieces (pattern text : List α) : List (List α) × List α :=
  piecesFrom pattern text.length text

namespace FirstOccurrence

variable {pattern text front back : List α}

theorem eq_none_iff : firstOccurrence pattern text = none ↔ ¬ pattern <:+: text := by
  induction text with
  | nil => by_cases empty : pattern = [] <;> simp [firstOccurrence, empty]
  | cons first rest ih =>
      rw [List.infix_cons_iff]
      by_cases here : pattern <+: first :: rest
      · simp [firstOccurrence, here]
      · simp [firstOccurrence, here, ih]

/-- What is found is an occurrence, and the first. -/
theorem of_eq_some (nonempty : pattern ≠ []) {position : ℕ}
    (found : firstOccurrence pattern text = some position) :
    ∃ front back, text = front ++ pattern ++ back ∧ front.length = position ∧
      Before pattern front := by
  induction text generalizing position with
  | nil => simp [firstOccurrence, nonempty] at found
  | cons first rest ih =>
      by_cases here : pattern <+: first :: rest
      · rcases here with ⟨back, split⟩
        have position_eq : position = 0 := by
          simpa [firstOccurrence, ← split] using found.symm
        exact ⟨[], back, by simp [split], by simp [position_eq], Before.nil nonempty⟩
      · simp only [firstOccurrence, here, if_false, Option.map_eq_some_iff] at found
        rcases found with ⟨later, found_later, rfl⟩
        rcases ih found_later with ⟨front, back, split, length, first_one⟩
        refine ⟨first :: front, back, by simp [split], by simp [length], ?_⟩
        intro inside
        rw [List.cons_append, List.infix_cons_iff] at inside
        rcases inside with at_start | later
        · apply here
          refine at_start.trans ?_
          rw [split, List.append_assoc, List.prefix_cons_inj, List.prefix_append_right_inj]
          exact (List.dropLast_prefix pattern).trans (List.prefix_append _ _)
        · exact first_one later

/-- Conversely, the search finds the first occurrence, whatever follows it. -/
theorem eq_some (nonempty : pattern ≠ []) (first_one : Before pattern front) (back : List α) :
    firstOccurrence pattern (front ++ pattern ++ back) = some front.length := by
  induction front with
  | nil =>
      obtain ⟨first, rest, rfl⟩ := List.exists_cons_of_ne_nil nonempty
      have here : first :: rest <+: first :: (rest ++ back) := ⟨back, by simp⟩
      simp [firstOccurrence, here]
  | cons first front ih =>
      have not_here : ¬ pattern <+: first :: (front ++ pattern ++ back) := by
        intro here
        apply first_one
        have known : first :: (front ++ pattern.dropLast) <+:
            first :: (front ++ pattern ++ back) := by
          rw [List.append_assoc, List.prefix_cons_inj, List.prefix_append_right_inj]
          exact (List.dropLast_prefix pattern).trans (List.prefix_append _ _)
        refine (List.prefix_of_prefix_length_le here known ?_).isInfix
        simp only [List.length_cons, List.length_append, List.length_dropLast]
        omega
      have later : Before pattern front := by
        intro inside
        exact first_one (inside.trans (List.suffix_cons _ _).isInfix)
      simp only [List.cons_append, firstOccurrence, not_here, if_false, ih later,
        Option.map_some, List.length_cons]

end FirstOccurrence

namespace Cut

variable {pattern text front back : List α}

theorem eq_none_iff : cut pattern text = none ↔ ¬ pattern <:+: text := by
  rw [cut, Option.map_eq_none_iff, FirstOccurrence.eq_none_iff]

theorem eq_some (nonempty : pattern ≠ []) (first_one : Before pattern front) (back : List α) :
    cut pattern (front ++ pattern ++ back) = some (front, back) := by
  simp only [cut, FirstOccurrence.eq_some nonempty first_one, Option.map_some, Option.some.injEq,
    Prod.mk.injEq]
  constructor
  · rw [List.append_assoc, List.take_left]
  · rw [← List.length_append, List.drop_left]

theorem eq_some_iff (nonempty : pattern ≠ []) :
    cut pattern text = some (front, back) ↔
      text = front ++ pattern ++ back ∧ Before pattern front := by
  constructor
  · intro found
    rcases Option.map_eq_some_iff.mp found with ⟨position, at_position, parts⟩
    rcases FirstOccurrence.of_eq_some nonempty at_position with
      ⟨front', back', rfl, rfl, first_one⟩
    have same := eq_some nonempty first_one back'
    rw [found, Option.some.injEq, Prod.mk.injEq] at same
    rcases same with ⟨rfl, rfl⟩
    exact ⟨rfl, first_one⟩
  · rintro ⟨rfl, first_one⟩
    exact eq_some nonempty first_one back

theorem length (nonempty : pattern ≠ []) (found : cut pattern text = some (front, back)) :
    front.length + pattern.length + back.length = text.length := by
  rcases (eq_some_iff nonempty).mp found with ⟨rfl, _⟩
  simp [Nat.add_assoc]

end Cut

namespace Pieces

variable {pattern text rest : List α} {fronts : List (List α)}

/-- Pieces, each before the first occurrence that follows it, are found again. -/
theorem eq_of_parts (nonempty : pattern ≠ []) (first_ones : ∀ front ∈ fronts, Before pattern front)
    (absent : ¬ pattern <:+: rest) {fuel : ℕ}
    (enough : (fronts.flatMap (· ++ pattern) ++ rest).length ≤ fuel) :
    piecesFrom pattern fuel (fronts.flatMap (· ++ pattern) ++ rest) = (fronts, rest) := by
  have positive := List.length_pos_iff.mpr nonempty
  induction fronts generalizing fuel with
  | nil =>
      cases fuel with
      | zero => rfl
      | succ fuel => simp [piecesFrom, Cut.eq_none_iff.mpr absent]
  | cons front fronts ih =>
      cases fuel with
      | zero =>
          simp only [List.flatMap_cons, List.length_append] at enough
          omega
      | succ fuel =>
          have found := Cut.eq_some nonempty (first_ones front List.mem_cons_self)
            (fronts.flatMap (· ++ pattern) ++ rest)
          have enough_later : (fronts.flatMap (· ++ pattern) ++ rest).length ≤ fuel := by
            simp only [List.flatMap_cons, List.length_append] at enough ⊢
            omega
          have later :=
            ih (fun front mem => first_ones front (List.mem_cons_of_mem _ mem)) enough_later
          simp only [List.flatMap_cons, List.append_assoc] at found later ⊢
          simp only [piecesFrom, found, later]

/-- Every text is made of pieces. -/
theorem exists_parts (nonempty : pattern ≠ []) (text : List α) :
    ∃ (fronts : List (List α)) (rest : List α), text = fronts.flatMap (· ++ pattern) ++ rest ∧
      (∀ front ∈ fronts, Before pattern front) ∧ ¬ pattern <:+: rest := by
  induction size : text.length using Nat.strong_induction_on generalizing text with
  | _ size ih =>
      subst size
      cases found : cut pattern text with
      | none => exact ⟨[], text, rfl, by simp, Cut.eq_none_iff.mp found⟩
      | some parts =>
          rcases parts with ⟨front, back⟩
          have shorter := Cut.length nonempty found
          have positive := List.length_pos_iff.mpr nonempty
          rcases (Cut.eq_some_iff nonempty).mp found with ⟨rfl, first_one⟩
          rcases ih back.length (by omega) back rfl with ⟨fronts, rest, rfl, first_ones, absent⟩
          exact ⟨front :: fronts, rest, by simp, by simpa using ⟨first_one, first_ones⟩, absent⟩

/-- Cutting at every occurrence, without reference to the search. -/
theorem eq_iff (nonempty : pattern ≠ []) {fuel : ℕ} (enough : text.length ≤ fuel) :
    piecesFrom pattern fuel text = (fronts, rest) ↔
      text = fronts.flatMap (· ++ pattern) ++ rest ∧
        (∀ front ∈ fronts, Before pattern front) ∧ ¬ pattern <:+: rest := by
  constructor
  · intro found
    rcases exists_parts nonempty text with ⟨fronts', rest', rfl, first_ones, absent⟩
    rw [eq_of_parts nonempty first_ones absent enough, Prod.mk.injEq] at found
    rcases found with ⟨rfl, rfl⟩
    exact ⟨rfl, first_ones, absent⟩
  · rintro ⟨rfl, first_ones, absent⟩
    exact eq_of_parts nonempty first_ones absent enough

/-- The fuel does not matter. -/
theorem piecesFrom_eq (nonempty : pattern ≠ []) {fuel : ℕ} (enough : text.length ≤ fuel) :
    piecesFrom pattern fuel text = pieces pattern text := by
  rcases exists_parts nonempty text with ⟨fronts, rest, rfl, first_ones, absent⟩
  rw [pieces, eq_of_parts nonempty first_ones absent enough,
    eq_of_parts nonempty first_ones absent le_rfl]

theorem pieces_of_cut (nonempty : pattern ≠ []) {front back : List α}
    (found : cut pattern text = some (front, back)) :
    pieces pattern text = (front :: (pieces pattern back).1, (pieces pattern back).2) := by
  have lengths := Cut.length nonempty found
  have positive := List.length_pos_iff.mpr nonempty
  rw [← piecesFrom_eq nonempty (Nat.le_succ text.length)]
  simp only [piecesFrom, found]
  rw [piecesFrom_eq nonempty (by omega)]

theorem pieces_of_absent (absent : cut pattern text = none) :
    pieces pattern text = ([], text) := by
  unfold pieces
  cases text.length <;> simp [piecesFrom, absent]

end Pieces
