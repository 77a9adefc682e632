import Mathlib.Algebra.BigOperators.Group.List.Basic
import Mathlib.Tactic.Ring
import Uvco.Library.Percent
import Uvco.Library.Records

/-!
# The fields of a POST request

This file embeds `urlEncode` and `formattedFields` of `uvco/integrations/curl/curl.cc`,
and what `initPost` makes libcurl send of their result. A `std::string` is the list of its
bytes.

`curl_easy_escape` is a parameter. It is given a pointer and a length of type `int`, to
which the length of a string is converted; a length of 0 makes it look for a NUL.
-/

namespace Uvco.Curl

/-- The contents of a `std::string`. -/
abbrev Bytes := List UInt8

/-- The byte that ends a C string. -/
def nul : UInt8 := 0

/-- `=` -/
def equals : UInt8 := 61

/-- `&` -/
def ampersand : UInt8 := 38

/-- `curl_easy_escape`: what is found at the pointer, the length, and the string that is returned
if it is not a null pointer. -/
abbrev EasyEscape := Bytes → ℤ → Option Bytes

/-- The exceptions of `std::string`. -/
inductive StringError where
  /-- `reserve` of more than `max_size()`. -/
  | lengthError
  /-- Construction from a null pointer. -/
  | nullPointer
deriving DecidableEq, Repr

/-- `static_cast<int>`, of any integer. -/
def toInt (number : ℤ) : ℤ :=
  (number + 2 ^ 31) % 2 ^ 32 - 2 ^ 31

/-- The conversion of an integer to `size_t`. -/
def toSize (number : ℤ) : ℤ :=
  number % 2 ^ 64

section

variable (curl_easy_escape : EasyEscape)

/-- The buffer of a `std::string` ends with a NUL. -/
def urlEncode (url : Bytes) : Except StringError Bytes :=
  match curl_easy_escape (url ++ [nul]) (toInt url.length) with
  | some result => .ok result
  | none => .error .nullPointer

/-- The argument of `reserve`: `std::accumulate` keeps its sum in an `int`. -/
def reservation (fields : List (Bytes × Bytes)) : ℤ :=
  fields.foldl
    (fun acc pair => toInt (toSize (toSize acc + pair.1.length + pair.2.length + 2))) 0

/-- The loop of `formattedFields`. -/
def appendFields : List (Bytes × Bytes) → Bytes → Except StringError Bytes
  | [], result => .ok result
  | (key, value) :: fields, result => do
      let result := result ++ (← urlEncode curl_easy_escape key)
      let result := result ++ [equals]
      let result := result ++ (← urlEncode curl_easy_escape value)
      let result := result ++ [ampersand]
      appendFields fields result

/-- `formattedFields()`: every field is appended to a string that is reserved first. -/
def formattedFields (fields : List (Bytes × Bytes)) : Except StringError Bytes :=
  -- A negative number is more than `max_size()` once it is a `size_t`.
  if reservation fields < 0 then .error .lengthError
  else appendFields curl_easy_escape fields []

/-- The payload that `initPost` hands to libcurl with `CURLOPT_POSTFIELDS`, and that libcurl reads
up to the first NUL. -/
def postFields (fields : List (Bytes × Bytes)) : Except StringError Bytes := do
  let payload ← formattedFields curl_easy_escape fields
  return (payload ++ [nul]).takeWhile (· ≠ nul)

end

/-! ## What a server reads -/

/-- The fields of a form: the text is cut at every `&`, and each part at its first `=`. -/
def formFields (unescape : Bytes → Bytes) (body : Bytes) : Option (List (Bytes × Bytes)) :=
  (recordsOf equals ampersand body).map
    (List.map fun record => (unescape record.1, unescape record.2))

/-- `a`-`z`, `A`-`Z`, `0`-`9`, `-`, `.`, `_` and `~`. -/
def unreserved (char : UInt8) : Bool :=
  (97 ≤ char && char ≤ 122) || (65 ≤ char && char ≤ 90) || (48 ≤ char && char ≤ 57) ||
    char ∈ [45, 46, 95, 126]

/-- A text is returned that stands for the string. -/
def Escapes (unescape : Bytes → Bytes) (result : Option Bytes) (string : Bytes) : Prop :=
  ∃ encoded, result = some encoded ∧ unescape encoded = string ∧
    ∀ char ∈ encoded, unreserved char = true ∨ char = Percent.sign

/-- What libcurl documents about `curl_easy_escape`, which does not accept strings of more than
`limit` bytes. -/
structure Documented (curl_easy_escape : EasyEscape) (unescape : Bytes → Bytes) (limit : ℕ) :
    Prop where
  limit_small : limit < 2 ^ 31
  escaped : ∀ string rest, string ≠ [] → string.length ≤ limit →
    Escapes unescape (curl_easy_escape (string ++ rest) string.length) string
  measured : ∀ string rest, nul ∉ string → string.length ≤ limit →
    Escapes unescape (curl_easy_escape (string ++ nul :: rest) 0) string
  rejected : ∀ memory length, length < 0 ∨ (limit : ℤ) < length →
    curl_easy_escape memory length = none
  measured_rejected : ∀ string rest, nul ∉ string → limit < string.length →
    curl_easy_escape (string ++ nul :: rest) 0 = none

/-- The bytes that are reserved, if no escape is needed. -/
def fieldsSize (fields : List (Bytes × Bytes)) : ℕ :=
  (fields.map fun pair => pair.1.length + pair.2.length + 2).sum

theorem reservation_eq (fields : List (Bytes × Bytes)) :
    reservation fields = toInt (fieldsSize fields) := by
  have from_any : ∀ start : ℤ, fields.foldl
      (fun acc pair => toInt (toSize (toSize acc + pair.1.length + pair.2.length + 2)))
      (toInt start) = toInt (start + fieldsSize fields) := by
    induction fields with
    | nil => intro start; simp [fieldsSize]
    | cons pair fields ih =>
        intro start
        have step : toInt (toSize (toSize (toInt start) + pair.1.length + pair.2.length + 2)) =
            toInt (start + (pair.1.length + pair.2.length + 2)) := by
          simp only [toInt, toSize]
          omega
        rw [List.foldl_cons, step, ih]
        congr 1
        simp only [fieldsSize, List.map_cons, List.sum_cons]
        push_cast
        omega
  simpa [reservation, toInt] using from_any 0

theorem reservation_nonneg_iff {fields : List (Bytes × Bytes)} :
    0 ≤ reservation fields ↔ fieldsSize fields % 2 ^ 32 < 2 ^ 31 := by
  rw [reservation_eq, toInt]
  omega

namespace Documented

variable {curl_easy_escape : EasyEscape} {unescape : Bytes → Bytes} {limit : ℕ}

/-- A text that is escaped has none of the characters that delimit it. -/
theorem not_special {char : UInt8} (safe : unreserved char = true ∨ char = Percent.sign) :
    char ≠ equals ∧ char ≠ ampersand ∧ char ≠ nul := by
  refine ⟨?_, ?_, ?_⟩ <;> rintro rfl <;> revert safe <;> decide

/-- An escaped text that stands for a string, or for a part of a string that is too long. -/
structure Part (unescape : Bytes → Bytes) (limit : ℕ) (encoded string : Bytes) : Prop where
  safe : ∀ char ∈ encoded, unreserved char = true ∨ char = Percent.sign
  limited : (unescape encoded).length ≤ limit
  whole : string.length ≤ limit → unescape encoded = string

/-- The records that were posted are the fields, in order. -/
abbrev Parts (unescape : Bytes → Bytes) (limit : ℕ) (records fields : List (Bytes × Bytes)) :
    Prop :=
  List.Forall₂ (fun record field => Part unescape limit record.1 field.1 ∧
    Part unescape limit record.2 field.2) records fields

/-- The length that libcurl is given is that of the string only if this has less than 2³¹ bytes.
Otherwise a null pointer is returned or a part of the string is missing. -/
theorem urlEncode_cases (documented : Documented curl_easy_escape unescape limit) (url : Bytes) :
    (urlEncode curl_easy_escape url = .error .nullPointer ∧ limit < url.length) ∨
      ∃ encoded, urlEncode curl_easy_escape url = .ok encoded ∧
        Part unescape limit encoded url := by
  have small := documented.limit_small
  have short_length : url.length ≤ limit → toInt url.length = url.length := by
    intro short
    rw [toInt]
    omega
  by_cases refused : toInt url.length < 0 ∨ (limit : ℤ) < toInt url.length
  · left
    refine ⟨by simp [urlEncode, documented.rejected _ _ refused], ?_⟩
    by_contra short
    have := short_length (by omega)
    omega
  · by_cases zero : toInt url.length = 0
    · obtain ⟨front, rest, split, free⟩ := List.eq_append_cons_of_mem
        (show nul ∈ url ++ [nul] by simp)
      have front_length : front.length ≤ url.length := by
        have lengths := congrArg List.length split
        simp only [List.length_append, List.length_cons, List.length_nil] at lengths
        omega
      by_cases fits : front.length ≤ limit
      · right
        rcases documented.measured front rest free fits with ⟨encoded, found, decoded, safe⟩
        rw [← split] at found
        refine ⟨encoded, by simp [urlEncode, zero, found], safe, by rwa [decoded], ?_⟩
        intro short
        have empty : url = [] := by
          have := short_length short
          exact List.length_eq_zero_iff.mp (by omega)
        have front_empty : front = [] := by
          apply List.length_eq_zero_iff.mp
          rw [empty, List.length_nil] at front_length
          omega
        rw [decoded, front_empty, empty]
      · left
        have refused_here := documented.measured_rejected front rest free (by omega)
        rw [← split] at refused_here
        exact ⟨by simp [urlEncode, zero, refused_here], by omega⟩
    · right
      obtain ⟨length, length_eq⟩ := Int.eq_ofNat_of_zero_le (a := toInt url.length) (by omega)
      have inside : length ≤ url.length := by
        rw [toInt] at length_eq
        omega
      have length_take : (url.take length).length = length := List.length_take_of_le inside
      have nonempty : url.take length ≠ [] := by
        intro empty
        rw [empty, List.length_nil] at length_take
        omega
      have split : url ++ [nul] = url.take length ++ (url.drop length ++ [nul]) := by
        rw [← List.append_assoc, List.take_append_drop]
      rcases documented.escaped (url.take length) (url.drop length ++ [nul]) nonempty
        (by omega) with ⟨encoded, found, decoded, safe⟩
      rw [← split, length_take] at found
      refine ⟨encoded, by simp [urlEncode, length_eq, found], safe, by rw [decoded]; omega, ?_⟩
      intro short
      have whole : length = url.length := by
        have := short_length short
        omega
      rw [decoded, whole, List.take_length]

theorem appendFields_cases (documented : Documented curl_easy_escape unescape limit)
    (fields : List (Bytes × Bytes)) (result : Bytes) :
    (appendFields curl_easy_escape fields result = .error .nullPointer ∧
        ∃ field ∈ fields, limit < field.1.length ∨ limit < field.2.length) ∨
      ∃ records, appendFields curl_easy_escape fields result =
          .ok (result ++ recordsText equals ampersand records) ∧
        Parts unescape limit records fields := by
  induction fields generalizing result with
  | nil => exact .inr ⟨[], by simp [appendFields, recordsText], .nil⟩
  | cons field fields ih =>
      rcases field with ⟨key, value⟩
      rcases documented.urlEncode_cases key with ⟨key_fails, key_long⟩ | ⟨key', key_found, key_part⟩
      · left
        refine ⟨?_, (key, value), List.mem_cons_self, .inl key_long⟩
        simp [appendFields, key_fails, bind, Except.bind]
      rcases documented.urlEncode_cases value with
        ⟨value_fails, value_long⟩ | ⟨value', value_found, value_part⟩
      · left
        refine ⟨?_, (key, value), List.mem_cons_self, .inr value_long⟩
        simp [appendFields, key_found, value_fails, bind, Except.bind]
      have step : appendFields curl_easy_escape ((key, value) :: fields) result =
          appendFields curl_easy_escape fields
            (result ++ key' ++ [equals] ++ value' ++ [ampersand]) := by
        simp [appendFields, key_found, value_found, bind, Except.bind]
      rw [step]
      rcases ih (result ++ key' ++ [equals] ++ value' ++ [ampersand]) with
        ⟨fails, long, long_mem, too_long⟩ | ⟨records, found, parts⟩
      · exact .inl ⟨fails, long, List.mem_cons_of_mem _ long_mem, too_long⟩
      · right
        refine ⟨(key', value') :: records, ?_, .cons ⟨key_part, value_part⟩ parts⟩
        rw [found]
        simp [recordsText]

theorem separated_of_parts {records fields : List (Bytes × Bytes)}
    (parts : Parts unescape limit records fields) :
    ∀ record ∈ records, Records.Separated equals ampersand record ∧
      nul ∉ record.1 ∧ nul ∉ record.2 := by
  induction parts with
  | nil => simp
  | cons part _ ih =>
      have key_free := fun char mem => not_special (part.1.safe char mem)
      have value_free := fun char mem => not_special (part.2.safe char mem)
      refine List.forall_mem_cons.mpr ⟨⟨⟨?_, ?_, ?_⟩, ?_, ?_⟩, ih⟩ <;> intro mem
      · exact (key_free _ mem).1 rfl
      · exact (key_free _ mem).2.1 rfl
      · exact (value_free _ mem).2.1 rfl
      · exact (key_free _ mem).2.2 rfl
      · exact (value_free _ mem).2.2 rfl

/-- What is posted is read as records of the parts. -/
theorem formFields_of_parts {records fields : List (Bytes × Bytes)}
    (parts : Parts unescape limit records fields) :
    formFields unescape (((recordsText equals ampersand records) ++ [nul]).takeWhile (· ≠ nul)) =
      some (records.map fun record => (unescape record.1, unescape record.2)) := by
  have separated := separated_of_parts parts
  have no_nul : nul ∉ recordsText equals ampersand records := by
    intro mem
    rcases List.mem_flatMap.mp mem with ⟨record, record_mem, inside⟩
    have free := (separated record record_mem).2
    simp only [List.mem_append, List.mem_cons, List.not_mem_nil, or_false] at inside
    rcases inside with (in_key | is_equals | in_value) | is_ampersand
    · exact free.1 in_key
    · exact absurd is_equals (by decide)
    · exact free.2 in_value
    · exact absurd is_ampersand (by decide)
  have up_to_nul : ((recordsText equals ampersand records) ++ [nul]).takeWhile (· ≠ nul) =
      recordsText equals ampersand records := by
    rw [List.takeWhile_append_of_pos]
    · simp
    · intro char mem
      have : char ≠ nul := by
        rintro rfl
        exact no_nul mem
      simpa using this
  have read : recordsOf equals ampersand (recordsText equals ampersand records) = some records :=
    Records.recordsOf_recordsText (by decide) fun record mem => (separated record mem).1
  rw [up_to_nul, formFields, read, Option.map_some]

/-- The parts are the fields if and only if none is too long. -/
theorem decoded_eq_iff {records fields : List (Bytes × Bytes)}
    (parts : Parts unescape limit records fields) :
    records.map (fun record => (unescape record.1, unescape record.2)) = fields ↔
      ∀ field ∈ fields, field.1.length ≤ limit ∧ field.2.length ≤ limit := by
  induction parts with
  | nil => simp
  | cons part _ ih =>
      rename_i record field records fields
      rw [List.map_cons, List.cons.injEq, ih, List.forall_mem_cons]
      refine and_congr_left' ⟨?_, ?_⟩
      · rintro rfl
        exact ⟨part.1.limited, part.2.limited⟩
      · rintro ⟨key_short, value_short⟩
        rw [part.1.whole key_short, part.2.whole value_short]

end Documented

/-- What libcurl sends is a form of exactly the given fields, in their order, if and only if no key
and no value is longer than libcurl accepts and the size estimate of `formattedFields` does not
become negative as an `int`. -/
theorem postFields_round_trip {curl_easy_escape : EasyEscape} {unescape : Bytes → Bytes}
    {limit : ℕ} (documented : Documented curl_easy_escape unescape limit)
    (fields : List (Bytes × Bytes)) :
    (∃ body, postFields curl_easy_escape fields = .ok body ∧
        formFields unescape body = some fields) ↔
      fieldsSize fields % 2 ^ 32 < 2 ^ 31 ∧
        ∀ field ∈ fields, field.1.length ≤ limit ∧ field.2.length ≤ limit := by
  rw [← reservation_nonneg_iff]
  by_cases negative : reservation fields < 0
  · have fails : postFields curl_easy_escape fields = .error .lengthError := by
      simp [postFields, formattedFields, negative, bind, Except.bind]
    constructor
    · rintro ⟨body, posted, _⟩
      rw [fails] at posted
      cases posted
    · rintro ⟨nonneg, _⟩
      omega
  rcases documented.appendFields_cases fields [] with
    ⟨fails, field, mem, too_long⟩ | ⟨records, found, parts⟩
  · have fails : postFields curl_easy_escape fields = .error .nullPointer := by
      simp [postFields, formattedFields, negative, fails, bind, Except.bind]
    constructor
    · rintro ⟨body, posted, _⟩
      rw [fails] at posted
      cases posted
    · rintro ⟨_, short⟩
      have := short field mem
      omega
  · have posted : postFields curl_easy_escape fields =
        .ok ((recordsText equals ampersand records ++ [nul]).takeWhile (· ≠ nul)) := by
      simp [postFields, formattedFields, negative, found, bind, Except.bind, pure, Except.pure]
    rw [posted]
    simp only [Except.ok.injEq, exists_eq_left', Documented.formFields_of_parts parts,
      Option.some.injEq,
      Documented.decoded_eq_iff parts]
    constructor
    · exact fun short => ⟨by omega, short⟩
    · exact fun both => both.2

/-- An implementation: every byte that is not unreserved is escaped. -/
def percentEscape (limit : ℕ) : EasyEscape := fun memory length =>
  if length < 0 then none
  else
    let string := if length = 0 then memory.takeWhile (· ≠ nul) else memory.take length.toNat
    if (limit : ℤ) < length ∨ limit < string.length then none
    else some (Percent.encode unreserved string)

theorem percentEscape_documented {limit : ℕ} (small : limit < 2 ^ 31) :
    Documented (percentEscape limit) Percent.decode limit := by
  have escapes : ∀ string, Escapes Percent.decode
      (some (Percent.encode unreserved string)) string := by
    intro string
    refine ⟨_, rfl, Percent.decode_encode unreserved (by decide) string, ?_⟩
    intro char mem
    have digits : ∀ d < 16, unreserved (Percent.hexDigit d) = true := by decide
    rcases Percent.mem_encode unreserved mem with plain | is_sign | ⟨d, bound, rfl⟩
    · exact .inl plain
    · exact .inr is_sign
    · exact .inl (digits d bound)
  have up_to_nul : ∀ string rest, nul ∉ string →
      (string ++ nul :: rest).takeWhile (· ≠ nul) = string := by
    intro string rest free
    rw [List.takeWhile_append_of_pos]
    · simp
    · intro char mem
      simpa using ne_of_mem_of_not_mem mem free
  constructor
  case limit_small => exact small
  case escaped =>
    intro string rest nonempty short
    have positive := List.length_pos_iff.mpr nonempty
    have taken : percentEscape limit (string ++ rest) string.length =
        some (Percent.encode unreserved string) := by
      have not_measured : ¬ (string.length : ℤ) = 0 := by omega
      simp only [percentEscape, Int.toNat_natCast, List.take_left, if_neg not_measured]
      rw [if_neg (by omega), if_neg (by omega)]
    rw [taken]
    exact escapes string
  case measured =>
    intro string rest free short
    have taken : percentEscape limit (string ++ nul :: rest) 0 =
        some (Percent.encode unreserved string) := by
      simp only [percentEscape, if_true, up_to_nul string rest free]
      rw [if_neg (by omega), if_neg (by omega)]
    rw [taken]
    exact escapes string
  case rejected =>
    intro memory length refused
    by_cases negative : length < 0
    · simp [percentEscape, negative]
    · simp [percentEscape, refused.resolve_left negative]
  case measured_rejected =>
    intro string rest free long
    simp only [percentEscape, if_true, up_to_nul string rest free]
    simp [long]

/-- With the fields `{"a&b", "1=\x00%"}` and `{"", "="}`. -/
theorem postFields_round_trip_special :
    let fields : List (Bytes × Bytes) := [([97, 38, 98], [49, 61, 0, 37]), ([], [61])]
    ∃ body, postFields (percentEscape 8000000) fields = .ok body ∧
      formFields Percent.decode body = some fields :=
  (postFields_round_trip (percentEscape_documented (by decide)) _).mpr (by decide)

end Uvco.Curl
