import Uvco.HttpServer.Request

/-!
# Reading the headers of a request

This file embeds `readHeaders` of `uvco/examples/http_server.cc`. The buffer of the
server is limited, but the limit is looked at between two reads only: a read that
starts below it may go beyond. Whether a header section is accepted that is longer
than the limit therefore depends on where the reads happen to end, and
`feed_section` says on what exactly.
-/

namespace Uvco.HttpServer

open Uvco.Stream (Byte)

/-- What `readHeaders` compares the size of its buffer with. -/
def MAX_HEADER_SIZE : ℕ := 8192

/-- The size of the buffer that `readHeaders` reads to. -/
def BUFFER_SIZE : ℕ := 4096

/-- `readHeaders` is suspended in a read, or has returned. -/
inductive ReadHeaders where
  | reading (requestBuffer : List Byte)
  | returned (headers : Option (List Byte))
deriving DecidableEq, Repr

namespace ReadHeaders

/-- The head of the loop, while the end of the headers is not found. -/
def loop (requestBuffer : List Byte) : ReadHeaders :=
  if requestBuffer.length > MAX_HEADER_SIZE then .returned none else .reading requestBuffer

/-- `readHeaders` is called, with an empty buffer. -/
def start : ReadHeaders :=
  loop []

/-- `stream.read` returns as many bytes as it has; none at the end of the stream. -/
def read (requestBuffer bytes : List Byte) : ReadHeaders :=
  if bytes.length = 0 then .returned none
  else
    let requestBuffer := requestBuffer ++ bytes
    match findFrom requestBuffer (CRLF ++ CRLF) 0 with
    | none => loop requestBuffer
    | some headersEndPos => .returned (some (substr requestBuffer 0 (headersEndPos + 4)))

/-- One read after the other returns. -/
def feed : ReadHeaders → List (List Byte) → ReadHeaders
  | .returned headers, _ => .returned headers
  | .reading requestBuffer, [] => .reading requestBuffer
  | .reading requestBuffer, bytes :: reads => feed (read requestBuffer bytes) reads

@[simp]
theorem feed_returned (headers : Option (List Byte)) (reads : List (List Byte)) :
    feed (.returned headers) reads = .returned headers := by
  cases reads <;> rfl

end ReadHeaders

/-- The ways in which reads may return a text. -/
def Cuts (stream : List Byte) (reads : List (List Byte)) : Prop :=
  reads.flatten = stream ∧ ∀ bytes ∈ reads, bytes ≠ [] ∧ bytes.length ≤ BUFFER_SIZE

theorem blankLine_ne_nil : CRLF ++ CRLF ≠ [] := by decide

namespace ReadHeaders

/-! ## One read -/

/-- Within a header section no end of the headers is found. -/
theorem not_found {headers buffer : List Byte} (is_section : IsSection headers)
    (inside : buffer <+: headers) (short : buffer.length < headers.length) :
    findFrom buffer (CRLF ++ CRLF) 0 = none := by
  rcases is_section with ⟨front, rfl, first_one⟩
  rw [findFrom_zero, FirstOccurrence.eq_none_iff]
  intro found
  apply first_one
  refine found.trans (List.IsPrefix.isInfix ?_)
  refine List.prefix_of_prefix_length_le inside ?_ ?_
  · rw [List.prefix_append_right_inj]
    exact List.dropLast_prefix _
  · simp only [List.length_append, List.length_dropLast] at short ⊢
    omega

/-- Behind a header section its end is found. -/
theorem found {headers : List Byte} (is_section : IsSection headers) (more : List Byte) :
    findFrom (headers ++ more) (CRLF ++ CRLF) 0 = some (headers.length - 4) ∧
      4 ≤ headers.length := by
  rcases is_section with ⟨front, rfl, first_one⟩
  rw [findFrom_zero, FirstOccurrence.eq_some blankLine_ne_nil first_one]
  simp [CRLF]

/-- A read either completes the header section, and then the section is returned, or it does not,
and then the limit decides. -/
theorem read_section {headers buffer bytes rest more : List Byte} (is_section : IsSection headers)
    (nonempty : bytes ≠ []) (stream_eq : buffer ++ bytes ++ rest = headers ++ more) :
    read buffer bytes =
      if headers.length ≤ (buffer ++ bytes).length then .returned (some headers)
      else loop (buffer ++ bytes) := by
  have some_bytes : bytes.length ≠ 0 := by simpa using nonempty
  by_cases complete : headers.length ≤ (buffer ++ bytes).length
  · have at_front : headers <+: buffer ++ bytes :=
      List.prefix_of_prefix_length_le ⟨more, rfl⟩ ⟨rest, stream_eq⟩ complete
    rcases at_front with ⟨tail, tail_eq⟩
    rcases found is_section tail with ⟨position, long⟩
    rw [if_pos complete]
    simp only [read, some_bytes, if_false, ← tail_eq, position]
    rw [Nat.sub_add_cancel long, substr, List.drop_zero, List.take_left]
  · have at_front : buffer ++ bytes <+: headers :=
      List.prefix_of_prefix_length_le ⟨rest, stream_eq⟩ ⟨more, rfl⟩ (by omega)
    have absent := not_found is_section at_front (by omega)
    simp only [read, some_bytes, if_false, complete, absent]

/-- What a read does. -/
theorem read_cases {buffer : List Byte} (free : ¬ CRLF ++ CRLF <:+: buffer) (bytes : List Byte) :
    (bytes = [] ∧ read buffer bytes = .returned none) ∨
      (∃ headers dropped, IsSection headers ∧ buffer ++ bytes = headers ++ dropped ∧
        dropped.length < bytes.length ∧ read buffer bytes = .returned (some headers)) ∨
      (¬ CRLF ++ CRLF <:+: buffer ++ bytes ∧ read buffer bytes = loop (buffer ++ bytes)) := by
  by_cases at_end : bytes = []
  · exact .inl ⟨at_end, by simp [read, at_end]⟩
  · right
    by_cases inside : CRLF ++ CRLF <:+: buffer ++ bytes
    · left
      cases at_position : firstOccurrence (CRLF ++ CRLF) (buffer ++ bytes) with
      | none => exact absurd inside (FirstOccurrence.eq_none_iff.mp at_position)
      | some position =>
          rcases FirstOccurrence.of_eq_some blankLine_ne_nil at_position with
            ⟨front, dropped, split, _, first_one⟩
          have is_section : IsSection (front ++ (CRLF ++ CRLF)) := ⟨front, rfl, first_one⟩
          have step := read_section is_section at_end ((List.append_nil _).trans split)
          have lengths := congrArg List.length split
          rw [List.length_append, List.length_append] at lengths
          have complete : (front ++ (CRLF ++ CRLF)).length ≤ (buffer ++ bytes).length := by
            rw [split]
            exact (List.prefix_append _ _).length_le
          rw [if_pos complete] at step
          refine ⟨_, dropped, is_section, split, ?_, step⟩
          by_contra long
          -- Otherwise the section would have been in the buffer before the read.
          have at_front : front ++ (CRLF ++ CRLF) <+: buffer :=
            List.prefix_of_prefix_length_le ⟨dropped, split.symm⟩ (List.prefix_append _ _)
              (by omega)
          exact free ((List.suffix_append _ _).isInfix.trans at_front.isInfix)
    · right
      have absent : findFrom (buffer ++ bytes) (CRLF ++ CRLF) 0 = none := by
        rw [findFrom_zero, FirstOccurrence.eq_none_iff]
        exact inside
      have some_bytes : bytes.length ≠ 0 := by simpa using at_end
      exact ⟨inside, by simp only [read, some_bytes, if_false, absent]⟩

/-! ## All reads -/

/-- A read ends behind the limit and before the end of the headers. -/
def Overrun (headers : List Byte) (length : ℕ) (reads : List (List Byte)) : Prop :=
  ∃ before, before <+: reads ∧ MAX_HEADER_SIZE < length + before.flatten.length ∧
    length + before.flatten.length < headers.length

theorem Overrun.cons_iff {headers bytes : List Byte} {length : ℕ} {reads : List (List Byte)}
    (below : length ≤ MAX_HEADER_SIZE) :
    Overrun headers length (bytes :: reads) ↔ Overrun headers (length + bytes.length) reads := by
  constructor
  · rintro ⟨before, at_front, behind, inside⟩
    rcases before with _ | ⟨first, before⟩
    · simp only [List.flatten_nil, List.length_nil] at behind
      omega
    · rcases List.cons_prefix_cons.mp at_front with ⟨rfl, later⟩
      simp only [List.flatten_cons, List.length_append] at behind inside
      exact ⟨before, later, by omega, by omega⟩
  · rintro ⟨before, at_front, behind, inside⟩
    refine ⟨bytes :: before, List.cons_prefix_cons.mpr ⟨rfl, at_front⟩, ?_, ?_⟩ <;>
      simp only [List.flatten_cons, List.length_append] <;> omega

theorem Overrun.false_of_complete {headers : List Byte} {length : ℕ} {reads : List (List Byte)}
    (complete : headers.length ≤ length) : ¬ Overrun headers length reads := by
  rintro ⟨before, _, _, inside⟩
  omega

/-- What the buffer holds when `readHeaders` is suspended is below the limit and within the
section; the induction is on the reads that follow. -/
theorem feed_reading {headers more buffer : List Byte} (is_section : IsSection headers)
    {reads : List (List Byte)} (nonempty : ∀ bytes ∈ reads, bytes ≠ [])
    (stream_eq : buffer ++ reads.flatten = headers ++ more)
    (below : buffer.length ≤ MAX_HEADER_SIZE) (short : buffer.length < headers.length) :
    (Overrun headers buffer.length reads → feed (.reading buffer) reads = .returned none) ∧
      (¬ Overrun headers buffer.length reads →
        feed (.reading buffer) reads = .returned (some headers)) := by
  induction reads generalizing buffer with
  | nil =>
      have := congrArg List.length stream_eq
      simp only [List.flatten_nil, List.append_nil, List.length_append] at this
      omega
  | cons bytes reads ih =>
      rw [List.flatten_cons, ← List.append_assoc] at stream_eq
      have step := read_section is_section (nonempty bytes List.mem_cons_self) stream_eq
      rw [Overrun.cons_iff below, ← List.length_append]
      by_cases complete : headers.length ≤ (buffer ++ bytes).length
      · rw [if_pos complete] at step
        refine ⟨fun overrun => absurd overrun (Overrun.false_of_complete complete), fun _ => ?_⟩
        rw [feed, step, feed_returned]
      · rw [if_neg complete] at step
        by_cases behind : (buffer ++ bytes).length > MAX_HEADER_SIZE
        · rw [loop, if_pos behind] at step
          have overrun : Overrun headers (buffer ++ bytes).length reads :=
            ⟨[], List.nil_prefix, by simpa using behind, by simpa using complete⟩
          refine ⟨fun _ => ?_, fun none => absurd overrun none⟩
          rw [feed, step, feed_returned]
        · rw [loop, if_neg behind] at step
          rw [feed, step]
          exact ih (fun bytes mem => nonempty bytes (List.mem_cons_of_mem _ mem)) stream_eq
            (by omega) (by omega)

/-- Reads that return a header section and more: `readHeaders` returns the section, whatever the
reads, unless one of them overruns the limit. -/
theorem feed_section {headers more : List Byte} (is_section : IsSection headers)
    {reads : List (List Byte)} (cuts : Cuts (headers ++ more) reads) :
    (Overrun headers 0 reads → feed start reads = .returned none) ∧
      (¬ Overrun headers 0 reads → feed start reads = .returned (some headers)) := by
  have long := (found is_section []).2
  have short : ([] : List Byte).length < headers.length := by
    rw [List.length_nil]
    omega
  exact feed_reading is_section (fun bytes mem => (cuts.2 bytes mem).1) cuts.1 (Nat.zero_le _) short

/-! ## The limit -/

/-- A read that crosses some length starts less than a read before it. -/
theorem exists_crossing {reads : List (List Byte)}
    (small : ∀ bytes ∈ reads, bytes.length ≤ BUFFER_SIZE) {goal : ℕ} (positive : 0 < goal)
    (reached : goal ≤ reads.flatten.length) :
    ∃ before, before <+: reads ∧ before.flatten.length < goal ∧
      goal ≤ before.flatten.length + BUFFER_SIZE := by
  induction reads generalizing goal with
  | nil => simp only [List.flatten_nil, List.length_nil] at reached; omega
  | cons bytes reads ih =>
      have bytes_small := small bytes List.mem_cons_self
      by_cases first : goal ≤ bytes.length
      · exact ⟨[], List.nil_prefix, by simpa using positive, by
          simp only [List.flatten_nil, List.length_nil]; omega⟩
      · simp only [List.flatten_cons, List.length_append] at reached
        have reads_small : ∀ bytes ∈ reads, bytes.length ≤ BUFFER_SIZE :=
          fun bytes mem => small bytes (List.mem_cons_of_mem _ mem)
        have goal_positive : 0 < goal - bytes.length := by omega
        rcases ih reads_small goal_positive (by omega) with ⟨before, at_front, short, long⟩
        refine ⟨bytes :: before, List.cons_prefix_cons.mpr ⟨rfl, at_front⟩, ?_, ?_⟩ <;>
          simp only [List.flatten_cons, List.length_append] <;> omega

/-- The reads return one byte each behind the first few. -/
theorem cuts_of_front {stream : List Byte} {front : List (List Byte)}
    (at_front : front.flatten <+: stream)
    (fine : ∀ bytes ∈ front, bytes ≠ [] ∧ bytes.length ≤ BUFFER_SIZE) :
    Cuts stream (front ++ (stream.drop front.flatten.length).map ([·])) := by
  constructor
  · rcases at_front with ⟨rest, rfl⟩
    have singles : ∀ bytes : List Byte, (bytes.map ([·])).flatten = bytes := by
      intro bytes
      induction bytes with
      | nil => rfl
      | cons byte bytes ih => simpa using ih
    rw [List.flatten_append, List.drop_left, singles]
  · intro bytes mem
    rcases List.mem_append.mp mem with in_front | single
    · exact fine bytes in_front
    · rcases List.mem_map.mp single with ⟨byte, _, rfl⟩
      simp [BUFFER_SIZE]

/-- Three reads that return the front of a stream. -/
def threeReads (stream : List Byte) (last : ℕ) : List (List Byte) :=
  [stream.take BUFFER_SIZE, (stream.drop BUFFER_SIZE).take BUFFER_SIZE,
    (stream.drop MAX_HEADER_SIZE).take last]

theorem threeReads_flatten (stream : List Byte) (last : ℕ) :
    (threeReads stream last).flatten = stream.take (MAX_HEADER_SIZE + last) := by
  have twice : MAX_HEADER_SIZE = BUFFER_SIZE + BUFFER_SIZE := rfl
  simp only [threeReads, List.flatten_cons, List.flatten_nil, List.append_nil]
  rw [List.take_add, twice, List.take_add, List.append_assoc]

/-- The reads after the first three return one byte each. -/
def threeThenSingle (stream : List Byte) (last : ℕ) : List (List Byte) :=
  threeReads stream last ++
    (stream.drop (threeReads stream last).flatten.length).map ([·])

theorem threeThenSingle_cuts {stream : List Byte} {last : ℕ} (positive : 0 < last)
    (small : last ≤ BUFFER_SIZE) (long : MAX_HEADER_SIZE + last ≤ stream.length) :
    Cuts stream (threeThenSingle stream last) := by
  apply cuts_of_front
  · rw [threeReads_flatten]
    exact List.take_prefix _ _
  · simp only [MAX_HEADER_SIZE, BUFFER_SIZE] at small long
    intro bytes mem
    simp only [threeReads, List.mem_cons, List.not_mem_nil, or_false] at mem
    rw [← List.length_pos_iff]
    rcases mem with rfl | rfl | rfl <;>
      simp only [List.length_take, List.length_drop, MAX_HEADER_SIZE, BUFFER_SIZE] <;> omega

/-- If the third read ends with the section, no read overruns the limit. -/
theorem threeThenSingle_not_overrun {headers : List Byte}
    (long : MAX_HEADER_SIZE ≤ headers.length) (more : List Byte) :
    ¬ Overrun headers 0
      (threeThenSingle (headers ++ more) (headers.length - MAX_HEADER_SIZE)) := by
  rintro ⟨before, at_front, behind, inside⟩
  have sizes : MAX_HEADER_SIZE = BUFFER_SIZE + BUFFER_SIZE := rfl
  have first_small := List.length_take_le BUFFER_SIZE (headers ++ more)
  have second_small := List.length_take_le BUFFER_SIZE ((headers ++ more).drop BUFFER_SIZE)
  simp only [threeThenSingle, threeReads, List.cons_append] at at_front
  rcases before with _ | ⟨first, _ | ⟨second, _ | ⟨third, before⟩⟩⟩
  · simp only [List.flatten_nil, List.length_nil] at behind
    omega
  · rcases List.cons_prefix_cons.mp at_front with ⟨rfl, _⟩
    simp only [List.flatten_cons, List.flatten_nil, List.append_nil] at behind
    omega
  · simp only [List.cons_prefix_cons] at at_front
    rcases at_front with ⟨rfl, rfl, _⟩
    simp only [List.flatten_cons, List.flatten_nil, List.append_nil, List.length_append]
      at behind first_small second_small
    omega
  · simp only [List.cons_prefix_cons] at at_front
    have three_eq : [first, second, third] =
        threeReads (headers ++ more) (headers.length - MAX_HEADER_SIZE) := by
      rw [at_front.1, at_front.2.1, at_front.2.2.1, threeReads]
    have whole := congrArg (fun reads => reads.flatten.length) three_eq
    simp only [threeReads_flatten, List.length_take, List.length_append, List.flatten_cons,
      List.flatten_nil, List.append_nil] at whole inside
    omega

/-- The limit of `readHeaders`: a section that ends at most one byte behind it is returned
whatever the reads, one that ends more than a buffer behind it never is, and between the two
it is only the reads that decide. -/
theorem section_limit {headers : List Byte} (is_section : IsSection headers) (more : List Byte) :
    (∀ reads, Cuts (headers ++ more) reads →
        feed start reads = .returned (some headers) ∨ feed start reads = .returned none) ∧
      ((∀ reads, Cuts (headers ++ more) reads →
          feed start reads = .returned (some headers)) ↔ headers.length ≤ MAX_HEADER_SIZE + 1) ∧
      ((∀ reads, Cuts (headers ++ more) reads → feed start reads = .returned none) ↔
        MAX_HEADER_SIZE + BUFFER_SIZE < headers.length) := by
  refine ⟨fun reads cuts => ?_, ⟨fun always => ?_, fun small reads cuts => ?_⟩,
    ⟨fun never => ?_, fun large reads cuts => ?_⟩⟩
  · by_cases overrun : Overrun headers 0 reads
    · exact .inr ((feed_section is_section cuts).1 overrun)
    · exact .inl ((feed_section is_section cuts).2 overrun)
  · -- A third read of one byte ends behind the limit.
    by_contra long
    have cuts : Cuts (headers ++ more) (threeThenSingle (headers ++ more) 1) := by
      apply threeThenSingle_cuts (by decide) (by decide)
      rw [List.length_append]
      omega
    have overrun : Overrun headers 0 (threeThenSingle (headers ++ more) 1) := by
      refine ⟨_, List.prefix_append _ _, ?_, ?_⟩ <;>
        simp only [threeReads_flatten, List.length_take, List.length_append] <;> omega
    have refused := (feed_section is_section cuts).1 overrun
    rw [always _ cuts] at refused
    simp at refused
  · refine (feed_section is_section cuts).2 ?_
    rintro ⟨before, _, behind, inside⟩
    omega
  · by_contra small
    by_cases within : headers.length ≤ MAX_HEADER_SIZE
    · have cuts : Cuts (headers ++ more) ([] ++ ((headers ++ more).drop 0).map ([·])) :=
        cuts_of_front List.nil_prefix (by simp)
      have accepted := (feed_section is_section cuts).2 (by
        rintro ⟨before, _, behind, inside⟩
        omega)
      rw [never _ cuts] at accepted
      simp at accepted
    · -- A third read returns the section to its end.
      have cuts : Cuts (headers ++ more)
          (threeThenSingle (headers ++ more) (headers.length - MAX_HEADER_SIZE)) := by
        apply threeThenSingle_cuts (by omega) (by omega)
        rw [List.length_append]
        omega
      have accepted := (feed_section is_section cuts).2
        (threeThenSingle_not_overrun (by omega) _)
      rw [never _ cuts] at accepted
      simp at accepted
  · refine (feed_section is_section cuts).1 ?_
    have reached : headers.length ≤ reads.flatten.length := by
      rw [cuts.1, List.length_append]
      omega
    rcases exists_crossing (fun bytes mem => (cuts.2 bytes mem).2) (by omega) reached with
      ⟨before, at_front, short, long⟩
    exact ⟨before, at_front, by omega, by omega⟩

theorem section_limit_get :
    (∀ reads, Cuts (text "GET / HTTP/1.1\r\n\r\n" ++ text "GET") reads →
        feed start reads = .returned (some (text "GET / HTTP/1.1\r\n\r\n")) ∨
          feed start reads = .returned none) ∧
      ((∀ reads, Cuts (text "GET / HTTP/1.1\r\n\r\n" ++ text "GET") reads →
          feed start reads = .returned (some (text "GET / HTTP/1.1\r\n\r\n"))) ↔
        (text "GET / HTTP/1.1\r\n\r\n").length ≤ MAX_HEADER_SIZE + 1) ∧
      ((∀ reads, Cuts (text "GET / HTTP/1.1\r\n\r\n" ++ text "GET") reads →
          feed start reads = .returned none) ↔
        MAX_HEADER_SIZE + BUFFER_SIZE < (text "GET / HTTP/1.1\r\n\r\n").length) :=
  section_limit ⟨text "GET / HTTP/1.1", by decide, by unfold Before; decide⟩ (text "GET")

end ReadHeaders

end Uvco.HttpServer
