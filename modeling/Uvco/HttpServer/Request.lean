import Uvco.Library.FirstOccurrence
import Uvco.Stream.Transfer

/-!
# Requests of the HTTP server

This file embeds `parseRequestLine`, `parseHeaders` and `parseRequest` of
`uvco/examples/http_server.cc`. A `std::string_view` is the list of the bytes in view.

The parser is characterised by the texts that it accepts, with what it makes of them;
that rendered requests are parsed back is a case of it.
-/

namespace Uvco.HttpServer

open Uvco.Stream (Byte)

/-- The bytes of a literal. -/
def text (literal : String) : List Byte :=
  literal.toList.map fun char => UInt8.ofNat char.toNat

/-- A space. -/
def SP : Byte := 32

/-- A carriage return. -/
def CR : Byte := 13

/-- A line feed. -/
def LF : Byte := 10

/-- What ends a line. -/
def CRLF : List Byte := [CR, LF]

/-- The separator of the name and the value of a header. -/
def colon : List Byte := [58, SP]

/-- `std::string_view::find`, from a position on. -/
def findFrom (view pattern : List Byte) (start : ℕ) : Option ℕ :=
  (firstOccurrence pattern (view.drop start)).map (start + ·)

/-- `std::string_view::substr` -/
def substr (view : List Byte) (start count : ℕ) : List Byte :=
  (view.drop start).take count

/-- `struct HttpRequest`; no body is read. -/
structure HttpRequest where
  method : List Byte
  path : List Byte
  version : List Byte
  headers : List (List Byte × List Byte) := []
deriving DecidableEq, Repr

/-- `parseRequestLine`: method, path and version, or none of them. -/
def parseRequestLine (requestLine : List Byte) : Option (List Byte × List Byte × List Byte) :=
  match findFrom requestLine [SP] 0 with
  | none => none
  | some methodEnd =>
      let method := requestLine.take methodEnd
      let requestLine := requestLine.drop (methodEnd + 1)
      match findFrom requestLine [SP] 0 with
      | none => none
      | some pathEnd =>
          let path := requestLine.take pathEnd
          let version := requestLine.drop (pathEnd + 1)
          if method.isEmpty || path.isEmpty || version.isEmpty then none
          else some (method, path, version)

/-- The loop of `parseHeaders`. -/
def parseHeadersFrom (headersBlock : List Byte) : ℕ → ℕ → HttpRequest → HttpRequest
  | 0, _, request => request
  | fuel + 1, start, request =>
      if start < headersBlock.length then
        match findFrom headersBlock CRLF start with
        | none => request
        | some lineEnd =>
            let headerLine := substr headersBlock start (lineEnd - start)
            if headerLine.isEmpty then
              parseHeadersFrom headersBlock fuel (lineEnd + 2) request
            else
              match findFrom headerLine colon 0 with
              | none => parseHeadersFrom headersBlock fuel (lineEnd + 2) request
              | some colonPos =>
                  parseHeadersFrom headersBlock fuel (lineEnd + 2)
                    { request with
                      headers := request.headers ++
                        [(headerLine.take colonPos, headerLine.drop (colonPos + 2))] }
      else request

/-- Every turn of the loop consumes a part of the block. -/
def parseHeaders (headersBlock : List Byte) (request : HttpRequest) : HttpRequest :=
  parseHeadersFrom headersBlock headersBlock.length 0 request

/-- `parseRequest` of a header section. -/
def parseRequest (headersSection : List Byte) : Option HttpRequest :=
  match findFrom headersSection CRLF 0 with
  | none => none
  | some requestLineEnd =>
      match parseRequestLine (headersSection.take requestLineEnd) with
      | none => none
      | some (method, path, version) =>
          some (parseHeaders (headersSection.drop (requestLineEnd + 2)) { method, path, version })

/-! ## Searching a view -/

theorem findFrom_zero (view pattern : List Byte) :
    findFrom view pattern 0 = firstOccurrence pattern view := by
  simp [findFrom]

/-- What is found from a position on, in the vocabulary of cuts. -/
theorem findFrom_eq_some {view pattern : List Byte} {start position : ℕ}
    (found : findFrom view pattern start = some position) :
    cut pattern (view.drop start) =
      some (substr view start (position - start), view.drop (position + pattern.length)) := by
  rcases Option.map_eq_some_iff.mp found with ⟨offset, at_offset, rfl⟩
  simp only [cut, at_offset, Option.map_some, substr, Nat.add_sub_cancel_left, List.drop_drop,
    Nat.add_assoc]

theorem findFrom_eq_none {view pattern : List Byte} {start : ℕ}
    (absent : findFrom view pattern start = none) : cut pattern (view.drop start) = none := by
  rw [cut, Option.map_eq_none_iff]
  exact Option.map_eq_none_iff.mp absent

theorem CRLF_ne_nil : CRLF ≠ [] := by decide

theorem colon_ne_nil : colon ≠ [] := by decide

/-! ## The request line -/

/-- The parts of a request line, which the two first spaces separate. -/
def requestLineOf (method path version : List Byte) : List Byte :=
  method ++ [SP] ++ (path ++ [SP] ++ version)

theorem parseRequestLine_eq_some_iff {requestLine method path version : List Byte} :
    parseRequestLine requestLine = some (method, path, version) ↔
      requestLine = requestLineOf method path version ∧
        SP ∉ method ∧ SP ∉ path ∧ method ≠ [] ∧ path ≠ [] ∧ version ≠ [] := by
  have space_ne : [SP] ≠ ([] : List Byte) := by decide
  constructor
  · intro parsed
    unfold parseRequestLine at parsed
    cases first : findFrom requestLine [SP] 0 with
    | none => simp [first] at parsed
    | some methodEnd =>
        have first_cut := findFrom_eq_some first
        cases second : findFrom (requestLine.drop (methodEnd + 1)) [SP] 0 with
        | none => simp [first, second] at parsed
        | some pathEnd =>
            have second_cut := findFrom_eq_some second
            rcases (Cut.eq_some_iff space_ne).mp first_cut with ⟨line_eq, method_free⟩
            rcases (Cut.eq_some_iff space_ne).mp second_cut with ⟨rest_eq, path_free⟩
            simp only [first, second, Bool.or_eq_true, List.isEmpty_iff,
              Option.ite_none_left_eq_some, not_or, Option.some.injEq, Prod.mk.injEq] at parsed
            rcases parsed with ⟨⟨⟨method_ne, path_ne⟩, version_ne⟩, rfl, rfl, rfl⟩
            simp only [substr, List.drop_zero, Nat.sub_zero, List.length_singleton,
              Before.singleton_iff] at *
            refine ⟨?_, method_free, path_free, method_ne, path_ne, version_ne⟩
            rw [requestLineOf, ← rest_eq]
            exact line_eq
  · rintro ⟨rfl, method_free, path_free, method_ne, path_ne, version_ne⟩
    have first : findFrom (requestLineOf method path version) [SP] 0 = some method.length := by
      rw [findFrom_zero]
      exact FirstOccurrence.eq_some space_ne (Before.singleton_iff.mpr method_free) _
    have tail : (requestLineOf method path version).drop (method.length + 1) =
        path ++ [SP] ++ version := by
      simp [requestLineOf, List.drop_append]
    have second : findFrom (path ++ [SP] ++ version) [SP] 0 = some path.length := by
      rw [findFrom_zero]
      exact FirstOccurrence.eq_some space_ne (Before.singleton_iff.mpr path_free) _
    simp only [parseRequestLine, first, tail, second]
    simp [requestLineOf, method_ne, path_ne, version_ne]

/-! ## The headers -/

/-- The loop of `parseHeaders` goes through the lines of the block; those without a separator and
an unfinished last one are ignored. -/
theorem parseHeadersFrom_eq (headersBlock : List Byte) {fuel start : ℕ}
    (enough : headersBlock.length - start ≤ fuel) (request : HttpRequest) :
    parseHeadersFrom headersBlock fuel start request =
      { request with
        headers := request.headers ++
          (pieces CRLF (headersBlock.drop start)).1.filterMap (cut colon) } := by
  induction fuel generalizing start request with
  | zero =>
      have at_end : headersBlock.drop start = [] := List.drop_eq_nil_of_le (by omega)
      simp [parseHeadersFrom, at_end, pieces, piecesFrom]
  | succ fuel ih =>
      by_cases inside : start < headersBlock.length
      · cases found : findFrom headersBlock CRLF start with
        | none =>
            simp [parseHeadersFrom, inside, found, Pieces.pieces_of_absent (findFrom_eq_none found)]
        | some lineEnd =>
            have line_cut := findFrom_eq_some found
            have progress : start ≤ lineEnd := by
              rcases Option.map_eq_some_iff.mp found with ⟨offset, _, rfl⟩
              omega
            have less : headersBlock.length - (lineEnd + 2) ≤ fuel := by omega
            have later := ih less
            simp only [parseHeadersFrom, inside, if_true, found,
              Pieces.pieces_of_cut CRLF_ne_nil line_cut]
            cases colon_found : findFrom (substr headersBlock start (lineEnd - start)) colon 0 with
            | none =>
                have no_header := findFrom_eq_none colon_found
                rw [List.drop_zero] at no_header
                rw [ite_self, later, List.filterMap_cons_none no_header]
                rfl
            | some colonPos =>
                have header := findFrom_eq_some colon_found
                simp only [List.drop_zero, substr, Nat.sub_zero] at header
                have line_ne : substr headersBlock start (lineEnd - start) ≠ [] := by
                  intro empty
                  simp [empty, findFrom, firstOccurrence, colon_ne_nil] at colon_found
                rw [if_neg (by simpa using line_ne)]
                simp only [later, substr, List.append_assoc, List.singleton_append]
                rw [List.filterMap_cons_some header]
                rfl
      · have at_end : headersBlock.drop start = [] := List.drop_eq_nil_of_le (by omega)
        simp [parseHeadersFrom, inside, at_end, pieces, piecesFrom]

theorem parseHeaders_eq (headersBlock : List Byte) (request : HttpRequest) :
    parseHeaders headersBlock request =
      { request with
        headers := request.headers ++ (pieces CRLF headersBlock).1.filterMap (cut colon) } := by
  have enough : headersBlock.length - 0 ≤ headersBlock.length := by omega
  rw [parseHeaders, parseHeadersFrom_eq headersBlock enough, List.drop_zero]

/-! ## Whole requests -/

theorem CRLF_unbordered : Unbordered CRLF := Unbordered.pair (by decide)

theorem before_CRLF_iff {line : List Byte} : Before CRLF line ↔ ¬ CRLF <:+: line :=
  Before.iff_of_unbordered CRLF_unbordered

theorem before_colon_iff {name : List Byte} : Before colon name ↔ ¬ colon <:+: name :=
  Before.iff_of_unbordered (Unbordered.pair (by decide))

/-- A request line that is accepted, and the block behind it. -/
theorem parseRequest_of_line {line method path version : List Byte} (free : ¬ CRLF <:+: line)
    (parsed : parseRequestLine line = some (method, path, version)) (block : List Byte) :
    parseRequest (line ++ CRLF ++ block) = some (parseHeaders block { method, path, version }) := by
  have found : findFrom (line ++ CRLF ++ block) CRLF 0 = some line.length := by
    rw [findFrom_zero]
    exact FirstOccurrence.eq_some CRLF_ne_nil (before_CRLF_iff.mpr free) block
  have front : (line ++ CRLF ++ block).take line.length = line := by
    rw [List.append_assoc, List.take_left]
  have back : (line ++ CRLF ++ block).drop (line.length + 2) = block := by
    simp [CRLF, List.drop_append]
  simp only [parseRequest, found, front, back, parsed]

/-- Exactly the texts that the parser accepts, with what it makes of them: a request line with two
spaces at least and without empty parts, then lines, of which those with a separator are headers;
what follows the last line is ignored. -/
theorem parseRequest_eq_some_iff {headersSection : List Byte} {request : HttpRequest} :
    parseRequest headersSection = some request ↔
      ∃ (lines : List (List Byte)) (rest : List Byte),
        headersSection = requestLineOf request.method request.path request.version ++ CRLF ++
            (lines.flatMap (· ++ CRLF) ++ rest) ∧
          ¬ CRLF <:+: requestLineOf request.method request.path request.version ∧
          (∀ line ∈ lines, ¬ CRLF <:+: line) ∧ ¬ CRLF <:+: rest ∧
          (SP ∉ request.method ∧ SP ∉ request.path ∧
            request.method ≠ [] ∧ request.path ≠ [] ∧ request.version ≠ []) ∧
          request.headers = lines.filterMap (cut colon) := by
  constructor
  · intro parsed
    unfold parseRequest at parsed
    cases found : findFrom headersSection CRLF 0 with
    | none => simp [found] at parsed
    | some requestLineEnd =>
        have line_cut := findFrom_eq_some found
        simp only [List.drop_zero, substr, Nat.sub_zero] at line_cut
        rcases (Cut.eq_some_iff CRLF_ne_nil).mp line_cut with ⟨section_eq, line_free⟩
        cases line_parsed : parseRequestLine (headersSection.take requestLineEnd) with
        | none => simp [found, line_parsed] at parsed
        | some parts =>
            rcases parts with ⟨method, path, version⟩
            simp only [found, line_parsed, Option.some.injEq] at parsed
            subst parsed
            rcases parseRequestLine_eq_some_iff.mp line_parsed with ⟨line_eq, parts_fine⟩
            rcases Pieces.exists_parts CRLF_ne_nil (headersSection.drop (requestLineEnd + 2)) with
              ⟨lines, rest, block_eq, lines_free, rest_free⟩
            have block_pieces : pieces CRLF (headersSection.drop (requestLineEnd + 2)) =
                (lines, rest) :=
              (Pieces.eq_iff CRLF_ne_nil le_rfl).mpr ⟨block_eq, lines_free, rest_free⟩
            rw [line_eq] at section_eq line_free
            simp only [parseHeaders_eq, block_pieces, List.nil_append]
            refine ⟨lines, rest, ?_, before_CRLF_iff.mp line_free, ?_, rest_free, parts_fine, rfl⟩
            · rw [← block_eq]
              exact section_eq
            · exact fun line mem => before_CRLF_iff.mp (lines_free line mem)
  · rintro ⟨lines, rest, rfl, line_free, lines_free, rest_free, parts_fine, headers_eq⟩
    rcases request with ⟨method, path, version, headers⟩
    simp only at line_free parts_fine headers_eq ⊢
    have block_pieces : pieces CRLF (lines.flatMap (· ++ CRLF) ++ rest) = (lines, rest) :=
      (Pieces.eq_iff CRLF_ne_nil le_rfl).mpr
        ⟨rfl, fun line mem => before_CRLF_iff.mpr (lines_free line mem), rest_free⟩
    have line_parsed := parseRequestLine_eq_some_iff.mpr ⟨rfl, parts_fine⟩
    rw [parseRequest_of_line line_free line_parsed, parseHeaders_eq, block_pieces, headers_eq]
    rfl

/-! ## Rendered requests -/

namespace HttpRequest

variable (request : HttpRequest)

/-- The lines of a request, as a client writes it. -/
def lines : List (List Byte) :=
  requestLineOf request.method request.path request.version ::
    request.headers.map fun header => header.1 ++ colon ++ header.2

/-- The bytes of a request as a client sends them. -/
def render : List Byte :=
  request.lines.flatMap (· ++ CRLF) ++ CRLF

/-- No part of the request contains what ends it. -/
structure WellFormed : Prop where
  not_empty : request.method ≠ [] ∧ request.path ≠ [] ∧ request.version ≠ []
  no_space : SP ∉ request.method ∧ SP ∉ request.path
  one_line : ¬ CRLF <:+: request.method ∧ ¬ CRLF <:+: request.path ∧ ¬ CRLF <:+: request.version
  names : ∀ header ∈ request.headers, ¬ CRLF <:+: header.1 ∧ ¬ colon <:+: header.1
  values : ∀ header ∈ request.headers, ¬ CRLF <:+: header.2

end HttpRequest

/-- Text through the first blank line. -/
def IsSection (headersSection : List Byte) : Prop :=
  ∃ front, headersSection = front ++ (CRLF ++ CRLF) ∧ Before (CRLF ++ CRLF) front

theorem requestLineOf_free {method path version : List Byte} :
    ¬ CRLF <:+: requestLineOf method path version ↔
      ¬ CRLF <:+: method ∧ ¬ CRLF <:+: path ∧ ¬ CRLF <:+: version := by
  have absent : SP ∉ CRLF := by decide
  simp only [requestLineOf, List.append_assoc, List.singleton_append,
    Occurrence.append_cons_iff absent, not_or]

theorem headerLine_free {name value : List Byte} :
    ¬ CRLF <:+: name ++ colon ++ value ↔ ¬ CRLF <:+: name ∧ ¬ CRLF <:+: value := by
  have absent : (58 : Byte) ∉ CRLF ∧ SP ∉ CRLF := by decide
  have parted : name ++ colon ++ value = name ++ 58 :: ([] ++ SP :: value) := by simp [colon]
  have not_short : ¬ CRLF <:+: ([] : List Byte) := by simp [CRLF]
  rw [parted, Occurrence.append_cons_iff absent.1, Occurrence.append_cons_iff absent.2]
  tauto

namespace HttpRequest

variable {request : HttpRequest}

theorem WellFormed.lines_free (fine : request.WellFormed) :
    ∀ line ∈ request.lines, line ≠ [] ∧ ¬ CRLF <:+: line := by
  intro line mem
  rcases List.mem_cons.mp mem with rfl | in_headers
  · refine ⟨?_, requestLineOf_free.mpr fine.one_line⟩
    simp [requestLineOf]
  · rcases List.mem_map.mp in_headers with ⟨header, header_mem, rfl⟩
    refine ⟨by simp [colon], headerLine_free.mpr ?_⟩
    exact ⟨(fine.names header header_mem).1, fine.values header header_mem⟩

/-- The blank line at the end of a rendered request is its first. -/
theorem WellFormed.isSection (fine : request.WellFormed) : IsSection request.render := by
  have not_doubled : ¬ CRLF ++ CRLF <:+: request.lines.flatMap (· ++ CRLF) ++ [CR] :=
    Occurrence.not_doubled (by decide) fine.lines_free
  have nonempty : request.lines ≠ [] := by simp [lines]
  obtain ⟨init, last, lines_eq⟩ := List.eq_nil_or_concat' request.lines |>.resolve_left nonempty
  refine ⟨init.flatMap (· ++ CRLF) ++ last, by simp [render, lines_eq], ?_⟩
  intro inside
  apply not_doubled
  simpa [lines_eq, CRLF] using inside

/-- A header line is split into the header. -/
theorem WellFormed.headers_eq (fine : request.WellFormed) :
    (request.headers.map fun header => header.1 ++ colon ++ header.2).filterMap (cut colon) =
      request.headers := by
  rw [List.filterMap_map]
  have split : ∀ header ∈ request.headers,
      (cut colon ∘ fun header => header.1 ++ colon ++ header.2) header = some header := by
    intro header mem
    exact Cut.eq_some colon_ne_nil (before_colon_iff.mpr (fine.names header mem).2) header.2
  rw [List.filterMap_congr split, List.filterMap_some]

/-- A rendered request is parsed back. -/
theorem WellFormed.parse_render (fine : request.WellFormed) :
    parseRequest request.render = some request := by
  apply parseRequest_eq_some_iff.mpr
  refine ⟨request.lines.tail ++ [[]], [], ?_, requestLineOf_free.mpr fine.one_line, ?_, ?_,
    ⟨fine.no_space.1, fine.no_space.2, fine.not_empty⟩, ?_⟩
  · simp [render, lines]
  · intro line mem
    rcases List.mem_append.mp mem with in_lines | blank
    · exact (fine.lines_free line (List.mem_of_mem_tail in_lines)).2
    · simp only [List.mem_singleton] at blank
      simp [blank, CRLF]
  · simp [CRLF]
  · have blank : [([] : List Byte)].filterMap (cut colon) = [] := by decide
    rw [List.filterMap_append, blank, List.append_nil]
    exact fine.headers_eq.symm

/-- What the parser makes of a text could have been rendered. -/
theorem wellFormed_of_parse {headersSection : List Byte}
    (parsed : parseRequest headersSection = some request) : request.WellFormed := by
  rcases parseRequest_eq_some_iff.mp parsed with
    ⟨lines, rest, rfl, line_free, lines_free, _, ⟨method_space, path_space, not_empty⟩, headers_eq⟩
  have parts : ∀ header ∈ request.headers, header.1 ++ colon ++ header.2 ∈ lines ∧
      ¬ colon <:+: header.1 := by
    intro header mem
    rw [headers_eq] at mem
    rcases List.mem_filterMap.mp mem with ⟨line, line_mem, line_cut⟩
    rcases (Cut.eq_some_iff colon_ne_nil).mp line_cut with ⟨rfl, first_one⟩
    exact ⟨line_mem, before_colon_iff.mp first_one⟩
  have free : ∀ header ∈ request.headers, ¬ CRLF <:+: header.1 ∧ ¬ CRLF <:+: header.2 :=
    fun header mem => headerLine_free.mp (lines_free _ (parts header mem).1)
  exact ⟨not_empty, ⟨method_space, path_space⟩, requestLineOf_free.mp line_free,
    fun header mem => ⟨(free header mem).1, (parts header mem).2⟩,
    fun header mem => (free header mem).2⟩

variable (request) in
/-- Handlers are called with the requests that could have been rendered, and with all of these; the
parser takes the rendered request back. -/
theorem parsed_iff_wellFormed :
    (request.WellFormed ↔
        ∃ headersSection, IsSection headersSection ∧
          parseRequest headersSection = some request) ∧
      (request.WellFormed → parseRequest request.render = some request) := by
  refine ⟨⟨fun fine => ⟨_, fine.isSection, fine.parse_render⟩, ?_⟩, WellFormed.parse_render⟩
  rintro ⟨headersSection, _, parsed⟩
  exact wellFormed_of_parse parsed

end HttpRequest

end Uvco.HttpServer
