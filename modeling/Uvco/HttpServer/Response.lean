import Uvco.HttpServer.Request
import Uvco.Library.Decimal
import Uvco.Library.Framing

/-!
# Responses of the HTTP server

This file embeds `HttpResponse::toString` of `uvco/examples/http_server.cc`. What it
makes of a response is compared with a client (`decodeResponse`) that reads the status
line, the headers up to the blank line, and as many bytes as `Content-Length` says.
-/

namespace Uvco.HttpServer

open Uvco.Stream (Byte)

/-- The ASCII digits. -/
def asciiDigits : DecimalDigits Byte where
  digit d := UInt8.ofNat (48 + d)
  value byte := if 48 ≤ byte ∧ byte ≤ 57 then some (byte.toNat - 48) else none
  value_digit := by decide

/-- `std::to_string` of a length. -/
def toDecimal (number : ℕ) : List Byte :=
  asciiDigits.render number

/-- How `fmt` formats an `int`. -/
def formatInt (number : Int) : List Byte :=
  if number < 0 then 45 :: toDecimal number.natAbs else toDecimal number.natAbs

/-- `struct HttpResponse`. -/
structure HttpResponse where
  statusCode : Int := 200
  statusMessage : List Byte := text "OK"
  headers : List (List Byte × List Byte) := []
  body : List Byte := []
deriving DecidableEq, Repr

namespace HttpResponse

variable (response : HttpResponse)

/-- `headers.emplace_back` -/
def addHeader (name value : List Byte) : HttpResponse :=
  { response with headers := response.headers ++ [(name, value)] }

/-- The first statement of `toString`, which stays with the response. -/
def addContentLength : HttpResponse :=
  response.addHeader (text "Content-Length") (toDecimal response.body.length)

/-- The first line, without its end. -/
def statusLine : List Byte :=
  text "HTTP/1.1 " ++ formatInt response.statusCode ++ [SP] ++ response.statusMessage

/-- The other statements of `toString`. -/
def format : List Byte :=
  response.statusLine ++ CRLF ++
    ((response.headers.map fun header => header.1 ++ colon ++ header.2).flatMap (· ++ CRLF) ++
      CRLF ++ response.body)

/-- `HttpResponse::toString`, which changes the response too. -/
def toString : HttpResponse × List Byte :=
  (response.addContentLength, response.addContentLength.format)

end HttpResponse

/-- `std::toupper` in the classic locale. -/
def toupper (byte : Byte) : Byte :=
  if 97 ≤ byte ∧ byte ≤ 122 then byte - 32 else byte

/-- `boost::iequals` -/
def iequals (left right : List Byte) : Bool :=
  left.map toupper == right.map toupper

/-! ## A client -/

/-- How a client reads a status code. -/
def parseInt : List Byte → Option Int
  | 45 :: digits => (asciiDigits.parse digits).map fun number : ℕ => -(number : Int)
  | digits => (asciiDigits.parse digits).map fun number : ℕ => (number : Int)

/-- How a client reads the first line. -/
def parseStatusLine (line : List Byte) : Option (Int × List Byte) := do
  let (version, rest) ← cut [SP] line
  let (code, message) ← cut [SP] rest
  guard (version = text "HTTP/1.1")
  let statusCode ← parseInt code
  return (statusCode, message)

/-- The headers up to a blank line, and what follows. -/
def parseHeaderLines : ℕ → List Byte → Option (List (List Byte × List Byte) × List Byte)
  | 0, _ => none
  | fuel + 1, stream => do
      let (line, rest) ← cut CRLF stream
      if line.isEmpty then return ([], rest)
      else
        let header ← cut colon line
        let (headers, body) ← parseHeaderLines fuel rest
        return (header :: headers, body)

/-- The number of bytes that a client expects behind the headers. -/
def contentLength (headers : List (List Byte × List Byte)) : Option ℕ := do
  let header ← headers.find? fun header => iequals header.1 (text "Content-Length")
  asciiDigits.parse header.2

/-- Takes one response from a stream. -/
def decodeResponse (stream : List Byte) : Option (HttpResponse × List Byte) := do
  let (line, block) ← cut CRLF stream
  let (statusCode, statusMessage) ← parseStatusLine line
  let (headers, rest) ← parseHeaderLines (block.length + 1) block
  let length ← contentLength headers
  if length ≤ rest.length then
    return ({ statusCode, statusMessage, headers, body := rest.take length }, rest.drop length)
  else none

/-- No part of the response contains what ends it, and the length is left to `toString`. -/
structure HttpResponse.WellFormed (response : HttpResponse) : Prop where
  message : ¬ CRLF <:+: response.statusMessage
  names : ∀ header ∈ response.headers, ¬ CRLF <:+: header.1 ∧ ¬ colon <:+: header.1
  values : ∀ header ∈ response.headers, ¬ CRLF <:+: header.2
  length : ∀ header ∈ response.headers, iequals header.1 (text "Content-Length") = false

/-! ## The client reads what the server writes -/

theorem digit_bounds {byte : Byte} {number : ℕ} (mem : byte ∈ toDecimal number) :
    48 ≤ byte ∧ byte ≤ 57 := by
  rcases asciiDigits.mem_render mem with ⟨d, small, rfl⟩
  have all : ∀ d < 10, 48 ≤ asciiDigits.digit d ∧ asciiDigits.digit d ≤ 57 := by decide
  exact all d small

theorem parse_toDecimal (number : ℕ) : asciiDigits.parse (toDecimal number) = some number :=
  asciiDigits.parse_render number

theorem parseInt_formatInt (number : Int) : parseInt (formatInt number) = some number := by
  unfold formatInt
  split
  · rename_i negative
    simp only [parseInt, parse_toDecimal, Option.map_some, Option.some.injEq]
    omega
  · rename_i positive
    have first_digit : ∀ rest, toDecimal number.natAbs ≠ 45 :: rest := by
      intro rest split
      have bounds := digit_bounds (split ▸ List.mem_cons_self)
      exact absurd bounds (by decide)
    have positive_eq : ((number.natAbs : ℕ) : Int) = number := by omega
    unfold parseInt
    split
    · rename_i digits split
      exact absurd split (first_digit digits)
    · simp only [parse_toDecimal, Option.map_some, positive_eq]

/-- Neither a space nor a line end is in the text of a number. -/
theorem not_mem_formatInt {number : Int} {byte : Byte} (mem : byte ∈ formatInt number) :
    byte ≠ SP ∧ byte ≠ CR := by
  have digit_ne : ∀ n, byte ∈ toDecimal n → byte ≠ SP ∧ byte ≠ CR := by
    intro n digit_mem
    have bounds := digit_bounds digit_mem
    constructor <;> rintro rfl <;> exact absurd bounds (by decide)
  unfold formatInt at mem
  split at mem
  · rcases List.mem_cons.mp mem with rfl | digit_mem
    · decide
    · exact digit_ne _ digit_mem
  · exact digit_ne _ mem

namespace HttpResponse

variable {response : HttpResponse}

theorem parseStatusLine_statusLine :
    parseStatusLine response.statusLine = some (response.statusCode, response.statusMessage) := by
  have space_ne : [SP] ≠ ([] : List Byte) := by decide
  have version_free : SP ∉ text "HTTP/1.1" := by decide
  have code_free : SP ∉ formatInt response.statusCode := fun mem => (not_mem_formatInt mem).1 rfl
  have split : response.statusLine = text "HTTP/1.1" ++ [SP] ++
      (formatInt response.statusCode ++ [SP] ++ response.statusMessage) := by
    have version : text "HTTP/1.1 " = text "HTTP/1.1" ++ [SP] := by decide
    simp only [statusLine, version, List.append_assoc]
  rw [split]
  simp only [parseStatusLine,
    Cut.eq_some space_ne (Before.singleton_iff.mpr version_free),
    Cut.eq_some space_ne (Before.singleton_iff.mpr code_free), parseInt_formatInt, guard,
    Option.bind_eq_bind, Option.bind_some, if_true, Option.pure_def]

theorem statusLine_free (free : ¬ CRLF <:+: response.statusMessage) :
    ¬ CRLF <:+: response.statusLine := by
  have absent : SP ∉ CRLF := by decide
  have code_free : ¬ CRLF <:+: text "HTTP/1.1 " ++ formatInt response.statusCode := by
    intro inside
    have mem : CR ∈ text "HTTP/1.1 " ++ formatInt response.statusCode :=
      inside.subset List.mem_cons_self
    rcases List.mem_append.mp mem with in_version | in_code
    · exact absurd in_version (by decide)
    · exact (not_mem_formatInt in_code).2 rfl
  rw [statusLine, List.append_assoc _ [SP], List.singleton_append,
    Occurrence.append_cons_iff absent]
  rintro (in_code | in_message)
  · exact code_free in_code
  · exact free in_message

/-- One header line is read back. -/
theorem parseHeaderLines_header {name value rest body : List Byte}
    {headers : List (List Byte × List Byte)} {fuel : ℕ}
    (name_free : ¬ CRLF <:+: name ∧ ¬ colon <:+: name) (value_free : ¬ CRLF <:+: value)
    (later : parseHeaderLines fuel rest = some (headers, body)) :
    parseHeaderLines (fuel + 1) (name ++ colon ++ value ++ CRLF ++ rest) =
      some ((name, value) :: headers, body) := by
  have line_free : ¬ CRLF <:+: name ++ colon ++ value :=
    headerLine_free.mpr ⟨name_free.1, value_free⟩
  have line_cut := Cut.eq_some CRLF_ne_nil (before_CRLF_iff.mpr line_free) rest
  have header_cut := Cut.eq_some colon_ne_nil (before_colon_iff.mpr name_free.2) value
  have line_ne : (name ++ colon ++ value).isEmpty = false := by simp [colon]
  simp only [parseHeaderLines, line_cut, Option.bind_eq_bind, Option.bind_some, line_ne,
    header_cut, later]
  rfl

/-- Header lines up to a blank line are read back, and nothing behind it. -/
theorem parseHeaderLines_eq {headers : List (List Byte × List Byte)}
    (names : ∀ header ∈ headers, ¬ CRLF <:+: header.1 ∧ ¬ colon <:+: header.1)
    (values : ∀ header ∈ headers, ¬ CRLF <:+: header.2) (body : List Byte) {fuel : ℕ}
    (enough : headers.length < fuel) :
    parseHeaderLines fuel
        ((headers.map fun header => header.1 ++ colon ++ header.2).flatMap (· ++ CRLF) ++
          CRLF ++ body) = some (headers, body) := by
  induction headers generalizing fuel with
  | nil =>
      rcases fuel with _ | fuel
      · simp at enough
      · have blank : cut CRLF ([] ++ CRLF ++ body) = some ([], body) :=
          Cut.eq_some CRLF_ne_nil (Before.nil CRLF_ne_nil) body
        rw [List.nil_append] at blank
        simp [parseHeaderLines, blank]
  | cons header headers ih =>
      rcases fuel with _ | fuel
      · simp at enough
      · have header_fine := names header List.mem_cons_self
        have later := ih (fun header mem => names header (List.mem_cons_of_mem _ mem))
          (fun header mem => values header (List.mem_cons_of_mem _ mem))
          (Nat.lt_of_succ_lt_succ enough)
        rw [List.map_cons, List.flatMap_cons, List.append_assoc, List.append_assoc,
          ← List.append_assoc _ CRLF body]
        exact parseHeaderLines_header header_fine (values header List.mem_cons_self) later

theorem headers_length_lt (headers : List (List Byte × List Byte)) (body : List Byte) :
    headers.length <
      ((headers.map fun header => header.1 ++ colon ++ header.2).flatMap (· ++ CRLF) ++
        CRLF ++ body).length + 1 := by
  induction headers with
  | nil => simp
  | cons header headers ih =>
      simp only [List.map_cons, List.flatMap_cons, List.length_append, List.length_cons] at ih ⊢
      have two : CRLF.length = 2 := rfl
      omega

/-- Of the headers that `toString` writes, the last is the one with the length. -/
theorem WellFormed.contentLength_eq (fine : response.WellFormed) :
    contentLength response.addContentLength.headers = some response.body.length := by
  have absent : response.headers.find?
      (fun header => iequals header.1 (text "Content-Length")) = none := by
    rw [List.find?_eq_none]
    intro header mem
    simp [fine.length header mem]
  have found : iequals (text "Content-Length") (text "Content-Length") = true := by decide
  simp only [contentLength, addContentLength, addHeader, List.find?_append, absent,
    Option.none_or, List.find?_cons, found]
  exact parse_toDecimal _

/-- The client takes the response back, with the length in its headers, and nothing of what
follows it. -/
theorem WellFormed.decode_toString (fine : response.WellFormed) (more : List Byte) :
    decodeResponse (response.toString.2 ++ more) = some (response.addContentLength, more) := by
  have name_free : ¬ CRLF <:+: text "Content-Length" ∧ ¬ colon <:+: text "Content-Length" := by
    decide
  have value_free : ¬ CRLF <:+: toDecimal response.body.length := by
    intro inside
    have bounds := digit_bounds (inside.subset List.mem_cons_self)
    exact absurd bounds (by decide)
  have names : ∀ header ∈ response.addContentLength.headers,
      ¬ CRLF <:+: header.1 ∧ ¬ colon <:+: header.1 := by
    intro header mem
    rcases List.mem_append.mp mem with own | added
    · exact fine.names header own
    · rw [List.mem_singleton.mp added]
      exact name_free
  have values : ∀ header ∈ response.addContentLength.headers, ¬ CRLF <:+: header.2 := by
    intro header mem
    rcases List.mem_append.mp mem with own | added
    · exact fine.values header own
    · rw [List.mem_singleton.mp added]
      exact value_free
  have line_free : ¬ CRLF <:+: response.addContentLength.statusLine :=
    statusLine_free fine.message
  have line_cut := fun rest =>
    Cut.eq_some CRLF_ne_nil (before_CRLF_iff.mpr line_free) rest
  have enough := headers_length_lt response.addContentLength.headers (response.body ++ more)
  have parsed := parseHeaderLines_eq names values (response.body ++ more) enough
  have split : response.toString.2 ++ more = response.addContentLength.statusLine ++ CRLF ++
      ((response.addContentLength.headers.map fun header => header.1 ++ colon ++ header.2).flatMap
        (· ++ CRLF) ++ CRLF ++ (response.body ++ more)) := by
    simp [toString, format, addContentLength, addHeader]
  have short : response.body.length ≤ (response.body ++ more).length := by simp
  rw [split]
  simp only [decodeResponse, line_cut, Option.bind_eq_bind, Option.bind_some,
    parseStatusLine_statusLine, parsed, fine.contentLength_eq, short, if_true, Option.pure_def,
    List.take_left, List.drop_left]
  rfl

theorem decode_nil : decodeResponse [] = none := by decide

/-- A stream of responses is decoded into the responses. -/
theorem decodeAll_responses {responses : List HttpResponse}
    (fine : ∀ response ∈ responses, response.WellFormed) {fuel : ℕ}
    (enough : responses.length ≤ fuel) :
    decodeAll decodeResponse fuel (responses.flatMap (·.toString.2)) =
      (responses.map addContentLength, []) := by
  rw [← List.append_nil (responses.flatMap _)]
  refine Framing.decodeAll_eq ?_ decode_nil enough
  intro response mem more
  exact (fine response mem).decode_toString more

theorem addContentLength_injective : Function.Injective addContentLength := by
  rintro ⟨code, message, headers, body⟩ ⟨code', message', headers', body'⟩ same
  simp only [addContentLength, addHeader, mk.injEq] at same
  rcases same with ⟨rfl, rfl, headers_eq, rfl⟩
  rw [List.append_cancel_right headers_eq]

/-- On the wire, no two sequences of responses look the same. -/
theorem stream_injective {responses responses' : List HttpResponse}
    (fine : ∀ response ∈ responses, response.WellFormed)
    (fine' : ∀ response ∈ responses', response.WellFormed)
    (same : responses.flatMap (·.toString.2) = responses'.flatMap (·.toString.2)) :
    responses = responses' := by
  have decoded := decodeAll_responses fine (le_max_left _ responses'.length)
  rw [same, decodeAll_responses fine' (le_max_right _ _), Prod.mk.injEq] at decoded
  exact (addContentLength_injective.list_map decoded.1).symm

/-- Two responses, one with a header made by `emplace_back`, the other with line ends in its body;
in the other order they are other bytes. -/
theorem stream_injective_two :
    let notFound : HttpResponse :=
      { statusCode := 404, statusMessage := text "Not Found"
        headers := [(text "Server", text "uvco")] }
    let page : HttpResponse :=
      { headers := [(text "Content-Type", text "text/html")], body := text "<p>\r\n\r\n</p>" }
    [notFound, page] =
        [({ notFound with headers := [] } : HttpResponse).addHeader (text "Server") (text "uvco"),
          page] ∧
      [notFound, page].flatMap (·.toString.2) ≠ [page, notFound].flatMap (·.toString.2) := by
  intro notFound page
  have notFound_fine : notFound.WellFormed :=
    ⟨by decide, by decide, by decide, by decide⟩
  have page_fine : page.WellFormed := ⟨by decide, by decide, by decide, by decide⟩
  have fine : ∀ response ∈ [notFound, page], response.WellFormed :=
    List.forall_mem_cons.mpr ⟨notFound_fine, List.forall_mem_singleton.mpr page_fine⟩
  have swapped : ∀ response ∈ [page, notFound], response.WellFormed :=
    List.forall_mem_cons.mpr ⟨page_fine, List.forall_mem_singleton.mpr notFound_fine⟩
  exact ⟨stream_injective fine fine rfl,
    fun same => absurd (stream_injective fine swapped same) (by decide)⟩

/-- A separator in a header name cannot be told from the one behind it. -/
example : ({ headers := [(text "a: b", text "c")] } : HttpResponse).toString.2 =
    ({ headers := [(text "a", text "b: c")] } : HttpResponse).toString.2 := by decide

end HttpResponse

end Uvco.HttpServer
