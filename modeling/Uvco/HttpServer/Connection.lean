import Uvco.HttpServer.ReadHeaders
import Uvco.HttpServer.Response
import Uvco.Library.Transition

/-!
# A connection of the HTTP server

This file embeds `Router`, `notFoundHandler`, `handleBadRequest` and `connectionHandler`
of `uvco/examples/http_server.cc`. The coroutine is suspended in a read, in a handler or
in a write. The peer may send anything, the stream may fail at any time, and handlers,
which are not part of the server, may return what `Returns` says.

What a read returns behind the end of a header section is lost: `readHeaders` keeps its
buffer to itself. The model remembers it (`lost`), together with what was answered.
-/

namespace Uvco.HttpServer

open Uvco.Stream (Byte)

/-- Handlers are functions, and may be empty. -/
structure Router (Handler : Type) where
  routes_ : List (List Byte × Option Handler) := []

namespace Router

variable {Handler : Type} (router : Router Handler)

/-- `routes_[path] = handler`: a handler that is there already is replaced. -/
def addRoute (path : List Byte) (handler : Option Handler) : Router Handler where
  routes_ := (path, handler) :: router.routes_.filter fun route => route.1 ≠ path

/-- `Router::getHandler`; no handler and an empty one are the same. -/
def getHandler (path : List Byte) : Option Handler :=
  (router.routes_.find? fun route => route.1 = path).bind (·.2)

end Router

/-- The handler of the paths that have none. -/
def notFoundHandler (_request : HttpRequest) : HttpResponse where
  statusCode := 404
  statusMessage := text "Not Found"
  body := text "Not Found"

/-- The response of `handleBadRequest`. -/
def badRequest : HttpResponse where
  statusCode := 400
  statusMessage := text "Bad Request"
  body := text "Bad Request"

/-- No `Connection: keep-alive` among the headers. -/
def closeConnection (request : HttpRequest) : Bool :=
  !request.headers.any fun header =>
    iequals header.1 (text "connection") && iequals header.2 (text "keep-alive")

/-- A request that was read. -/
structure Received where
  headers : List Byte
  /-- What the last read returned behind the headers. -/
  lost : List Byte
  request : HttpRequest
deriving DecidableEq, Repr

namespace Received

variable (received : Received)

/-- The bytes that were read for the request. -/
def bytes : List Byte :=
  received.headers ++ received.lost

/-- The response, with the header that `connectionHandler` adds. -/
def answer (response : HttpResponse) : HttpResponse :=
  response.addHeader (text "Connection")
    (if closeConnection received.request then text "close" else text "keep-alive")

end Received

/-- Where `connectionHandler` is suspended. -/
inductive Phase (Handler : Type) where
  | reading (requestBuffer : List Byte)
  | handling (received : Received) (handler : Handler)
  | writing (bytes : List Byte) (thenClose : Bool)
  | returned
  | threw (exception : UvcoException)

/-- A connection and what has happened on it. -/
structure Connection (Handler : Type) where
  phase : Phase Handler
  /-- What the reads have returned. -/
  reads : List (List Byte) := []
  /-- The requests that were answered, with the responses. -/
  exchanges : List (Received × HttpResponse) := []
  /-- `handleBadRequest` was called. -/
  refused : Bool := false
  /-- The bytes of the writes that have ended. -/
  sent : List Byte := []
  /-- The calls of `close()` in `connectionHandler` itself; that of `~StreamBase` is not counted. -/
  closes : ℕ := 0

namespace Connection

variable {Handler : Type} (router : Router Handler) (connection : Connection Handler)

/-- The head of the loop: `readHeaders` begins. -/
def loop : Connection Handler :=
  match ReadHeaders.start with
  | .reading requestBuffer => { connection with phase := .reading requestBuffer }
  | .returned _ => connection

/-- `connectionHandler` is called, and gets to its first read. -/
def start : Connection Handler :=
  loop { phase := .returned }

/-- `handleBadRequest`: the refusal is written, and the stream closed behind it. -/
def handleBadRequest : Connection Handler :=
  { connection with refused := true, phase := .writing badRequest.toString.2 true }

/-- The response is there. -/
def respond (received : Received) (response : HttpResponse) : Connection Handler :=
  { connection with
    exchanges := connection.exchanges ++ [(received, received.answer response)]
    phase := .writing (received.answer response).toString.2 (closeConnection received.request) }

/-- `stream.read` returns. -/
def read (requestBuffer bytes : List Byte) : Connection Handler :=
  let connection := { connection with reads := connection.reads ++ [bytes] }
  match ReadHeaders.read requestBuffer bytes with
  | .reading requestBuffer => { connection with phase := .reading requestBuffer }
  | .returned none => connection.handleBadRequest
  | .returned (some headers) =>
      match parseRequest headers with
      | none => connection.handleBadRequest
      | some request =>
          let received : Received :=
            { headers, lost := (requestBuffer ++ bytes).drop headers.length, request }
          match router.getHandler request.path with
          | some handler => { connection with phase := .handling received handler }
          | none => connection.respond received (notFoundHandler request)

/-- `stream.write` returns. -/
def written (bytes : List Byte) (thenClose : Bool) : Connection Handler :=
  let connection := { connection with sent := connection.sent ++ bytes }
  if thenClose then { connection with closes := connection.closes + 1, phase := .returned }
  else connection.loop

/-- The read, the handler or the write throws. -/
def throws (exception : UvcoException) : Connection Handler :=
  { connection with phase := .threw exception }

/-- What the stream and the handlers do next. -/
inductive Action where
  | read (bytes : List Byte)
  | handlerReturns (response : HttpResponse)
  | written
  | throws (exception : UvcoException)

namespace Action

/-- A read returns at most a buffer, and a handler only what handlers return. -/
def Enabled (Returns : Handler → HttpRequest → HttpResponse → Prop)
    (connection : Connection Handler) : Action → Prop
  | .read bytes => bytes.length ≤ BUFFER_SIZE ∧ ∃ buffer, connection.phase = .reading buffer
  | .handlerReturns response => ∃ received handler,
      connection.phase = .handling received handler ∧ Returns handler received.request response
  | .written => ∃ bytes thenClose, connection.phase = .writing bytes thenClose
  | .throws _ => connection.phase ≠ .returned ∧ ∀ exception, connection.phase ≠ .threw exception

/-- The connection after an action. -/
def perform (router : Router Handler) (connection : Connection Handler) :
    Action → Connection Handler
  | .read bytes =>
      match connection.phase with
      | .reading requestBuffer => connection.read router requestBuffer bytes
      | _ => connection
  | .handlerReturns response =>
      match connection.phase with
      | .handling received _ => connection.respond received response
      | _ => connection
  | .written =>
      match connection.phase with
      | .writing bytes thenClose => connection.written bytes thenClose
      | _ => connection
  | .throws exception => connection.throws exception

end Action

/-- One connection, with any peer. -/
def system (Returns : Handler → HttpRequest → HttpResponse → Prop) :
    TransitionSystem (Connection Handler) Action where
  Initial connection := connection = start
  Enabled := Action.Enabled Returns
  perform := Action.perform router

/-! ## What holds of a connection -/

/-- What is or was written for the answers, one behind the other. -/
def output : List Byte :=
  connection.exchanges.flatMap (fun exchange => exchange.2.toString.2) ++
    if connection.refused then badRequest.toString.2 else []

/-- The last answer is to be followed by `close()`. -/
def Ends : Prop :=
  connection.refused = true ∨
    ∃ exchange, connection.exchanges.getLast? = some exchange ∧
      closeConnection exchange.1.request = true

/-- An exchange of a request with the answer that the router's handler gave, or with the one that
says that there is none. -/
def Answered (Returns : Handler → HttpRequest → HttpResponse → Prop)
    (exchange : Received × HttpResponse) : Prop :=
  IsSection exchange.1.headers ∧ exchange.1.lost.length < BUFFER_SIZE ∧
    parseRequest exchange.1.headers = some exchange.1.request ∧
    ∃ response, exchange.2 = exchange.1.answer response ∧
      match router.getHandler exchange.1.request.path with
      | some handler => Returns handler exchange.1.request response
      | none => response = notFoundHandler exchange.1.request

/-- What the phase of a connection says about it. -/
def InPhase : Prop :=
  match connection.phase with
  | .reading buffer =>
      ¬ connection.Ends ∧ connection.closes = 0 ∧ connection.sent = connection.output ∧
        ¬ CRLF ++ CRLF <:+: buffer ∧ buffer.length ≤ MAX_HEADER_SIZE ∧
        connection.reads.flatten = connection.exchanges.flatMap (·.1.bytes) ++ buffer
  | .handling received handler =>
      ¬ connection.Ends ∧ connection.closes = 0 ∧ connection.sent = connection.output ∧
        IsSection received.headers ∧ received.lost.length < BUFFER_SIZE ∧
        parseRequest received.headers = some received.request ∧
        router.getHandler received.request.path = some handler ∧
        connection.reads.flatten =
          connection.exchanges.flatMap (·.1.bytes) ++ received.bytes
  | .writing bytes thenClose =>
      (thenClose = true ↔ connection.Ends) ∧ connection.closes = 0 ∧
        connection.sent ++ bytes = connection.output ∧
        (connection.refused = false →
          connection.reads.flatten = connection.exchanges.flatMap (·.1.bytes))
  | .returned =>
      connection.Ends ∧ connection.closes = 1 ∧ connection.sent = connection.output ∧
        (connection.refused = false →
          connection.reads.flatten = connection.exchanges.flatMap (·.1.bytes))
  | .threw _ => connection.closes = 0 ∧ connection.sent <+: connection.output

/-- The invariant of a connection. -/
structure Consistent (Returns : Handler → HttpRequest → HttpResponse → Prop)
    (connection : Connection Handler) : Prop where
  answered : ∀ exchange ∈ connection.exchanges, Answered router Returns exchange
  /-- Only the last request may ask to close the connection. -/
  kept : ∀ exchange ∈ connection.exchanges.dropLast, closeConnection exchange.1.request = false
  refused : connection.refused = true →
    ∀ exchange ∈ connection.exchanges, closeConnection exchange.1.request = false
  consumed : connection.exchanges.flatMap (·.1.bytes) <+: connection.reads.flatten
  inPhase : connection.InPhase router

variable {router connection}
  {Returns : Handler → HttpRequest → HttpResponse → Prop}

theorem loop_eq : connection.loop = { connection with phase := .reading [] } := by
  have started : ReadHeaders.start = .reading [] := by decide
  rw [loop, started]

theorem not_ends_iff : ¬ connection.Ends ↔ connection.refused = false ∧
    ∀ exchange, connection.exchanges.getLast? = some exchange →
      closeConnection exchange.1.request = false := by
  simp [Ends]

/-- While the connection is open, no request has asked to close it. -/
theorem Consistent.all_kept (consistent : Consistent router Returns connection)
    (open_still : ¬ connection.Ends) :
    ∀ exchange ∈ connection.exchanges, closeConnection exchange.1.request = false := by
  intro exchange mem
  rcases List.eq_nil_or_concat' connection.exchanges with empty | ⟨init, last, split⟩
  · simp [empty] at mem
  · rw [split] at mem
    rcases List.mem_append.mp mem with in_init | is_last
    · exact consistent.kept exchange (by simpa [split] using in_init)
    · rw [List.mem_singleton.mp is_last]
      exact (not_ends_iff.mp open_still).2 last (by simp [split])

theorem consistent_start : Consistent router Returns (start : Connection Handler) := by
  rw [start, loop_eq]
  refine ⟨by simp, by simp, by simp, by simp, ?_⟩
  refine ⟨by simp [Ends], rfl, by simp [output], by decide, by simp, by simp⟩

/-- The response to a request goes out. -/
theorem Consistent.respond (consistent : Consistent router Returns connection)
    {received : Received} {response : HttpResponse} (open_still : ¬ connection.Ends)
    (not_closed : connection.closes = 0) (all_sent : connection.sent = connection.output)
    (answers : Answered router Returns (received, received.answer response))
    (all_read : connection.reads.flatten =
      connection.exchanges.flatMap (·.1.bytes) ++ received.bytes) :
    Consistent router Returns (connection.respond received response) := by
  have not_refused := (not_ends_iff.mp open_still).1
  have reads_eq : connection.reads.flatten =
      (connection.respond received response).exchanges.flatMap (·.1.bytes) := by
    simp [Connection.respond, all_read]
  refine ⟨?_, ?_, ?_, ?_, ?_⟩
  · intro exchange mem
    rcases List.mem_append.mp mem with before | now
    · exact consistent.answered exchange before
    · rw [List.mem_singleton.mp now]
      exact answers
  · simpa [Connection.respond] using consistent.all_kept open_still
  · intro refused
    simp [Connection.respond, not_refused] at refused
  · rw [← reads_eq]
    exact List.prefix_refl _
  · refine ⟨?_, not_closed, ?_, fun _ => reads_eq⟩
    · simp [Connection.respond, Ends, not_refused]
    · simp [Connection.respond, output, all_sent, not_refused]

/-- A bad request, or none. -/
theorem Consistent.handleBadRequest (consistent : Consistent router Returns connection)
    (open_still : ¬ connection.Ends) (not_closed : connection.closes = 0)
    (all_sent : connection.sent = connection.output) :
    Consistent router Returns connection.handleBadRequest := by
  have not_refused := (not_ends_iff.mp open_still).1
  refine ⟨consistent.answered, consistent.kept, fun _ => consistent.all_kept open_still,
    consistent.consumed, ?_⟩
  refine ⟨by simp [Connection.handleBadRequest, Ends], not_closed, ?_, ?_⟩
  · simp [Connection.handleBadRequest, output, all_sent, not_refused]
  · simp [Connection.handleBadRequest]

/-- More was read. -/
theorem Consistent.add_read (consistent : Consistent router Returns connection)
    (bytes : List Byte) {phase : Phase Handler}
    (inPhase : InPhase router
      { connection with reads := connection.reads ++ [bytes], phase }) :
    Consistent router Returns
      { connection with reads := connection.reads ++ [bytes], phase } := by
  refine ⟨consistent.answered, consistent.kept, consistent.refused, ?_, inPhase⟩
  refine consistent.consumed.trans ?_
  simp

theorem Consistent.read (consistent : Consistent router Returns connection)
    {buffer bytes : List Byte} (phase : connection.phase = .reading buffer)
    (small : bytes.length ≤ BUFFER_SIZE) :
    Consistent router Returns (connection.read router buffer bytes) := by
  have inPhase := consistent.inPhase
  simp only [InPhase, phase] at inPhase
  rcases inPhase with ⟨open_still, not_closed, all_sent, free, short, all_read⟩
  have reads_eq : (connection.reads ++ [bytes]).flatten =
      connection.exchanges.flatMap (·.1.bytes) ++ (buffer ++ bytes) := by
    simp [all_read]
  -- The connection with the read, in any phase that says no more than that it is open.
  have with_read : Consistent router Returns
      { connection with reads := connection.reads ++ [bytes], phase := .threw (.ofMessage "") } :=
    consistent.add_read bytes ⟨not_closed, all_sent ▸ List.prefix_refl _⟩
  rcases ReadHeaders.read_cases free bytes with ⟨_, read_eq⟩ |
    ⟨headers, dropped, is_section, split, dropped_short, read_eq⟩ | ⟨still_free, read_eq⟩
  · simp only [Connection.read, read_eq]
    exact with_read.handleBadRequest open_still not_closed all_sent
  · cases parsed : parseRequest headers with
    | none =>
        simp only [Connection.read, read_eq, parsed]
        exact with_read.handleBadRequest open_still not_closed all_sent
    | some request =>
        have lost_eq : (buffer ++ bytes).drop headers.length = dropped := by
          rw [split, List.drop_left]
        cases found : router.getHandler request.path with
        | none =>
            simp only [Connection.read, read_eq, parsed, found, lost_eq]
            refine with_read.respond open_still not_closed all_sent ?_ ?_
            · refine ⟨is_section, Nat.lt_of_lt_of_le dropped_short small, parsed, _, rfl, ?_⟩
              simp only [found]
            · exact reads_eq.trans (by rw [split, Received.bytes])
        | some handler =>
            simp only [Connection.read, read_eq, parsed, found, lost_eq]
            apply consistent.add_read
            refine ⟨open_still, not_closed, all_sent, is_section, ?_, parsed, found, ?_⟩
            · exact Nat.lt_of_lt_of_le dropped_short small
            · exact reads_eq.trans (by rw [split, Received.bytes])
  · by_cases long : (buffer ++ bytes).length > MAX_HEADER_SIZE
    · rw [ReadHeaders.loop, if_pos long] at read_eq
      simp only [Connection.read, read_eq]
      exact with_read.handleBadRequest open_still not_closed all_sent
    · rw [ReadHeaders.loop, if_neg long] at read_eq
      simp only [Connection.read, read_eq]
      apply consistent.add_read
      exact ⟨open_still, not_closed, all_sent, still_free, Nat.not_lt.mp long, reads_eq⟩

theorem Consistent.written (consistent : Consistent router Returns connection)
    {bytes : List Byte} {thenClose : Bool} (phase : connection.phase = .writing bytes thenClose) :
    Consistent router Returns (connection.written bytes thenClose) := by
  have inPhase := consistent.inPhase
  simp only [InPhase, phase] at inPhase
  rcases inPhase with ⟨ends_iff, not_closed, all_sent, all_read⟩
  by_cases ends : thenClose = true
  · simp only [Connection.written, ends, if_true]
    refine ⟨consistent.answered, consistent.kept, consistent.refused, consistent.consumed, ?_⟩
    exact ⟨ends_iff.mp ends, by simp [not_closed], all_sent, all_read⟩
  · have open_still : ¬ connection.Ends := fun ended => ends (ends_iff.mpr ended)
    simp only [Connection.written, ends, loop_eq]
    refine ⟨consistent.answered, consistent.kept, consistent.refused, consistent.consumed, ?_⟩
    refine ⟨open_still, not_closed, all_sent, by decide, by simp, ?_⟩
    simpa using all_read (not_ends_iff.mp open_still).1

theorem Consistent.throws (consistent : Consistent router Returns connection)
    (running : connection.phase ≠ .returned ∧ ∀ exception, connection.phase ≠ .threw exception)
    (exception : UvcoException) : Consistent router Returns (connection.throws exception) := by
  refine ⟨consistent.answered, consistent.kept, consistent.refused, consistent.consumed, ?_⟩
  have inPhase := consistent.inPhase
  cases phase : connection.phase with
  | reading buffer =>
      simp only [InPhase, phase] at inPhase
      exact ⟨inPhase.2.1, inPhase.2.2.1 ▸ List.prefix_refl _⟩
  | handling received handler =>
      simp only [InPhase, phase] at inPhase
      exact ⟨inPhase.2.1, inPhase.2.2.1 ▸ List.prefix_refl _⟩
  | writing bytes thenClose =>
      simp only [InPhase, phase] at inPhase
      exact ⟨inPhase.2.1, ⟨bytes, inPhase.2.2.1⟩⟩
  | returned => exact absurd phase running.1
  | threw exception => exact absurd phase (running.2 exception)

/-- One step of a connection. -/
theorem Consistent.perform (consistent : Consistent router Returns connection)
    {action : Action} (enabled : action.Enabled Returns connection) :
    Consistent router Returns (action.perform router connection) := by
  cases action with
  | read bytes =>
      rcases enabled with ⟨small, buffer, phase⟩
      simp only [Action.perform, phase]
      exact consistent.read phase small
  | handlerReturns response =>
      rcases enabled with ⟨received, handler, phase, returns⟩
      have inPhase := consistent.inPhase
      simp only [InPhase, phase] at inPhase
      rcases inPhase with ⟨open_still, not_closed, all_sent, is_section, short, parsed, found,
        all_read⟩
      simp only [Action.perform, phase]
      refine consistent.respond open_still not_closed all_sent ?_ all_read
      refine ⟨is_section, short, parsed, response, rfl, ?_⟩
      simp only [found]
      exact returns
  | written =>
      rcases enabled with ⟨bytes, thenClose, phase⟩
      simp only [Action.perform, phase]
      exact consistent.written phase
  | throws exception => exact consistent.throws enabled exception

/-- Along every run, whatever the peer sends and whenever the stream fails. -/
theorem consistent (reached : (system router Returns).Reachable connection) :
    Consistent router Returns connection := by
  refine TransitionSystem.Reachable.invariant _ ?_ ?_ reached
  · rintro _ rfl
    exact consistent_start
  · intro connection action consistent enabled
    exact consistent.perform enabled

/-- What a connection does along every run: the bytes sent are those of the answers, in the order
of the requests, all but the last of which asked to keep the connection; every request is the
header section of a stretch of the bytes read, and is answered by its handler or with the
response that there is none; `close()` is called once, after the last answer. -/
theorem conversation (reached : (system router Returns).Reachable connection) :
    (∀ exchange ∈ connection.exchanges, Answered router Returns exchange) ∧
      (∀ exchange ∈ connection.exchanges.dropLast,
        closeConnection exchange.1.request = false) ∧
      connection.sent <+: connection.output ∧
      connection.exchanges.flatMap (·.1.bytes) <+: connection.reads.flatten ∧
      connection.closes = (match connection.phase with | .returned => 1 | _ => 0) ∧
      (connection.closes = 1 → connection.Ends ∧ connection.sent = connection.output) := by
  have invariant := consistent reached
  have inPhase := invariant.inPhase
  refine ⟨invariant.answered, invariant.kept, ?_, invariant.consumed, ?_, ?_⟩
  · cases phase : connection.phase with
    | reading | handling => simp only [InPhase, phase] at inPhase; simp [inPhase.2.2.1]
    | writing bytes => simp only [InPhase, phase] at inPhase; exact ⟨bytes, inPhase.2.2.1⟩
    | returned => simp only [InPhase, phase] at inPhase; simp [inPhase.2.2.1]
    | threw => simp only [InPhase, phase] at inPhase; exact inPhase.2
  · cases phase : connection.phase with
    | reading | handling | writing | returned =>
        simp only [InPhase, phase] at inPhase
        exact inPhase.2.1
    | threw => simp only [InPhase, phase] at inPhase; exact inPhase.1
  · intro closed
    cases phase : connection.phase with
    | returned => simp only [InPhase, phase] at inPhase; exact ⟨inPhase.1, inPhase.2.2.1⟩
    | reading | handling | writing =>
        simp only [InPhase, phase] at inPhase
        omega
    | threw => simp only [InPhase, phase] at inPhase; omega

theorem conversation_not_found :
    ∃ connection : Connection Unit, connection.closes = 1 ∧ connection.exchanges.length = 1 ∧
      connection.Ends ∧ connection.sent = connection.output := by
  let router : Router Unit := {}
  have beginning : (system router fun _ _ _ => False).Reachable start := .start rfl
  have answered := beginning.step (Action.read (text "GET / HTTP/1.1\r\n\r\n"))
    (show _ ∧ _ from ⟨by decide, _, rfl⟩) trivial
  have written := answered.step Action.written ⟨_, _, rfl⟩ trivial
  obtain ⟨connection, reached, closed, one⟩ : ∃ connection,
      (system router fun _ _ _ => False).Reachable connection ∧ connection.closes = 1 ∧
        connection.exchanges.length = 1 :=
    ⟨_, written, by decide +kernel, by decide +kernel⟩
  exact ⟨connection, closed, one, (conversation reached).2.2.2.2.2 closed⟩

end Connection

end Uvco.HttpServer
