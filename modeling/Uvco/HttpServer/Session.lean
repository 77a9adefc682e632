import Uvco.HttpServer.Connection

/-!
# A client and the HTTP server

A client that renders well-formed requests and waits for each response before it writes
the next request (`Script`): however the network cuts its requests into reads, the server
handles exactly these requests in their order, and the client that decodes what the
server has sent gets exactly the responses.

A client that does not wait is not served like this: what a read returns behind the end
of a request is lost.
-/

namespace Uvco.HttpServer

open Uvco.Stream (Byte)

/-- The requests of a client, each with the reads that return it. -/
abbrev Script := List (HttpRequest × List (List Byte))

namespace Script

/-- The requests can be rendered and are not too long for the server; no read returns bytes of two
of them. -/
def WellFormed (script : Script) : Prop :=
  ∀ entry ∈ script, entry.1.WellFormed ∧ entry.1.render.length ≤ MAX_HEADER_SIZE + 1 ∧
    Cuts entry.1.render entry.2

/-- All reads, one after the other. -/
def reads (script : Script) : List (List Byte) :=
  script.flatMap (·.2)

end Script

namespace Connection

variable {Handler : Type} {router : Router Handler} {connection : Connection Handler}
  {Returns : Handler → HttpRequest → HttpResponse → Prop} {script : Script}

/-- The peer sends the requests of a script. -/
def Follows (script : Script) (connection : Connection Handler) : Action → Prop
  | .read bytes => connection.reads ++ [bytes] <+: script.reads
  | .handlerReturns _ | .written | .throws _ => True

/-- How far the script is. -/
def Progress (connection : Connection Handler) (past future : Script) : Prop :=
  match connection.phase with
  | .reading buffer => ∃ part, connection.reads = past.reads ++ part ∧ part.flatten = buffer ∧
      ((future = [] ∧ part = []) ∨
        ∃ request rest later, future = (request, part ++ rest) :: later ∧ rest ≠ [])
  | .handling received _ => ∃ reads later, future = (received.request, reads) :: later ∧
      received.lost = [] ∧ connection.reads = past.reads ++ reads
  | .writing _ _ => connection.reads = past.reads
  | .returned | .threw _ => True

/-- The requests that were answered are those of the first part of the script. -/
structure Scripted (script : Script) (connection : Connection Handler) : Prop where
  not_refused : connection.refused = false
  progress : ∃ past future, script = past ++ future ∧
    connection.exchanges.map (fun exchange => (exchange.1.request, exchange.1.lost)) =
      past.map (fun entry => (entry.1, [])) ∧ connection.Progress past future

theorem progress_reading {past future : Script} (fine : Script.WellFormed future)
    (phase : connection.phase = .reading []) (all_read : connection.reads = past.reads) :
    connection.Progress past future := by
  simp only [Progress, phase]
  refine ⟨[], by simpa using all_read, rfl, ?_⟩
  rcases future with _ | ⟨⟨request, reads⟩, later⟩
  · exact .inl ⟨rfl, rfl⟩
  · right
    refine ⟨request, reads, later, rfl, ?_⟩
    rintro rfl
    have cuts := (fine _ List.mem_cons_self).2.2.1
    simp [HttpRequest.render, CRLF] at cuts

theorem scripted_start (fine : script.WellFormed) :
    Scripted script (start : Connection Handler) := by
  rw [start, loop_eq]
  exact ⟨rfl, [], script, rfl, rfl, progress_reading fine rfl rfl⟩

/-- The next read returns a part of the next request. -/
theorem next_read {past future : Script} {part : List (List Byte)} {bytes : List Byte}
    (split : (past.reads ++ part) ++ [bytes] <+: (past ++ future).reads)
    (position : (future = [] ∧ part = []) ∨
      ∃ request rest later, future = (request, part ++ rest) :: later ∧ rest ≠ []) :
    ∃ request rest later, future = (request, part ++ bytes :: rest) :: later := by
  simp only [Script.reads, List.flatMap_append, List.append_assoc,
    List.prefix_append_right_inj] at split
  rcases position with ⟨rfl, rfl⟩ | ⟨request, rest, later, rfl, rest_ne⟩
  · have := split.length_le
    simp at this
  · rcases rest with _ | ⟨first, rest⟩
    · exact absurd rfl rest_ne
    · simp only [List.flatMap_cons, List.append_assoc, List.cons_append,
        List.prefix_append_right_inj, List.cons_prefix_cons] at split
      exact ⟨request, rest, later, by rw [split.1]⟩

theorem Scripted.read (scripted : Scripted script connection) (fine : script.WellFormed)
    {buffer bytes : List Byte} (phase : connection.phase = .reading buffer)
    (short : buffer.length ≤ MAX_HEADER_SIZE)
    (follows : connection.reads ++ [bytes] <+: script.reads) :
    Scripted script (connection.read router buffer bytes) := by
  rcases scripted with ⟨not_refused, past, future, rfl, answered, progress⟩
  simp only [Progress, phase] at progress
  rcases progress with ⟨part, reads_eq, rfl, position⟩
  rw [reads_eq] at follows
  rcases next_read follows position with ⟨request, rest, later, rfl⟩
  have entry_fine : request.WellFormed ∧ request.render.length ≤ MAX_HEADER_SIZE + 1 ∧
      Cuts request.render (part ++ bytes :: rest) :=
    fine (request, part ++ bytes :: rest) (by simp)
  rcases entry_fine with ⟨request_fine, small, cuts⟩
  have stream_eq : part.flatten ++ bytes ++ rest.flatten = request.render ++ [] := by
    rw [List.append_nil, ← cuts.1]
    simp
  have bytes_ne : bytes ≠ [] := (cuts.2 bytes (by simp)).1
  have step := ReadHeaders.read_section request_fine.isSection bytes_ne stream_eq
  by_cases complete : request.render.length ≤ (part.flatten ++ bytes).length
  · have no_rest : rest = [] := by
      have lengths := congrArg List.length stream_eq
      rw [List.append_nil, List.length_append] at lengths
      have empty : rest.flatten = [] := List.length_eq_zero_iff.mp (by omega)
      rcases rest with _ | ⟨first, rest⟩
      · rfl
      · have first_ne := (cuts.2 first (by simp)).1
        simp [first_ne] at empty
    subst no_rest
    rw [if_pos complete] at step
    have whole : part.flatten ++ bytes = request.render := by simpa using stream_eq
    have now_read : connection.reads ++ [bytes] = past.reads ++ (part ++ [bytes]) := by
      rw [reads_eq, List.append_assoc]
    cases found : router.getHandler request.path with
    | none =>
        refine ⟨?_, past ++ [(request, part ++ [bytes])], later, by simp, ?_, ?_⟩
        · simp [Connection.read, step, request_fine.parse_render, found, respond, not_refused]
        · simp [Connection.read, step, request_fine.parse_render, found, respond, whole, answered]
        · simp only [Connection.read, step, request_fine.parse_render, found, respond, Progress]
          simpa [Script.reads] using now_read
    | some handler =>
        refine ⟨?_, past, (request, part ++ [bytes]) :: later, rfl, ?_, ?_⟩
        · simp [Connection.read, step, request_fine.parse_render, found, not_refused]
        · simp [Connection.read, step, request_fine.parse_render, found, answered]
        · simp only [Connection.read, step, request_fine.parse_render, found, Progress]
          exact ⟨_, later, rfl, by simp [whole], now_read⟩
  · have below : ¬ (part.flatten ++ bytes).length > MAX_HEADER_SIZE := by omega
    rw [if_neg complete, ReadHeaders.loop, if_neg below] at step
    have rest_ne : rest ≠ [] := by
      rintro rfl
      rw [List.flatten_nil, List.append_nil, List.append_nil] at stream_eq
      exact complete (le_of_eq (congrArg List.length stream_eq.symm))
    refine ⟨?_, past, (request, part ++ bytes :: rest) :: later, rfl, ?_, ?_⟩
    · simp [Connection.read, step, not_refused]
    · simp [Connection.read, step, answered]
    · simp only [Connection.read, step, Progress]
      refine ⟨part ++ [bytes], by rw [reads_eq, List.append_assoc], by simp, .inr ?_⟩
      exact ⟨request, rest, later, by simp, rest_ne⟩

/-- One step with a client that follows a script. -/
theorem Scripted.perform (scripted : Scripted script connection) (fine : script.WellFormed)
    (consistent : Consistent router Returns connection) {action : Action}
    (enabled : action.Enabled Returns connection) (follows : Follows script connection action) :
    Scripted script (action.perform router connection) := by
  cases action with
  | read bytes =>
      rcases enabled with ⟨_, buffer, phase⟩
      have inPhase := consistent.inPhase
      simp only [InPhase, phase] at inPhase
      simp only [Action.perform, phase]
      exact scripted.read fine phase inPhase.2.2.2.2.1 follows
  | handlerReturns response =>
      rcases enabled with ⟨received, handler, phase, _⟩
      rcases scripted with ⟨not_refused, past, future, rfl, answered, progress⟩
      simp only [Progress, phase] at progress
      rcases progress with ⟨reads, later, rfl, nothing_lost, all_read⟩
      simp only [Action.perform, phase]
      refine ⟨not_refused, past ++ [(received.request, reads)], later, by simp, ?_, ?_⟩
      · simp [respond, answered, nothing_lost]
      · simpa [respond, Progress, Script.reads] using all_read
  | written =>
      rcases enabled with ⟨bytes, thenClose, phase⟩
      rcases scripted with ⟨not_refused, past, future, rfl, answered, progress⟩
      simp only [Progress, phase] at progress
      have future_fine : Script.WellFormed future :=
        fun entry mem => fine entry (List.mem_append_right _ mem)
      cases thenClose with
      | true =>
          simp only [Action.perform, phase, Connection.written, if_true]
          exact ⟨not_refused, past, future, rfl, answered, trivial⟩
      | false =>
          simp only [Action.perform, phase, Connection.written, loop_eq]
          exact ⟨not_refused, past, future, rfl, answered,
            progress_reading future_fine rfl progress⟩
  | throws exception =>
      rcases scripted with ⟨not_refused, past, future, rfl, answered, _⟩
      exact ⟨not_refused, past, future, rfl, answered, trivial⟩

theorem scripted (fine : script.WellFormed)
    (reached : (system router Returns).ReachableVia (Follows script) connection) :
    Scripted script connection := by
  refine reached.invariant_of_reachable (Scripted script) ?_ ?_
  · rintro _ rfl
    exact scripted_start fine
  · intro connection action reached scripted enabled follows
    exact scripted.perform fine (consistent reached) enabled follows

/-! ## What the client gets -/

/-- What is being written. -/
def pending (connection : Connection Handler) : List Byte :=
  match connection.phase with
  | .writing bytes _ => bytes
  | .reading _ | .handling .. | .returned | .threw _ => []

theorem notFound_wellFormed (request : HttpRequest) : (notFoundHandler request).WellFormed :=
  ⟨by change ¬ CRLF <:+: text "Not Found"; decide, nofun, nofun, nofun⟩

/-- The header that the server adds does no harm. -/
theorem answer_wellFormed {response : HttpResponse} (fine : response.WellFormed)
    (received : Received) : (received.answer response).WellFormed := by
  have name_fine : (¬ CRLF <:+: text "Connection" ∧ ¬ colon <:+: text "Connection") ∧
      iequals (text "Connection") (text "Content-Length") = false := by decide
  have value_fine : ¬ CRLF <:+: text "close" ∧ ¬ CRLF <:+: text "keep-alive" := by decide
  refine ⟨fine.message, ?_, ?_, ?_⟩
  all_goals
    intro header mem
    rcases List.mem_append.mp mem with own | added
  · exact fine.names header own
  · rw [List.mem_singleton.mp added]
    exact name_fine.1
  · exact fine.values header own
  · rw [List.mem_singleton.mp added]
    change ¬ CRLF <:+: if closeConnection received.request then _ else _
    split
    · exact value_fine.1
    · exact value_fine.2
  · exact fine.length header own
  · rw [List.mem_singleton.mp added]
    exact name_fine.2

/-- The answers of a connection can be told apart if those of the handlers can. -/
theorem Consistent.exchange_wellFormed (consistent : Consistent router Returns connection)
    (proper : ∀ handler request response, Returns handler request response →
      response.WellFormed) :
    ∀ exchange ∈ connection.exchanges, exchange.2.WellFormed := by
  intro exchange mem
  rcases consistent.answered exchange mem with ⟨_, _, _, response, answer_eq, source⟩
  rw [answer_eq]
  apply answer_wellFormed
  cases found : router.getHandler exchange.1.request.path with
  | none =>
      simp only [found] at source
      exact source ▸ notFound_wellFormed _
  | some handler =>
      simp only [found] at source
      exact proper handler _ _ source

/-- A client and its connection, along every run: the requests that were answered are the first ones
of the script, each is answered by its handler or with the response that there is none, and the
client decodes from what was sent exactly the answers. -/
theorem served (fine : script.WellFormed)
    (proper : ∀ handler request response, Returns handler request response →
      response.WellFormed)
    (reached : (system router Returns).ReachableVia (Follows script) connection) :
    connection.exchanges.map (·.1.request) <+: script.map (·.1) ∧
      (∀ exchange ∈ connection.exchanges, Answered router Returns exchange) ∧
      ((∀ exception, connection.phase ≠ .threw exception) →
        ∀ fuel, connection.exchanges.length ≤ fuel →
          decodeAll decodeResponse fuel (connection.sent ++ connection.pending) =
            (connection.exchanges.map fun exchange => exchange.2.addContentLength, [])) := by
  have invariant := consistent reached.reachable
  rcases scripted fine reached with ⟨not_refused, past, future, rfl, answered, _⟩
  refine ⟨?_, invariant.answered, ?_⟩
  · have requests_eq := congrArg (List.map Prod.fst) answered
    simp only [List.map_map, Function.comp_def] at requests_eq
    rw [requests_eq, List.map_append]
    exact List.prefix_append _ _
  · intro running fuel enough
    have sent_eq : connection.sent ++ connection.pending =
        connection.exchanges.flatMap (fun exchange => exchange.2.toString.2) := by
      have output_eq : connection.output =
          connection.exchanges.flatMap (fun exchange => exchange.2.toString.2) := by
        simp [output, not_refused]
      have inPhase := invariant.inPhase
      cases phase : connection.phase with
      | reading | handling | returned =>
          simp only [InPhase, phase] at inPhase
          simp only [pending, phase, List.append_nil, ← output_eq]
          exact inPhase.2.2.1
      | writing bytes =>
          simp only [InPhase, phase] at inPhase
          simp only [pending, phase, ← output_eq]
          exact inPhase.2.2.1
      | threw exception => exact absurd phase (running exception)
    have answers_fine : ∀ response ∈ connection.exchanges.map Prod.snd, response.WellFormed := by
      intro response mem
      rcases List.mem_map.mp mem with ⟨exchange, exchange_mem, rfl⟩
      exact invariant.exchange_wellFormed proper exchange exchange_mem
    have decoded := HttpResponse.decodeAll_responses answers_fine
      (by simpa using enough : (connection.exchanges.map Prod.snd).length ≤ fuel)
    rw [List.flatMap_map, List.map_map] at decoded
    rw [sent_eq]
    exact decoded

end Connection

end Uvco.HttpServer
