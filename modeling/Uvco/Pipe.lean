import Uvco.Stream.Delivery
import Uvco.Stream.Sending

/-!
# Two connected streams

`pipe()` makes two streams, of which one is read from and the other one written to.
The same holds for either direction of a TCP connection or of a Unix socket. In
between, the kernel holds what was sent and not delivered yet. It delivers the bytes
in order, and reports the end of the stream after the last one, unless the connection
is reset: then it throws away what it holds.

Each stream has its own view of the scheduler: coroutines at the other end are
`elsewhere`.
-/

namespace Uvco

open Uvco.Stream

/-- The two ends of a pipe or connection, and what is between them. -/
structure Pipe where
  writer : Sending := {}
  reader : Transfer := {}
  /-- What the kernel holds. -/
  inFlight : List Byte := []
  isReset : Bool := false
  /-- The end of the stream was reported. -/
  atEnd : Bool := false

namespace Pipe

variable (pipe : Pipe)

/-- The writer takes a step; what libuv has sent in it is in flight. -/
def write (after : Sending) : Pipe :=
  { pipe with
    writer := after
    inFlight := if pipe.isReset then pipe.inFlight
      else pipe.inFlight ++
        after.outbox.transmitted.drop pipe.writer.outbox.transmitted.length }

/-- The bytes of a chunk are delivered to the reader. -/
def deliver (nread : Int) (chunk : List Byte) : Pipe :=
  { pipe with
    reader := pipe.reader.onInStreamRead nread chunk
    inFlight := pipe.inFlight.drop chunk.length
    atEnd := pipe.atEnd || decide (nread = UV_EOF) }

/-- The connection is reset, and what is on the way is lost. -/
def reset : Pipe :=
  { pipe with inFlight := [], isReset := true }

/-- A step of one of the ends, or of the connection. -/
inductive Action where
  | writer (action : Sending.Action)
  | deliver (nread : Int) (chunk : List Byte)
  /-- A step of the reader in which nothing is delivered. -/
  | reader (action : Transfer.Action)
  | reset

namespace Action

/-- The kernel delivers what it holds, in order, and reports the end of the stream when the writer
has shut its stream down or closed it, and there is nothing left. -/
def Enabled (pipe : Pipe) : Action → Prop
  | .writer action => action.Enabled pipe.writer
  | .deliver nread chunk =>
      (Transfer.Action.onInStreamRead nread chunk).Enabled pipe.reader ∧
        chunk <+: pipe.inFlight ∧
        (nread = UV_EOF →
          pipe.inFlight = [] ∧ pipe.writer.IsFinished ∧ pipe.isReset = false)
  | .reader action => action.Enabled pipe.reader ∧
      match action with
      | .onInStreamRead .. => False
      | .read .. | .readClosed _ | .drop | .stream _ => True
  | .reset => True

/-- The pipe after an action. -/
def perform (pipe : Pipe) : Action → Pipe
  | .writer action => pipe.write (action.perform pipe.writer)
  | .deliver nread chunk => pipe.deliver nread chunk
  | .reader action => { pipe with reader := action.perform pipe.reader }
  | .reset => pipe.reset

end Action

/-- Any interleaving of both ends. -/
def system : TransitionSystem Pipe Action where
  Initial pipe := pipe = {}
  Enabled pipe action := action.Enabled pipe
  perform pipe action := action.perform pipe

/-- The bytes that were delivered to some call of `read()`. -/
def received : List Byte :=
  (pipe.reader.delivered.map (·.2)).flatten

/-- Every call of `write()` that libuv has accepted has returned. -/
def AllReturned : Prop :=
  ∀ number < pipe.writer.accepted.length, ∃ ended, (number, ended) ∈ pipe.writer.finished ∧
    ended.outcome = .written

/-- A `read()` has found the end of the stream. -/
def EndFound : Prop :=
  ∃ reading ended, (reading, ended) ∈ pipe.reader.finished ∧
    ended.awaiter.status = some UV_EOF

/-! ## What is kept along a run -/

/-- What was sent is received or on the way. -/
structure Balanced (pipe : Pipe) : Prop where
  writer : Sending.system.Reachable pipe.writer
  reader : Transfer.system.Reachable pipe.reader
  /-- Nothing is lost on the way, unless the connection is reset. -/
  sent_prefix : pipe.received ++ pipe.inFlight <+: pipe.writer.outbox.transmitted
  sent_eq : pipe.isReset = false →
    pipe.received ++ pipe.inFlight = pipe.writer.outbox.transmitted
  /-- Nothing follows the end of the stream. -/
  at_end : pipe.atEnd = true → pipe.writer.IsFinished ∧
    pipe.inFlight = [] ∧ pipe.received = pipe.writer.outbox.transmitted
  found : ∀ awaiter, pipe.reader.stream.awaiter .read = some awaiter →
    awaiter.status = some UV_EOF → pipe.atEnd = true
  finished : ∀ ended ∈ pipe.reader.stream.endedAt .read,
    ended.awaiter.status = some UV_EOF → pipe.atEnd = true

theorem received_deliver {nread : Int} {chunk : List Byte}
    (reached : Transfer.system.Reachable pipe.reader)
    (enabled : (Transfer.Action.onInStreamRead nread chunk).Enabled pipe.reader) :
    (pipe.deliver nread chunk).received = pipe.received ++ chunk := by
  rcases Transfer.delivered_onInStreamRead (Transfer.logged_of_reachable reached) enabled with
    ⟨number, delivered_eq⟩
  simp only [received, deliver, delivered_eq]
  simp

theorem inFlight_write {after : Sending} {more : List Byte}
    (transmitted_eq : after.outbox.transmitted = pipe.writer.outbox.transmitted ++ more) :
    (pipe.write after).inFlight =
      if pipe.isReset then pipe.inFlight else pipe.inFlight ++ more := by
  rw [write, transmitted_eq, List.drop_left]

namespace Balanced

variable {pipe : Pipe}

theorem write (balanced : pipe.Balanced) {action : Sending.Action}
    (enabled : action.Enabled pipe.writer) :
    (pipe.write (action.perform pipe.writer)).Balanced := by
  have reached := balanced.writer.step action enabled trivial
  have still_finished := fun finished =>
    (Sending.logged_of_reachable balanced.writer).still_finished enabled finished
  rcases (pipe.writer.continues_perform action).transmitted with ⟨more, transmitted_eq⟩
  change Sending.system.Reachable (action.perform pipe.writer) at reached
  generalize action.perform pipe.writer = after at *
  have inFlight_eq := pipe.inFlight_write transmitted_eq.symm
  refine ⟨reached, balanced.reader, ?_, fun connected => ?_, fun ended => ?_, balanced.found,
    balanced.finished⟩
  · change pipe.received ++ (pipe.write after).inFlight <+: after.outbox.transmitted
    rw [inFlight_eq, ← transmitted_eq]
    split
    · exact balanced.sent_prefix.trans (List.prefix_append _ _)
    · rename_i connected
      have sent_eq := balanced.sent_eq (by simpa using connected)
      simp [← sent_eq, List.append_assoc]
  · have connected : pipe.isReset = false := connected
    change pipe.received ++ (pipe.write after).inFlight = after.outbox.transmitted
    rw [inFlight_eq, connected, ← transmitted_eq, ← balanced.sent_eq connected, List.append_assoc]
    rfl
  · rcases balanced.at_end ended with ⟨finished, nothing_left, received_eq⟩
    rcases still_finished finished with ⟨finished, same⟩
    have no_more : more = [] := by
      rw [same] at transmitted_eq
      simpa using transmitted_eq
    refine ⟨finished, ?_, received_eq.trans same.symm⟩
    rw [inFlight_eq, no_more, nothing_left]
    simp

/-- What the reader stores about the end of the stream was reported to it. -/
theorem end_reported (balanced : pipe.Balanced) {action : Transfer.Action}
    (enabled : action.Enabled pipe.reader) {atEnd : Bool}
    (stays : pipe.atEnd = true → atEnd = true)
    (reports : ∀ chunk, action = .onInStreamRead UV_EOF chunk → atEnd = true) :
    (∀ awaiter, (action.perform pipe.reader).stream.awaiter .read = some awaiter →
      awaiter.status = some UV_EOF → atEnd = true) ∧
    ∀ ended ∈ (action.perform pipe.reader).stream.endedAt .read,
      ended.awaiter.status = some UV_EOF → atEnd = true := by
  cases is_step : action.onStream with
  | none =>
      cases action with
      | readClosed request =>
          exact ⟨fun awaiter found at_end => stays (balanced.found awaiter found at_end),
            fun ended ended_mem at_end => stays (balanced.finished ended ended_mem at_end)⟩
      | _ => exact nomatch is_step
  | some onStream =>
      rcases Transfer.Action.onStream_enabled enabled is_step with ⟨possible, stream_eq⟩
      have logged := Transfer.logged_of_reachable balanced.reader
      have progress := State.step_progress logged.reached possible .read
      rw [stream_eq]
      constructor
      · intro awaiter found at_end
        rcases progress.of_status found at_end with ⟨earlier, earlier_found, at_end⟩ | calls
        · exact stays (balanced.found earlier earlier_found at_end)
        · rcases Transfer.Action.onStream_callsBack enabled is_step calls with ⟨chunk, rfl⟩
          exact reports chunk rfl
      · intro ended ended_mem at_end
        rcases progress.of_ended ended_mem with earlier | ⟨awaiter, found, same⟩
        · exact stays (balanced.finished ended earlier at_end)
        · exact stays (balanced.found awaiter found (same.trans at_end))

/-- A step of the reader in which nothing is delivered. -/
theorem read (balanced : pipe.Balanced) {action : Transfer.Action}
    (enabled : (Action.reader action).Enabled pipe) :
    ({ pipe with reader := action.perform pipe.reader } : Pipe).Balanced := by
  rcases enabled with ⟨possible, no_delivery⟩
  have not_called : ∀ nread chunk, action ≠ .onInStreamRead nread chunk := by
    rintro nread chunk rfl
    exact no_delivery
  have received_eq : ({ pipe with reader := action.perform pipe.reader } : Pipe).received =
      pipe.received := by
    rw [received, received, Transfer.delivered_perform not_called]
  rcases balanced.end_reported possible id fun chunk calls => absurd calls (not_called _ chunk)
    with ⟨found, finished⟩
  refine ⟨balanced.writer, balanced.reader.step action possible trivial, ?_, ?_, ?_, found,
    finished⟩
  · rw [received_eq]
    exact balanced.sent_prefix
  · rw [received_eq]
    exact balanced.sent_eq
  · rw [received_eq]
    exact balanced.at_end

theorem deliver (balanced : pipe.Balanced) {nread : Int} {chunk : List Byte}
    (enabled : (Action.deliver nread chunk).Enabled pipe) :
    (pipe.deliver nread chunk).Balanced := by
  rcases enabled with ⟨possible, ⟨rest, inFlight_eq⟩, at_end⟩
  have received_eq := pipe.received_deliver balanced.reader possible
  have left_eq : (pipe.deliver nread chunk).inFlight = rest := by
    change pipe.inFlight.drop chunk.length = rest
    rw [← inFlight_eq, List.drop_left]
  have total_eq : (pipe.deliver nread chunk).received ++ (pipe.deliver nread chunk).inFlight =
      pipe.received ++ pipe.inFlight := by
    rw [received_eq, left_eq, List.append_assoc, inFlight_eq]
  have at_end_eq : (pipe.deliver nread chunk).atEnd =
      (pipe.atEnd || decide (nread = UV_EOF)) := rfl
  have ends : ∀ other, Transfer.Action.onInStreamRead nread chunk = .onInStreamRead UV_EOF other →
      (pipe.deliver nread chunk).atEnd = true := by
    rintro other ⟨⟩
    simp [at_end_eq]
  rcases balanced.end_reported possible (fun ended => by simp [at_end_eq, ended]) ends with
    ⟨found, finished⟩
  have reached := balanced.reader.step (Transfer.Action.onInStreamRead nread chunk) possible trivial
  refine ⟨balanced.writer, reached, ?_, ?_, fun ended => ?_, found, finished⟩
  · rw [total_eq]
    exact balanced.sent_prefix
  · rw [total_eq]
    exact balanced.sent_eq
  · -- Nothing is delivered with or after the end of the stream.
    have nothing_left : pipe.inFlight = [] ∧ pipe.writer.IsFinished ∧
        pipe.received = pipe.writer.outbox.transmitted := by
      rcases Bool.or_eq_true_iff.mp ended with earlier | now
      · rcases balanced.at_end earlier with ⟨finished, nothing_left, received_eq⟩
        exact ⟨nothing_left, finished, received_eq⟩
      · rcases at_end (by simpa using now) with ⟨nothing_left, finished, connected⟩
        have sent_eq := balanced.sent_eq connected
        rw [nothing_left, List.append_nil] at sent_eq
        exact ⟨nothing_left, finished, sent_eq⟩
    rcases nothing_left with ⟨nothing_left, no_more, all_received⟩
    rw [nothing_left] at inFlight_eq
    rcases List.append_eq_nil_iff.mp inFlight_eq with ⟨rfl, rfl⟩
    refine ⟨no_more, left_eq, ?_⟩
    rw [received_eq, List.append_nil]
    exact all_received

theorem reset (balanced : pipe.Balanced) : pipe.reset.Balanced := by
  refine ⟨balanced.writer, balanced.reader, ?_, nofun, fun ended => ?_, balanced.found,
    balanced.finished⟩
  · change pipe.received ++ [] <+: _
    rw [List.append_nil]
    exact (List.prefix_append _ _).trans balanced.sent_prefix
  · rcases balanced.at_end ended with ⟨finished, -, received_eq⟩
    exact ⟨finished, rfl, received_eq⟩

theorem step (balanced : pipe.Balanced) {action : Action} (enabled : action.Enabled pipe) :
    (action.perform pipe).Balanced := by
  cases action with
  | writer action => exact balanced.write enabled
  | deliver nread chunk => exact balanced.deliver enabled
  | reader action => exact balanced.read enabled
  | reset => exact balanced.reset

end Balanced

theorem balanced_of_reachable {pipe : Pipe} (reached : system.Reachable pipe) :
    pipe.Balanced := by
  apply TransitionSystem.Reachable.invariant Balanced ?_ ?_ reached
  · rintro pipe rfl
    exact ⟨.start rfl, .start rfl, List.prefix_rfl, fun _ => rfl, nofun, by simp, nofun⟩
  · exact fun pipe action balanced enabled => balanced.step enabled

/-! ## From one end to the other -/

/-- What the calls of `read()` return at one end, compared with the calls of `write()` at the
other one. -/
structure EndToEnd (pipe : Pipe) : Prop where
  /-- What was delivered is the beginning of what was sent: one prefix of each accepted buffer, in
  the order of the calls. -/
  in_order : pipe.received <+: pipe.writer.pieces.flatten ∧
    List.Forall₂ (· <+: ·) pipe.writer.pieces pipe.writer.accepted
  /-- As long as no request fails, nothing is left out in between. -/
  gapless : (∀ parcel ∈ pipe.writer.outbox.settled, parcel.fate = .delivered) →
    pipe.received <+: pipe.writer.accepted.flatten
  /-- It is returned, but for what was delivered to calls whose promises were dropped. -/
  returned : pipe.reader.reading = none →
    (pipe.reader.results.map Result.chunk).flatten = (pipe.reader.kept.map (·.2)).flatten
  /-- If every `write()` has returned, and a `read()` has found the end of the stream, then
  everything was delivered. -/
  complete : pipe.AllReturned → pipe.EndFound → pipe.received = pipe.writer.accepted.flatten
  /-- If no `read()` was cancelled, then the results are what was written. -/
  exact_copy : pipe.AllReturned → pipe.EndFound → pipe.reader.dropped = [] →
    pipe.reader.reading = none →
    (pipe.reader.results.map Result.chunk).flatten = pipe.writer.accepted.flatten

theorem pieces_of_allReturned {pipe : Pipe} (logged : pipe.writer.Logged)
    (all_returned : pipe.AllReturned) : pipe.writer.pieces = pipe.writer.accepted := by
  apply List.ext_getElem?
  intro number
  by_cases in_range : number < pipe.writer.accepted.length
  · rcases all_returned number in_range with ⟨ended, ended_mem, written⟩
    exact (logged.pieces_of_written ended_mem written).1
  · have length_eq := logged.pieces_prefix.length_eq
    rw [List.getElem?_eq_none (Nat.not_lt.mp in_range),
      List.getElem?_eq_none (length_eq ▸ Nat.not_lt.mp in_range)]

theorem Balanced.received_of_endFound {pipe : Pipe} (balanced : pipe.Balanced)
    (end_found : pipe.EndFound) : pipe.received = pipe.writer.outbox.transmitted := by
  rcases end_found with ⟨reading, ended, ended_mem, at_end⟩
  have on_stream := Transfer.endedAt_of_finished balanced.reader _ ended_mem
  exact (balanced.at_end (balanced.finished ended on_stream at_end)).2.2

theorem results_flatten {transfer : Transfer} (reached : Transfer.system.Reachable transfer)
    (nobody : transfer.reading = none) :
    (transfer.results.map Result.chunk).flatten = (transfer.kept.map (·.2)).flatten := by
  have logged := Transfer.logged_of_reachable reached
  have kept_eq := logged.kept_eq
  simp only [Transfer.pending, nobody, List.append_nil] at kept_eq
  rw [kept_eq]
  exact Transfer.chunks_flatten transfer.finished logged.finished

theorem endToEnd_of_reachable {pipe : Pipe} (reached : system.Reachable pipe) :
    pipe.EndToEnd := by
  have balanced := balanced_of_reachable reached
  have logged := Sending.logged_of_reachable balanced.writer
  have transmitted_eq : pipe.writer.outbox.transmitted = pipe.writer.pieces.flatten :=
    pipe.writer.outbox.transmitted_pieces
  have complete : pipe.AllReturned → pipe.EndFound →
      pipe.received = pipe.writer.accepted.flatten := by
    intro all_returned end_found
    rw [balanced.received_of_endFound end_found, transmitted_eq,
      pieces_of_allReturned logged all_returned]
  have received_prefix : pipe.received <+: pipe.writer.outbox.transmitted :=
    (List.prefix_append _ _).trans balanced.sent_prefix
  refine ⟨⟨?_, logged.pieces_prefix⟩, fun delivered => ?_, results_flatten balanced.reader,
    complete, ?_⟩
  · rw [← transmitted_eq]
    exact received_prefix
  · exact received_prefix.trans (logged.inOrder.gapless delivered).1
  · intro all_returned end_found no_drops nobody
    have all_kept : pipe.reader.kept = pipe.reader.delivered := by
      simp [Transfer.kept, no_drops]
    rw [results_flatten balanced.reader nobody, all_kept]
    exact complete all_returned end_found

/-- Two bytes are written and read one at a time; then the writer is closed. -/
theorem endToEnd_two_bytes :
    ([.writer (.write 0 [104, 105] 0), .writer (.transmit 2), .writer .deliver,
      .writer (.onOutStreamWrite ⟨[104, 105], 2, .delivered⟩), .writer (.stream .resumeNext),
      .reader (.read 0 (.string 1) false 0 0), .deliver 1 [104], .reader (.stream .resumeNext),
      .writer .close, .reader (.read 1 (.string 1) false 0 0), .deliver 1 [105],
      .reader (.stream .resumeNext), .reader (.read 2 (.string 1) false 0 0), .deliver UV_EOF [],
      .reader (.stream .resumeNext)].foldl Action.perform ({} : Pipe)).EndToEnd := by
  have start : system.Reachable {} := .start rfl
  have writes := start.step (Action.writer (.write 0 [104, 105] 0)) ⟨⟨rfl, rfl, rfl⟩, nofun⟩ trivial
  have sent := writes.step (Action.writer (.transmit 2)) rfl trivial
  have settled := sent.step (Action.writer .deliver) rfl trivial
  have completed := settled.step
    (Action.writer (.onOutStreamWrite ⟨[104, 105], 2, .delivered⟩)) rfl trivial
  have written := completed.step (Action.writer (.stream .resumeNext)) ⟨trivial, trivial⟩ trivial
  have reads := written.step (Action.reader (.read 0 (.string 1) false 0 0))
    ⟨⟨rfl, rfl, rfl⟩, trivial⟩ trivial
  have called := reads.step (Action.deliver 1 [104])
    ⟨⟨rfl, rfl, by rintro reading ⟨⟩; decide⟩, ⟨[105], rfl⟩, nofun⟩ trivial
  have first := called.step (Action.reader (.stream .resumeNext)) ⟨⟨trivial, trivial⟩, trivial⟩
    trivial
  have closed := first.step (Action.writer .close) trivial trivial
  have again := closed.step (Action.reader (.read 1 (.string 1) false 0 0))
    ⟨⟨rfl, rfl, rfl⟩, trivial⟩ trivial
  have more := again.step (Action.deliver 1 [105])
    ⟨⟨rfl, rfl, by rintro reading ⟨⟩; decide⟩, ⟨[], rfl⟩, nofun⟩ trivial
  have second := more.step (Action.reader (.stream .resumeNext)) ⟨⟨trivial, trivial⟩, trivial⟩
    trivial
  have last := second.step (Action.reader (.read 2 (.string 1) false 0 0))
    ⟨⟨rfl, rfl, rfl⟩, trivial⟩ trivial
  have ended := last.step (Action.deliver UV_EOF [])
    ⟨⟨rfl, rfl, by rintro reading ⟨⟩; decide⟩, ⟨[], rfl⟩, fun _ => ⟨rfl, .inr rfl, rfl⟩⟩ trivial
  have found := ended.step (Action.reader (.stream .resumeNext)) ⟨⟨trivial, trivial⟩, trivial⟩
    trivial
  exact endToEnd_of_reachable found

end Pipe

end Uvco
