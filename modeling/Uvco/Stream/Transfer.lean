import Uvco.Stream.Progress

/-!
# The bytes that `read()` returns

This file adds the buffers to the model of a stream: libuv writes a chunk into the
buffer of the suspended `read()` and reports its length, and the two overloads of
`read()` make their results of that length and of the buffer. A length of 0 is what
both return at the end of the stream and on a closed handle; `onInStreamRead`
stores it, too, if libuv had nothing to deliver.

Calls of `read()` are numbered, so that what was delivered can be told apart.
-/

namespace Uvco.Stream

/-- A byte of a buffer. -/
abbrev Byte := UInt8

/-- The arguments of the overloads of `read()`. -/
inductive Request where
  | string (maxSize : ℕ)
  | span (buffer : List Byte)
deriving DecidableEq, Repr

/-- The buffer that `allocate()` hands to libuv. -/
def Request.buffer : Request → List Byte
  | .string maxSize => List.replicate maxSize 0
  | .span buffer => buffer

/-- The local variables of a `read()`. -/
structure Reading where
  number : ℕ
  request : Request
  buffer : List Byte
deriving DecidableEq, Repr

/-- What the coroutine returns or throws. -/
inductive Result where
  | nullopt
  | string (content : List Byte)
  /-- The number of bytes, and the contents of the span. -/
  | filled (count : ℕ) (buffer : List Byte)
  | threw (exception : UvcoException)
deriving DecidableEq, Repr

/-- The result stands for the end of the stream. -/
def Result.isEnd : Result → Bool
  | .nullopt => true
  | .filled count _ => count == 0
  | .string _ | .threw _ => false

/-- The bytes that the caller gets. -/
def Result.chunk : Result → List Byte
  | .string content => content
  | .filled count buffer => buffer.take count
  | .nullopt | .threw _ => []

/-- `std::string::resize`. -/
def resize (content : List Byte) (size : ℕ) : List Byte :=
  content.take size ++ List.replicate (size - content.length) 0

namespace Reading

variable (reading : Reading)

/-- The overloads of `read()`, after `co_await awaiter` has returned. -/
def returns (nRead : ℕ) : Result :=
  match reading.request with
  | .string _ => if nRead = 0 then .nullopt else .string (resize reading.buffer nRead)
  | .span _ => .filled nRead reading.buffer

/-- The result of a `read()` that has ended. -/
def result (ended : Ended) : Option Result :=
  match ended.outcome with
  | .bytes count => some (reading.returns count.toNat)
  | .threw exception => some (.threw exception)
  | .written => none

/-- libuv writes a chunk into the buffer. -/
def fill (chunk : List Byte) : Reading :=
  { reading with buffer := chunk ++ reading.buffer.drop chunk.length }

end Reading

/-- A stream with what it has read. -/
structure Transfer where
  stream : State := {}
  /-- The locals of the suspended `read()`. -/
  reading : Option Reading := none
  /-- The number of calls of `read()`. -/
  calls : ℕ := 0
  /-- The chunks that libuv has delivered, with the calls they were delivered to. -/
  delivered : List (ℕ × List Byte) := []
  /-- The calls whose promises were dropped. -/
  dropped : List ℕ := []
  finished : List (Reading × Ended) := []
  /-- Calls on a closed stream, where the assertion of `stream()` fails. -/
  aborted : List Request := []

namespace Transfer

variable (transfer : Transfer)

/-- The operations that have ended in a step. -/
def endedIn (after : State) : List Ended :=
  (after.endedAt .read).drop (transfer.stream.endedAt .read).length

/-- The stream has taken a step. -/
def follow (after : State) : Transfer :=
  { transfer with
    stream := after
    reading := if (after.awaiter .read).isSome then transfer.reading else none
    finished := transfer.finished ++ transfer.reading.toList.flatMap fun reading =>
      (transfer.endedIn after).map fun ended => (reading, ended) }

/-- A call of `read()` on an open stream. -/
def read (coroutine : Handle) (request : Request) (readable : Bool) (ready start : Int) :
    Transfer :=
  let called : Transfer := { transfer with
    reading := some { number := transfer.calls, request, buffer := request.buffer }
    calls := transfer.calls + 1 }
  called.follow (transfer.stream.read coroutine readable ready start)

/-- `read()` on a closed stream. -/
def readClosed (request : Request) : Transfer :=
  { transfer with aborted := transfer.aborted ++ [request] }

/-- libuv calls `allocate` and `onInStreamRead`. -/
def onInStreamRead (nread : Int) (chunk : List Byte) : Transfer :=
  let filled : Transfer := { transfer with
    reading := transfer.reading.map (·.fill chunk)
    delivered := transfer.delivered ++ transfer.reading.toList.map fun reading =>
      (reading.number, chunk) }
  filled.follow (transfer.stream.onInStreamRead nread)

/-- The promise of the suspended `read()` is dropped, with the buffer it has. -/
def drop : Transfer :=
  let dropped : Transfer := { transfer with
    dropped := transfer.dropped ++ transfer.reading.toList.map (·.number) }
  dropped.follow (transfer.stream.drop .read)

/-- What the program, libuv and the kernel can do next. -/
inductive Action where
  | read (coroutine : Handle) (request : Request) (readable : Bool) (ready start : Int)
  | readClosed (request : Request)
  | onInStreamRead (nread : Int) (chunk : List Byte)
  | drop
  /-- A step that is not about a `read()` in particular. -/
  | stream (action : Stream.Action)

namespace Action

/-- libuv delivers as many bytes as it reports, and no more than the buffer holds. -/
def Enabled (transfer : Transfer) : Action → Prop
  | .read coroutine _ readable ready start =>
      (Stream.Action.read coroutine readable ready start).Enabled transfer.stream
  | .readClosed _ => transfer.stream.isOpen = false
  | .onInStreamRead nread chunk =>
      (Stream.Action.onInStreamRead nread).Enabled transfer.stream ∧
        chunk.length = nread.toNat ∧
        ∀ reading, transfer.reading = some reading → chunk.length ≤ reading.buffer.length
  | .drop => (Stream.Action.drop .read).Enabled transfer.stream
  | .stream action => action.Enabled transfer.stream ∧
      match action with
      | .read .. | .onInStreamRead _ | .drop .read => False
      | .write .. | .onOutStreamWrite .. | .close | .drop .write | .resumeNext | .other _ => True

/-- The state after an action. -/
def perform (transfer : Transfer) : Action → Transfer
  | .read coroutine request readable ready start =>
      transfer.read coroutine request readable ready start
  | .readClosed request => transfer.readClosed request
  | .onInStreamRead nread chunk => transfer.onInStreamRead nread chunk
  | .drop => transfer.drop
  | .stream action => transfer.follow (action.perform transfer.stream)

end Action

/-- All programs around one stream, with the bytes. -/
def system : TransitionSystem Transfer Action where
  Initial transfer := transfer = {}
  Enabled transfer action := action.Enabled transfer
  perform transfer action := action.perform transfer

/-! ## What is claimed of the results -/

/-- libuv reported the end of the stream, or `close()` was called, while the `read()` was
suspended. -/
def AtEnd (ended : Ended) : Prop :=
  ended.awaiter.status = some UV_EOF ∨ 0 < ended.awaiter.closes

/-- The chunks delivered to calls that were not cancelled. -/
def kept : List (ℕ × List Byte) :=
  transfer.delivered.filter fun delivery => delivery.1 ∉ transfer.dropped

/-- The results of the calls that have ended, in order. -/
def results : List Result :=
  transfer.finished.filterMap fun (reading, ended) => reading.result ended

/-- The results say what has arrived. -/
structure Exact (transfer : Transfer) : Prop where
  /-- A result stands for the end of the stream exactly at its end. -/
  at_end : ∀ reading ended result, (reading, ended) ∈ transfer.finished →
    reading.result ended = some result → (result.isEnd = true ↔ AtEnd ended)
  /-- A callback without data does not end the stream. -/
  would_block : ∀ reading ended result, (reading, ended) ∈ transfer.finished →
    reading.result ended = some result → ended.awaiter.status = some 0 → result.isEnd = false
  /-- A call on a closed stream returns. -/
  on_closed : transfer.aborted = []
  /-- The chunks make up what was delivered. -/
  chunks : transfer.reading = none →
    (transfer.results.map Result.chunk).flatten = (transfer.kept.map (·.2)).flatten
  /-- None is larger than requested. -/
  sizes : ∀ reading ended result, (reading, ended) ∈ transfer.finished →
    reading.result ended = some result → result.chunk.length ≤ reading.request.buffer.length

/-- In the run so far, no `read()` has ended after a callback without data, none was resumed by
`close()` after its callback (except at the end of the stream), and none was called on a closed
stream. -/
structure Orderly (transfer : Transfer) : Prop where
  data : ∀ call ∈ transfer.finished, call.2.awaiter.status ≠ some 0
  not_queued : ∀ call ∈ transfer.finished, 0 < call.2.awaiter.closes →
    call.2.awaiter.status = none ∨ call.2.awaiter.status = some UV_EOF
  open_calls : transfer.aborted = []

/-! ## What is logged along a run -/

/-- The chunk of a call whose callback was called. -/
def entry (reading : Reading) (awaiter : Awaiter) : Option (ℕ × List Byte) :=
  awaiter.status.map fun nread => (reading.number, reading.buffer.take nread.toNat)

/-- The chunk that waits in the buffer of the suspended `read()`. -/
def pending : List (ℕ × List Byte) :=
  match transfer.reading, transfer.stream.awaiter .read with
  | some reading, some awaiter => (entry reading awaiter).toList
  | _, _ => []

/-- All calls that have ended came before this one. -/
structure Before (transfer : Transfer) (number : ℕ) : Prop where
  finished : ∀ reading ended, (reading, ended) ∈ transfer.finished → reading.number < number
  dropped : ∀ other ∈ transfer.dropped, other < number

/-- libuv has written no more than fits into the buffer. -/
structure Fits (reading : Reading) (awaiter : Awaiter) : Prop where
  buffer_length : reading.buffer.length = reading.request.buffer.length
  nread_le : ∀ nread, awaiter.status = some nread → nread.toNat ≤ reading.buffer.length

/-- What the coroutine reports is what its callback was given, if it was called. -/
structure Reported (ended : Ended) : Prop where
  outcome : ended.outcome = ended.awaiter.status.elim (.bytes 0) readOutcome
  called_or_closed : ended.awaiter.status = none → 0 < ended.awaiter.closes

/-- What the record of the reads has to do with the awaiters of the stream. -/
structure Logged (transfer : Transfer) : Prop where
  reached : Stream.system.Reachable transfer.stream
  current : transfer.reading.isSome = (transfer.stream.awaiter .read).isSome
  before_next : transfer.Before transfer.calls
  before_current : ∀ reading, transfer.reading = some reading → transfer.Before reading.number ∧
    reading.number < transfer.calls
  fits : ∀ reading awaiter, transfer.reading = some reading →
    transfer.stream.awaiter .read = some awaiter → Fits reading awaiter
  finished : ∀ reading ended, (reading, ended) ∈ transfer.finished →
    Fits reading ended.awaiter ∧ Reported ended
  kept_eq : transfer.kept =
    (transfer.finished.filterMap fun (reading, ended) => entry reading ended.awaiter) ++
      transfer.pending

theorem follow_stays {after : State} {awaiter : Awaiter}
    (found : after.awaiter .read = some awaiter)
    (ended_eq : after.endedAt .read = transfer.stream.endedAt .read) :
    transfer.follow after = { transfer with stream := after } := by
  simp [follow, found, endedIn, ended_eq]

theorem follow_gone {after : State} (gone : after.awaiter .read = none)
    (ended_eq : after.endedAt .read = transfer.stream.endedAt .read) :
    transfer.follow after = { transfer with stream := after, reading := none } := by
  simp [follow, gone, endedIn, ended_eq]

theorem follow_ends {after : State} {reading : Reading} {ended : Ended}
    (current : transfer.reading = some reading) (gone : after.awaiter .read = none)
    (ended_eq : after.endedAt .read = transfer.stream.endedAt .read ++ [ended]) :
    transfer.follow after = { transfer with
      stream := after
      reading := none
      finished := transfer.finished ++ [(reading, ended)] } := by
  simp [follow, current, gone, endedIn, ended_eq]

namespace Logged

variable {transfer : Transfer}

theorem current_of_found (logged : transfer.Logged) {awaiter : Awaiter}
    (found : transfer.stream.awaiter .read = some awaiter) :
    ∃ reading, transfer.reading = some reading := by
  apply Option.isSome_iff_exists.mp
  rw [logged.current, found]
  rfl

theorem reading_of_nobody (logged : transfer.Logged)
    (nobody : transfer.stream.awaiter .read = none) : transfer.reading = none := by
  rw [← Option.not_isSome_iff_eq_none, logged.current, nobody]
  simp

/-- Nobody reads after the step, and nobody has read before. -/
theorem nobody (logged : transfer.Logged) {after : State} {calls : ℕ}
    (calls_le : transfer.calls ≤ calls) (reached : Stream.system.Reachable after)
    (gone : after.awaiter .read = none) (was_gone : transfer.stream.awaiter .read = none) :
    ({ transfer with stream := after, reading := none, calls } : Transfer).Logged := by
  have before := logged.before_next
  refine ⟨reached, by simp [gone], ⟨fun reading ended ended_mem => ?_, fun other other_mem => ?_⟩,
    by simp, by simp, logged.finished, ?_⟩
  · exact Nat.lt_of_lt_of_le (before.finished reading ended ended_mem) calls_le
  · exact Nat.lt_of_lt_of_le (before.dropped other other_mem) calls_le
  · have no_pending : transfer.pending = [] := by
      simp [pending, logged.reading_of_nobody was_gone]
    have kept_eq := logged.kept_eq
    rw [no_pending] at kept_eq
    exact kept_eq

/-- A step that does not concern the suspended `read()`. -/
theorem idle (logged : transfer.Logged) {after : State}
    (reached : Stream.system.Reachable after)
    (same : after.awaiter .read = transfer.stream.awaiter .read)
    (ended_eq : after.endedAt .read = transfer.stream.endedAt .read) :
    (transfer.follow after).Logged := by
  cases found : transfer.stream.awaiter .read with
  | none =>
      rw [transfer.follow_gone (same.trans found) ended_eq]
      exact logged.nobody (Nat.le_refl _) reached (same.trans found) found
  | some awaiter =>
      rw [transfer.follow_stays (same.trans found) ended_eq]
      refine ⟨reached, ?_, ⟨logged.before_next.finished, logged.before_next.dropped⟩,
        fun reading current => ?_, ?_, logged.finished, ?_⟩
      · rw [same]
        exact logged.current
      · rcases logged.before_current reading current with ⟨before, number_lt⟩
        exact ⟨⟨before.finished, before.dropped⟩, number_lt⟩
      · rw [same]
        exact logged.fits
      · have pending_eq : ({ transfer with stream := after } : Transfer).pending =
            transfer.pending := by
          simp only [pending, same]
        rw [pending_eq]
        exact logged.kept_eq

/-- A new `read()` is suspended. -/
theorem begins (logged : transfer.Logged) {after : State} {awaiter : Awaiter} {reading : Reading}
    (reached : Stream.system.Reachable after) (was_gone : transfer.stream.awaiter .read = none)
    (found : after.awaiter .read = some awaiter) (no_status : awaiter.status = none)
    (ended_eq : after.endedAt .read = transfer.stream.endedAt .read)
    (number_eq : reading.number = transfer.calls)
    (buffer_eq : reading.buffer = reading.request.buffer) :
    (({ transfer with reading := some reading, calls := transfer.calls + 1 } : Transfer).follow
      after).Logged := by
  let called : Transfer := { transfer with reading := some reading, calls := transfer.calls + 1 }
  change (called.follow after).Logged
  rw [called.follow_stays found ended_eq]
  have before := logged.before_next
  have settled := logged.nobody (Nat.le_refl _) logged.reached was_gone was_gone
  refine ⟨reached, by rw [found]; rfl, ⟨fun other ended ended_mem => ?_, fun other other_mem => ?_⟩,
    fun other other_eq => ?_, fun other other_awaiter other_eq awaiter_eq => ?_, logged.finished,
    ?_⟩
  · exact Nat.lt_succ_of_lt (before.finished other ended ended_mem)
  · exact Nat.lt_succ_of_lt (before.dropped other other_mem)
  · obtain rfl := Option.some.inj other_eq
    rw [number_eq]
    exact ⟨⟨before.finished, before.dropped⟩, Nat.lt_succ_self _⟩
  · obtain rfl := Option.some.inj other_eq
    obtain rfl := Option.some.inj (found.symm.trans awaiter_eq)
    exact ⟨by rw [buffer_eq], by simp [no_status]⟩
  · have no_pending : ({ called with stream := after } : Transfer).pending = [] := by
      simp [called, pending, found, entry, no_status]
    rw [no_pending]
    exact settled.kept_eq

/-- libuv delivers a chunk to the suspended `read()`. -/
theorem delivers (logged : transfer.Logged) {after : State} {awaiter called : Awaiter}
    {reading : Reading} {nread : Int} {chunk : List Byte}
    (reached : Stream.system.Reachable after) (current : transfer.reading = some reading)
    (found : transfer.stream.awaiter .read = some awaiter) (no_status : awaiter.status = none)
    (after_eq : after.awaiter .read = some called) (status_eq : called.status = some nread)
    (ended_eq : after.endedAt .read = transfer.stream.endedAt .read)
    (chunk_length : chunk.length = nread.toNat) (chunk_le : chunk.length ≤ reading.buffer.length) :
    (({ transfer with
      reading := some (reading.fill chunk)
      delivered := transfer.delivered ++ [(reading.number, chunk)] } : Transfer).follow
        after).Logged := by
  rcases logged.before_current reading current with ⟨before, number_lt⟩
  have fits := logged.fits reading awaiter current found
  have filled_length : (reading.fill chunk).buffer.length = reading.buffer.length := by
    simp only [Reading.fill, List.length_append, List.length_drop]
    omega
  let filled : Transfer := { transfer with
    reading := some (reading.fill chunk)
    delivered := transfer.delivered ++ [(reading.number, chunk)] }
  change (filled.follow after).Logged
  rw [filled.follow_stays after_eq ended_eq]
  refine ⟨reached, by rw [after_eq]; rfl, ⟨logged.before_next.finished,
    logged.before_next.dropped⟩, fun other other_eq => ?_, fun other other_awaiter other_eq
    awaiter_eq => ?_, logged.finished, ?_⟩
  · obtain rfl := Option.some.inj other_eq
    exact ⟨⟨before.finished, before.dropped⟩, number_lt⟩
  · obtain rfl := Option.some.inj other_eq
    obtain rfl := Option.some.inj (after_eq.symm.trans awaiter_eq)
    refine ⟨filled_length.trans fits.buffer_length, fun count count_eq => ?_⟩
    obtain rfl := Option.some.inj (status_eq.symm.trans count_eq)
    rw [filled_length, ← chunk_length]
    exact chunk_le
  · have no_pending : transfer.pending = [] := by
      simp [pending, current, found, entry, no_status]
    have pending_eq : ({ filled with stream := after } : Transfer).pending =
        [(reading.number, chunk)] := by
      simp [filled, pending, after_eq, entry, status_eq, Reading.fill, ← chunk_length]
    have kept_eq : ({ filled with stream := after } : Transfer).kept =
        transfer.kept ++ [(reading.number, chunk)] := by
      have not_dropped : reading.number ∉ transfer.dropped :=
        fun dropped => Nat.lt_irrefl _ (before.dropped _ dropped)
      simp [filled, kept, not_dropped]
    rw [pending_eq, kept_eq, logged.kept_eq, no_pending, List.append_nil]

/-- The chunk of a call that is dropped is no longer counted. -/
theorem cancelled (logged : transfer.Logged) {after : State} {awaiter : Awaiter}
    {reading : Reading} (reached : Stream.system.Reachable after)
    (current : transfer.reading = some reading)
    (found : transfer.stream.awaiter .read = some awaiter) (gone : after.awaiter .read = none)
    (ended_eq : after.endedAt .read = transfer.stream.endedAt .read) :
    (({ transfer with dropped := transfer.dropped ++ [reading.number] } : Transfer).follow
      after).Logged := by
  rcases logged.before_current reading current with ⟨before, number_lt⟩
  let without : Transfer := { transfer with dropped := transfer.dropped ++ [reading.number] }
  change (without.follow after).Logged
  rw [without.follow_gone gone ended_eq]
  refine ⟨reached, by rw [gone]; rfl, ⟨logged.before_next.finished,
    fun other other_mem => ?_⟩, by simp, by simp, logged.finished, ?_⟩
  · rcases List.mem_append.mp other_mem with older | newest
    · exact logged.before_next.dropped other older
    · exact (List.mem_singleton.mp newest).symm ▸ number_lt
  · have filtered : ({ without with stream := after, reading := none } : Transfer).kept =
        transfer.kept.filter fun delivery => delivery.1 ≠ reading.number := by
      simp only [without, kept, List.filter_filter]
      apply List.filter_congr
      intro delivery _
      simp [and_comm]
    have finished_kept : (transfer.finished.filterMap fun (reading, ended) =>
        entry reading ended.awaiter).filter (fun delivery => delivery.1 ≠ reading.number) =
        transfer.finished.filterMap fun (reading, ended) => entry reading ended.awaiter := by
      rw [List.filter_eq_self]
      intro delivery delivery_mem
      rcases List.mem_filterMap.mp delivery_mem with ⟨⟨other, ended⟩, other_mem, entry_eq⟩
      rcases Option.map_eq_some_iff.mp entry_eq with ⟨count, -, rfl⟩
      have := before.finished other ended other_mem
      simp only [ne_eq, decide_eq_true_eq]
      omega
    have pending_gone :
        transfer.pending.filter (fun delivery => delivery.1 ≠ reading.number) = [] := by
      rw [List.filter_eq_nil_iff]
      intro delivery delivery_mem
      simp only [pending, current, found, Option.mem_toList] at delivery_mem
      rcases Option.map_eq_some_iff.mp delivery_mem with ⟨count, -, rfl⟩
      simp
    rw [filtered, logged.kept_eq, List.filter_append, finished_kept, pending_gone]
    rfl

/-- The suspended `read()` ends. -/
theorem ends (logged : transfer.Logged) {after : State} {awaiter : Awaiter} {ended : Ended}
    (reached : Stream.system.Reachable after)
    (found : transfer.stream.awaiter .read = some awaiter) (gone : after.awaiter .read = none)
    (ended_eq : after.endedAt .read = transfer.stream.endedAt .read ++ [ended])
    (status_eq : ended.awaiter.status = awaiter.status) (reported : Reported ended) :
    (transfer.follow after).Logged := by
  rcases logged.current_of_found found with ⟨reading, current⟩
  rcases logged.before_current reading current with ⟨before, number_lt⟩
  have fits := logged.fits reading awaiter current found
  rw [transfer.follow_ends current gone ended_eq]
  refine ⟨reached, by rw [gone]; rfl, ⟨fun other other_ended other_mem => ?_,
    logged.before_next.dropped⟩, by simp, by simp, fun other other_ended other_mem => ?_, ?_⟩
  · rcases List.mem_append.mp other_mem with older | newest
    · exact logged.before_next.finished other other_ended older
    · obtain ⟨rfl, rfl⟩ := Prod.mk.inj (List.mem_singleton.mp newest)
      exact number_lt
  · rcases List.mem_append.mp other_mem with older | newest
    · exact logged.finished other other_ended older
    · obtain ⟨rfl, rfl⟩ := Prod.mk.inj (List.mem_singleton.mp newest)
      refine ⟨⟨fits.buffer_length, ?_⟩, reported⟩
      rw [status_eq]
      exact fits.nread_le
  · have pending_eq : transfer.pending = (entry reading ended.awaiter).toList := by
      simp [pending, current, found, entry, status_eq]
    change transfer.kept = _ ++ []
    rw [logged.kept_eq, List.append_nil, List.filterMap_append, pending_eq]
    cases ended_entry : entry reading ended.awaiter <;> simp [ended_entry]

theorem read (logged : transfer.Logged) {coroutine : Handle} {request : Request}
    {readable : Bool} {ready start : Int}
    (enabled : (Action.read coroutine request readable ready start).Enabled transfer) :
    (transfer.read coroutine request readable ready start).Logged := by
  have possible : (Stream.Action.read coroutine readable ready start).Enabled transfer.stream :=
    enabled
  have was_gone : transfer.stream.awaiter .read = none := possible.2.1
  have reached := State.reachable_perform logged.reached possible
  unfold Transfer.read
  cases State.step_progress logged.reached possible .read with
  | idle _ same ended_eq =>
      have gone := same.trans was_gone
      let called : Transfer := { transfer with
        reading := some { number := transfer.calls, request, buffer := request.buffer }
        calls := transfer.calls + 1 }
      change (called.follow (transfer.stream.read coroutine readable ready start)).Logged
      have follow_eq := called.follow_gone gone ended_eq
      rw [show called.follow (transfer.stream.read coroutine readable ready start) = _ from
        follow_eq]
      exact logged.nobody (Nat.le_succ _) reached gone was_gone
  | begins awaiter result _ _ _ _ found _ no_status ended_eq =>
      exact logged.begins reached was_gone found no_status ended_eq rfl rfl
  | reported awaiter status calls => exact calls.elim
  | dropped awaiter drops => exact nomatch drops
  | resumed awaiter status resumes => exact nomatch resumes
  | closed awaiter closes => exact nomatch closes

theorem onInStreamRead (logged : transfer.Logged) {nread : Int} {chunk : List Byte}
    (enabled : (Action.onInStreamRead nread chunk).Enabled transfer) :
    (transfer.onInStreamRead nread chunk).Logged := by
  rcases enabled with ⟨possible, chunk_length, chunk_le⟩
  have reached := State.reachable_perform logged.reached possible
  unfold Transfer.onInStreamRead
  cases State.step_progress logged.reached possible .read with
  | idle uninvolved => exact absurd trivial uninvolved
  | begins awaiter result calls => exact calls.elim
  | dropped awaiter drops => exact nomatch drops
  | resumed awaiter status resumes => exact nomatch resumes
  | closed awaiter closes => exact nomatch closes
  | reported awaiter status calls found no_status after_eq ended_eq =>
      obtain rfl : nread = status := calls
      rcases logged.current_of_found found with ⟨reading, current⟩
      simp only [current]
      exact logged.delivers reached current found no_status after_eq rfl ended_eq chunk_length
        (chunk_le reading current)

theorem drop (logged : transfer.Logged)
    (enabled : Action.drop.Enabled transfer) : transfer.drop.Logged := by
  have possible : (Stream.Action.drop .read).Enabled transfer.stream := enabled
  have reached := State.reachable_perform logged.reached possible
  unfold Transfer.drop
  cases State.step_progress logged.reached possible .read with
  | idle uninvolved => exact absurd rfl uninvolved
  | begins awaiter result calls => exact calls.elim
  | reported awaiter status calls => exact calls.elim
  | resumed awaiter status resumes => exact nomatch resumes
  | closed awaiter closes => exact nomatch closes
  | dropped awaiter _ found gone ended_eq =>
      rcases logged.current_of_found found with ⟨reading, current⟩
      have cancelled := logged.cancelled reached current found gone ended_eq
      simp only [current] at cancelled ⊢
      exact cancelled

theorem step (logged : transfer.Logged) {action : Action} (enabled : action.Enabled transfer) :
    (action.perform transfer).Logged := by
  cases action with
  | read coroutine request readable ready start => exact logged.read enabled
  | readClosed request =>
      exact ⟨logged.reached, logged.current,
        ⟨logged.before_next.finished, logged.before_next.dropped⟩,
        fun reading current => ⟨⟨(logged.before_current reading current).1.finished,
          (logged.before_current reading current).1.dropped⟩,
          (logged.before_current reading current).2⟩,
        logged.fits, logged.finished, logged.kept_eq⟩
  | onInStreamRead nread chunk => exact logged.onInStreamRead enabled
  | drop => exact logged.drop enabled
  | stream action =>
      rcases enabled with ⟨possible, not_read⟩
      have reached := State.reachable_perform logged.reached possible
      cases State.step_progress logged.reached possible .read with
      | idle _ same ended_eq => exact logged.idle reached same ended_eq
      | begins awaiter start calls =>
          cases action <;> first | exact not_read.elim | exact calls.elim
      | reported awaiter status calls =>
          cases action <;> first | exact not_read.elim | exact calls.elim
      | dropped awaiter drops =>
          subst drops
          exact not_read.elim
      | resumed awaiter status _ found is_reported not_closed gone ended_eq =>
          apply logged.ends reached found gone ended_eq rfl
          exact ⟨by rw [is_reported]; rfl, by simp [is_reported]⟩
      | closed awaiter _ found not_closed gone ended_eq =>
          apply logged.ends reached found gone ended_eq rfl
          exact ⟨rfl, fun _ => Nat.succ_pos _⟩

end Logged

theorem logged_of_reachable {transfer : Transfer} (reached : system.Reachable transfer) :
    transfer.Logged := by
  apply TransitionSystem.Reachable.invariant Logged ?_ ?_ reached
  · rintro transfer rfl
    exact ⟨.start rfl, rfl, ⟨by simp, by simp⟩, by simp, by simp, by simp, rfl⟩
  · exact fun transfer action logged enabled => logged.step enabled

/-! ## The results -/

theorem returns_isEnd (reading : Reading) (nRead : ℕ) :
    (reading.returns nRead).isEnd = true ↔ nRead = 0 := by
  unfold Reading.returns
  split
  · split <;> simp [Result.isEnd, *]
  · simp [Result.isEnd]

theorem returns_chunk {reading : Reading} {nRead : ℕ} (fits : nRead ≤ reading.buffer.length) :
    (reading.returns nRead).chunk = reading.buffer.take nRead := by
  unfold Reading.returns
  split
  · split
    · simp [Result.chunk, *]
    · have no_padding : nRead - reading.buffer.length = 0 := by omega
      simp [Result.chunk, resize, no_padding]
  · rfl

/-- What a `read()` makes of the status that its callback was given. -/
theorem result_spec {reading : Reading} {ended : Ended} (fits : Fits reading ended.awaiter)
    (reported : Reported ended) :
    ∃ result, reading.result ended = some result ∧
      (result.isEnd = true ↔ ended.awaiter.status = none ∨ ended.awaiter.status = some 0 ∨
        ended.awaiter.status = some UV_EOF) ∧
      result.chunk = reading.buffer.take (ended.awaiter.status.elim 0 Int.toNat) := by
  have outcome_eq := reported.outcome
  cases status : ended.awaiter.status with
  | none =>
      simp only [status, Option.elim_none] at outcome_eq
      refine ⟨reading.returns 0, by simp [Reading.result, outcome_eq], ?_, ?_⟩
      · simp [returns_isEnd]
      · exact returns_chunk (Nat.zero_le _)
  | some nread =>
      simp only [status, Option.elim_some] at outcome_eq
      rcases Int.lt_trichotomy nread 0 with negative | rfl | positive
      · have no_bytes : nread.toNat = 0 := by omega
        by_cases at_end : nread = UV_EOF
        · subst at_end
          refine ⟨reading.returns 0, by simp [Reading.result, outcome_eq, readOutcome], ?_, ?_⟩
          · simp [returns_isEnd]
          · rw [Option.elim_some, no_bytes]
            exact returns_chunk (Nat.zero_le _)
        · refine ⟨.threw (.ofStatus nread "StreamBase::read() encountered error"), ?_, ?_, ?_⟩
          · simp [Reading.result, outcome_eq, readOutcome, at_end, negative]
          · simp only [Result.isEnd, Option.some.injEq, at_end]
            simp
            omega
          · rw [Option.elim_some, no_bytes]
            rfl
      · refine ⟨reading.returns 0, ?_, ?_, returns_chunk (Nat.zero_le _)⟩
        · simp [Reading.result, outcome_eq, State.Invariant.readOutcome_of_success]
        · simp [returns_isEnd]
      · have not_end : nread ≠ UV_EOF := by
          rintro rfl
          simp [UV_EOF] at positive
        refine ⟨reading.returns nread.toNat, ?_, ?_, returns_chunk (fits.nread_le nread status)⟩
        · simp [Reading.result, outcome_eq,
            State.Invariant.readOutcome_of_success (Int.le_of_lt positive)]
        · simp only [returns_isEnd, Option.some.injEq, not_end]
          simp
          omega

/-- The results of calls that have ended make up the chunks that were delivered to them. -/
theorem chunks_flatten (finished : List (Reading × Ended))
    (sound : ∀ reading ended, (reading, ended) ∈ finished →
      Fits reading ended.awaiter ∧ Reported ended) :
    ((finished.filterMap fun (reading, ended) => reading.result ended).map Result.chunk).flatten =
      ((finished.filterMap fun (reading, ended) => entry reading ended.awaiter).map
        (·.2)).flatten := by
  induction finished with
  | nil => rfl
  | cons call finished ih =>
      rcases call with ⟨reading, ended⟩
      rcases sound reading ended List.mem_cons_self with ⟨fits, reported⟩
      have rest := ih fun other other_ended other_mem =>
        sound other other_ended (List.mem_cons_of_mem _ other_mem)
      rcases result_spec fits reported with ⟨result, result_eq, -, chunk_eq⟩
      simp only [List.filterMap_cons, result_eq, List.map_cons, List.flatten_cons, chunk_eq, rest]
      cases status : ended.awaiter.status <;> simp [entry, status]

/-- In every run, the results are those claimed if and only if the run is orderly. -/
theorem exact_iff_orderly {transfer : Transfer} (reached : system.Reachable transfer) :
    transfer.Exact ↔ transfer.Orderly := by
  have logged := logged_of_reachable reached
  have spec : ∀ reading ended, (reading, ended) ∈ transfer.finished → _ :=
    fun reading ended ended_mem =>
      result_spec (logged.finished reading ended ended_mem).1
        (logged.finished reading ended ended_mem).2
  constructor
  · intro exact_results
    have data : ∀ call ∈ transfer.finished, call.2.awaiter.status ≠ some 0 := by
      rintro ⟨reading, ended⟩ ended_mem no_data
      rcases spec reading ended ended_mem with ⟨result, result_eq, is_end, -⟩
      have not_end := exact_results.would_block reading ended result ended_mem result_eq no_data
      rw [is_end.mpr (.inr (.inl no_data))] at not_end
      simp at not_end
    refine ⟨data, ?_, exact_results.on_closed⟩
    rintro ⟨reading, ended⟩ ended_mem closed
    rcases spec reading ended ended_mem with ⟨result, result_eq, is_end, -⟩
    have at_end := (exact_results.at_end reading ended result ended_mem result_eq).mpr (.inr closed)
    rcases is_end.mp at_end with uncalled | no_data | at_eof
    · exact .inl uncalled
    · exact absurd no_data (data _ ended_mem)
    · exact .inr at_eof
  · intro orderly
    refine ⟨fun reading ended result ended_mem found => ?_, fun reading ended result ended_mem _
      no_data => absurd no_data (orderly.data _ ended_mem), orderly.open_calls,
      fun nobody => ?_, fun reading ended result ended_mem found => ?_⟩
    · rcases spec reading ended ended_mem with ⟨same, result_eq, is_end, -⟩
      obtain rfl := Option.some.inj (result_eq.symm.trans found)
      rw [is_end]
      constructor
      · rintro (uncalled | no_data | at_eof)
        · exact .inr ((logged.finished reading ended ended_mem).2.called_or_closed uncalled)
        · exact absurd no_data (orderly.data _ ended_mem)
        · exact .inl at_eof
      · rintro (at_eof | closed)
        · exact .inr (.inr at_eof)
        · exact (orderly.not_queued _ ended_mem closed).imp_right .inr
    · have kept_eq := logged.kept_eq
      simp only [pending, nobody, List.append_nil] at kept_eq
      rw [kept_eq]
      exact chunks_flatten transfer.finished logged.finished
    · rcases spec reading ended ended_mem with ⟨same, result_eq, -, chunk_eq⟩
      obtain rfl := Option.some.inj (result_eq.symm.trans found)
      rw [chunk_eq, List.length_take, ← (logged.finished reading ended ended_mem).1.buffer_length]
      exact Nat.min_le_right _ _

/-- One `read()` gets two bytes, and the next one the end of the stream. -/
theorem exact_two_reads :
    ([.read 0 (.string 4) false 0 0, .onInStreamRead 2 [104, 105], .stream .resumeNext,
      .read 1 (.span [0, 0]) true 0 0, .onInStreamRead UV_EOF [], .stream .resumeNext].foldl
        Action.perform ({} : Transfer)).Exact := by
  have start : system.Reachable {} := .start rfl
  have reads := start.step (Action.read 0 (.string 4) false 0 0) ⟨rfl, rfl, rfl⟩ trivial
  have called := reads.step (Action.onInStreamRead 2 [104, 105])
    ⟨rfl, rfl, by rintro reading ⟨⟩; decide⟩ trivial
  have resumed := called.step (Action.stream .resumeNext) ⟨trivial, trivial⟩ trivial
  have again := resumed.step (Action.read 1 (.span [0, 0]) true 0 0) ⟨rfl, rfl, rfl⟩ trivial
  have ended := again.step (Action.onInStreamRead UV_EOF [])
    ⟨rfl, rfl, by rintro reading ⟨⟩; decide⟩ trivial
  have finished := ended.step (Action.stream .resumeNext) ⟨trivial, trivial⟩ trivial
  exact (exact_iff_orderly finished).mpr ⟨by decide, by decide, rfl⟩

/-- libuv calls back without data, and `read()` returns `nullopt`. -/
theorem would_block_ends_read : ¬∀ transfer, system.Reachable transfer → transfer.Exact := by
  intro always
  have start : system.Reachable {} := .start rfl
  have reads := start.step (Action.read 0 (.string 4) false 0 0) ⟨rfl, rfl, rfl⟩ trivial
  have called := reads.step (Action.onInStreamRead 0 [])
    ⟨rfl, rfl, by rintro reading ⟨⟩; decide⟩ trivial
  have resumed := called.step (Action.stream .resumeNext) ⟨trivial, trivial⟩ trivial
  have not_end := (always _ resumed).would_block _ _ .nullopt (List.mem_singleton_self _) rfl rfl
  exact absurd not_end (by decide)

end Transfer

end Uvco.Stream
