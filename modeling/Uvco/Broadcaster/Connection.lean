import Uvco.Broadcaster.Hub

/-!
# One connection of the broadcasting server

What holds of a connection between two steps of the server, after these messages were
broadcast and while the broadcasts with these numbers are suspended; and that everything
that happens to a connection preserves it.
-/

namespace Uvco.Broadcaster.Connection

open Uvco.Stream

variable {connection : Connection} {messages : List (List Byte)} {numbers : List ℕ}

/-! ## What is written -/

/-- The messages of a connection are those of its subscription, if `uv_write` accepts them. -/
structure Sound (connection : Connection) (messages : List (List Byte)) : Prop where
  within : connection.subscription.Within messages
  due : connection.accepted.Sublist (connection.subscription.entries messages)
  count : connection.accepted.length + connection.refused =
    (connection.subscription.entries messages).length
  contents_eq : connection.outbox.contents = connection.accepted
  is_open : connection.subscription.left = none → connection.isOpen = true
  asserted : connection.asserted = true

namespace Sound

theorem start (peer : List Byte) (messages : List (List Byte)) :
    ({ peer, subscription := .start messages } : Connection).Sound messages where
  within := Subscription.start_within messages
  due := List.nil_sublist _
  count := by
    rw [Subscription.entries_start]
    rfl
  contents_eq := rfl
  is_open _ := rfl
  asserted := rfl

/-- A message is broadcast to a client. -/
theorem write (sound : connection.Sound messages) (current : connection.subscription.left = none)
    (number : ℕ) (message : List Byte) (status : Int) :
    (connection.write number message status).Sound (messages ++ [message]) := by
  have is_open := sound.is_open current
  have asserted : (connection.asserted && connection.isOpen) = true := by
    rw [sound.asserted, is_open]
    rfl
  have entries_eq := Subscription.entries_append sound.within current [message]
  have count := sound.count
  unfold Connection.write
  by_cases refused : status < 0
  · simp only [if_pos refused]
    refine ⟨sound.within.append [message], ?_, ?_, sound.contents_eq, fun _ => is_open, asserted⟩
    · rw [entries_eq]
      exact sound.due.trans (List.sublist_append_left _ _)
    · simp only [entries_eq, List.length_append, List.length_singleton]
      omega
  · simp only [if_neg refused]
    refine ⟨sound.within.append [message], ?_, ?_, ?_, fun _ => is_open, asserted⟩
    · rw [entries_eq]
      exact sound.due.append (List.Sublist.refl _)
    · simp only [entries_eq, List.length_append, List.length_singleton]
      omega
    · rw [Outbox.contents_submit, sound.contents_eq]

/-- A message is broadcast after a connection has left the clients. -/
theorem append (sound : connection.Sound messages) (left : connection.subscription.left ≠ none)
    (message : List Byte) : connection.Sound (messages ++ [message]) := by
  rcases Option.ne_none_iff_exists'.mp left with ⟨moment, left⟩
  have entries_eq := Subscription.entries_append_of_left sound.within left [message]
  refine ⟨sound.within.append [message], ?_, ?_, sound.contents_eq, sound.is_open, sound.asserted⟩
  · rw [entries_eq]
    exact sound.due
  · rw [entries_eq]
    exact sound.count

theorem dropWrite (sound : connection.Sound messages) (number : ℕ) :
    (connection.dropWrite number).Sound messages := by
  unfold Connection.dropWrite
  split
  · exact ⟨sound.within, sound.due, sound.count, sound.contents_eq, sound.is_open, sound.asserted⟩
  · exact sound

theorem leave (sound : connection.Sound messages) : (connection.leave messages).Sound messages where
  within := sound.within.leave
  due := sound.due
  count := sound.count
  contents_eq := sound.contents_eq
  is_open := nofun
  asserted := sound.asserted

theorem close (sound : connection.Sound messages) (left : connection.subscription.left ≠ none) :
    connection.close.Sound messages where
  within := sound.within
  due := sound.due
  count := sound.count
  contents_eq := (Outbox.contents_failAll writeCanceled).trans sound.contents_eq
  is_open current := absurd current left
  asserted := sound.asserted

/-- `handleConnection` goes on or ends, or the memory of the stream is freed. -/
theorem unwritten (sound : connection.Sound messages) (handling freed abandoned : Bool)
    (result : Option ReadResult) :
    ({ connection with handling, freed, abandoned, result } : Connection).Sound messages :=
  ⟨sound.within, sound.due, sound.count, sound.contents_eq, sound.is_open, sound.asserted⟩

/-- libuv goes on with the requests. -/
theorem sends (sound : connection.Sound messages) {outbox : WriteQueue}
    (contents_eq : outbox.contents = connection.outbox.contents) :
    ({ connection with outbox } : Connection).Sound messages :=
  ⟨sound.within, sound.due, sound.count, contents_eq.trans sound.contents_eq, sound.is_open,
    sound.asserted⟩

end Sound

/-! ## Which calls of `write()` are suspended -/

/-- The calls of `write()` that are suspended on a stream belong to suspended broadcasts. A stream
is destroyed with its last owner; those that are still suspended then will use it. -/
structure Kept (connection : Connection) (numbers : List ℕ) : Prop where
  on_stack : ∀ number ∈ connection.suspended, number ∈ numbers
  reads : connection.result.isSome = true → connection.handling = true
  unowned : connection.freed = true →
    connection.handling = false ∧ connection.subscription.left ≠ none
  freed_of_abandoned : connection.abandoned = true → connection.freed = true
  abandoned_of_fault : connection.fault = true → connection.abandoned = true
  abandoned_of_freed : connection.freed = true → connection.suspended ≠ [] →
    connection.abandoned = true
  faulty : connection.abandoned = true → connection.fault = true ∨ connection.suspended ≠ []

namespace Kept

theorem start (peer : List Byte) (messages : List (List Byte)) (numbers : List ℕ) :
    ({ peer, subscription := .start messages } : Connection).Kept numbers :=
  ⟨nofun, nofun, nofun, nofun, nofun, nofun, nofun⟩

theorem not_freed (kept : connection.Kept numbers)
    (owned : connection.handling = true ∨ connection.subscription.left = none) :
    connection.freed = false := by
  by_contra freed
  rcases kept.unowned (by simpa using freed) with ⟨unhandled, left⟩
  rcases owned with handled | current
  · exact Bool.false_ne_true (unhandled.symm.trans handled)
  · exact left current

theorem not_abandoned (kept : connection.Kept numbers) (not_freed : connection.freed = false) :
    connection.abandoned = false := by
  by_contra abandoned
  have freed := kept.freed_of_abandoned (by simpa using abandoned)
  exact Bool.false_ne_true (not_freed.symm.trans freed)

/-- A stream that was not destroyed cannot have been used too late. -/
theorem of_not_freed (not_freed : connection.freed = false)
    (not_abandoned : connection.abandoned = false) (no_fault : connection.fault = false)
    (on_stack : ∀ number ∈ connection.suspended, number ∈ numbers)
    (reads : connection.result.isSome = true → connection.handling = true) :
    connection.Kept numbers where
  on_stack := on_stack
  reads := reads
  unowned freed := absurd (not_freed.symm.trans freed) Bool.false_ne_true
  freed_of_abandoned abandoned := absurd (not_abandoned.symm.trans abandoned) Bool.false_ne_true
  abandoned_of_fault fault := absurd (no_fault.symm.trans fault) Bool.false_ne_true
  abandoned_of_freed freed := absurd (not_freed.symm.trans freed) Bool.false_ne_true
  faulty abandoned := absurd (not_abandoned.symm.trans abandoned) Bool.false_ne_true

theorem no_fault (kept : connection.Kept numbers) (not_freed : connection.freed = false) :
    connection.fault = false := by
  by_contra fault
  have abandoned := kept.abandoned_of_fault (by simpa using fault)
  exact Bool.false_ne_true ((kept.not_abandoned not_freed).symm.trans abandoned)

/-- More broadcasts are suspended. -/
theorem mono (kept : connection.Kept numbers) {more : List ℕ}
    (included : ∀ number ∈ numbers, number ∈ more) : connection.Kept more :=
  { kept with on_stack := fun number mem => included number (kept.on_stack number mem) }

theorem write (kept : connection.Kept numbers) (current : connection.subscription.left = none)
    (number : ℕ) (message : List Byte) (status : Int) :
    (connection.write number message status).Kept (number :: numbers) := by
  have not_freed := kept.not_freed (.inr current)
  have not_abandoned := kept.not_abandoned not_freed
  have no_fault := kept.no_fault not_freed
  unfold Connection.write
  split
  · refine of_not_freed not_freed not_abandoned no_fault (fun other mem => ?_) kept.reads
    exact List.mem_cons_of_mem _ (kept.on_stack other mem)
  · refine of_not_freed not_freed not_abandoned no_fault (fun other mem => ?_) kept.reads
    rcases List.mem_append.mp mem with earlier | latest
    · exact List.mem_cons_of_mem _ (kept.on_stack other earlier)
    · exact List.mem_cons.mpr (.inl (List.mem_singleton.mp latest))

/-- The broadcast with this number is not suspended any more, or has no `write()` left. -/
theorem dropWrite (kept : connection.Kept numbers) {number : ℕ} {others : List ℕ}
    (rest : ∀ other ∈ numbers, other ≠ number → other ∈ others) :
    (connection.dropWrite number).Kept others := by
  unfold Connection.dropWrite
  split
  · rename_i suspended
    have has_suspended : connection.suspended ≠ [] := List.ne_nil_of_mem suspended
    refine ⟨fun other mem => ?_, kept.reads, kept.unowned, kept.freed_of_abandoned, fun fault => ?_,
      fun freed _ => kept.abandoned_of_freed freed has_suspended, fun abandoned => .inl ?_⟩
    · rcases List.mem_filter.mp mem with ⟨earlier, differs⟩
      exact rest other (kept.on_stack other earlier) (by simpa using differs)
    · rcases Bool.or_eq_true_iff.mp fault with earlier | freed
      · exact kept.abandoned_of_fault earlier
      · exact kept.abandoned_of_freed freed has_suspended
    · rw [Bool.or_eq_true_iff]
      exact .inr (kept.freed_of_abandoned abandoned)
  · rename_i not_suspended
    refine { kept with on_stack := fun other mem => ?_ }
    exact rest other (kept.on_stack other mem) fun same => not_suspended (same ▸ mem)

theorem leave (kept : connection.Kept numbers) (messages : List (List Byte)) :
    (connection.leave messages).Kept numbers :=
  { kept with unowned := fun freed => ⟨(kept.unowned freed).1, nofun⟩ }

theorem unhandle (kept : connection.Kept numbers) : connection.unhandle.Kept numbers :=
  { kept with
    reads := nofun
    unowned := fun freed => ⟨rfl, (kept.unowned freed).2⟩ }

theorem close (kept : connection.Kept numbers) (not_freed : connection.freed = false) :
    connection.close.Kept numbers := by
  refine of_not_freed not_freed (kept.not_abandoned not_freed) (kept.no_fault not_freed) ?_
    kept.reads
  exact fun number mem => kept.on_stack number (List.mem_filter.mp mem).1

/-- The last owner is gone. -/
theorem free (kept : connection.Kept numbers) (not_freed : connection.freed = false)
    (unhandled : connection.handling = false) (left : connection.subscription.left ≠ none) :
    connection.free.Kept numbers where
  on_stack := kept.on_stack
  reads := kept.reads
  unowned _ := ⟨unhandled, left⟩
  freed_of_abandoned _ := rfl
  abandoned_of_fault fault := absurd ((kept.no_fault not_freed).symm.trans fault)
    Bool.false_ne_true
  abandoned_of_freed _ suspended := by
    have not_empty : connection.suspended ≠ [] := suspended
    simp [Connection.free, not_empty]
  faulty abandoned := by
    right
    simpa [Connection.free, kept.not_abandoned not_freed] using abandoned

/-- A `read()` has ended, or `handleConnection` goes on with its result. -/
theorem reading (kept : connection.Kept numbers) (result : Option ReadResult)
    (handled : result.isSome = true → connection.handling = true) :
    ({ connection with result } : Connection).Kept numbers :=
  { kept with reads := handled }

theorem sends (kept : connection.Kept numbers) (outbox : WriteQueue) :
    ({ connection with outbox } : Connection).Kept numbers :=
  { kept with }

theorem nothing_suspended (kept : connection.Kept []) : connection.suspended = [] :=
  List.eq_nil_iff_forall_not_mem.mpr fun number mem =>
    List.not_mem_nil (kept.on_stack number mem)

/-- While no broadcast is suspended, whatever was suspended on a stream has used it. -/
theorem fault_iff (kept : connection.Kept []) :
    connection.fault = true ↔ connection.abandoned = true := by
  constructor
  · exact kept.abandoned_of_fault
  · intro abandoned
    exact (kept.faulty abandoned).resolve_right (absurd kept.nothing_suspended)

/-- `server()` ends while no broadcast is suspended. -/
theorem stop (kept : connection.Kept []) (messages : List (List Byte)) :
    (connection.leave messages).unhandle.close.free.Kept numbers := by
  have suspended_eq : (connection.leave messages).unhandle.close.free.suspended = [] := by
    change connection.suspended.filter (some · ≠ connection.writer) = []
    rw [kept.nothing_suspended, List.filter_nil]
  have abandoned_eq : (connection.leave messages).unhandle.close.free.abandoned =
      connection.abandoned := by
    change (connection.abandoned || !(List.filter _ connection.suspended).isEmpty) = _
    rw [kept.nothing_suspended, List.filter_nil, List.isEmpty_nil, Bool.not_true, Bool.or_false]
  refine ⟨fun number mem => ?_, nofun, fun _ => ⟨rfl, nofun⟩, fun _ => rfl, fun fault => ?_,
    fun _ suspended => absurd suspended_eq suspended, fun abandoned => .inl ?_⟩
  · rw [suspended_eq] at mem
    exact absurd mem List.not_mem_nil
  · rw [abandoned_eq]
    exact kept.abandoned_of_fault fault
  · rw [abandoned_eq] at abandoned
    exact kept.fault_iff.mpr abandoned

end Kept

/-- `close()` resumes all that is suspended, and then the stream can be destroyed. -/
theorem OnlyWriter.close (only : connection.OnlyWriter) : connection.close.suspended = [] := by
  apply List.filter_eq_nil_iff.mpr
  intro number mem
  simp [only number mem]

theorem OnlyWriter.abandoned (only : connection.OnlyWriter) :
    connection.close.free.abandoned = connection.abandoned := by
  change (connection.abandoned || !connection.close.suspended.isEmpty) = _
  rw [only.close, List.isEmpty_nil, Bool.not_true, Bool.or_false]

end Uvco.Broadcaster.Connection
