import Uvco.Broadcaster.Clients

/-!
# What the clients get

Every client gets the messages that were broadcast while it was in `clients_`, in the one
order in which they were broadcast. Their streams are not destroyed too early, unless a
connection ends while more than one `write()` is suspended on its stream.
-/

namespace Uvco.Broadcaster

open Uvco.Stream

/-! ## What becomes of a connection -/

/-- The connection neither ends, nor becomes or ceases to be a client. -/
structure Connection.GoesOn (before after : Connection) : Prop where
  handling_eq : after.handling = before.handling
  subscription_eq : after.subscription = before.subscription
  abandoned_eq : after.abandoned = before.abandoned

namespace Connection.GoesOn

variable {connection between after : Connection}

theorem refl (connection : Connection) : connection.GoesOn connection := ⟨rfl, rfl, rfl⟩

theorem trans (first : connection.GoesOn between) (second : between.GoesOn after) :
    connection.GoesOn after :=
  ⟨second.handling_eq.trans first.handling_eq, second.subscription_eq.trans first.subscription_eq,
    second.abandoned_eq.trans first.abandoned_eq⟩

theorem write (connection : Connection) (number : ℕ) (message : List Byte) (status : Int) :
    connection.GoesOn (connection.write number message status) := by
  unfold Connection.write
  split <;> exact ⟨rfl, rfl, rfl⟩

theorem dropWrite (connection : Connection) (number : ℕ) :
    connection.GoesOn (connection.dropWrite number) := by
  unfold Connection.dropWrite
  split <;> exact ⟨rfl, rfl, rfl⟩

end Connection.GoesOn

/-- No `handleConnection` begins or ends. -/
def Action.Steady : Action → Prop
  | .accept _ | .finish _ | .fail _ | .stop => False
  | .onRead .. | .receive .. | .leave | .abort _ | .transmit .. | .deliver _ | .failRequest .. =>
      True

namespace Hub

variable {hub : Hub} {index other : ℕ} {connection before : Connection}

theorem modify_goes_on {change : Connection → Connection}
    (found : (hub.modify index change).connections[other]? = some connection)
    (same : ∀ connection : Connection, connection.GoesOn (change connection)) :
    ∃ before, hub.connections[other]? = some before ∧ before.GoesOn connection := by
  rcases modify_cases found with ⟨rfl, before, earlier, rfl⟩ | ⟨-, earlier⟩
  · exact ⟨before, earlier, same before⟩
  · exact ⟨connection, earlier, .refl connection⟩

theorem dropWrites_goes_on {number : ℕ}
    (found : (hub.dropWrites number).connections[index]? = some connection) :
    ∃ before, hub.connections[index]? = some before ∧ before.GoesOn connection := by
  rcases dropWrites_cases found with ⟨before, earlier, rfl⟩
  exact ⟨before, earlier, .dropWrite before number⟩

namespace Invariant

theorem broadcast_goes_on (invariant : hub.Invariant) {sender : ℕ} {message : List Byte}
    {statuses : ℕ → Int} {first : ℕ}
    (found : (hub.broadcast sender message statuses first).connections[index]? =
      some connection) :
    ∃ before, hub.connections[index]? = some before ∧ before.GoesOn connection := by
  have written : ∀ after, (hub.write message statuses).connections[index]? = some after →
      ∃ before, hub.connections[index]? = some before ∧ before.GoesOn after := by
    intro after after_found
    rcases invariant.write_cases after_found with ⟨before, earlier, ⟨-, rfl⟩ | ⟨-, rfl⟩⟩
    · exact ⟨before, earlier, .write before _ _ _⟩
    · exact ⟨after, earlier, .refl after⟩
  unfold Hub.broadcast at found
  split at found
  · exact written connection found
  · rcases dropWrites_goes_on found with ⟨after, after_found, dropped⟩
    rcases written after after_found with ⟨before, earlier, same⟩
    exact ⟨before, earlier, same.trans dropped⟩

theorem goes_on (invariant : hub.Invariant) {action : Action} (enabled : action.Enabled hub)
    (steady : action.Steady)
    (found : (action.perform hub).connections[other]? = some connection) :
    ∃ before, hub.connections[other]? = some before ∧ before.GoesOn connection := by
  cases action with
  | accept _ => exact steady.elim
  | finish _ => exact steady.elim
  | fail _ => exact steady.elim
  | stop => exact steady.elim
  | onRead index result => exact modify_goes_on found fun _ => ⟨rfl, rfl, rfl⟩
  | transmit index count => exact modify_goes_on found fun _ => ⟨rfl, rfl, rfl⟩
  | deliver index => exact modify_goes_on found fun _ => ⟨rfl, rfl, rfl⟩
  | failRequest index error => exact modify_goes_on found fun _ => ⟨rfl, rfl, rfl⟩
  | receive index statuses first =>
      rcases enabled.1 with ⟨reader, reader_found, what, result_eq⟩
      rw [Action.perform_receive reader_found result_eq] at found
      have resumed := invariant.modify ({ · with result := none }) reader_found rfl rfl
        ((invariant.sound index reader reader_found).unwritten _ _ _ _)
        ((invariant.kept index reader reader_found).reading none nofun)
      rcases resumed.broadcast_goes_on found with ⟨between, between_found, second⟩
      rcases modify_goes_on between_found fun _ => ⟨rfl, rfl, rfl⟩ with ⟨before, earlier, first⟩
      exact ⟨before, earlier, first.trans second⟩
  | leave =>
      change hub.leave.connections[other]? = some connection at found
      unfold Hub.leave at found
      split at found
      · exact dropWrites_goes_on found
      · exact ⟨connection, found, .refl connection⟩
  | abort number =>
      rcases dropWrites_cases found with ⟨before, earlier, rfl⟩
      exact ⟨before, earlier, .dropWrite before number⟩

end Invariant

/-- A new connection is accepted, and another one with this peer may be replaced. -/
theorem accept_cases {peer : List Byte}
    (found : (hub.accept peer).connections[other]? = some connection) :
    (hub.erase peer).connections[other]? = some connection ∨
      connection = { peer, subscription := .start hub.messages } :=
  (append_cases found).imp_right And.right

/-- The `handleConnection` of one connection ends. -/
theorem fail_cases (found : (hub.fail index).connections[other]? = some connection) :
    (other = index ∧ ∃ before, hub.connections[index]? = some before ∧
        (connection = before.unhandle ∨ connection = before.unhandle.close.free)) ∨
      other ≠ index ∧ hub.connections[other]? = some connection := by
  rcases release_cases found with unhandled | ⟨rfl, unhandled, unhandled_found, -, -, rfl⟩
  · rcases modify_cases unhandled with ⟨same, before, earlier, rfl⟩ | differs
    · exact .inl ⟨same, before, earlier, .inl rfl⟩
    · exact .inr differs
  · rcases modify_cases unhandled_found with ⟨-, before, earlier, rfl⟩ | ⟨differs, -⟩
    · exact .inl ⟨rfl, before, earlier, .inr rfl⟩
    · exact absurd rfl differs

/-- It has found the end of the stream, and closes it. -/
theorem finish_cases {peer : List Byte}
    (found : (hub.finish index peer).connections[other]? = some connection) :
    (other = index ∧ ∃ after, (hub.erase peer).connections[index]? = some after ∧
        (connection = after.close.unhandle ∨ connection = after.close.unhandle.close.free)) ∨
      other ≠ index ∧ (hub.erase peer).connections[other]? = some connection := by
  rcases fail_cases found with ⟨rfl, closed, closed_found, ended⟩ | ⟨differs, closed_found⟩
  · rcases close_cases closed_found with ⟨-, after, after_found, rfl⟩ | ⟨differs, -⟩
    · exact .inl ⟨rfl, after, after_found, ended⟩
    · exact absurd rfl differs
  · rcases close_cases closed_found with ⟨same, -⟩ | ⟨-, after_found⟩
    · exact absurd same differs
    · exact .inr ⟨differs, after_found⟩

/-! ## Who is a client -/

/-- Whoever is connected is a client. -/
def Listed (hub : Hub) : Prop :=
  ∀ (index : ℕ) connection, hub.connections[index]? = some connection →
    connection.handling = true → connection.subscription.left = none

namespace Listed

theorem accept (listed : hub.Listed) (invariant : hub.Invariant) {peer : List Byte}
    (careful : DistinctPeers hub (.accept peer)) : (hub.accept peer).Listed := by
  intro other connection found handles
  rcases accept_cases found with erased | rfl
  · cases invariant.erased erased with
    | other earlier _ => exact listed other connection earlier handles
    | client before earlier peer_eq _ left =>
        have unhandled : before.handling = false := by
          by_contra handled
          exact careful before (List.mem_of_getElem? earlier) (by simpa using handled) peer_eq
        have same : connection.handling = before.handling := by
          rcases left with rfl | ⟨-, rfl⟩ <;> rfl
        exact absurd (unhandled.symm.trans (same.symm.trans handles)) Bool.false_ne_true
  · rfl

theorem finish (listed : hub.Listed) (invariant : hub.Invariant)
    (found : hub.connections[index]? = some connection) (handles : connection.handling = true) :
    (hub.finish index connection.peer).Listed := by
  have current := listed index connection found handles
  intro other after after_found other_handles
  rcases finish_cases after_found with ⟨-, ended, -, rfl | rfl⟩ | ⟨differs, erased⟩
  · exact absurd other_handles Bool.false_ne_true
  · exact absurd other_handles Bool.false_ne_true
  · cases invariant.erased erased with
    | other earlier _ => exact listed other after earlier other_handles
    | client before earlier peer_eq is_client _ =>
        -- The entry with this key is that of the connection itself.
        rcases isClient_iff.mp ((invariant.member index connection found).mp current) with
          ⟨own, own_mem, rfl⟩
        rcases isClient_iff.mp is_client with ⟨entry, entry_mem, rfl⟩
        have own_key := invariant.entry_peer own_mem found
        have same_key : entry.1 = own.1 :=
          (invariant.entry_peer entry_mem earlier).symm.trans (peer_eq.trans own_key)
        rw [List.inj_on_of_nodup_map invariant.keys entry_mem own_mem same_key] at differs
        exact absurd rfl differs

theorem step (listed : hub.Listed) (invariant : hub.Invariant) {action : Action}
    (enabled : action.Enabled hub) (careful : DistinctPeers hub action) :
    (action.perform hub).Listed := by
  have steadily (steady : action.Steady) : (action.perform hub).Listed := by
    intro other after found handles
    rcases invariant.goes_on enabled steady found with ⟨before, earlier, same⟩
    rw [same.handling_eq] at handles
    rw [same.subscription_eq]
    exact listed other before earlier handles
  cases action with
  | accept peer => exact listed.accept invariant careful
  | finish index =>
      rcases enabled with ⟨connection, found, result_eq⟩
      rw [Action.perform_finish found]
      exact listed.finish invariant found (invariant.handles found result_eq)
  | fail index =>
      intro other after found handles
      rcases fail_cases found with ⟨-, before, -, rfl | rfl⟩ | ⟨-, earlier⟩
      · exact absurd handles Bool.false_ne_true
      · exact absurd handles Bool.false_ne_true
      · exact listed other after earlier handles
  | stop =>
      intro other after found handles
      rcases stop_cases found with ⟨before, -, rfl⟩
      exact absurd handles Bool.false_ne_true
  | _ => exact steadily trivial

end Listed

theorem listed_of_reachableVia (reached : system.ReachableVia DistinctPeers hub) : hub.Listed := by
  apply reached.invariant_of_reachable Listed
  · rintro hub rfl index connection found
    cases found
  · intro hub action reached listed enabled careful
    exact listed.step (invariant_of_reachable reached) enabled careful

/-! ## Streams that are not destroyed too early -/

/-- No stream was destroyed before a `write()` that was suspended on it. -/
def Unabandoned (hub : Hub) : Prop :=
  ∀ (index : ℕ) connection, hub.connections[index]? = some connection →
    connection.abandoned = false

/-- An entry with this key is erased, and perhaps a stream is destroyed. -/
theorem Unabandoned.erase (unabandoned : hub.Unabandoned) (invariant : hub.Invariant)
    {peer : List Byte}
    (unwritten : ∀ connection ∈ hub.connections, connection.peer = peer → connection.OnlyWriter) :
    (hub.erase peer).Unabandoned := by
  intro index connection found
  cases invariant.erased found with
  | other earlier _ => exact unabandoned index connection earlier
  | client before earlier peer_eq _ left =>
      have before_abandoned := unabandoned index before earlier
      have only := unwritten before (List.mem_of_getElem? earlier) peer_eq
      rcases left with rfl | ⟨-, rfl⟩
      · exact before_abandoned
      · have only_left : (before.leave hub.messages).OnlyWriter := only
        exact only_left.abandoned.trans before_abandoned

namespace Unabandoned

theorem accept (unabandoned : hub.Unabandoned) (invariant : hub.Invariant) {peer : List Byte}
    (unwritten : EndsUnwritten hub (.accept peer)) : (hub.accept peer).Unabandoned := by
  intro index connection found
  rcases accept_cases found with erased | rfl
  · exact unabandoned.erase invariant unwritten index connection erased
  · rfl

theorem finish (unabandoned : hub.Unabandoned) (invariant : hub.Invariant)
    (found : hub.connections[index]? = some connection) (handles : connection.handling = true)
    (unwritten : EndsUnwritten hub (.finish index)) :
    (hub.finish index connection.peer).Unabandoned := by
  have erased := unabandoned.erase invariant (unwritten connection found)
  intro other after after_found
  rcases finish_cases after_found with ⟨-, ended, ended_found, origin⟩ | ⟨-, earlier⟩
  · have ended_abandoned := erased index ended ended_found
    have only_writer : ended.OnlyWriter := by
      have only := unwritten connection found connection (List.mem_of_getElem? found) rfl
      rcases invariant.after_erase found handles with ⟨known, known_found, same | same, -⟩
      · obtain rfl := Option.some.inj (ended_found.symm.trans known_found)
        exact same ▸ only
      · obtain rfl := Option.some.inj (ended_found.symm.trans known_found)
        rw [same]
        exact only
    rcases origin with rfl | rfl
    · exact ended_abandoned
    · -- Nothing is suspended after the first of the two calls of `close()`.
      have nothing : ended.close.unhandle.OnlyWriter := by
        intro number mem
        rw [show ended.close.unhandle.suspended = [] from only_writer.close] at mem
        exact absurd mem List.not_mem_nil
      exact nothing.abandoned.trans ended_abandoned
  · exact erased other after earlier

theorem fail (unabandoned : hub.Unabandoned) (unwritten : EndsUnwritten hub (.fail index)) :
    (hub.fail index).Unabandoned := by
  intro other after after_found
  rcases fail_cases after_found with ⟨-, before, before_found, origin⟩ | ⟨-, earlier⟩
  · have before_abandoned := unabandoned index before before_found
    rcases origin with rfl | rfl
    · exact before_abandoned
    · have only : before.unhandle.OnlyWriter := unwritten before before_found
      exact only.abandoned.trans before_abandoned
  · exact unabandoned other after earlier

theorem stop (unabandoned : hub.Unabandoned) (invariant : hub.Invariant)
    (nothing_suspended : hub.stack = []) : hub.stop.Unabandoned := by
  intro index connection found
  rcases stop_cases found with ⟨before, earlier, rfl⟩
  have kept := invariant.kept index before earlier
  rw [numbers, nothing_suspended] at kept
  have only : (before.leave hub.messages).unhandle.OnlyWriter := by
    intro number mem
    exact absurd (kept.on_stack number mem) List.not_mem_nil
  exact only.abandoned.trans (unabandoned index before earlier)

theorem step (unabandoned : hub.Unabandoned) (invariant : hub.Invariant) {action : Action}
    (enabled : action.Enabled hub) (unwritten : EndsUnwritten hub action) :
    (action.perform hub).Unabandoned := by
  have steadily (steady : action.Steady) : (action.perform hub).Unabandoned := by
    intro other after found
    rcases invariant.goes_on enabled steady found with ⟨before, earlier, same⟩
    exact same.abandoned_eq.trans (unabandoned other before earlier)
  cases action with
  | accept peer => exact unabandoned.accept invariant unwritten
  | finish index =>
      rcases enabled with ⟨connection, found, result_eq⟩
      rw [Action.perform_finish found]
      exact unabandoned.finish invariant found (invariant.handles found result_eq) unwritten
  | fail index => exact unabandoned.fail unwritten
  | stop => exact unabandoned.stop invariant enabled.2
  | _ => exact steadily trivial

end Unabandoned

theorem unabandoned_of_reachableVia (reached : system.ReachableVia EndsUnwritten hub) :
    hub.Unabandoned := by
  apply reached.invariant_of_reachable Unabandoned
  · rintro hub rfl index connection found
    cases found
  · intro hub action reached unabandoned enabled unwritten
    exact unabandoned.step (invariant_of_reachable reached) enabled unwritten

/-! ## The order of the messages -/

/-- What one client has got, of the messages that were broadcast while it was there. -/
structure Delivers (hub : Hub) (connection : Connection) : Prop where
  /-- No message comes twice, or in another order. -/
  in_order : connection.accepted.Sublist (connection.subscription.entries hub.messages)
  /-- If every `write()` was accepted, none is missing. -/
  complete : connection.refused = 0 →
    connection.accepted = connection.subscription.entries hub.messages
  /-- The beginning of each message was sent, in this order. -/
  sent : ∃ pieces, connection.outbox.transmitted = pieces.flatten ∧
    List.Forall₂ (· <+: ·) pieces connection.accepted
  /-- As long as no request fails, nothing is left out. -/
  gapless : connection.refused = 0 →
    (∀ parcel ∈ connection.outbox.settled, parcel.fate = .delivered) →
      connection.outbox.transmitted <+:
        (connection.subscription.entries hub.messages).flatten ∧
      (connection.outbox.waiting = [] → connection.outbox.transmitted =
        (connection.subscription.entries hub.messages).flatten)
  asserted : connection.asserted = true

/-- How long the stream of a connection exists. -/
structure Lives (hub : Hub) (connection : Connection) : Prop where
  owned : connection.handling = true ∨ connection.subscription.left = none →
    connection.freed = false
  /-- Only a `write()` whose broadcast has not returned is suspended. -/
  suspended : ∀ number ∈ connection.suspended, number ∈ hub.numbers
  /-- It uses the stream after it was destroyed only if it was suspended on it then, -/
  abandoned : connection.fault = true → connection.abandoned = true
  /-- and does so in the end. -/
  fault_iff : hub.stack = [] → (connection.fault = true ↔ connection.abandoned = true)

/-- All clients get the messages in one order. -/
structure TotalOrder (hub : Hub) : Prop where
  /-- The messages of a client are those between its coming into `clients_` and its leaving. -/
  current : ∀ (index : ℕ) connection, hub.connections[index]? = some connection →
    (connection.subscription.left = none ↔ hub.isClient index = true)
  delivers : ∀ (index : ℕ) connection, hub.connections[index]? = some connection →
    hub.Delivers connection
  /-- Since both have been there, two clients have got the same messages, unless one has left. -/
  agree : ∀ (index other : ℕ) earlier later, hub.connections[index]? = some earlier →
    hub.connections[other]? = some later → earlier.refused = 0 → later.refused = 0 →
      earlier.subscription.entered ≤ later.subscription.entered →
        let rest := earlier.accepted.drop
          (later.subscription.entered - earlier.subscription.entered)
        rest <+: later.accepted ∨ later.accepted <+: rest
  lives : ∀ (index : ℕ) connection, hub.connections[index]? = some connection →
    hub.Lives connection

namespace Invariant

theorem delivers (invariant : hub.Invariant)
    (found : hub.connections[index]? = some connection) : hub.Delivers connection := by
  have sound := invariant.sound index connection found
  have complete : connection.refused = 0 →
      connection.accepted = connection.subscription.entries hub.messages := by
    intro none_refused
    have count := sound.count
    rw [none_refused, Nat.add_zero] at count
    exact sound.due.eq_of_length count
  refine ⟨sound.due, complete, ⟨_, connection.outbox.transmitted_pieces, ?_⟩,
    fun none_refused delivered => ?_, sound.asserted⟩
  · rw [← sound.contents_eq, Outbox.contents, List.forall₂_map_left_iff,
      List.forall₂_map_right_iff]
    exact List.forall₂_same.mpr fun parcel _ => List.take_prefix _ _
  · have whole := connection.outbox.transmitted_rest delivered
    rw [sound.contents_eq, complete none_refused] at whole
    refine ⟨⟨_, whole⟩, fun nothing_waits => ?_⟩
    rw [← whole, Outbox.unsettled, nothing_waits]
    simp

theorem lives (invariant : hub.Invariant) (found : hub.connections[index]? = some connection) :
    hub.Lives connection := by
  have kept := invariant.kept index connection found
  refine ⟨kept.not_freed, kept.on_stack, kept.abandoned_of_fault, fun nothing_suspended => ?_⟩
  rw [numbers, nothing_suspended] at kept
  exact kept.fault_iff

theorem totalOrder (invariant : hub.Invariant) : hub.TotalOrder := by
  refine ⟨invariant.member, fun index connection found => invariant.delivers found, ?_,
    fun index connection found => invariant.lives found⟩
  intro index other earlier later found other_found none_refused others_accepted entered
  rw [(invariant.delivers found).complete none_refused,
    (invariant.delivers other_found).complete others_accepted]
  exact Subscription.entries_agree entered

end Invariant

/-- Two clients broadcast in one turn of the loop, and the connection of a third one ends before
their calls of `broadcast()` have returned. -/
theorem used_too_late :
    ∃ hub, system.Reachable hub ∧ ∃ connection ∈ hub.connections, connection.fault = true := by
  have start : system.Reachable {} := .start rfl
  have accepted := ((start.step (Action.accept [97]) rfl trivial).step
    (Action.accept [98]) rfl trivial).step (Action.accept [99]) rfl trivial
  have first_reads := accepted.step (Action.onRead 0 (.chunk [120]))
    ⟨⟨_, rfl, rfl, rfl⟩, fun _ mem => absurd mem List.not_mem_nil, fun _ => rfl⟩ trivial
  have second_reads := first_reads.step (Action.onRead 1 (.chunk [121]))
    ⟨⟨_, rfl, rfl, rfl⟩, fun _ mem => absurd mem List.not_mem_nil, fun _ => rfl⟩ trivial
  have third_ends := second_reads.step (Action.onRead 2 .ended)
    ⟨⟨_, rfl, rfl, rfl⟩, fun _ mem => absurd mem List.not_mem_nil, fun _ => rfl⟩ trivial
  have first_broadcasts := third_ends.step (Action.receive 0 (fun _ => 0) 0)
    ⟨⟨_, rfl, _, rfl⟩, fun _ => rfl⟩ trivial
  have second_broadcasts := first_broadcasts.step (Action.receive 1 (fun _ => 0) 0)
    ⟨⟨_, rfl, _, rfl⟩, fun _ => rfl⟩ trivial
  have destroyed := second_broadcasts.step (Action.finish 2) ⟨_, rfl, rfl⟩ trivial
  have first_left := destroyed.step Action.leave (List.cons_ne_nil _ _) trivial
  have second_left := first_left.step Action.leave (List.cons_ne_nil _ _) trivial
  exact ⟨_, second_left, _, List.mem_of_getElem? (i := 2) rfl, rfl⟩

/-- The clients get the messages in one order. A client that is connected gets all of them, if no
two connections have the same peer. The streams outlive the calls of `write()`, if connections do
not end too early; otherwise a destroyed stream can be used. -/
theorem totalOrder_of_reachable (reached : system.Reachable hub) :
    hub.TotalOrder ∧ (system.ReachableVia DistinctPeers hub → hub.Listed) ∧
      (system.ReachableVia EndsUnwritten hub → hub.Unabandoned) ∧
      ∃ after, system.Reachable after ∧ ∃ connection ∈ after.connections,
        connection.fault = true :=
  ⟨(invariant_of_reachable reached).totalOrder, listed_of_reachableVia,
    unabandoned_of_reachableVia, used_too_late⟩

/-- Two clients broadcast in one turn of the loop: the first `broadcast()` hands control to the
second client. -/
theorem totalOrder_two_clients :
    let hub := [.accept [97], .accept [98], .onRead 0 (.chunk [120]), .onRead 1 (.chunk [121]),
      .receive 0 (fun _ => 0) 0, .receive 1 (fun _ => 0) 1, .leave, .leave,
      .transmit 1 9].foldl Action.perform ({} : Hub)
    hub.messages.length = 2 ∧ hub.TotalOrder ∧ hub.Listed ∧ hub.Unabandoned := by
  have start : system.ReachableVia
      (fun hub action => DistinctPeers hub action ∧ EndsUnwritten hub action) {} := .start rfl
  have one_client := start.step (Action.accept [97]) rfl
    ⟨fun _ mem => absurd mem List.not_mem_nil, fun _ mem => absurd mem List.not_mem_nil⟩
  have two_clients := one_client.step (Action.accept [98]) rfl (by
    constructor
    · intro connection mem
      obtain rfl := List.mem_singleton.mp mem
      decide
    · intro connection mem
      obtain rfl := List.mem_singleton.mp mem
      intro same
      cases same)
  have first_reads := two_clients.step (Action.onRead 0 (.chunk [120]))
    ⟨⟨_, rfl, rfl, rfl⟩, fun _ mem => absurd mem List.not_mem_nil, fun _ => rfl⟩
    ⟨trivial, trivial⟩
  have second_reads := first_reads.step (Action.onRead 1 (.chunk [121]))
    ⟨⟨_, rfl, rfl, rfl⟩, fun _ mem => absurd mem List.not_mem_nil, fun _ => rfl⟩
    ⟨trivial, trivial⟩
  have first_broadcasts := second_reads.step (Action.receive 0 (fun _ => 0) 0)
    ⟨⟨_, rfl, _, rfl⟩, fun _ => rfl⟩ ⟨trivial, trivial⟩
  have second_broadcasts := first_broadcasts.step (Action.receive 1 (fun _ => 0) 1)
    ⟨⟨_, rfl, _, rfl⟩, fun _ => rfl⟩ ⟨trivial, trivial⟩
  have second_left := second_broadcasts.step Action.leave (List.cons_ne_nil _ _)
    ⟨trivial, trivial⟩
  have first_left := second_left.step Action.leave (List.cons_ne_nil _ _) ⟨trivial, trivial⟩
  have sent := first_left.step (Action.transmit 1 9) ⟨_, rfl, rfl⟩ ⟨trivial, trivial⟩
  have results := totalOrder_of_reachable sent.reachable
  exact ⟨rfl, results.1, results.2.1 (sent.mono fun _ _ => And.left),
    results.2.2.1 (sent.mono fun _ _ => And.right)⟩

end Hub

end Uvco.Broadcaster
