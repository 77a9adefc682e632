import Uvco.Curl.Polls

/-!
# Who is told about a socket error

`getRequest()` finds the request that libcurl has last asked for a socket on behalf of,
and `onCurlSocketActive` reports an error to it. libcurl does not say when this request
leaves the socket to others.
-/

namespace Uvco.Curl

namespace UvCurlContext

variable (context : UvCurlContext)

/-- The request that `getRequest()` finds. -/
def requestOf (socket : ℕ) : Option ℕ :=
  (context.find socket).map PollCtx.request

theorem requestOf_watch (socket : ℕ) (watched : Option Events) :
    (context.watch socket watched).requestOf = context.requestOf := by
  funext other
  rw [requestOf, find_watch, requestOf, Option.map_map]
  congr 1
  funext poll
  simp only [Function.comp_apply]
  split <;> rfl

/-- libcurl changes the request of the socket it asks for. -/
theorem requestOf_initPoll (request socket : ℕ) :
    (context.initPoll request socket).requestOf =
      Function.update context.requestOf socket (some request) := by
  funext other
  unfold initPoll
  by_cases same : other = socket
  · subst same
    rw [Function.update_self]
    split
    · rename_i found
      rcases Option.isSome_iff_exists.mp found with ⟨poll, found⟩
      rw [requestOf, find_associate, found]
      simp
    · rename_i missing
      have missing : context.find other = none := by simpa using missing
      have not_found : context.polls.find? (·.socket = other) = none := missing
      simp [requestOf, find, List.find?_append, not_found]
  · rw [Function.update_of_ne same]
    split
    · rw [requestOf, find_associate, requestOf]
      cases context.find other <;> simp [same]
    · have differs : ¬socket = other := fun eq => same eq.symm
      simp only [requestOf, find, List.find?_append]
      cases context.polls.find? (·.socket = other) <;> simp [differs]

theorem requestOf_curlSocketFunction (id socket : ℕ) (interest : Interest) :
    (context.curlSocketFunction id socket interest).requestOf =
      Function.update context.requestOf socket (some id) := by
  exact (requestOf_watch _ _ _).trans (requestOf_initPoll _ id socket)

/-- As long as libuv watches a socket, the request that will be told about an error exists, and
uses the socket. -/
def NotifiesUser : Prop :=
  ∀ socket, (context.watched socket).isSome = true → ∃ multi id, context.multi = some multi ∧
    context.requestOf socket = some id ∧ id ∈ multi.users socket ∧ id ∈ context.alive

/-- The request of a socket does not leave it to others. -/
def KeepsNotified (action : Action) : Prop :=
  match action with
  | .leave id socket => context.requestOf socket ≠ some id
  | _ => True

/-- Every watched socket leads to a request that is alive and uses it. -/
structure Routed (context : UvCurlContext) : Prop where
  invariant : context.Invariant
  users_alive : ∀ multi, context.multi = some multi → ∀ socket, ∀ id ∈ multi.users socket,
    id ∈ context.alive
  user : ∀ multi, context.multi = some multi → ∀ socket, (context.watched socket).isSome = true →
    ∃ id ∈ multi.users socket, context.requestOf socket = some id

namespace Routed

variable {context : UvCurlContext}

theorem notifiesUser (routed : context.Routed) : context.NotifiesUser := by
  intro socket watched
  have in_use := routed.invariant.multi_of_polls (Invariant.found_of_watched watched)
  rcases Option.isSome_iff_exists.mp in_use with ⟨multi, multi_eq⟩
  rcases routed.user multi multi_eq socket watched with ⟨id, id_user, request_eq⟩
  exact ⟨multi, id, multi_eq, request_eq, id_user,
    routed.users_alive multi multi_eq socket id id_user⟩

/-- libcurl has asked for something about one socket. -/
theorem asks (routed : context.Routed) {after : UvCurlContext} (invariant : after.Invariant)
    {multi changed : Multi} (socket : ℕ) (multi_eq : context.multi = some multi)
    (changed_eq : after.multi = some changed)
    (others : ∀ other, other ≠ socket → changed.interest other = multi.interest other ∧
      changed.users other = multi.users other ∧ after.failed other = context.failed other ∧
      after.requestOf other = context.requestOf other)
    (alive_eq : after.alive = context.alive)
    (users_alive : ∀ id ∈ changed.users socket, id ∈ context.alive)
    (user : (after.watched socket).isSome = true →
      ∃ id ∈ changed.users socket, after.requestOf socket = some id) : after.Routed := by
  refine ⟨invariant, fun same same_eq other id id_user => ?_, fun same same_eq other watched => ?_⟩
  · obtain rfl := Option.some.inj (changed_eq.symm.trans same_eq)
    rw [alive_eq]
    by_cases is_socket : other = socket
    · subst is_socket
      exact users_alive id id_user
    · rw [(others other is_socket).2.1] at id_user
      exact routed.users_alive multi multi_eq other id id_user
  · obtain rfl := Option.some.inj (changed_eq.symm.trans same_eq)
    by_cases is_socket : other = socket
    · subst is_socket
      exact user watched
    · rcases others other is_socket with ⟨interest_eq, users_eq, failed_eq, request_eq⟩
      have watched_eq : after.watched other = context.watched other := by
        rw [invariant.watching changed changed_eq, interest_eq, failed_eq,
          routed.invariant.watching multi multi_eq]
      rw [watched_eq] at watched
      rw [users_eq, request_eq]
      exact routed.user multi multi_eq other watched

theorem curlSocketFunction (routed : context.Routed) {id socket : ℕ} (interest : Interest)
    (in_use : context.multi.isSome = true) (id_alive : id ∈ context.alive) :
    (context.curlSocketFunction id socket interest).Routed := by
  rcases Option.isSome_iff_exists.mp in_use with ⟨multi, multi_eq⟩
  have after_invariant := routed.invariant.curlSocketFunction id socket interest in_use
  have request_eq := context.requestOf_curlSocketFunction id socket interest
  have frame := ({ context with multi := context.multi.map (·.ask id socket interest) } :
    UvCurlContext).initPoll_frame id socket
  have changed_eq : (context.curlSocketFunction id socket interest).multi =
      some (multi.ask id socket interest) := by
    rw [UvCurlContext.curlSocketFunction, frame]
    simp [uvStartPoll, watch, modify, multi_eq]
  have failed_eq : (context.curlSocketFunction id socket interest).failed =
      Function.update context.failed socket false := by
    rw [UvCurlContext.curlSocketFunction, frame]
    rfl
  apply routed.asks after_invariant socket multi_eq changed_eq
  case others =>
    intro other differs
    simp [Multi.ask, failed_eq, request_eq, differs]
  case alive_eq =>
    rw [UvCurlContext.curlSocketFunction, frame]
    rfl
  case users_alive =>
    intro user user_mem
    have cases_mem : user = id ∨ user ∈ multi.users socket := by
      simpa [Multi.ask] using user_mem
    rcases cases_mem with rfl | earlier
    · exact id_alive
    · exact routed.users_alive multi multi_eq socket user earlier
  case user =>
    intro _
    exact ⟨id, by simp [Multi.ask], by rw [request_eq, Function.update_self]⟩

theorem curlPollRemove (routed : context.Routed) {socket : ℕ}
    (in_use : context.multi.isSome = true) : (context.curlPollRemove socket).Routed := by
  rcases Option.isSome_iff_exists.mp in_use with ⟨multi, multi_eq⟩
  have after_invariant := routed.invariant.curlPollRemove socket in_use
  have changed_eq : (context.curlPollRemove socket).multi = some (multi.remove socket) := by
    simp [UvCurlContext.curlPollRemove, uvStopPoll, watch, modify, multi_eq]
  have request_eq : (context.curlPollRemove socket).requestOf = context.requestOf :=
    context.requestOf_watch socket none
  apply routed.asks after_invariant socket multi_eq changed_eq
  case others =>
    intro other differs
    refine ⟨by simp [Multi.remove, differs], by simp [Multi.remove, differs], ?_,
      by rw [request_eq]⟩
    change Function.update context.failed socket false other = context.failed other
    rw [Function.update_of_ne differs]
  case alive_eq => rfl
  case users_alive => simp [Multi.remove]
  case user =>
    intro watched
    rw [after_invariant.watching _ changed_eq] at watched
    simp [Multi.remove] at watched

theorem leave (routed : context.Routed) {id socket : ℕ}
    (enabled : (Action.leave id socket).Enabled context)
    (keeps : context.KeepsNotified (.leave id socket)) : (context.leave id socket).Routed := by
  rcases enabled with ⟨multi, multi_eq, -⟩
  have after_invariant : (context.leave id socket).Invariant :=
    routed.invariant.leave (by simp [multi_eq])
  have changed_eq : (context.leave id socket).multi = some (multi.leave id socket) := by
    simp [UvCurlContext.leave, multi_eq]
  apply routed.asks after_invariant socket multi_eq changed_eq
  case others =>
    intro other differs
    exact ⟨rfl, by simp [Multi.leave, differs], rfl, rfl⟩
  case alive_eq => rfl
  case users_alive =>
    intro user user_mem
    have user_mem : user ∈ multi.users socket := by
      simp only [Multi.leave, Function.update_self, List.mem_filter] at user_mem
      exact user_mem.1
    exact routed.users_alive multi multi_eq socket user user_mem
  case user =>
    intro watched
    rcases routed.user multi multi_eq socket watched with ⟨user, user_mem, request_eq⟩
    have differs : user ≠ id := by
      rintro rfl
      exact keeps request_eq
    exact ⟨user, by simp [Multi.leave, user_mem, differs], request_eq⟩

theorem onCurlSocketActive (routed : context.Routed) {socket : ℕ} {status : Int}
    (watched : (context.watched socket).isSome = true) :
    (context.onCurlSocketActive socket status).Routed := by
  have in_use := routed.invariant.multi_of_polls (Invariant.found_of_watched watched)
  rcases Option.isSome_iff_exists.mp in_use with ⟨multi, multi_eq⟩
  have after_invariant := routed.invariant.onCurlSocketActive socket status watched
  by_cases failed : status ≠ 0
  · rw [UvCurlContext.onCurlSocketActive, if_pos failed] at after_invariant ⊢
    apply routed.asks after_invariant socket multi_eq multi_eq
    case others =>
      intro other differs
      refine ⟨rfl, rfl, Function.update_of_ne differs _ _, ?_⟩
      exact congrFun (context.requestOf_watch socket none) other
    case alive_eq => rfl
    case users_alive => exact routed.users_alive multi multi_eq socket
    case user =>
      intro still_watched
      rw [after_invariant.watching multi multi_eq] at still_watched
      simp at still_watched
  · rw [UvCurlContext.onCurlSocketActive, if_neg failed] at after_invariant ⊢
    exact ⟨after_invariant, routed.users_alive, routed.user⟩

/-- libcurl or libuv has changed the timer. -/
theorem timed (routed : context.Routed) {timer : Option (Option ℕ)} {timeout : Option ℕ}
    {nullMulti fault : Bool}
    (invariant : ({ context with
      multi := context.multi.map ({ · with timeout }), timer, nullMulti, fault } :
        UvCurlContext).Invariant) :
    ({ context with multi := context.multi.map ({ · with timeout }), timer, nullMulti, fault } :
      UvCurlContext).Routed := by
  refine ⟨invariant, fun changed changed_eq => ?_, fun changed changed_eq => ?_⟩
  all_goals
    rcases Option.map_eq_some_iff.mp changed_eq with ⟨multi, multi_eq, rfl⟩
  · exact routed.users_alive multi multi_eq
  · exact routed.user multi multi_eq

/-- Without libcurl, nothing is watched. -/
theorem closed {after : UvCurlContext} (invariant : after.Invariant)
    (no_multi : after.multi = none) : after.Routed :=
  ⟨invariant, fun _ multi_eq => (nomatch no_multi.symm.trans multi_eq),
    fun _ multi_eq => (nomatch no_multi.symm.trans multi_eq)⟩

theorem step (routed : context.Routed) {action : Action} (enabled : action.Enabled context)
    (keeps : context.KeepsNotified action) : (action.perform context).Routed := by
  have invariant := routed.invariant.step enabled
  cases action with
  | request id =>
      refine ⟨invariant, fun multi multi_eq socket user user_mem => ?_, routed.user⟩
      exact List.mem_cons_of_mem id (routed.users_alive multi multi_eq socket user user_mem)
  | await id ready =>
      rcases context.await_frame id ready with ⟨_, _, _, _, _, _, after_eq⟩
      simp only [Action.perform, after_eq] at invariant ⊢
      exact ⟨invariant, routed.users_alive, routed.user⟩
  | wake id => exact ⟨invariant, routed.users_alive, routed.user⟩
  | destroyRequest id =>
      rcases context.destroyRequest_frame id with ⟨_, _, after_eq⟩
      simp only [Action.perform, after_eq] at invariant ⊢
      refine ⟨invariant, fun multi multi_eq socket user user_mem => ?_, routed.user⟩
      refine List.mem_filter.mpr ⟨routed.users_alive multi multi_eq socket user user_mem, ?_⟩
      have unused := enabled.2 multi multi_eq socket
      simp only [decide_eq_true_eq]
      rintro rfl
      exact unused user_mem
  | curlSocketFunction id socket interest =>
      exact routed.curlSocketFunction interest enabled.1 enabled.2
  | curlPollRemove socket => exact routed.curlPollRemove enabled
  | leave id socket => exact routed.leave enabled keeps
  | curlTimerFunction timeoutMs => exact routed.timed invariant
  | onUvTimeout => exact routed.timed invariant
  | onCurlSocketActive socket status => exact routed.onCurlSocketActive enabled
  | close =>
      apply closed invariant
      simp only [Action.perform, close]
      split <;> rfl
  | destroy =>
      apply closed invariant
      simp only [Action.perform, destroy]
      split <;> rfl

end Routed

theorem routed_of_reachableVia {context : UvCurlContext}
    (reached : system.ReachableVia KeepsNotified context) : context.Routed := by
  induction reached with
  | start initial =>
      obtain rfl := initial
      refine ⟨invariant_of_reachable (.start rfl), ?_, ?_⟩
      · rintro multi ⟨⟩ socket id user_mem
        exact nomatch user_mem
      · rintro multi ⟨⟩ socket watched
        exact nomatch watched
  | step action _ enabled keeps ih => exact ih.step enabled keeps

/-- Two requests share a socket; if the one that was there last leaves and is destroyed, the poll
handle still leads to it. -/
theorem destroyed_request_notified : ∃ context, system.Reachable context ∧
    (context.watched 7).isSome = true ∧ context.requestOf 7 = some 1 ∧ 1 ∉ context.alive := by
  have start : system.Reachable {} := .start rfl
  have first := start.step (Action.request 0) ⟨rfl, by decide⟩ trivial
  have second := first.step (Action.request 1) ⟨rfl, by decide⟩ trivial
  have opened := second.step (Action.curlSocketFunction 0 7 .pollIn) ⟨rfl, by decide⟩ trivial
  have shared := opened.step (Action.curlSocketFunction 1 7 .pollInOut) ⟨rfl, by decide⟩ trivial
  have left := shared.step (Action.leave 1 7) ⟨_, rfl, by decide, 0, by decide, by decide⟩ trivial
  have unused : ∀ socket, 1 ∉ Function.update (Function.update (Function.update (fun _ => [])
      7 [0]) 7 [1, 0]) 7 ([0] : List ℕ) socket := by
    intro socket
    by_cases same : socket = 7 <;> simp [Function.update, same]
  have destroyed := left.step (Action.destroyRequest 1)
    ⟨by decide, by rintro multi ⟨⟩ socket; exact unused socket⟩ trivial
  exact ⟨_, destroyed, rfl, rfl, by decide⟩

/-- As long as no request leaves a socket that was last watched for it to others, every error that
libuv reports for a socket is told to a request that exists and uses the socket. Otherwise the
request may have been destroyed. -/
theorem notifiesUser_of_reachableVia {context : UvCurlContext}
    (reached : system.ReachableVia KeepsNotified context) :
    context.NotifiesUser ∧ ∃ after socket id, system.Reachable after ∧
      (after.watched socket).isSome = true ∧ after.requestOf socket = some id ∧
      id ∉ after.alive := by
  rcases destroyed_request_notified with ⟨after, after_reached, watched, request_eq, destroyed⟩
  exact ⟨(routed_of_reachableVia reached).notifiesUser,
    after, 7, 1, after_reached, watched, request_eq, destroyed⟩

/-- Two requests share a socket, and the one that was there first leaves. -/
theorem notifiesUser_shared :
    ([.request 0, .request 1, .curlSocketFunction 0 7 .pollIn, .curlSocketFunction 1 7 .pollInOut,
      .leave 0 7].foldl Action.perform ({} : UvCurlContext)).NotifiesUser := by
  have start : system.ReachableVia KeepsNotified {} := .start rfl
  have first := start.step (Action.request 0) ⟨rfl, by decide⟩ trivial
  have second := first.step (Action.request 1) ⟨rfl, by decide⟩ trivial
  have opened := second.step (Action.curlSocketFunction 0 7 .pollIn) ⟨rfl, by decide⟩ trivial
  have shared := opened.step (Action.curlSocketFunction 1 7 .pollInOut) ⟨rfl, by decide⟩ trivial
  exact (notifiesUser_of_reachableVia
    (shared.step (Action.leave 0 7) ⟨_, rfl, by decide, 1, by decide, by decide⟩
      (show _ ≠ _ by decide))).1

end UvCurlContext

end Uvco.Curl
