import Uvco.Exception
import Uvco.Library.Ownership
import Uvco.Library.Transition

/-!
# Files and directories

This file embeds how `File` and `Directory` of `uvco/fs.{h,cc}` own a descriptor or a
`uv_dir_t`: `open()` with its awaiter, the copy and move operations, `close()` and the
destructors.

The promise of `open()` is represented by its request until the coroutine is resumed,
and by an object from then on: the one in the promise, which is destroyed if the promise
is dropped, and which is the source of a move construction if it is awaited. A
descriptor that the system uses again after it was closed counts as another one.
-/

namespace Uvco.Files

/-- What libuv hands out. -/
inductive Resource where
  | descriptor (file : ℕ)
  | dir (dir : ℕ)
deriving DecidableEq, Repr

/-- `class File`; `file_` is -1 once it is closed. -/
structure File where
  /-- `loop_` is not null. -/
  loop : Bool
  file : Int
  valid : -1 ≤ file

/-- `class Directory`; `dir_` is null once it is closed. -/
structure Directory where
  /-- `loop_` is not null. -/
  loop : Bool
  dir : Option ℕ
deriving DecidableEq, Repr

/-- What is left when a `File` has been moved or closed. -/
def File.emptied (file : File) : File :=
  { file with file := -1, valid := Int.le_refl _ }

/-- What is left when a `Directory` has been moved. -/
def Directory.emptied : Directory where
  loop := false
  dir := none

/-- An object that may own a descriptor or a directory stream. -/
inductive Object where
  | file (file : File)
  | directory (directory : Directory)

namespace Object

/-- What an object reports as open. -/
def handle : Object → Option Resource
  | .file this => if this.file = -1 then none else some (.descriptor this.file.toNat)
  | .directory this => this.dir.map .dir

/-- What the coroutine of `open()` returns. -/
def opened : Resource → Object
  | .descriptor number => .file { loop := true, file := number, valid := by omega }
  | .dir pointer => .directory { loop := true, dir := some pointer }

@[simp]
theorem handle_opened (resource : Resource) : (opened resource).handle = some resource := by
  cases resource with
  | descriptor number =>
      have nonnegative : (number : Int) ≠ -1 := by omega
      simp [opened, handle, nonnegative]
  | dir pointer => rfl

@[simp]
theorem handle_emptied_file (this : File) : (Object.file this.emptied).handle = none := rfl

@[simp]
theorem handle_emptied_directory : (Object.directory Directory.emptied).handle = none := rfl

end Object

/-- The request of an `open()` in libuv. -/
inductive Progress where
  | queued
  | executing
  /-- The thread pool is done with it, and the callback has not been called. -/
  | executed (result : Except Int Resource)
  /-- The callback has stored the result in the awaiter. -/
  | called (result : Except Int Resource)

/-- A `uv_fs_t` of a call of `open`. -/
structure Request where
  progress : Progress := .queued
  /-- The data pointer of the request leads to the awaiter. -/
  data : Bool := true

/-- What the request has obtained for its awaiter. -/
def Request.handle (request : Request) : Option Resource :=
  if request.data then
    match request.progress with
    | .executed (.ok resource) | .called (.ok resource) => some resource
    | .executed (.error _) | .called (.error _) | .queued | .executing => none
  else none

/-- The objects and requests of a program, with what they have obtained and closed. -/
structure State where
  objects : ℕ → Option Object := fun _ => none
  requests : ℕ → Option Request := fun _ => none
  obtained : Resource → Bool := fun _ => false
  /-- The number of calls of `uv_fs_close` or `uv_fs_closedir`. -/
  closes : Resource → ℕ := fun _ => 0

namespace State

variable (state : State) (object source target request : ℕ)

/-- An object is made or changed. -/
def store (stored : Object) : State :=
  { state with objects := Function.update state.objects object (some stored) }

/-- A request is made, goes on or is freed. -/
def setRequest (stored : Option Request) : State :=
  { state with requests := Function.update state.requests request stored }

/-- `uv_fs_close` or `uv_fs_closedir`. -/
def uvClose (resource : Resource) : State :=
  { state with closes := Function.update state.closes resource (state.closes resource + 1) }

/-! ## Objects -/

/-- `File::close()` and `Directory::close()`. -/
def close : State :=
  match state.objects object with
  | some (.file file) =>
      if file.file ≠ -1 then
        (state.uvClose (.descriptor file.file.toNat)).store object (.file file.emptied)
      else state.store object (.file file.emptied)
  | some (.directory directory) =>
      match directory.dir with
      | some dir =>
          (state.uvClose (.dir dir)).store object (.directory { directory with dir := none })
      | none => state.store object (.directory { directory with dir := none })
  | none => state

/-- The destructors. -/
def destroy : State :=
  let closed := state.close object
  { closed with objects := Function.update closed.objects object none }

/-- The defaulted copy constructor of `Directory`. A `File` cannot be copied. -/
def copy : State :=
  match state.objects source with
  | some (.directory directory) => state.store object (.directory directory)
  | some (.file _) | none => state

/-- The move constructors. -/
def moveConstruct : State :=
  match state.objects source with
  | some (.file file) => (state.store source (.file file.emptied)).store object (.file file)
  | some (.directory directory) =>
      (state.store source (.directory .emptied)).store object (.directory directory)
  | none => state

/-- `operator=` of `File`, which closes the target, and of `Directory`, which does not. -/
def moveAssign : State :=
  if target = source then state
  else
    match state.objects target, state.objects source with
    | some (.file _), some (.file given) =>
        ((state.close target).store target (.file given)).store source (.file given.emptied)
    | some (.directory _), some (.directory given) =>
        (state.store target (.directory given)).store source (.directory .emptied)
    | _, _ => state

/-! ## Requests -/

/-- The thread pool is done with a request. -/
def finish (result : Except Int Resource) : State :=
  match state.requests request with
  | some existing =>
      let finished := state.setRequest request
        (some { existing with progress := .executed result })
      match result with
      | .ok resource =>
          { finished with obtained := Function.update finished.obtained resource true }
      | .error _ => finished
  | none => state

/-- `FileOpAwaiter_::onFileOpDone`. -/
def onFileOpDone (result : Except Int Resource) : State :=
  match state.requests request with
  | some existing =>
      match existing.data, result with
      | false, _ => state.setRequest request none
      | true, .error status =>
          if status = UV_ECANCELED then state.setRequest request none
          else state.setRequest request (some { existing with progress := .called (.error status) })
      | true, .ok resource =>
          state.setRequest request (some { existing with progress := .called (.ok resource) })
  | none => state

/-- The coroutine of `open()` is resumed: it throws, or an object is in its promise. -/
def resume (result : Except Int Resource) : State :=
  match result with
  | .ok resource => (state.setRequest request none).store object (.opened resource)
  | .error _ => state.setRequest request none

/-- The promise of `open()` is dropped before its coroutine was resumed: `~FileOpAwaiter_` resets
the data pointer, and `uv_cancel` succeeds for a request in the queue. -/
def drop : State :=
  match state.requests request with
  | some existing =>
      match existing.progress with
      | .queued =>
          state.setRequest request
            (some { progress := .executed (.error UV_ECANCELED), data := false })
      | .executing | .executed _ | .called _ =>
          state.setRequest request (some { existing with data := false })
  | none => state

end State

/-- What the program and the thread pool can do next. -/
inductive Action where
  | copy (object source : ℕ)
  | moveConstruct (object source : ℕ)
  | moveAssign (target source : ℕ)
  | close (object : ℕ)
  | destroy (object : ℕ)
  | open (request : ℕ)
  | execute (request : ℕ)
  | finish (request : ℕ) (result : Except Int Resource)
  | onFileOpDone (request : ℕ) (result : Except Int Resource)
  | resume (request object : ℕ) (result : Except Int Resource)
  | drop (request : ℕ)

namespace Action

/-- Two objects of one class, which can be assigned to each other. -/
def SameClass (state : State) (target source : ℕ) : Prop :=
  (∃ one other, state.objects target = some (.file one) ∧
      state.objects source = some (.file other)) ∨
    ∃ one other, state.objects target = some (.directory one) ∧
      state.objects source = some (.directory other)

/-- A `File` cannot be copied; requests go on stage by stage. -/
def Enabled (state : State) : Action → Prop
  | .copy object source => state.objects object = none ∧
      ∃ directory, state.objects source = some (.directory directory)
  | .moveConstruct object source => state.objects object = none ∧
      (state.objects source).isSome = true
  | .moveAssign target source => SameClass state target source
  | .close object | .destroy object => (state.objects object).isSome = true
  | .open request => state.requests request = none
  | .execute request => ∃ data, state.requests request = some { progress := .queued, data }
  | .finish request result =>
      (∃ data, state.requests request = some { progress := .executing, data }) ∧
      ∀ resource, result = .ok resource → state.obtained resource = false
  | .onFileOpDone request result =>
      ∃ data, state.requests request = some { progress := .executed result, data }
  | .resume request object result => state.objects object = none ∧
      state.requests request = some { progress := .called result, data := true }
  | .drop request => ∃ progress, state.requests request = some { progress, data := true }

/-- The state after an action. -/
def perform (state : State) : Action → State
  | .copy object source => state.copy object source
  | .moveConstruct object source => state.moveConstruct object source
  | .moveAssign target source => state.moveAssign source target
  | .close object => state.close object
  | .destroy object => state.destroy object
  | .open request => state.setRequest request (some {})
  | .execute request =>
      state.setRequest request ((state.requests request).map ({ · with progress := .executing }))
  | .finish request result => state.finish request result
  | .onFileOpDone request result => state.onFileOpDone request result
  | .resume request object result => state.resume object request result
  | .drop request => state.drop request

end Action

/-- All programs over any number of files, directories and promises of `open()`. -/
def system : TransitionSystem State Action where
  Initial state := state = {}
  Enabled state action := action.Enabled state
  perform state action := action.perform state

/-! ## The books -/

/-- Who can be in charge of a resource. -/
inductive Owner where
  | object (object : ℕ)
  | request (request : ℕ)
deriving DecidableEq

namespace State

variable {state : State} {object source target request : ℕ}

/-- Objects and requests hold what was obtained, and give it back by closing it. -/
def books (state : State) : Ownership Owner Resource where
  holds
    | .object object => (state.objects object).bind Object.handle
    | .request request => (state.requests request).bind Request.handle
  obtained := state.obtained
  returned := state.closes

theorem books_store (stored : Object) :
    (state.store object stored).books =
      { state.books with
        holds := Function.update state.books.holds (.object object) stored.handle } := by
  ext owner : 2
  · cases owner with
    | object other =>
        by_cases same : other = object
        · subst same
          simp [books, store]
        · have differs : Owner.object other ≠ .object object := by simpa using same
          simp [books, store, Function.update_of_ne same, Function.update_of_ne differs]
    | request other => simp [books, store]
  · rfl
  · rfl

theorem books_removed :
    ({ state with objects := Function.update state.objects object none } : State).books =
      state.books.forget (.object object) := by
  ext owner : 2
  · cases owner with
    | object other =>
        by_cases same : other = object
        · subst same
          simp [books, Ownership.forget]
        · have differs : Owner.object other ≠ .object object := by simpa using same
          simp [books, Ownership.forget, Function.update_of_ne same, Function.update_of_ne differs]
    | request other => simp [books, Ownership.forget]
  · rfl
  · rfl

theorem books_setRequest (stored : Option Request) :
    (state.setRequest request stored).books =
      { state.books with
        holds := Function.update state.books.holds (.request request)
          (stored.bind Request.handle) } := by
  ext owner : 2
  · cases owner with
    | object other => simp [books, setRequest]
    | request other =>
        by_cases same : other = request
        · subst same
          simp [books, setRequest]
        · have differs : Owner.request other ≠ .request request := by simpa using same
          simp [books, setRequest, Function.update_of_ne same, Function.update_of_ne differs]
  · rfl
  · rfl

theorem books_setRequest_same {stored : Option Request}
    (same : stored.bind Request.handle = (state.requests request).bind Request.handle) :
    (state.setRequest request stored).books = state.books := by
  rw [books_setRequest, same]
  exact congrArg (fun holds => ({ state.books with holds } : Ownership Owner Resource))
    (Function.update_eq_self _ state.books.holds)

theorem forget_of_none {owner : Owner} (free : state.books.holds owner = none) :
    state.books.forget owner = state.books := by
  unfold Ownership.forget
  rw [← free, Function.update_eq_self]

theorem books_close : (state.close object).books = state.books.giveBack (.object object) := by
  have nothing : ∀ stored : Object, stored.handle = none →
      state.books.holds (.object object) = none →
      (state.store object stored).books = state.books.giveBack (.object object) := by
    intro stored emptied free
    rw [books_store, emptied, Ownership.giveBack_of_none free]
    exact forget_of_none free
  unfold close
  split
  · rename_i this objects_eq
    have holds_eq : state.books.holds (.object object) = (Object.file this).handle := by
      simp [books, objects_eq]
    split
    · rename_i opened
      rw [Object.handle, if_neg opened] at holds_eq
      rw [books_store, Ownership.giveBack_of_some holds_eq]
      rfl
    · rename_i closed
      rw [Object.handle, if_pos (not_not.mp closed)] at holds_eq
      exact nothing _ rfl holds_eq
  · rename_i this objects_eq
    have holds_eq : state.books.holds (.object object) = this.dir.map .dir := by
      simp [books, objects_eq, Object.handle]
    split
    · rename_i pointer dir_eq
      rw [dir_eq] at holds_eq
      rw [books_store, Ownership.giveBack_of_some holds_eq]
      rfl
    · rename_i dir_eq
      rw [dir_eq] at holds_eq
      exact nothing _ rfl holds_eq
  · rename_i objects_eq
    have free : state.books.holds (.object object) = none := by simp [books, objects_eq]
    rw [Ownership.giveBack_of_none free]

theorem books_destroy : (state.destroy object).books = state.books.giveBack (.object object) := by
  unfold destroy
  dsimp only
  rw [books_removed, books_close]
  ext owner : 2
  · rw [Ownership.forget, Ownership.holds_giveBack, Ownership.forget, Function.update_idem]
  · rfl
  · rfl

theorem books_copy {directory : Directory}
    (objects_eq : state.objects source = some (.directory directory)) :
    (state.copy object source).books =
      state.books.share (.object source) (.object object) := by
  simp only [copy, objects_eq]
  rw [books_store]
  simp [Ownership.share, books, objects_eq]

theorem books_moved {given left : Object} (differs : source ≠ target)
    (objects_eq : state.objects source = some given) (emptied : left.handle = none) :
    ((state.store source left).store target given).books =
        state.books.pass (.object source) (.object target) ∧
      ((state.store target given).store source left).books =
        state.books.pass (.object source) (.object target) := by
  have differ : Owner.object source ≠ .object target := by simpa using differs
  have holds_eq : state.books.holds (.object source) = given.handle := by simp [books, objects_eq]
  constructor
  · rw [books_store, books_store, emptied]
    dsimp only
    rw [Function.update_comm differ, Ownership.pass, Ownership.forget, Ownership.share, holds_eq]
  · rw [books_store, books_store, emptied, Ownership.pass, Ownership.forget, Ownership.share,
      holds_eq]

theorem books_moveConstruct (differs : source ≠ object)
    (exists_ : (state.objects source).isSome = true) :
    (state.moveConstruct object source).books =
      state.books.pass (.object source) (.object object) := by
  unfold moveConstruct
  split
  · rename_i objects_eq
    exact (books_moved differs objects_eq (Object.handle_emptied_file _)).1
  · rename_i objects_eq
    exact (books_moved differs objects_eq Object.handle_emptied_directory).1
  · rename_i objects_eq
    simp [objects_eq] at exists_

/-- A `File` gives its descriptor back before it receives the other one. -/
theorem books_moveAssign_file (differs : target ≠ source) {old given : File}
    (target_eq : state.objects target = some (.file old))
    (source_eq : state.objects source = some (.file given)) :
    (state.moveAssign source target).books =
      (state.books.giveBack (.object target)).pass (.object source) (.object target) := by
  unfold moveAssign
  rw [if_neg differs, target_eq, source_eq]
  have still_there : (state.close target).objects source = some (.file given) := by
    unfold close
    rw [target_eq]
    dsimp only
    split
    · exact (Function.update_of_ne (Ne.symm differs) ..).trans source_eq
    · exact (Function.update_of_ne (Ne.symm differs) ..).trans source_eq
  rw [← books_close]
  exact (books_moved (Ne.symm differs) still_there (Object.handle_emptied_file given)).2

/-- A `Directory` forgets its `uv_dir_t`. -/
theorem books_moveAssign_directory (differs : target ≠ source) {old given : Directory}
    (target_eq : state.objects target = some (.directory old))
    (source_eq : state.objects source = some (.directory given)) :
    (state.moveAssign source target).books =
      (state.books.forget (.object target)).pass (.object source) (.object target) := by
  unfold moveAssign
  rw [if_neg differs, target_eq, source_eq]
  dsimp only
  rw [(books_moved (Ne.symm differs) source_eq Object.handle_emptied_directory).2]
  have source_ne : Owner.object source ≠ .object target := by simpa using Ne.symm differs
  simp only [Ownership.pass, Ownership.share, Ownership.forget, Function.update_idem,
    Function.update_of_ne source_ne]

/-! ## What requests do to the books -/

theorem books_finish {data : Bool}
    (requests_eq : state.requests request = some { progress := .executing, data })
    (result : Except Int Resource) :
    (state.finish request result).books =
      match result, data with
      | .ok resource, true => state.books.acquire (.request request) resource
      | .ok resource, false =>
          { state.books with obtained := Function.update state.books.obtained resource true }
      | .error _, _ => state.books := by
  have free : state.books.holds (.request request) = none := by
    simp [books, requests_eq, Request.handle]
  simp only [finish, requests_eq]
  cases result with
  | error status =>
      refine books_setRequest_same ?_
      simp [requests_eq, Request.handle]
  | ok resource =>
      have books_eq := @books_setRequest state request
        (some { progress := .executed (.ok resource), data })
      change ({ (state.setRequest request _).books with
        obtained := Function.update state.books.obtained resource true } :
          Ownership Owner Resource) = _
      rw [books_eq]
      cases data with
      | true => rfl
      | false =>
          have handle_eq : (some { progress := .executed (.ok resource), data := false } :
              Option Request).bind Request.handle = state.books.holds (.request request) :=
            free.symm
          rw [handle_eq, Function.update_eq_self]

theorem books_onFileOpDone {data : Bool} {result : Except Int Resource}
    (requests_eq : state.requests request = some { progress := .executed result, data }) :
    (state.onFileOpDone request result).books = state.books := by
  simp only [onFileOpDone, requests_eq]
  split
  · refine books_setRequest_same ?_
    simp [requests_eq, Request.handle]
  · split
    · refine books_setRequest_same ?_
      simp [requests_eq, Request.handle]
    · refine books_setRequest_same ?_
      simp [requests_eq, Request.handle]
  · refine books_setRequest_same ?_
    simp [requests_eq, Request.handle]

theorem books_resume {result : Except Int Resource} 
    (requests_eq : state.requests request = some { progress := .called result, data := true }) :
    (state.resume object request result).books =
      match result with
      | .ok _ => state.books.pass (.request request) (.object object)
      | .error _ => state.books := by
  cases result with
  | error status =>
      refine books_setRequest_same ?_
      simp [requests_eq, Request.handle]
  | ok resource =>
      have differ : Owner.request request ≠ .object object := by simp
      have holds_eq : state.books.holds (.request request) = some resource := by
        simp [books, requests_eq, Request.handle]
      dsimp only [resume]
      rw [books_store, books_setRequest, Object.handle_opened, Ownership.pass, Ownership.forget,
        Ownership.share, holds_eq]
      dsimp only
      rw [Function.update_comm differ]
      rfl

theorem books_drop {progress : Progress}
    (requests_eq : state.requests request = some { progress, data := true }) :
    (state.drop request).books = state.books.forget (.request request) := by
  simp only [drop, requests_eq]
  cases progress with
  | queued | executing | executed result | called result =>
      exact books_setRequest _

end State

/-! ## The invariant -/

namespace State

/-- Only directories have copies. -/
def Singular (state : State) (resource : Resource) : Prop :=
  (∃ file, resource = .descriptor file) ∨
    ∃ request, state.books.holds (.request request) = some resource

/-- What holds in every run that meets the condition. -/
structure Invariant (state : State) : Prop where
  accounted : state.books.Accounted
  exclusive : ∀ resource, state.Singular resource → state.books.Exclusive resource

/-- What has to be avoided: closing a directory that has a copy, replacing the only directory that
has a `uv_dir_t`, and dropping a promise whose `open()` has succeeded or succeeds later. -/
def Careful (state : State) : Action → Prop
  | .close object | .destroy object => state.books.Alone (.object object)
  | .moveAssign target source => target = source ∨ ∀ directory,
      state.objects target = some (.directory directory) → state.books.Shared (.object target)
  | .finish request (.ok _) => ∀ existing, state.requests request = some existing →
      existing.data = true
  | .drop request => state.books.holds (.request request) = none
  | .finish _ (.error _) | .copy .. | .moveConstruct .. | .open _ | .execute _
  | .onFileOpDone .. | .resume .. => True

/-- The books are in order after an action if and only if it is careful, and what has one owner by
its nature has not got another one. -/
def Settles (state after : State) (action : Action) : Prop :=
  (after.books.Accounted ↔ state.Careful action) ∧
    ∀ resource, after.Singular resource → after.books.Exclusive resource

namespace Invariant

variable {state : State}

theorem initial : ({} : State).Invariant where
  accounted := by
    refine ⟨fun resource _ => ⟨rfl, ?_⟩, nofun⟩
    rintro ⟨object | request, held⟩ <;> simp [books] at held
  exclusive := by
    rintro resource - (object | request) other held <;> simp [books] at held

theorem exclusive_of {after : State} (invariant : state.Invariant)
    (requests_sub : ∀ request resource, after.books.holds (.request request) = some resource →
      state.books.holds (.request request) = some resource)
    (kept : ∀ resource, state.Singular resource → state.books.Exclusive resource →
      after.books.Exclusive resource) :
    ∀ resource, after.Singular resource → after.books.Exclusive resource := by
  intro resource singular
  have was_singular : state.Singular resource :=
    singular.imp_right fun ⟨request, held⟩ => ⟨request, requests_sub request resource held⟩
  exact kept resource was_singular (invariant.exclusive resource was_singular)

theorem exclusive_of_books {after : State} (invariant : state.Invariant)
    (books_eq : after.books = state.books) :
    ∀ resource, after.Singular resource → after.books.Exclusive resource :=
  invariant.exclusive_of (fun _ _ held => books_eq ▸ held) fun _ _ exclusive =>
    books_eq.symm ▸ exclusive

/-- A pass to an object keeps what is singular exclusive. -/
theorem exclusive_pass {books : Ownership Owner Resource} {source : Owner} {target : ℕ}
    (differs : source ≠ .object target) (free : books.holds (.object target) = none) :
    (∀ request resource,
        (books.pass source (.object target)).holds (.request request) = some resource →
          books.holds (.request request) = some resource) ∧
      ∀ resource, books.Exclusive resource →
        (books.pass source (.object target)).Exclusive resource := by
  refine ⟨fun request resource held => ?_, fun resource exclusive => exclusive.pass differs free⟩
  exact (Ownership.holds_share_of_ne (by simp)).symm.trans (Ownership.holds_of_forget held)

theorem exclusive_giveBack {after : State} {object : ℕ} (invariant : state.Invariant)
    (books_eq : after.books = state.books.giveBack (.object object)) :
    ∀ resource, after.Singular resource → after.books.Exclusive resource := by
  refine invariant.exclusive_of (fun request resource held => ?_) fun resource _ exclusive => ?_
  · rw [books_eq, Ownership.holds_giveBack] at held
    exact Ownership.holds_of_forget held
  · rw [books_eq]
    exact exclusive.giveBack

theorem settles_unchanged {after : State} {action : Action} (invariant : state.Invariant)
    (books_eq : after.books = state.books) (careful : state.Careful action) :
    state.Settles after action := by
  refine ⟨?_, invariant.exclusive_of_books books_eq⟩
  rw [books_eq]
  exact ⟨fun _ => careful, fun _ => invariant.accounted⟩

theorem settles_pass {after : State} {action : Action} {source : Owner} {target : ℕ}
    (invariant : state.Invariant) (differs : source ≠ .object target)
    (free : state.books.holds (.object target) = none)
    (books_eq : after.books = state.books.pass source (.object target))
    (careful : state.Careful action) : state.Settles after action := by
  rcases exclusive_pass differs free with ⟨requests_sub, kept⟩
  refine ⟨?_, invariant.exclusive_of ?_ ?_⟩
  · rw [books_eq, Ownership.accounted_pass_iff differs free]
    exact ⟨fun _ => careful, fun _ => invariant.accounted⟩
  · exact fun request resource held => requests_sub request resource (books_eq ▸ held)
  · exact fun resource _ exclusive => books_eq.symm ▸ kept resource exclusive

theorem settles_giveBack {after : State} {action : Action} {object : ℕ}
    (invariant : state.Invariant)
    (books_eq : after.books = state.books.giveBack (.object object))
    (careful_iff : state.Careful action ↔ state.books.Alone (.object object)) :
    state.Settles after action := by
  refine ⟨?_, invariant.exclusive_giveBack books_eq⟩
  rw [books_eq, careful_iff]
  exact invariant.accounted.giveBack_iff

theorem copy (invariant : state.Invariant) {object source : ℕ}
    (enabled : (Action.copy object source).Enabled state) :
    state.Settles (state.copy object source) (.copy object source) := by
  rcases enabled with ⟨no_object, directory, objects_eq⟩
  have free : state.books.holds (.object object) = none := by simp [books, no_object]
  have books_eq := @books_copy state object _ _ objects_eq
  refine ⟨?_, invariant.exclusive_of (fun request resource held => ?_)
    fun resource singular exclusive => ?_⟩
  · rw [books_eq]
    exact ⟨fun _ => trivial, fun _ => invariant.accounted.share free⟩
  · rw [books_eq] at held
    exact (Ownership.holds_share_of_ne (by simp)).symm.trans held
  · rw [books_eq]
    refine exclusive.share fun held => ?_
    rcases singular with ⟨number, rfl⟩ | ⟨request, requested⟩
    · simp [books, objects_eq, Object.handle] at held
    · exact absurd (exclusive _ _ held requested) (by simp)

theorem drop (invariant : state.Invariant) {request : ℕ}
    (enabled : (Action.drop request).Enabled state) :
    state.Settles (state.drop request) (.drop request) := by
  rcases enabled with ⟨progress, requests_eq⟩
  have books_eq := books_drop requests_eq
  refine ⟨?_, invariant.exclusive_of (fun other resource held => ?_)
    fun resource _ exclusive => ?_⟩
  · rw [books_eq, invariant.accounted.forget_iff]
    constructor
    · intro shared
      refine Option.eq_none_iff_forall_ne_some.mpr fun resource held => ?_
      rcases shared resource held with ⟨other, differs, other_holds⟩
      exact differs
        (invariant.exclusive resource (.inr ⟨request, held⟩) other _ other_holds held)
    · intro (free : state.books.holds (.request request) = none) resource held
      simp [free] at held
  · rw [books_eq] at held
    exact Ownership.holds_of_forget held
  · rw [books_eq]
    exact exclusive.forget

/-- A file is the only one that holds its descriptor. -/
theorem alone_file (invariant : state.Invariant) {object : ℕ} {this : File}
    (objects_eq : state.objects object = some (.file this)) :
    state.books.Alone (.object object) := by
  refine Ownership.Exclusive.alone fun resource held => invariant.exclusive resource (.inl ?_)
  simp only [books, objects_eq, Option.bind_some, Object.handle] at held
  split at held
  · simp at held
  · exact ⟨_, (Option.some.inj held).symm⟩

theorem moveAssign (invariant : state.Invariant) {target source : ℕ}
    (enabled : (Action.moveAssign target source).Enabled state) :
    state.Settles (state.moveAssign source target) (.moveAssign target source) := by
  by_cases same : target = source
  · have after_eq : state.moveAssign source target = state := if_pos same
    exact invariant.settles_unchanged (congrArg books after_eq) (.inl same)
  · have differ : Owner.object source ≠ .object target := by simpa using Ne.symm same
    rcases enabled with ⟨old, given, target_eq, source_eq⟩ | ⟨old, given, target_eq, source_eq⟩
    · have books_eq := books_moveAssign_file same target_eq source_eq
      have free : (state.books.giveBack (.object target)).holds (.object target) = none := by
        rw [Ownership.holds_giveBack]
        exact Function.update_self ..
      rcases exclusive_pass differ free with ⟨requests_sub, kept⟩
      refine ⟨?_, invariant.exclusive_of ?_ ?_⟩
      · rw [books_eq, Ownership.accounted_pass_iff differ free]
        refine ⟨fun _ => .inr fun directory objects_eq => ?_, fun _ =>
          invariant.accounted.giveBack_iff.mpr (invariant.alone_file target_eq)⟩
        simp [target_eq] at objects_eq
      · intro request resource held
        rw [books_eq] at held
        have held_before := requests_sub request resource held
        rw [Ownership.holds_giveBack] at held_before
        exact Ownership.holds_of_forget held_before
      · intro resource _ exclusive
        rw [books_eq]
        exact kept resource exclusive.giveBack
    · have books_eq := books_moveAssign_directory same target_eq source_eq
      have free : (state.books.forget (.object target)).holds (.object target) = none :=
        Function.update_self ..
      rcases exclusive_pass differ free with ⟨requests_sub, kept⟩
      refine ⟨?_, invariant.exclusive_of ?_ ?_⟩
      · rw [books_eq, Ownership.accounted_pass_iff differ free, invariant.accounted.forget_iff]
        exact ⟨fun shared => .inr fun _ _ => shared,
          fun careful => careful.resolve_left same old target_eq⟩
      · intro request resource held
        rw [books_eq] at held
        exact Ownership.holds_of_forget (requests_sub request resource held)
      · intro resource _ exclusive
        rw [books_eq]
        exact kept resource exclusive.forget

theorem finish (invariant : state.Invariant) {request : ℕ} {result : Except Int Resource}
    (enabled : (Action.finish request result).Enabled state) :
    state.Settles (state.finish request result) (.finish request result) := by
  rcases enabled with ⟨⟨data, requests_eq⟩, fresh⟩
  have books_eq := books_finish requests_eq result
  cases result with
  | error status => exact invariant.settles_unchanged books_eq trivial
  | ok obtained =>
      have unknown := fresh obtained rfl
      have free : state.books.holds (.request request) = none := by
        simp [books, requests_eq, Request.handle]
      rcases invariant.accounted.known obtained unknown with ⟨kept, not_held⟩
      cases data with
      | true =>
          dsimp only at books_eq
          constructor
          · rw [books_eq]
            refine ⟨fun _ existing found => ?_, fun _ => invariant.accounted.acquire free unknown⟩
            obtain rfl := Option.some.inj (requests_eq.symm.trans found)
            rfl
          · rintro resource singular
            rw [books_eq]
            refine Ownership.Exclusive.acquire ?_ not_held
            by_cases same : resource = obtained
            · rw [same]
              exact fun one _ held _ => absurd ⟨one, held⟩ not_held
            · refine invariant.exclusive resource (singular.imp_right ?_)
              rintro ⟨other, held⟩
              refine ⟨other, ?_⟩
              rw [books_eq] at held
              by_cases is_request : other = request
              · subst is_request
                simp only [Ownership.acquire, Function.update_self, Option.some.injEq] at held
                exact absurd held.symm same
              · exact (Function.update_of_ne (by simpa using is_request) ..).symm.trans held
      | false =>
          dsimp only at books_eq
          constructor
          · rw [books_eq]
            constructor
            · -- Nobody holds what has been obtained, and nobody has closed it.
              intro after
              have known : Function.update state.books.obtained obtained true obtained = true :=
                Function.update_self ..
              rcases after.once obtained known with ⟨-, held⟩ | ⟨given, -⟩
              · exact absurd held not_held
              · exact absurd (kept.symm.trans given) (by decide)
            · intro careful
              exact absurd (careful _ requests_eq) (by decide)
          · refine invariant.exclusive_of (fun other resource held => ?_)
              fun resource _ exclusive => ?_
            · rw [books_eq] at held
              exact held
            · rw [books_eq]
              exact exclusive

theorem step (invariant : state.Invariant) {action : Action} (enabled : action.Enabled state) :
    state.Settles (action.perform state) action := by
  cases action with
  | copy object source => exact invariant.copy enabled
  | moveConstruct object source =>
      rcases enabled with ⟨no_object, exists_⟩
      have differs : source ≠ object := by
        rintro rfl
        simp [no_object] at exists_
      exact invariant.settles_pass (by simpa using differs) (by simp [books, no_object])
        (books_moveConstruct differs exists_) trivial
  | moveAssign target source => exact invariant.moveAssign enabled
  | close object => exact invariant.settles_giveBack books_close .rfl
  | destroy object => exact invariant.settles_giveBack books_destroy .rfl
  | «open» request =>
      refine invariant.settles_unchanged (books_setRequest_same ?_) trivial
      change Request.handle {} = _
      rw [show state.requests request = none from enabled]
      rfl
  | execute request =>
      rcases enabled with ⟨data, requests_eq⟩
      refine invariant.settles_unchanged (books_setRequest_same ?_) trivial
      simp [requests_eq, Request.handle]
  | finish request result => exact invariant.finish enabled
  | onFileOpDone request result =>
      rcases enabled with ⟨data, requests_eq⟩
      exact invariant.settles_unchanged (books_onFileOpDone requests_eq) trivial
  | resume request object result =>
      rcases enabled with ⟨no_object, requests_eq⟩
      have books_eq := @books_resume state object request result requests_eq
      cases result with
      | error status => exact invariant.settles_unchanged books_eq trivial
      | ok resource =>
          exact invariant.settles_pass (by simp) (by simp [books, no_object]) books_eq trivial
  | drop request => exact invariant.drop enabled

end Invariant

theorem invariant_of_reachableVia {state : State} (reached : system.ReachableVia Careful state) :
    state.Invariant := by
  refine TransitionSystem.ReachableVia.invariant Invariant ?_ ?_ reached
  · rintro _ rfl
    exact .initial
  · intro before action invariant enabled careful
    rcases invariant.step enabled with ⟨accounted_iff, exclusive⟩
    exact ⟨accounted_iff.mpr careful, exclusive⟩

/-- In a careful run, whatever was obtained is either held, and has not been closed, or was closed
once and is not held any more; and the first step that is not careful puts an end to this. -/
theorem accounted_of_reachableVia {state : State} (reached : system.ReachableVia Careful state) :
    state.books.Accounted ∧ ∀ action : Action, action.Enabled state →
      ((action.perform state).books.Accounted ↔ state.Careful action) := by
  have invariant := invariant_of_reachableVia reached
  exact ⟨invariant.accounted, fun action enabled => (invariant.step enabled).1⟩

/-- A file is opened and moved onto another one that is open, and a promise is dropped in time. -/
theorem accounted_moved_files :
    (([.open 0, .execute 0, .finish 0 (.ok (.descriptor 3)), .onFileOpDone 0 (.ok (.descriptor 3)),
        .resume 0 0 (.ok (.descriptor 3)), .open 1, .execute 1, .finish 1 (.ok (.descriptor 4)),
        .onFileOpDone 1 (.ok (.descriptor 4)), .resume 1 1 (.ok (.descriptor 4)),
        .moveAssign 0 1, .open 2, .drop 2] : List Action).foldl
      Action.perform {}).books.Accounted := by
  have start : system.ReachableVia Careful {} := .start rfl
  have queued := start.step (Action.open 0) rfl trivial
  have executing := queued.step (Action.execute 0) ⟨_, rfl⟩ trivial
  have executed := executing.step (Action.finish 0 (.ok (.descriptor 3)))
    ⟨⟨_, rfl⟩, fun _ _ => rfl⟩ (by rintro _ ⟨⟩; rfl)
  have called := executed.step (Action.onFileOpDone 0 (.ok (.descriptor 3))) ⟨_, rfl⟩ trivial
  have first := called.step (Action.resume 0 0 (.ok (.descriptor 3))) ⟨rfl, rfl⟩ trivial
  have queued := first.step (Action.open 1) rfl trivial
  have executing := queued.step (Action.execute 1) ⟨_, rfl⟩ trivial
  have executed := executing.step (Action.finish 1 (.ok (.descriptor 4)))
    ⟨⟨_, rfl⟩, by rintro _ ⟨⟩; rfl⟩ (by rintro _ ⟨⟩; rfl)
  have called := executed.step (Action.onFileOpDone 1 (.ok (.descriptor 4))) ⟨_, rfl⟩ trivial
  have second := called.step (Action.resume 1 1 (.ok (.descriptor 4))) ⟨rfl, rfl⟩ trivial
  have moved := second.step (Action.moveAssign 0 1) (.inl ⟨_, _, rfl, rfl⟩) (.inr nofun)
  have pending := moved.step (Action.open 2) rfl trivial
  exact (accounted_of_reachableVia (pending.step (Action.drop 2) ⟨_, rfl⟩ rfl)).1

/-- A copy of a directory is destroyed, and then the directory. An open directory is replaced. The
promise of `open()` is dropped after the thread pool is done with it. -/
theorem closed_twice_or_never :
    (∃ state : State, system.Reachable state ∧ state.closes (.dir 7) = 2 ∧
      ¬state.books.Accounted) ∧
    (∃ state : State, system.Reachable state ∧ state.closes (.dir 7) = 0 ∧
      state.objects 0 = some (.directory .emptied) ∧
      state.objects 1 = some (.directory .emptied) ∧ ¬state.books.Accounted) ∧
    ∃ state : State, system.Reachable state ∧ state.closes (.dir 7) = 0 ∧
      state.requests 0 = some { progress := .executed (.ok (.dir 7)), data := false } ∧
      ¬state.books.Accounted := by
  have start : system.ReachableVia Careful {} := .start rfl
  have queued := start.step (Action.open 0) rfl trivial
  have executing := queued.step (Action.execute 0) ⟨_, rfl⟩ trivial
  have executed := executing.step (Action.finish 0 (.ok (.dir 7))) ⟨⟨_, rfl⟩, fun _ _ => rfl⟩
    (by rintro _ ⟨⟩; rfl)
  have called := executed.step (Action.onFileOpDone 0 (.ok (.dir 7))) ⟨_, rfl⟩ trivial
  have opened := called.step (Action.resume 0 0 (.ok (.dir 7))) ⟨rfl, rfl⟩ trivial
  refine ⟨?copied, ?replaced, ?dropped⟩
  case copied =>
    have copied := opened.reachable.step (Action.copy 1 0) ⟨rfl, _, rfl⟩ trivial
    have destroyed := copied.step (Action.destroy 1) rfl trivial
    refine ⟨_, destroyed.step (Action.destroy 0) rfl trivial, rfl, fun accounted => ?_⟩
    rcases accounted.once (.dir 7) rfl with ⟨kept, -⟩ | ⟨once, -⟩
    · exact absurd kept (by decide)
    · exact absurd once (by decide)
  case replaced =>
    have moved := opened.step (Action.moveConstruct 1 0) ⟨rfl, rfl⟩ trivial
    refine ⟨_, moved.reachable.step (Action.moveAssign 1 0) (.inr ⟨_, _, rfl, rfl⟩) trivial, rfl,
      rfl, rfl, fun accounted => ?_⟩
    rcases accounted.once (.dir 7) rfl with ⟨-, held⟩ | ⟨once, -⟩
    · rcases held with ⟨object | request, held⟩
      · simp [books, system, Action.perform, State.moveAssign, State.moveConstruct, State.resume,
          State.store, State.setRequest, State.onFileOpDone, State.finish, Object.opened,
          Function.update_apply] at held
        grind [Object.handle, Directory.emptied]
      · simp [books, system, Action.perform, State.moveAssign, State.moveConstruct, State.resume,
          State.store, State.setRequest, State.onFileOpDone, State.finish, Object.opened] at held
    · exact absurd once (by decide)
  case dropped =>
    refine ⟨_, executed.reachable.step (Action.drop 0) ⟨_, rfl⟩ trivial, rfl, rfl,
      fun accounted => ?_⟩
    rcases accounted.once (.dir 7) rfl with ⟨-, held⟩ | ⟨once, -⟩
    · rcases held with ⟨object | (_ | request), held⟩
      · exact nomatch held
      · exact nomatch held
      · exact nomatch held
    · exact absurd once (by decide)

end State

end Uvco.Files
