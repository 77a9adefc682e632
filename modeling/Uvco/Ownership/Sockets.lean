import Uvco.Library.Ownership
import Uvco.Library.Transition

/-!
# Handles of streams and sockets

This file embeds how `StreamBase` (with `TcpStream`, `UnixStream` and `TtyStream`),
`Udp` and `StreamServerBase` own a libuv handle: their construction, their defaulted
move operations, `close()` and their destructors, together with `closeHandle()` and
`UvHandleDeleter`.

No operation is pending: the data pointers of the handles are null, and nobody is in
`reader_` or `writer_`. libuv calls the close callback of a handle once, at some time
after `uv_close`.
-/

namespace Uvco.Sockets

/-- `uv_handle_type`. -/
inductive UvHandleType where
  | unknown | async | check | fsEvent | fsPoll | handle | idle | namedPipe | poll | prepare
  | process | stream | tcp | timer | tty | udp | signal | file
deriving DecidableEq, Repr

/-- Who has deleted the memory of a handle. -/
inductive Release where
  | closeCallback
  | deleter
deriving DecidableEq, Repr

/-- A handle that was initialised. -/
structure UvHandle where
  type : UvHandleType
  /-- The number of calls of `uv_close`. -/
  closes : ℕ := 0
  releases : List Release := []
deriving DecidableEq, Repr

/-- The cases of the `switch` in `UvHandleDeleter::del`. -/
def UvHandleDeleter.hasCase : UvHandleType → Bool
  | .async | .check | .fsEvent | .fsPoll | .handle | .idle | .poll | .prepare | .process
  | .stream | .tcp | .udp | .namedPipe | .tty | .timer => true
  | .unknown | .signal | .file => false

/-- `UvHandleDeleter::del`: an assertion fails if there is no case. -/
def UvHandleDeleter.del (release : Release) (handle : UvHandle) : UvHandle :=
  if hasCase handle.type then { handle with releases := handle.releases ++ [release] } else handle

/-- `std::default_delete`. -/
def defaultDelete (handle : UvHandle) : UvHandle :=
  { handle with releases := handle.releases ++ [.deleter] }

/-- `onCloseCallback`. -/
def onCloseCallback : UvHandle → UvHandle :=
  UvHandleDeleter.del .closeCallback

/-- `closeHandle`. -/
def closeHandle (handle : UvHandle) : UvHandle :=
  { handle with closes := handle.closes + 1 }

/-- `isClosed`. -/
def isClosed (handle : UvHandle) : Bool :=
  handle.closes != 0

/-- The classes that own a handle of libuv. -/
inductive Class where
  | streamBase
  | udp
  | streamServerBase
deriving DecidableEq, Repr

namespace Class

/-- The handles that the objects of a class are made of. -/
def types : Class → List UvHandleType
  | .streamBase => [.tcp, .namedPipe, .tty]
  | .udp => [.udp]
  | .streamServerBase => [.tcp, .namedPipe]

/-- The deleter of the `std::unique_ptr` in the objects of a class. -/
def deleter : Class → UvHandle → UvHandle
  | .streamBase => UvHandleDeleter.del .deleter
  | .udp | .streamServerBase => defaultDelete

theorem hasCase_of_mem {cls : Class} {type : UvHandleType} (type_mem : type ∈ cls.types) :
    UvHandleDeleter.hasCase type = true := by
  cases cls <;> simp only [types, List.mem_cons, List.not_mem_nil, or_false] at type_mem
  · rcases type_mem with rfl | rfl | rfl <;> rfl
  · subst type_mem
    rfl
  · rcases type_mem with rfl | rfl <;> rfl

end Class

/-- An object with its pointer to the handle. -/
structure Object where
  cls : Class
  /-- `stream_`, `udp_` or `socket_`. -/
  handle : Option ℕ
deriving DecidableEq, Repr

/-- The objects of a program and the handles they have made. -/
structure State where
  objects : ℕ → Option Object := fun _ => none
  handles : ℕ → Option UvHandle := fun _ => none

namespace State

variable (state : State) (object source target : ℕ)

/-- `get()` of the `std::unique_ptr` in an object. -/
def pointer : Option ℕ :=
  (state.objects object).bind (·.handle)

/-- The object leads to another handle, or to none. -/
def setPointer (handle : Option ℕ) : State :=
  { state with
    objects := Function.update state.objects object
      ((state.objects object).map fun existing => { existing with handle }) }

/-- Changes a handle, if it exists. -/
def modify (handle : ℕ) (change : UvHandle → UvHandle) : State :=
  { state with
    handles := Function.update state.handles handle ((state.handles handle).map change) }

/-- The pointer is reset, and something is done with the handle it led to. -/
def withReleased (change : UvHandle → UvHandle) : State :=
  match state.pointer object with
  | some handle => (state.setPointer object none).modify handle change
  | none => state

/-- A handle is made, and an object that owns it. -/
def construct (cls : Class) (type : UvHandleType) (handle : ℕ) : State where
  objects := Function.update state.objects object (some { cls, handle := some handle })
  handles := Function.update state.handles handle (some { type })

/-- The defaulted move constructors. -/
def moveConstruct : State :=
  let given := state.pointer source
  let moved := state.setPointer source none
  { moved with
    objects := Function.update moved.objects object
      ((state.objects source).map fun existing => { existing with handle := given }) }

/-- The defaulted `operator=`: `reset(other.release())` for the pointers. -/
def moveAssign (cls : Class) : State :=
  let given := state.pointer source
  let released := state.setPointer source none
  let old := released.pointer target
  let assigned := released.setPointer target given
  match old with
  | some handle => assigned.modify handle cls.deleter
  | none => assigned

/-- `StreamBase::close()`. -/
def closeStreamBase : State :=
  state.withReleased object closeHandle

/-- `Udp::close()`. -/
def closeUdp : State :=
  state.withReleased object closeHandle

/-- `StreamServerBase::close()`. -/
def closeStreamServerBase : State :=
  match (state.pointer object).bind state.handles with
  | some handle => if isClosed handle then state else state.withReleased object closeHandle
  | none => state

/-- `close()` of the class. -/
def close : Class → State
  | .streamBase => state.closeStreamBase object
  | .udp => state.closeUdp object
  | .streamServerBase => state.closeStreamServerBase object

/-- The destructors: their bodies, and then that of the `std::unique_ptr`. The body of `~Udp` is
what `close()` does when nothing is pending. -/
def destroy (cls : Class) : State :=
  let closed := (state.close object cls).withReleased object cls.deleter
  { closed with objects := Function.update closed.objects object none }

end State

/-- What the program and libuv can do next. -/
inductive Action where
  | construct (cls : Class) (type : UvHandleType) (object handle : ℕ)
  | moveConstruct (object source : ℕ)
  | moveAssign (target source : ℕ) (cls : Class)
  | close (object : ℕ) (cls : Class)
  | destroy (object : ℕ) (cls : Class)
  /-- libuv calls the close callback. -/
  | onCloseCallback (handle : ℕ)

namespace Action

/-- The object exists and is of this class. -/
def Exists (state : State) (object : ℕ) (cls : Class) : Prop :=
  ∃ existing, state.objects object = some existing ∧ existing.cls = cls

/-- Close callbacks follow a call of `uv_close`, each of them once. -/
def Enabled (state : State) : Action → Prop
  | .construct cls type object handle => type ∈ cls.types ∧ state.objects object = none ∧
      state.handles handle = none
  | .moveConstruct object source => state.objects object = none ∧
      (state.objects source).isSome = true
  | .moveAssign target source cls => Exists state target cls ∧ Exists state source cls
  | .close object cls | .destroy object cls => Exists state object cls
  | .onCloseCallback handle => ∃ closing, state.handles handle = some closing ∧
      closing.closes ≠ 0 ∧ .closeCallback ∉ closing.releases

/-- The state after an action. -/
def perform (state : State) : Action → State
  | .construct cls type object handle => state.construct object cls type handle
  | .moveConstruct object source => state.moveConstruct object source
  | .moveAssign target source cls => state.moveAssign source target cls
  | .close object cls => state.close object cls
  | .destroy object cls => state.destroy object cls
  | .onCloseCallback handle => state.modify handle Sockets.onCloseCallback

end Action

/-- All programs over any number of objects. -/
def system : TransitionSystem State Action where
  Initial state := state = {}
  Enabled state action := action.Enabled state
  perform state action := action.perform state

/-! ## The books -/

namespace State

variable {state : State} {object source target : ℕ}

/-- Objects hold handles, and give them back by `uv_close`. -/
def books (state : State) : Ownership ℕ ℕ where
  holds := state.pointer
  obtained handle := (state.handles handle).isSome
  returned handle := ((state.handles handle).map (·.closes)).getD 0

theorem pointer_setPointer {handle : Option ℕ}
    (possible : handle = none ∨ (state.objects object).isSome = true) :
    (state.setPointer object handle).pointer = Function.update state.pointer object handle := by
  funext other
  by_cases same : other = object
  · subst same
    rw [Function.update_self]
    rcases existing : state.objects other with _ | existing_object
    · rcases possible with rfl | exists_
      · simp [pointer, setPointer, existing]
      · simp [existing] at exists_
    · simp [pointer, setPointer, existing]
  · rw [Function.update_of_ne same]
    simp [pointer, setPointer, Function.update_of_ne same]

theorem books_modify {handle : ℕ} {change : UvHandle → UvHandle}
    (closes_eq : ∀ existing, (change existing).closes = existing.closes) :
    (state.modify handle change).books = state.books := by
  ext other : 2
  · rfl
  · by_cases same : other = handle
    · subst same
      simp [books, modify]
    · simp [books, modify, Function.update_of_ne same]
  · by_cases same : other = handle
    · subst same
      simp [books, modify, Option.map_map, Function.comp_def, closes_eq]
    · simp [books, modify, Function.update_of_ne same]

theorem closes_del (release : Release) (handle : UvHandle) :
    (UvHandleDeleter.del release handle).closes = handle.closes := by
  unfold UvHandleDeleter.del
  split <;> rfl

theorem closes_deleter (cls : Class) (handle : UvHandle) :
    (cls.deleter handle).closes = handle.closes := by
  cases cls with
  | streamBase => exact closes_del .deleter handle
  | udp | streamServerBase => rfl

theorem Accounted.known (accounted : state.books.Accounted) {handle : ℕ}
    (pointer_eq : state.pointer object = some handle) :
    ∃ existing, state.handles handle = some existing ∧ existing.closes = 0 := by
  rcases accounted.of_held pointer_eq with ⟨known, kept⟩
  obtain ⟨existing, handles_eq⟩ := Option.isSome_iff_exists.mp known
  refine ⟨existing, handles_eq, ?_⟩
  simpa [books, handles_eq] using kept

theorem withReleased_of_none {change : UvHandle → UvHandle}
    (pointer_eq : state.pointer object = none) : state.withReleased object change = state := by
  simp only [withReleased, pointer_eq]

theorem withReleased_of_some {handle : ℕ} {change : UvHandle → UvHandle}
    (pointer_eq : state.pointer object = some handle) :
    state.withReleased object change = (state.setPointer object none).modify handle change := by
  simp only [withReleased, pointer_eq]

theorem books_withReleased (accounted : state.books.Accounted) :
    (state.withReleased object closeHandle).books = state.books.giveBack object := by
  rcases pointer_eq : state.pointer object with _ | handle
  · rw [withReleased_of_none pointer_eq]
    exact (Ownership.giveBack_of_none pointer_eq).symm
  · rcases Accounted.known accounted pointer_eq with ⟨existing, handles_eq, -⟩
    have giveBack_eq :=
      Ownership.giveBack_of_some (show state.books.holds object = _ from pointer_eq)
    rw [withReleased_of_some pointer_eq, giveBack_eq]
    ext other : 2
    · exact congrFun (pointer_setPointer (.inl rfl)) other
    · by_cases same : other = handle
      · subst same
        simp [books, modify, setPointer, Ownership.forget]
      · simp [books, modify, setPointer, Ownership.forget, Function.update_of_ne same]
    · by_cases same : other = handle
      · subst same
        simp [books, modify, setPointer, handles_eq, closeHandle]
      · simp [books, modify, setPointer, Function.update_of_ne same]

theorem pointer_withReleased {change : UvHandle → UvHandle} :
    (state.withReleased object change).pointer object = none := by
  unfold withReleased
  split
  · change (state.setPointer object none).pointer object = none
    rw [pointer_setPointer (.inl rfl), Function.update_self]
  · assumption

theorem closeStreamServerBase_eq (accounted : state.books.Accounted) :
    state.closeStreamServerBase object = state.withReleased object closeHandle := by
  unfold closeStreamServerBase
  rcases pointer_eq : state.pointer object with _ | handle
  · simp only [Option.bind_none, withReleased, pointer_eq]
  · rcases Accounted.known accounted pointer_eq with ⟨existing, handles_eq, kept⟩
    have not_closed : isClosed existing = false := by simp [isClosed, kept]
    simp only [Option.bind_some, handles_eq, not_closed, Bool.false_eq_true, if_false]

theorem close_eq (accounted : state.books.Accounted) (cls : Class) :
    state.close object cls = state.withReleased object closeHandle := by
  cases cls with
  | streamBase | udp => rfl
  | streamServerBase => exact closeStreamServerBase_eq accounted

/-- Nothing is left for the `std::unique_ptr` to delete when the body of a destructor has run. -/
theorem destroy_eq (accounted : state.books.Accounted) (cls : Class) :
    state.destroy object cls =
      { state.withReleased object closeHandle with
        objects :=
          Function.update (state.withReleased object closeHandle).objects object none } := by
  unfold destroy
  rw [close_eq accounted, withReleased_of_none pointer_withReleased]

theorem books_removed (pointer_eq : state.pointer object = none) :
    ({ state with objects := Function.update state.objects object none } : State).books =
      state.books := by
  ext other : 2
  · by_cases same : other = object
    · subst same
      simpa [books, pointer] using pointer_eq.symm
    · simp [books, pointer, Function.update_of_ne same]
  · rfl
  · rfl

theorem books_construct (fresh : state.handles handle = none) (cls : Class) (type : UvHandleType) :
    (state.construct object cls type handle).books = state.books.acquire object handle := by
  ext other : 2
  · by_cases same : other = object
    · subst same
      simp [books, pointer, construct, Ownership.acquire]
    · simp [books, pointer, construct, Ownership.acquire, Function.update_of_ne same]
  · by_cases same : other = handle
    · subst same
      simp [books, construct, Ownership.acquire]
    · simp [books, construct, Ownership.acquire, Function.update_of_ne same]
  · by_cases same : other = handle
    · subst same
      simp [books, construct, Ownership.acquire, fresh]
    · simp [books, construct, Ownership.acquire, Function.update_of_ne same]

theorem books_moveConstruct (differs : source ≠ object)
    (exists_ : (state.objects source).isSome = true) :
    (state.moveConstruct object source).books = state.books.pass source object := by
  obtain ⟨existing, objects_eq⟩ := Option.isSome_iff_exists.mp exists_
  ext other : 2
  · by_cases is_source : other = source
    · subst is_source
      simp [books, pointer, moveConstruct, setPointer, Ownership.pass, Ownership.forget,
        Function.update_of_ne differs, objects_eq]
    · by_cases same : other = object
      · subst same
        simp [books, pointer, moveConstruct, setPointer, Ownership.pass, Ownership.forget,
          Ownership.share, Function.update_of_ne is_source, objects_eq]
      · simp [books, pointer, moveConstruct, setPointer, Ownership.pass, Ownership.forget,
          Ownership.share, Function.update_of_ne is_source, Function.update_of_ne same]
  · rfl
  · rfl

theorem pointer_moveAssign {cls : Class} (target_exists : (state.objects target).isSome = true)  :
    (state.moveAssign source target cls).pointer =
      Function.update (Function.update state.pointer source none) target
        (state.pointer source) := by
  have still_exists : ((state.setPointer source none).objects target).isSome = true := by
    by_cases same : target = source
    · subst same
      simpa [setPointer] using target_exists
    · simpa [setPointer, Function.update_of_ne same] using target_exists
  have pointer_eq : ((state.setPointer source none).setPointer target
      (state.pointer source)).pointer =
      Function.update (Function.update state.pointer source none) target
        (state.pointer source) := by
    rw [pointer_setPointer (.inr still_exists), pointer_setPointer (.inl rfl)]
  unfold moveAssign
  dsimp only
  split
  · exact pointer_eq
  · exact pointer_eq

theorem handles_moveAssign {cls : Class}
    (free : (state.setPointer source none).pointer target = none) :
    (state.moveAssign source target cls).handles = state.handles := by
  unfold moveAssign
  simp only [free]
  rfl

/-- A move assignment onto itself, or onto an object without a handle. -/
theorem books_moveAssign {cls : Class} (target_exists : (state.objects target).isSome = true)
    (allowed : target = source ∨ state.pointer target = none) :
    (state.moveAssign source target cls).books =
        (if target = source then state.books else state.books.pass source target) ∧
      (state.moveAssign source target cls).handles = state.handles := by
  have handles_eq : (state.moveAssign source target cls).handles = state.handles := by
    refine handles_moveAssign ?_
    rw [pointer_setPointer (.inl rfl)]
    rcases allowed with rfl | free
    · rw [Function.update_self]
    · by_cases same : target = source
      · rw [same, Function.update_self]
      · rw [Function.update_of_ne same, free]
  refine ⟨?_, handles_eq⟩
  have books_eq : ∀ expected : Ownership ℕ ℕ, expected.obtained = state.books.obtained →
      expected.returned = state.books.returned →
      (state.moveAssign source target cls).pointer = expected.holds →
      (state.moveAssign source target cls).books = expected := by
    intro expected obtained_eq returned_eq holds_eq
    ext other : 2
    · exact congrFun holds_eq other
    · rw [obtained_eq]
      simp only [books, handles_eq]
    · rw [returned_eq]
      simp only [books, handles_eq]
  split
  · rename_i same
    subst same
    refine books_eq _ rfl rfl ?_
    rw [pointer_moveAssign target_exists, Function.update_idem, Function.update_eq_self]
    rfl
  · rename_i differs
    refine books_eq _ rfl rfl ?_
    rw [pointer_moveAssign target_exists, Function.update_comm (Ne.symm differs)]
    rfl

end State

/-! ## The invariant -/

/-- The memory of a handle is released by its close callback. -/
structure UvHandle.Sound (handle : UvHandle) : Prop where
  hasCase : UvHandleDeleter.hasCase handle.type = true
  releases : handle.releases = [] ∨ handle.closes ≠ 0 ∧ handle.releases = [.closeCallback]

namespace State

/-- What holds in every run that meets the condition. -/
structure Invariant (state : State) : Prop where
  accounted : state.books.Accounted
  exclusive : ∀ handle, state.books.Exclusive handle
  sound : ∀ handle existing, state.handles handle = some existing → existing.Sound

/-- `uv_close` has been called once on every handle that no object holds, and on no other one; and
memory is released by the close callback only. -/
def ClosedOnce (state : State) : Prop :=
  ∀ handle existing, state.handles handle = some existing →
    state.books.Held handle ∧ existing.closes = 0 ∧ existing.releases = [] ∨
      ¬state.books.Held handle ∧ existing.closes = 1 ∧
        (existing.releases = [] ∨ existing.releases = [.closeCallback])

/-- No move assignment replaces a handle. -/
def ReplacesNothing (state : State) : Action → Prop
  | .moveAssign target source _ => target = source ∨ state.pointer target = none
  | .construct .. | .moveConstruct .. | .close .. | .destroy .. | .onCloseCallback _ => True

namespace Invariant

variable {state : State}

theorem closedOnce (invariant : state.Invariant) : state.ClosedOnce := by
  intro handle existing handles_eq
  have known : state.books.obtained handle = true := by simp [books, handles_eq]
  have returned_eq : state.books.returned handle = existing.closes := by simp [books, handles_eq]
  have releases := (invariant.sound handle existing handles_eq).releases
  rcases invariant.accounted.once handle known with ⟨kept, held⟩ | ⟨given, not_held⟩
  · rw [returned_eq] at kept
    rcases releases with nothing | ⟨closed, -⟩
    · exact .inl ⟨held, kept, nothing⟩
    · exact absurd kept closed
  · rw [returned_eq] at given
    exact .inr ⟨not_held, given, releases.imp_right And.right⟩

theorem initial : ({} : State).Invariant where
  accounted := ⟨fun _ _ => ⟨rfl, fun ⟨_, held⟩ => nomatch held⟩, nofun⟩
  exclusive := fun _ _ _ held => nomatch held
  sound := nofun

theorem modify {handle : ℕ} {change : UvHandle → UvHandle}
    (sound : ∀ handle existing, state.handles handle = some existing → existing.Sound)
    (kept : ∀ existing, state.handles handle = some existing → (change existing).Sound) :
    ∀ other existing, (state.modify handle change).handles other = some existing →
      existing.Sound := by
  intro other existing handles_eq
  by_cases same : other = handle
  · subst same
    simp only [State.modify, Function.update_self, Option.map_eq_some_iff] at handles_eq
    rcases handles_eq with ⟨before, before_eq, rfl⟩
    exact kept before before_eq
  · simp only [State.modify, Function.update_of_ne same] at handles_eq
    exact sound other existing handles_eq

theorem close (invariant : state.Invariant) (object : ℕ) :
    (state.withReleased object closeHandle).Invariant := by
  rcases pointer_eq : state.pointer object with _ | handle
  · rw [withReleased_of_none pointer_eq]
    exact invariant
  · have books_eq := @books_withReleased state object invariant.accounted
    refine ⟨?_, ?_, ?_⟩
    · rw [books_eq]
      exact invariant.accounted.giveBack_iff.mpr
        (Ownership.Exclusive.alone fun resource _ => invariant.exclusive resource)
    · intro resource
      rw [books_eq]
      exact (invariant.exclusive resource).giveBack
    · rw [withReleased_of_some pointer_eq]
      refine modify (fun other existing => invariant.sound other existing) ?_
      intro existing handles_eq
      have sound := invariant.sound handle existing handles_eq
      have kept : existing.closes = 0 := by
        rcases Accounted.known invariant.accounted pointer_eq with ⟨_, same, kept⟩
        obtain rfl := Option.some.inj (handles_eq.symm.trans same)
        exact kept
      refine ⟨sound.hasCase, .inl ?_⟩
      rcases sound.releases with nothing | ⟨closed, -⟩
      · exact nothing
      · exact absurd kept closed

theorem of_pass {after : State} (invariant : state.Invariant) {source target : ℕ}
    (differs : source ≠ target) (free : state.pointer target = none)
    (books_eq : after.books = state.books.pass source target)
    (handles_eq : after.handles = state.handles) : after.Invariant := by
  refine ⟨?_, ?_, fun handle existing found => invariant.sound handle existing ?_⟩
  · rw [books_eq]
    exact (Ownership.accounted_pass_iff differs free).mpr invariant.accounted
  · intro resource
    rw [books_eq]
    exact (invariant.exclusive resource).pass differs free
  · exact handles_eq ▸ found

theorem of_books {after : State} (invariant : state.Invariant)
    (books_eq : after.books = state.books)
    (sound : ∀ handle existing, after.handles handle = some existing → existing.Sound) :
    after.Invariant :=
  ⟨books_eq.symm ▸ invariant.accounted,
    fun resource => books_eq.symm ▸ invariant.exclusive resource, sound⟩

theorem construct (invariant : state.Invariant) {cls : Class} {type : UvHandleType}
    {object handle : ℕ} (enabled : (Action.construct cls type object handle).Enabled state) :
    (state.construct object cls type handle).Invariant := by
  rcases enabled with ⟨type_mem, no_object, fresh⟩
  have unknown : state.books.obtained handle = false := by simp [books, fresh]
  have free : state.books.holds object = none := by simp [books, pointer, no_object]
  refine ⟨?_, ?_, ?_⟩
  · rw [books_construct fresh]
    exact invariant.accounted.acquire free unknown
  · intro resource
    rw [books_construct fresh]
    exact (invariant.exclusive resource).acquire (invariant.accounted.known handle unknown).2
  · intro other existing handles_eq
    by_cases same : other = handle
    · subst same
      simp only [State.construct, Function.update_self, Option.some.injEq] at handles_eq
      subst handles_eq
      exact ⟨Class.hasCase_of_mem type_mem, .inl rfl⟩
    · simp only [State.construct, Function.update_of_ne same] at handles_eq
      exact invariant.sound other existing handles_eq

theorem onCloseCallback (invariant : state.Invariant) {handle : ℕ}
    (enabled : (Action.onCloseCallback handle).Enabled state) :
    (state.modify handle Sockets.onCloseCallback).Invariant := by
  rcases enabled with ⟨closing, handles_eq, closed, not_called⟩
  refine invariant.of_books (books_modify fun existing => closes_del .closeCallback existing)
    (modify (fun other existing => invariant.sound other existing) fun existing found => ?_)
  obtain rfl := Option.some.inj (handles_eq.symm.trans found)
  rcases invariant.sound handle closing handles_eq with ⟨hasCase, releases⟩
  have nothing : closing.releases = [] := by
    rcases releases with nothing | ⟨-, called⟩
    · exact nothing
    · simp [called] at not_called
  simp only [Sockets.onCloseCallback, UvHandleDeleter.del, hasCase, if_true, nothing]
  exact ⟨hasCase, .inr ⟨closed, rfl⟩⟩

theorem step (invariant : state.Invariant) {action : Action} (enabled : action.Enabled state)
    (allowed : state.ReplacesNothing action) : (action.perform state).Invariant := by
  cases action with
  | construct cls type object handle => exact invariant.construct enabled
  | moveConstruct object source =>
      rcases enabled with ⟨no_object, exists_⟩
      have differs : source ≠ object := by
        rintro rfl
        simp [no_object] at exists_
      exact invariant.of_pass differs (by simp [pointer, no_object])
        (books_moveConstruct differs exists_) rfl
  | moveAssign target source cls =>
      rcases enabled with ⟨⟨existing, target_eq, -⟩, -⟩
      have target_exists : (state.objects target).isSome = true := by simp [target_eq]
      rcases books_moveAssign target_exists allowed with ⟨books_eq, handles_eq⟩
      by_cases same : target = source
      · rw [if_pos same] at books_eq
        exact invariant.of_books books_eq fun handle existing found =>
          invariant.sound handle existing (handles_eq ▸ found)
      · rw [if_neg same] at books_eq
        exact invariant.of_pass (Ne.symm same) (allowed.resolve_left same) books_eq handles_eq
  | close object cls =>
      change (state.close object cls).Invariant
      rw [close_eq invariant.accounted]
      exact invariant.close object
  | destroy object cls =>
      change (state.destroy object cls).Invariant
      rw [destroy_eq invariant.accounted]
      exact (invariant.close object).of_books (books_removed pointer_withReleased)
        fun handle existing => (invariant.close object).sound handle existing
  | onCloseCallback handle => exact invariant.onCloseCallback enabled

/-- A handle that a move assignment replaces is not closed any more. -/
theorem replaced (invariant : state.Invariant) {target source : ℕ} {cls : Class}
    (enabled : (Action.moveAssign target source cls).Enabled state) (differs : target ≠ source)
    {handle : ℕ} (pointer_eq : state.pointer target = some handle) :
    ¬(state.moveAssign source target cls).ClosedOnce := by
  rcases enabled with ⟨⟨_, target_eq, -⟩, -⟩
  have target_exists : (state.objects target).isSome = true := by simp [target_eq]
  rcases Accounted.known invariant.accounted pointer_eq with ⟨existing, handles_eq, kept⟩
  have still_held : ((state.setPointer source none).setPointer target
      (state.pointer source)).handles handle = some existing := handles_eq
  have after_eq : (state.moveAssign source target cls).handles handle =
      some (cls.deleter existing) := by
    have old_eq : (state.setPointer source none).pointer target = some handle := by
      rw [pointer_setPointer (.inl rfl), Function.update_of_ne differs, pointer_eq]
    simp only [moveAssign, old_eq, State.modify, Function.update_self, still_held, Option.map_some]
  have not_held : ¬(state.moveAssign source target cls).books.Held handle := by
    rintro ⟨holder, holder_eq⟩
    change (state.moveAssign source target cls).pointer holder = _ at holder_eq
    rw [pointer_moveAssign target_exists] at holder_eq
    by_cases is_target : holder = target
    · rw [is_target, Function.update_self] at holder_eq
      exact differs (invariant.exclusive handle target source pointer_eq holder_eq)
    · rw [Function.update_of_ne is_target] at holder_eq
      by_cases is_source : holder = source
      · simp [is_source] at holder_eq
      · rw [Function.update_of_ne is_source] at holder_eq
        exact is_target (invariant.exclusive handle holder target holder_eq pointer_eq)
  intro closedOnce
  rcases closedOnce handle _ after_eq with ⟨held, -⟩ | ⟨-, closed, -⟩
  · exact not_held held
  · rw [closes_deleter, kept] at closed
    simp at closed

end Invariant

theorem invariant_of_reachableVia {state : State}
    (reached : system.ReachableVia ReplacesNothing state) : state.Invariant := by
  refine TransitionSystem.ReachableVia.invariant Invariant ?_ ?_ reached
  · rintro _ rfl
    exact .initial
  · exact fun _ _ invariant enabled allowed => invariant.step enabled allowed

/-- As long as no move assignment replaces a handle, every handle is closed once; and the first one
that does leaves a handle that is not. -/
theorem closedOnce_of_reachableVia {state : State}
    (reached : system.ReachableVia ReplacesNothing state) :
    state.ClosedOnce ∧ ∀ action : Action, action.Enabled state →
      ((action.perform state).ClosedOnce ↔ state.ReplacesNothing action) := by
  have invariant := invariant_of_reachableVia reached
  refine ⟨invariant.closedOnce, fun action enabled => ⟨fun after => ?_, fun allowed => ?_⟩⟩
  · cases action with
    | moveAssign target source cls =>
        by_contra replaces
        rw [ReplacesNothing, not_or] at replaces
        obtain ⟨handle, pointer_eq⟩ := Option.ne_none_iff_exists'.mp replaces.2
        exact invariant.replaced enabled replaces.1 pointer_eq after
    | construct | moveConstruct | close | destroy | onCloseCallback => trivial
  · exact (invariant.step enabled allowed).closedOnce

/-- A stream is moved twice, onto a closed object and into a new one, and destroyed. -/
theorem closedOnce_moved :
    (([.construct .streamBase .tcp 0 10, .construct .streamBase .tty 1 11, .close 1 .streamBase,
        .moveAssign 1 0 .streamBase, .moveConstruct 2 1, .destroy 2 .streamBase,
        .onCloseCallback 10] : List Action).foldl Action.perform {}).ClosedOnce := by
  have start : system.ReachableVia ReplacesNothing {} := .start rfl
  have first := start.step (Action.construct .streamBase .tcp 0 10) ⟨by decide, rfl, rfl⟩ trivial
  have second := first.step (Action.construct .streamBase .tty 1 11) ⟨by decide, rfl, rfl⟩ trivial
  have closed := second.step (Action.close 1 .streamBase) ⟨_, rfl, rfl⟩ trivial
  have assigned := closed.step (Action.moveAssign 1 0 .streamBase) ⟨⟨_, rfl, rfl⟩, _, rfl, rfl⟩
    (.inr rfl)
  have moved := assigned.step (Action.moveConstruct 2 1) ⟨rfl, rfl⟩ trivial
  have destroyed := moved.step (Action.destroy 2 .streamBase) ⟨_, rfl, rfl⟩ trivial
  exact (closedOnce_of_reachableVia (destroyed.step (Action.onCloseCallback 10)
    ⟨_, rfl, by decide, by decide⟩ trivial)).1

/-- An open socket is move-assigned onto another one. -/
theorem moveAssign_onto_open : ∃ state : State, system.Reachable state ∧
    state.handles 10 = some { type := .udp, closes := 0, releases := [.deleter] } ∧
    ¬state.ClosedOnce := by
  have start : system.ReachableVia ReplacesNothing {} := .start rfl
  have first := start.step (Action.construct .udp .udp 0 10) ⟨by decide, rfl, rfl⟩ trivial
  have second := first.step (Action.construct .udp .udp 1 11) ⟨by decide, rfl, rfl⟩ trivial
  have enabled : (Action.moveAssign 0 1 .udp).Enabled
      (([.construct .udp .udp 0 10, .construct .udp .udp 1 11] : List Action).foldl
        Action.perform {}) := ⟨⟨_, rfl, rfl⟩, _, rfl, rfl⟩
  refine ⟨_, second.reachable.step (Action.moveAssign 0 1 .udp) enabled trivial, rfl, ?_⟩
  exact (invariant_of_reachableVia second).replaced enabled (by decide) rfl

end State

end Uvco.Sockets
