import Mathlib.Data.Nat.Notation
import Mathlib.Logic.Function.Basic
import Uvco.Library.Transition

/-!
# Reading and writing files in the thread pool

`File::read`, `File::write` and `File::close` of `uvco/fs.cc` hand the number of the
descriptor to libuv, and the first two also the buffer of the caller. A worker of the
thread pool takes a request out of the queue, looks the descriptor up when it enters the
system call, and uses the buffer until this has finished; before and in between, a `File`
can be closed, and a promise can be dropped. The requests of the thread pool are executed
in any order. The system hands out the numbers of closed descriptors again.

A caller keeps the buffer of a request as long as its promise, and no longer.
-/

namespace Uvco.FileOperations

/-- A `char` of a buffer or of a file. -/
abbrev Byte := UInt8

/-- What a request is to do. -/
inductive Kind where
  /-- `File::read`, with a buffer of this size. -/
  | read (size : ℕ) (offset : Int)
  | write (buffer : List Byte) (offset : Int)
  | close
deriving DecidableEq, Repr

/-- How far the thread pool has got with a request. -/
inductive Progress where
  | queued
  /-- A worker has taken it; `uv_cancel` fails. -/
  | dequeued
  /-- The worker has found this file under the number of the descriptor. -/
  | executing (found : Option ℕ)
  /-- What was read, or how much was written. -/
  | executed (found : Option ℕ) (read : List Byte) (count : ℕ)
  /-- `uv_cancel` has succeeded. -/
  | cancelled
deriving DecidableEq, Repr

/-- The file that a worker has found. -/
def Progress.found : Progress → Option (Option ℕ)
  | .executing found | .executed found _ _ => some found
  | .queued | .dequeued | .cancelled => none

/-- The descriptor is still to be looked up. -/
def Progress.isPending : Progress → Bool
  | .queued | .dequeued => true
  | .executing _ | .executed .. | .cancelled => false

/-- The buffer is still to be used. -/
def Progress.isUnfinished : Progress → Bool
  | .queued | .dequeued | .executing _ => true
  | .executed .. | .cancelled => false

/-- A `uv_fs_t`, and the file that it was meant for. -/
structure Operation where
  file : ℕ
  descriptor : ℕ
  kind : Kind
  progress : Progress := .queued
  /-- The promise exists, and the buffer of the caller. -/
  awaited : Bool
deriving DecidableEq, Repr

/-- A file that the system has opened. -/
structure OpenFile where
  inode : ℕ
  position : ℕ := 0
deriving DecidableEq, Repr

/-- `file_` of a `File` object, and the file that it was opened for. -/
structure File where
  descriptor : ℕ
  file : ℕ
deriving DecidableEq, Repr

/-- `file()` in the arguments of libuv. Nobody waits for a `close()`. -/
def request (file : File) (kind : Kind) : Operation :=
  { file := file.file, descriptor := file.descriptor, kind, awaited := kind ≠ .close }

/-- The `File` objects of a program, their requests, and the process's descriptors and files. -/
structure State where
  /-- The `File` objects; `file_` of a closed one is -1. -/
  objects : ℕ → Option (Option File) := fun _ => none
  operations : ℕ → Option Operation := fun _ => none
  /-- The descriptors of the process. -/
  descriptors : ℕ → Option ℕ := fun _ => none
  files : ℕ → Option OpenFile := fun _ => none
  contents : ℕ → List Byte := fun _ => []
  /-- A worker has used a buffer that does not exist any more. -/
  corrupted : Bool := false

namespace State

variable (state : State)

/-- Changes what a `File` object holds. -/
def setObject (object : ℕ) (file : Option File) : State :=
  { state with objects := Function.update state.objects object (some file) }

/-- Changes a request. -/
def setOperation (number : ℕ) (operation : Operation) : State :=
  { state with operations := Function.update state.operations number (some operation) }

/-- The coroutine of `File::open` is resumed; the system has chosen the descriptor. -/
def opened (object inode : ℕ) (file : File) : State :=
  { state.setObject object (some file) with
    descriptors := Function.update state.descriptors file.descriptor (some file.file)
    files := Function.update state.files file.file (some { inode }) }

/-- `uv_fs_read`, `uv_fs_write` or `uv_fs_close` with the descriptor of an object. -/
def submit (number : ℕ) (file : File) (kind : Kind) : State :=
  state.setOperation number (request file kind)

/-- `File::read` and `File::write`. -/
def call (number object : ℕ) (kind : Kind) : State :=
  match state.objects object with
  | some (some file) => state.submit number file kind
  | some none | none => state

/-- `File::close()`; the destructor and the move assignment call it. -/
def close (number object : ℕ) : State :=
  match state.objects object with
  | some (some file) => (state.submit number file .close).setObject object none
  | some none | none => state

/-- The move constructor. -/
def move (object source : ℕ) : State :=
  match state.objects source with
  | some file => (state.setObject source none).setObject object file
  | none => state

/-- `close(2)`. -/
def release (descriptor : ℕ) : State :=
  { state with descriptors := Function.update state.descriptors descriptor none }

/-- A worker takes a request out of the queue. -/
def dequeue (number : ℕ) : State :=
  match state.operations number with
  | some operation => state.setOperation number { operation with progress := .dequeued }
  | none => state

/-- The worker enters the system call, which looks up the descriptor. -/
def execute (number : ℕ) : State :=
  match state.operations number with
  | some operation =>
      let found := state.descriptors operation.descriptor
      let begun := state.setOperation number { operation with progress := .executing found }
      if operation.kind = .close then begun.release operation.descriptor else begun
  | none => state

/-- Where a file is read or written. -/
def start (file : OpenFile) (offset : Int) : ℕ :=
  if offset < 0 then file.position else offset.toNat

/-- `write(2)`. -/
def overwrite (contents : List Byte) (start : ℕ) (buffer : List Byte) : List Byte :=
  contents.take start ++ List.replicate (start - contents.length) 0 ++ buffer ++
    contents.drop (start + buffer.length)

/-- The position of a file after it was used without an offset. -/
def advance (id : ℕ) (file : OpenFile) (offset : Int) (count : ℕ) : State :=
  if offset < 0 then
    { state with
      files := Function.update state.files id
        (some { file with position := file.position + count }) }
  else state

/-- A worker has transferred at most so many bytes. -/
def transfer (operation : Operation) (found : Option ℕ) (limit : ℕ) :
    State × List Byte × ℕ :=
  match found.bind fun id => (state.files id).map fun file => (id, file) with
  | none => (state, [], 0)
  | some (id, file) =>
      match operation.kind with
      | .read size offset =>
          let read := ((state.contents file.inode).drop (start file offset)).take (min size limit)
          (state.advance id file offset read.length, read, read.length)
      | .write buffer offset =>
          let written := buffer.take limit
          let contents :=
            overwrite (state.contents file.inode) (start file offset) written
          ({ state.advance id file offset written.length with
            contents := Function.update state.contents file.inode contents }, [], written.length)
      | .close => (state, [], 0)

/-- A worker has finished with a request. -/
def finish (number limit : ℕ) : State :=
  match state.operations number with
  | some operation =>
      match operation.progress with
      | .executing found =>
          let (transferred, read, count) := state.transfer operation found limit
          { transferred.setOperation number
              { operation with progress := .executed found read count } with
            corrupted := state.corrupted ||
              (operation.kind ≠ .close && !operation.awaited) }
      | .queued | .dequeued | .executed .. | .cancelled => state
  | none => state

/-- The promise of an operation is dropped; `uv_cancel` succeeds for a request in the queue. -/
def drop (number : ℕ) : State :=
  match state.operations number with
  | some operation =>
      state.setOperation number { operation with
        awaited := false
        progress :=
          if operation.progress = .queued then .cancelled else operation.progress }
  | none => state

end State

/-- What the program, the thread pool and the system do; a `File` that is destroyed or assigned to
is closed. -/
inductive Action where
  | opened (object inode : ℕ) (file : File)
  | call (number object : ℕ) (kind : Kind)
  | close (number object : ℕ)
  | move (object source : ℕ)
  | dequeue (number : ℕ)
  | execute (number : ℕ)
  | finish (number limit : ℕ)
  | drop (number : ℕ)

namespace Action

/-- The system chooses a descriptor that is free. `file()` asserts that the object is open. -/
def Enabled (state : State) : Action → Prop
  | .opened object _ file => state.objects object = none ∧
      state.descriptors file.descriptor = none ∧ state.files file.file = none
  | .call number object kind => state.operations number = none ∧ kind ≠ .close ∧
      ∃ file, state.objects object = some (some file)
  | .close number object => state.operations number = none ∧ (state.objects object).isSome = true
  | .move object source => state.objects object = none ∧ (state.objects source).isSome = true
  | .dequeue number => ∃ operation, state.operations number = some operation ∧
      operation.progress = .queued
  | .execute number => ∃ operation, state.operations number = some operation ∧
      operation.progress = .dequeued
  | .finish number _ => ∃ operation found, state.operations number = some operation ∧
      operation.progress = .executing found
  | .drop number => ∃ operation, state.operations number = some operation ∧
      operation.awaited = true

/-- The state after an action. -/
def perform (state : State) : Action → State
  | .opened object inode file => state.opened object inode file
  | .call number object kind => state.call number object kind
  | .close number object => state.close number object
  | .move object source => state.move object source
  | .dequeue number => state.dequeue number
  | .execute number => state.execute number
  | .finish number limit => state.finish number limit
  | .drop number => state.drop number

end Action

/-- All programs that use files. -/
def system : TransitionSystem State Action where
  Initial state := state = {}
  Enabled state action := action.Enabled state
  perform state action := action.perform state

namespace State

/-- Every operation has found the file that its `File` was opened for, and no buffer was used
after its time. -/
structure Intact (state : State) : Prop where
  own_file : ∀ number operation found, state.operations number = some operation →
    operation.progress.found = some found → found = some operation.file
  not_corrupted : state.corrupted = false

/-- When a file is closed, no request for its descriptor is in the queue or about to be executed by
a worker, and no worker has a request whose promise is dropped. -/
def Careful (state : State) : Action → Prop
  | .close _ object => ∀ file, state.objects object = some (some file) →
      ∀ number operation, state.operations number = some operation →
        operation.progress.isPending = true → operation.descriptor ≠ file.descriptor
  | .drop number => ∀ operation, state.operations number = some operation →
      operation.progress = .queued ∨ operation.progress.isUnfinished = false
  | .opened .. | .call .. | .move .. | .dequeue _ | .execute _ | .finish .. => True

/-! ## What is kept along a run -/

/-- What holds in every run that meets the condition. -/
structure Invariant (state : State) : Prop where
  /-- An object owns its descriptor. -/
  object : ∀ object file, state.objects object = some (some file) →
    state.descriptors file.descriptor = some file.file
  distinct : ∀ object other file another, object ≠ other →
    state.objects object = some (some file) → state.objects other = some (some another) →
      file.descriptor ≠ another.descriptor
  /-- So does a request that was not executed yet. -/
  queued : ∀ number operation, state.operations number = some operation →
    operation.progress.isPending = true →
      state.descriptors operation.descriptor = some operation.file
  /-- Nobody else uses a descriptor that is about to be closed. -/
  closing : ∀ number operation, state.operations number = some operation →
    operation.progress.isPending = true → operation.kind = .close →
      (∀ object file, state.objects object = some (some file) →
        file.descriptor ≠ operation.descriptor) ∧
      ∀ other another, other ≠ number → state.operations other = some another →
        another.progress.isPending = true → another.descriptor ≠ operation.descriptor
  /-- The buffer exists until the request was executed. -/
  buffer : ∀ number operation, state.operations number = some operation →
    operation.kind ≠ .close → operation.awaited = false →
      operation.progress.isUnfinished = false
  intact : state.Intact

namespace Invariant

variable {state : State}

/-- What the files contain does not matter. -/
theorem of_same (invariant : state.Invariant) {after : State}
    (objects_eq : after.objects = state.objects)
    (operations_eq : after.operations = state.operations)
    (descriptors_eq : after.descriptors = state.descriptors)
    (corrupted_eq : after.corrupted = state.corrupted) : after.Invariant := by
  constructor
  · rw [objects_eq, descriptors_eq]
    exact invariant.object
  · rw [objects_eq]
    exact invariant.distinct
  · rw [operations_eq, descriptors_eq]
    exact invariant.queued
  · rw [objects_eq, operations_eq]
    exact invariant.closing
  · rw [operations_eq]
    exact invariant.buffer
  · exact ⟨operations_eq ▸ invariant.intact.own_file,
      corrupted_eq.trans invariant.intact.not_corrupted⟩

/-- A request has looked up its descriptor, or will not do so any more. -/
theorem settle (invariant : state.Invariant) {number : ℕ} {operation : Operation}
    (not_pending : operation.progress.isPending = false)
    (own_file : ∀ found, operation.progress.found = some found → found = some operation.file)
    (buffer : operation.kind ≠ .close → operation.awaited = false →
      operation.progress.isUnfinished = false) :
    (state.setOperation number operation).Invariant := by
  have earlier : ∀ other another, (state.setOperation number operation).operations other =
      some another → another.progress.isPending = true →
        other ≠ number ∧ state.operations other = some another := by
    intro other another found queued
    by_cases same : other = number
    · subst same
      simp only [setOperation, Function.update_self, Option.some.injEq] at found
      subst found
      simp [not_pending] at queued
    · simp only [setOperation, Function.update_of_ne same] at found
      exact ⟨same, found⟩
  refine ⟨invariant.object, invariant.distinct, ?_, ?_, ?_, ?_, invariant.intact.not_corrupted⟩
  · intro other another found queued
    exact invariant.queued other another (earlier other another found queued).2 queued
  · intro other another found queued closes
    rcases invariant.closing other another (earlier other another found queued).2 queued closes
      with ⟨objects, others⟩
    refine ⟨objects, fun third thrice differs third_found third_queued => ?_⟩
    exact others third thrice differs (earlier third thrice third_found third_queued).2 third_queued
  · intro other another found reads dropped
    by_cases same : other = number
    · subst same
      simp only [setOperation, Function.update_self, Option.some.injEq] at found
      subst found
      exact buffer reads dropped
    · simp only [setOperation, Function.update_of_ne same] at found
      exact invariant.buffer other another found reads dropped
  · intro other another target found is_found
    by_cases same : other = number
    · subst same
      simp only [setOperation, Function.update_self, Option.some.injEq] at found
      subst found
      exact own_file target is_found
    · simp only [setOperation, Function.update_of_ne same] at found
      exact invariant.intact.own_file other another target found is_found

theorem opened (invariant : state.Invariant) {object inode : ℕ} {file : File}
    (enabled : (Action.opened object inode file).Enabled state) :
    (state.opened object inode file).Invariant := by
  rcases enabled with ⟨-, free, -⟩
  have others : ∀ descriptor target, state.descriptors descriptor = some target →
      descriptor ≠ file.descriptor ∧ Function.update state.descriptors file.descriptor
        (some file.file) descriptor = some target := by
    intro descriptor target used
    have differs : descriptor ≠ file.descriptor := by
      rintro rfl
      exact nomatch free.symm.trans used
    exact ⟨differs, by rw [Function.update_of_ne differs]; exact used⟩
  have object_cases : ∀ other another,
      (state.opened object inode file).objects other = some (some another) →
        other = object ∧ another = file ∨
          other ≠ object ∧ state.objects other = some (some another) := by
    intro other another found
    by_cases same : other = object
    · subst same
      simp only [State.opened, setObject, Function.update_self, Option.some.injEq] at found
      exact .inl ⟨rfl, found.symm⟩
    · simp only [State.opened, setObject, Function.update_of_ne same] at found
      exact .inr ⟨same, found⟩
  refine ⟨?_, ?_, ?_, ?_, invariant.buffer, invariant.intact.own_file,
    invariant.intact.not_corrupted⟩
  · intro other another found
    rcases object_cases other another found with ⟨rfl, rfl⟩ | ⟨-, earlier⟩
    · exact Function.update_self _ _ _
    · exact (others _ _ (invariant.object other another earlier)).2
  · intro one two first second differs first_found second_found
    rcases object_cases one first first_found with ⟨rfl, rfl⟩ | ⟨-, first_earlier⟩
    · rcases object_cases two second second_found with ⟨rfl, -⟩ | ⟨-, second_earlier⟩
      · exact absurd rfl differs
      · exact ((others _ _ (invariant.object two second second_earlier)).1).symm
    · rcases object_cases two second second_found with ⟨rfl, rfl⟩ | ⟨-, second_earlier⟩
      · exact (others _ _ (invariant.object one first first_earlier)).1
      · exact invariant.distinct one two first second differs first_earlier second_earlier
  · intro other another found queued
    exact (others _ _ (invariant.queued other another found queued)).2
  · intro other another found queued closes
    rcases invariant.closing other another found queued closes with ⟨objects, requests⟩
    refine ⟨fun one first first_found => ?_, requests⟩
    rcases object_cases one first first_found with ⟨rfl, rfl⟩ | ⟨-, earlier⟩
    · exact ((others _ _ (invariant.queued other another found queued)).1).symm
    · exact objects one first earlier

theorem submit_cases {number : ℕ} {file : File} {kind : Kind} {other : ℕ} {another : Operation}
    (found : (state.submit number file kind).operations other = some another) :
    other = number ∧ another = request file kind ∨
      other ≠ number ∧ state.operations other = some another := by
  by_cases same : other = number
  · subst same
    simp only [submit, setOperation, Function.update_self, Option.some.injEq] at found
    exact .inl ⟨rfl, found.symm⟩
  · simp only [submit, setOperation, Function.update_of_ne same] at found
    exact .inr ⟨same, found⟩

theorem call (invariant : state.Invariant) {number object : ℕ} {kind : Kind}
    (enabled : (Action.call number object kind).Enabled state) :
    (state.call number object kind).Invariant := by
  rcases enabled with ⟨-, not_close, file, is_open⟩
  have call_eq : state.call number object kind = state.submit number file kind := by
    simp only [State.call, is_open]
  rw [call_eq]
  refine ⟨invariant.object, invariant.distinct, fun other another found queued => ?_,
    fun other another found queued closes => ?_, fun other another found reads dropped => ?_,
    fun other another target found is_found => ?_, invariant.intact.not_corrupted⟩
  · rcases submit_cases found with ⟨rfl, rfl⟩ | ⟨-, earlier⟩
    · exact invariant.object object file is_open
    · exact invariant.queued other another earlier queued
  · rcases submit_cases found with ⟨rfl, rfl⟩ | ⟨-, earlier⟩
    · exact absurd closes not_close
    · rcases invariant.closing other another earlier queued closes with ⟨objects, requests⟩
      refine ⟨objects, fun third thrice differs third_found third_queued => ?_⟩
      rcases submit_cases third_found with ⟨rfl, rfl⟩ | ⟨-, third_earlier⟩
      · exact objects object file is_open
      · exact requests third thrice differs third_earlier third_queued
  · rcases submit_cases found with ⟨rfl, rfl⟩ | ⟨-, earlier⟩
    · simp [request, not_close] at dropped
    · exact invariant.buffer other another earlier reads dropped
  · rcases submit_cases found with ⟨rfl, rfl⟩ | ⟨-, earlier⟩
    · exact nomatch is_found
    · exact invariant.intact.own_file other another target earlier is_found

/-- The request to close a descriptor takes it over from the object. -/
theorem closes (invariant : state.Invariant) {number object : ℕ} {file : File}
    (is_open : state.objects object = some (some file))
    (careful : state.Careful (.close number object)) :
    ((state.submit number file .close).setObject object none).Invariant := by
  have object_cases : ∀ other another,
      ((state.submit number file .close).setObject object none).objects other =
        some (some another) → other ≠ object ∧ state.objects other = some (some another) := by
    intro other another found
    by_cases same : other = object
    · subst same
      simp [setObject] at found
    · simp only [setObject, Function.update_of_ne same] at found
      exact ⟨same, found⟩
  refine ⟨fun other another found => ?_,
    fun one two first second differs first_found second_found => ?_,
    fun other another found queued => ?_, fun other another found queued closes => ?_,
    fun other another found reads dropped => ?_, fun other another target found is_found => ?_,
    invariant.intact.not_corrupted⟩
  · exact invariant.object other another (object_cases other another found).2
  · exact invariant.distinct one two first second differs
      (object_cases one first first_found).2 (object_cases two second second_found).2
  · rcases submit_cases found with ⟨rfl, rfl⟩ | ⟨-, earlier⟩
    · exact invariant.object object file is_open
    · exact invariant.queued other another earlier queued
  · rcases submit_cases found with ⟨rfl, rfl⟩ | ⟨not_new, earlier⟩
    · refine ⟨fun one first first_found => ?_,
        fun third thrice differs third_found third_queued => ?_⟩
      · rcases object_cases one first first_found with ⟨not_object, first_earlier⟩
        exact invariant.distinct one object first file not_object first_earlier is_open
      · rcases submit_cases third_found with ⟨same, -⟩ | ⟨-, third_earlier⟩
        · exact absurd same differs
        · exact careful file is_open third thrice third_earlier third_queued
    · rcases invariant.closing other another earlier queued closes with ⟨objects, requests⟩
      refine ⟨fun one first first_found => ?_,
        fun third thrice differs third_found third_queued => ?_⟩
      · exact objects one first (object_cases one first first_found).2
      · rcases submit_cases third_found with ⟨rfl, rfl⟩ | ⟨-, third_earlier⟩
        · exact objects object file is_open
        · exact requests third thrice differs third_earlier third_queued
  · rcases submit_cases found with ⟨rfl, rfl⟩ | ⟨-, earlier⟩
    · exact absurd rfl reads
    · exact invariant.buffer other another earlier reads dropped
  · rcases submit_cases found with ⟨rfl, rfl⟩ | ⟨-, earlier⟩
    · exact nomatch is_found
    · exact invariant.intact.own_file other another target earlier is_found

theorem close (invariant : state.Invariant) {number object : ℕ}
    (careful : state.Careful (.close number object)) : (state.close number object).Invariant := by
  unfold State.close
  split
  · rename_i file is_open
    exact invariant.closes is_open careful
  all_goals exact invariant

theorem move (invariant : state.Invariant) {object source : ℕ}
    (enabled : (Action.move object source).Enabled state) :
    (state.move object source).Invariant := by
  rcases enabled with ⟨is_new, source_exists⟩
  rcases Option.isSome_iff_exists.mp source_exists with ⟨stored, source_found⟩
  have move_eq : state.move object source =
      (state.setObject source none).setObject object stored := by
    simp only [State.move, source_found]
  rw [move_eq]
  -- Every open object was there before, under its own name or as the source.
  have origin : ∀ other file,
      ((state.setObject source none).setObject object stored).objects other = some (some file) →
        ∃ before, state.objects before = some (some file) ∧
          (other = object ∧ before = source ∨
            other ≠ object ∧ before = other ∧ before ≠ source) := by
    intro other file found
    by_cases is_object : other = object
    · subst is_object
      simp only [setObject, Function.update_self, Option.some.injEq] at found
      exact ⟨source, by rw [source_found, found], .inl ⟨rfl, rfl⟩⟩
    · by_cases is_source : other = source
      · subst is_source
        simp [setObject, Function.update_of_ne is_object] at found
      · simp only [setObject, Function.update_of_ne is_object,
          Function.update_of_ne is_source] at found
        exact ⟨other, found, .inr ⟨is_object, rfl, is_source⟩⟩
  refine ⟨fun other file found => ?_, fun one two first second differs first_found second_found =>
    ?_, invariant.queued, fun number operation found queued closes => ?_, invariant.buffer,
    invariant.intact.own_file, invariant.intact.not_corrupted⟩
  · rcases origin other file found with ⟨before, earlier, -⟩
    exact invariant.object before file earlier
  · rcases origin one first first_found with ⟨before, earlier, first_origin⟩
    rcases origin two second second_found with ⟨previous, previously, second_origin⟩
    have apart : before ≠ previous := by
      rcases first_origin with ⟨rfl, rfl⟩ | ⟨-, rfl, not_source⟩
      · rcases second_origin with ⟨rfl, -⟩ | ⟨-, rfl, not_source⟩
        · exact absurd rfl differs
        · exact not_source.symm
      · rcases second_origin with ⟨-, rfl⟩ | ⟨-, rfl, -⟩
        · exact not_source
        · exact differs
    exact invariant.distinct before previous first second apart earlier previously
  · rcases invariant.closing number operation found queued closes with ⟨objects, requests⟩
    refine ⟨fun other file object_found => ?_, requests⟩
    rcases origin other file object_found with ⟨before, earlier, -⟩
    exact objects before file earlier

/-- What was said of a request in the queue holds of one that a worker has taken. -/
theorem dequeue (invariant : state.Invariant) {number : ℕ}
    (enabled : (Action.dequeue number).Enabled state) : (state.dequeue number).Invariant := by
  rcases enabled with ⟨operation, found, queued⟩
  have dequeue_eq : state.dequeue number =
      state.setOperation number { operation with progress := .dequeued } := by
    simp only [State.dequeue, found]
  rw [dequeue_eq]
  have origin : ∀ {other another},
      (state.setOperation number { operation with progress := .dequeued }).operations other =
        some another → ∃ progress, state.operations other = some { another with progress } ∧
          progress.isPending = another.progress.isPending ∧
          progress.isUnfinished = another.progress.isUnfinished ∧
          progress.found = another.progress.found := by
    intro other another another_found
    by_cases same : other = number
    · subst same
      simp only [setOperation, Function.update_self, Option.some.injEq] at another_found
      subst another_found
      refine ⟨.queued, ?_, rfl, rfl, rfl⟩
      rw [found, ← queued]
    · simp only [setOperation, Function.update_of_ne same] at another_found
      exact ⟨another.progress, another_found, rfl, rfl, rfl⟩
  refine ⟨invariant.object, invariant.distinct, fun other another found pending => ?_,
    fun other another found pending closes => ?_, fun other another found reads dropped => ?_,
    fun other another target found is_found => ?_, invariant.intact.not_corrupted⟩
  · rcases origin found with ⟨progress, earlier, pending_eq, -, -⟩
    exact invariant.queued other { another with progress } earlier (pending_eq.trans pending)
  · rcases origin found with ⟨progress, earlier, pending_eq, -, -⟩
    rcases invariant.closing other _ earlier (pending_eq.trans pending) closes with
      ⟨objects, requests⟩
    refine ⟨objects, fun third thrice differs third_found third_pending => ?_⟩
    rcases origin third_found with ⟨progress, third_earlier, third_pending_eq, -, -⟩
    exact requests third { thrice with progress } differs third_earlier
      (third_pending_eq.trans third_pending)
  · rcases origin found with ⟨progress, earlier, -, unfinished_eq, -⟩
    exact unfinished_eq.symm.trans (invariant.buffer other _ earlier reads dropped)
  · rcases origin found with ⟨progress, earlier, -, -, found_eq⟩
    exact invariant.intact.own_file other { another with progress } target earlier
      (found_eq.trans is_found)

theorem execute (invariant : state.Invariant) {number : ℕ}
    (enabled : (Action.execute number).Enabled state) : (state.execute number).Invariant := by
  rcases enabled with ⟨operation, found, dequeued⟩
  have pending : operation.progress.isPending = true := by
    rw [dequeued]
    rfl
  have own := invariant.queued number operation found pending
  let begun := state.setOperation number
    { operation with progress := .executing (state.descriptors operation.descriptor) }
  have settled : begun.Invariant := by
    refine invariant.settle rfl ?_ ?_
    · rintro target ⟨⟩
      exact own
    · intro reads dropped
      have finished := invariant.buffer number operation found reads dropped
      simp [dequeued, Progress.isUnfinished] at finished
  by_cases closes : operation.kind = .close
  · have execute_eq : state.execute number = begun.release operation.descriptor := by
      simp only [State.execute, found, closes, if_true, begun]
    rw [execute_eq]
    rcases invariant.closing number operation found pending closes with ⟨objects, requests⟩
    refine ⟨fun object file object_found => ?_, settled.distinct,
      fun other another another_found another_queued => ?_, settled.closing, settled.buffer,
      settled.intact.own_file, settled.intact.not_corrupted⟩
    · change Function.update state.descriptors operation.descriptor none file.descriptor = _
      rw [Function.update_of_ne (objects object file object_found)]
      exact invariant.object object file object_found
    · have differs : other ≠ number := by
        rintro rfl
        obtain rfl : { operation with
            progress := .executing (state.descriptors operation.descriptor) } = another := by
          simpa [begun, release, setOperation] using another_found
        exact Bool.noConfusion another_queued
      have earlier : state.operations other = some another := by
        simpa [begun, release, setOperation, differs] using another_found
      change Function.update state.descriptors operation.descriptor none another.descriptor = _
      rw [Function.update_of_ne (requests other another differs earlier another_queued)]
      exact invariant.queued other another earlier another_queued
  · have execute_eq : state.execute number = begun := by
      simp only [State.execute, found, closes, if_false, begun]
    rw [execute_eq]
    exact settled

/-- Reading and writing does not touch the descriptors. -/
theorem transfer_frame (state : State) (operation : Operation) (found : Option ℕ) (limit : ℕ) :
    let after := (state.transfer operation found limit).1
    after.objects = state.objects ∧ after.operations = state.operations ∧
      after.descriptors = state.descriptors ∧ after.corrupted = state.corrupted := by
  unfold transfer
  split
  · exact ⟨rfl, rfl, rfl, rfl⟩
  · split
    · simp only [advance]
      split <;> exact ⟨rfl, rfl, rfl, rfl⟩
    · simp only [advance]
      split <;> exact ⟨rfl, rfl, rfl, rfl⟩
    · exact ⟨rfl, rfl, rfl, rfl⟩

theorem finish (invariant : state.Invariant) {number limit : ℕ}
    (enabled : (Action.finish number limit).Enabled state) :
    (state.finish number limit).Invariant := by
  rcases enabled with ⟨operation, target, found, executing⟩
  rcases transferred : state.transfer operation target limit with ⟨after, read, count⟩
  have frame := transfer_frame state operation target limit
  rw [transferred] at frame
  dsimp only at frame
  rcases frame with ⟨objects_eq, operations_eq, descriptors_eq, corrupted_eq⟩
  have own : target = some operation.file := by
    apply invariant.intact.own_file number operation target found
    rw [executing]
    rfl
  have settled : (state.setOperation number
      { operation with progress := .executed target read count }).Invariant := by
    refine invariant.settle rfl ?_ fun _ _ => rfl
    rintro other ⟨⟩
    exact own
  have awaited : (decide (operation.kind ≠ .close) && !operation.awaited) = false := by
    by_cases reads : operation.kind ≠ .close
    · cases dropped : operation.awaited with
      | true => simp
      | false =>
          have finished := invariant.buffer number operation found reads dropped
          simp [executing, Progress.isUnfinished] at finished
    · simp [reads]
  have finish_eq : state.finish number limit = { after.setOperation number
      { operation with progress := .executed target read count } with
      corrupted := state.corrupted } := by
    simp only [State.finish, found, executing, transferred, awaited, Bool.or_false]
  rw [finish_eq]
  apply settled.of_same
  · exact objects_eq
  · simp only [setOperation]
    rw [operations_eq]
  · exact descriptors_eq
  · rfl

theorem drop (invariant : state.Invariant) {number : ℕ}
    (enabled : (Action.drop number).Enabled state)
    (careful : state.Careful (.drop number)) : (state.drop number).Invariant := by
  rcases enabled with ⟨operation, found, -⟩
  have drop_eq : state.drop number = state.setOperation number { operation with
      awaited := false
      progress := if operation.progress = .queued then .cancelled else operation.progress } := by
    simp only [State.drop, found]
  rw [drop_eq]
  rcases careful operation found with queued | finished
  · rw [if_pos queued]
    exact invariant.settle rfl (by rintro target ⟨⟩) fun _ _ => rfl
  · have not_queued : operation.progress ≠ .queued := by
      rintro queued
      simp [queued, Progress.isUnfinished] at finished
    rw [if_neg not_queued]
    refine invariant.settle ?_ ?_ fun _ _ => finished
    · revert finished
      cases operation.progress <;> simp [Progress.isUnfinished, Progress.isPending]
    · exact fun target is_found =>
        invariant.intact.own_file number operation target found is_found

theorem step (invariant : state.Invariant) {action : Action} (enabled : action.Enabled state)
    (careful : state.Careful action) : (action.perform state).Invariant := by
  cases action with
  | opened object inode file => exact invariant.opened enabled
  | call number object kind => exact invariant.call enabled
  | close number object => exact invariant.close careful
  | move object source => exact invariant.move enabled
  | dequeue number => exact invariant.dequeue enabled
  | execute number => exact invariant.execute enabled
  | finish number limit => exact invariant.finish enabled
  | drop number => exact invariant.drop enabled careful

end Invariant

theorem invariant_of_reachableVia {state : State}
    (reached : system.ReachableVia Careful state) : state.Invariant := by
  apply reached.invariant Invariant
  · rintro state rfl
    exact ⟨nofun, nofun, nofun, nofun, nofun, nofun, rfl⟩
  · exact fun state action invariant enabled careful => invariant.step enabled careful

/-- A file is closed while a worker is about to execute a `write()`: it ends up in the file that is
opened next. -/
theorem closed_too_early : ∃ state, system.Reachable state ∧ state.contents 6 = [104, 105] ∧
    ∃ operation, state.operations 0 = some operation ∧ operation.file = 0 ∧
      operation.progress.found = some (some 1) := by
  have start : system.Reachable {} := .start rfl
  have opens := start.step (Action.opened 0 5 ⟨3, 0⟩) ⟨rfl, rfl, rfl⟩ trivial
  have writes := opens.step (Action.call 0 0 (.write [104, 105] (-1)))
    ⟨rfl, nofun, _, rfl⟩ trivial
  have taken := writes.step (Action.dequeue 0) ⟨_, rfl, rfl⟩ trivial
  have closes := taken.step (Action.close 1 0) ⟨rfl, rfl⟩ trivial
  have close_taken := closes.step (Action.dequeue 1) ⟨_, rfl, rfl⟩ trivial
  have closed := close_taken.step (Action.execute 1) ⟨_, rfl, rfl⟩ trivial
  have opens_again := closed.step (Action.opened 1 6 ⟨3, 1⟩) ⟨rfl, rfl, rfl⟩ trivial
  have begun := opens_again.step (Action.execute 0) ⟨_, rfl, rfl⟩ trivial
  have written := begun.step (Action.finish 0 2) ⟨_, _, rfl, rfl⟩ trivial
  exact ⟨_, written, rfl, _, rfl, rfl, rfl⟩

/-- As long as no file is closed before the requests for it are executed, and no promise is dropped
while a worker has its request, every request reaches the file it was meant for, and no buffer is
used after its time. Otherwise a request may reach another file. -/
theorem intact_of_reachableVia {state : State} (reached : system.ReachableVia Careful state) :
    state.Intact ∧ ∃ after number operation other, system.Reachable after ∧
      after.operations number = some operation ∧
      operation.progress.found = some (some other) ∧ other ≠ operation.file := by
  rcases closed_too_early with ⟨after, after_reached, -, operation, found, file_eq, is_found⟩
  refine ⟨(invariant_of_reachableVia reached).intact, after, 0, operation, 1, after_reached, found,
    is_found, ?_⟩
  rw [file_eq]
  exact Nat.one_ne_zero

/-- A file is written and closed; then another one gets its descriptor, and is read. -/
theorem intact_reused_descriptor :
    ([.opened 0 5 ⟨3, 0⟩, .call 0 0 (.write [104, 105] (-1)), .dequeue 0, .execute 0, .finish 0 2,
      .close 1 0, .dequeue 1, .execute 1, .opened 1 5 ⟨3, 1⟩, .call 2 1 (.read 8 0), .dequeue 2,
      .execute 2, .finish 2 8, .call 3 1 (.read 8 0), .drop 3].foldl
        Action.perform ({} : State)).Intact := by
  have start : system.ReachableVia Careful {} := .start rfl
  have opens := start.step (Action.opened 0 5 ⟨3, 0⟩) ⟨rfl, rfl, rfl⟩ trivial
  have writes := opens.step (Action.call 0 0 (.write [104, 105] (-1)))
    ⟨rfl, nofun, _, rfl⟩ trivial
  have taken := writes.step (Action.dequeue 0) ⟨_, rfl, rfl⟩ trivial
  have begun := taken.step (Action.execute 0) ⟨_, rfl, rfl⟩ trivial
  have written := begun.step (Action.finish 0 2) ⟨_, _, rfl, rfl⟩ trivial
  have careful : Careful (([.opened 0 5 ⟨3, 0⟩, .call 0 0 (.write [104, 105] (-1)), .dequeue 0,
      .execute 0, .finish 0 2] : List Action).foldl Action.perform {}) (.close 1 0) := by
    intro file _ number operation found pending
    by_cases is_write : number = 0
    · subst is_write
      obtain rfl := Option.some.inj found
      exact Bool.noConfusion pending
    · change Function.update (Function.update (Function.update (Function.update
        (fun _ => none) 0 _) 0 _) 0 _) 0 _ number = some operation at found
      simp [is_write] at found
  have closes := written.step (Action.close 1 0) ⟨rfl, rfl⟩ careful
  have close_taken := closes.step (Action.dequeue 1) ⟨_, rfl, rfl⟩ trivial
  have closed := close_taken.step (Action.execute 1) ⟨_, rfl, rfl⟩ trivial
  have opens_again := closed.step (Action.opened 1 5 ⟨3, 1⟩) ⟨rfl, rfl, rfl⟩ trivial
  have reads := opens_again.step (Action.call 2 1 (.read 8 0)) ⟨rfl, nofun, _, rfl⟩ trivial
  have read_taken := reads.step (Action.dequeue 2) ⟨_, rfl, rfl⟩ trivial
  have reading := read_taken.step (Action.execute 2) ⟨_, rfl, rfl⟩ trivial
  have read := reading.step (Action.finish 2 8) ⟨_, _, rfl, rfl⟩ trivial
  have reads_again := read.step (Action.call 3 1 (.read 8 0)) ⟨rfl, nofun, _, rfl⟩ trivial
  have dropped := reads_again.step (Action.drop 3) ⟨_, rfl, rfl⟩
    (by rintro operation ⟨⟩; exact .inl rfl)
  exact (intact_of_reachableVia dropped).1

end State

end Uvco.FileOperations
