import RedroidExt.Library.Handles
import RedroidExt.Library.TransitionSystem

/-!
# Sockets

`socket.cpp`: construction, `open`, `bind`, the two moves and destruction of any number of
`Socket` objects. An object is named by its place in memory, so that a move can be one from
an object to itself. The answers of the system calls are inputs.
-/

namespace RedroidExt.Ipv6Proxy

open RedroidExt.Library RedroidExt.Library.Handles

set_option autoImplicit false

/-- `Socket::State`. -/
inductive SocketState where
  | New
  | Open
  | Bound
  | Moved
  | Destructed
deriving DecidableEq, Repr

/-- -1 is no descriptor. -/
structure Socket where
  mState : SocketState
  mSocket : Int
deriving DecidableEq, Repr

/-- The objects that are alive, what their memory and all other memory holds, and the
descriptors that were opened and closed, the last one first. -/
structure Sockets where
  objects : Nat → Socket
  alive : Nat → Bool
  log : List (Event Int)

namespace Sockets

/-- `close` gives the descriptor back, whatever it returns. -/
def close (sockets : Sockets) (descriptor : Int) : Sockets :=
  { sockets with log := .released descriptor :: sockets.log }

def setSocket (sockets : Sockets) (this : Nat) (mSocket : Int) : Sockets :=
  { sockets with
    objects := Function.update sockets.objects this
      { sockets.objects this with mSocket := mSocket } }

def setState (sockets : Sockets) (this : Nat) (mState : SocketState) : Sockets :=
  { sockets with
    objects := Function.update sockets.objects this
      { sockets.objects this with mState := mState } }

/-- `Socket::Socket()` -/
def construct (sockets : Sockets) (this : Nat) : Sockets :=
  { sockets with
    objects := Function.update sockets.objects this { mState := .New, mSocket := -1 }
    alive := Function.update sockets.alive this true }

/-- `Socket::Socket(Socket&& other)` -/
def moveConstruct (sockets : Sockets) (this other : Nat) : Sockets :=
  let sockets : Sockets :=
    { sockets with
      objects := Function.update sockets.objects this
        { mState := (sockets.objects other).mState, mSocket := (sockets.objects other).mSocket }
      alive := Function.update sockets.alive this true }
  let sockets := sockets.setSocket other (-1)
  sockets.setState other .Moved

/-- `Socket::~Socket()` -/
def destruct (sockets : Sockets) (this : Nat) : Sockets :=
  let sockets :=
    if (sockets.objects this).mSocket ≠ -1 then
      let sockets := sockets.close (sockets.objects this).mSocket
      sockets.setSocket this (-1)
    else sockets
  let sockets := sockets.setState this .Destructed
  { sockets with alive := Function.update sockets.alive this false }

/-- `Socket::operator=(Socket&& other)`; `other` may be `this`. -/
def moveAssign (sockets : Sockets) (this other : Nat) : Sockets :=
  let sockets :=
    if (sockets.objects this).mSocket ≠ -1 then sockets.close (sockets.objects this).mSocket
    else sockets
  let sockets := sockets.setSocket this (sockets.objects other).mSocket
  let sockets := sockets.setState this (sockets.objects other).mState
  let sockets := sockets.setSocket other (-1)
  sockets.setState other .Moved

/-- The call of `::socket`: a descriptor that is open from now on, or -1. -/
def callSocket (sockets : Sockets) (answer : Except String Nat) : Int × Sockets :=
  match answer with
  | .ok descriptor =>
      (descriptor, { sockets with log := .acquired (descriptor : Int) :: sockets.log })
  | .error _ => (-1, sockets)

/-- `strerror(errno)` after a call. -/
def strerror {Value : Type} : Except String Value → String
  | .ok _ => ""
  | .error text => text

/-- `Socket::open` -/
def openSocket (sockets : Sockets) (this : Nat) (answer : Except String Nat) :
    Except String Unit × Sockets :=
  if (sockets.objects this).mState ≠ .New then
    (.error "open called on socket in invalid state", sockets)
  else
    let called := sockets.callSocket answer
    let sockets := called.2.setSocket this called.1
    if (sockets.objects this).mSocket = -1 then (.error (strerror answer), sockets)
    else (.ok (), sockets.setState this .Open)

/-- `Socket::bind` -/
def bind (sockets : Sockets) (this : Nat) (answer : Except String Unit) :
    Except String Unit × Sockets :=
  if (sockets.objects this).mState ≠ .Open then
    (.error "bind called on socket in invalid state", sockets)
  else
    match answer with
    | .error text => (.error text, sockets)
    | .ok _ => (.ok (), sockets.setState this .Bound)

end Sockets

inductive SocketOp where
  | construct (this : Nat)
  | moveConstruct (this other : Nat)
  | moveAssign (this other : Nat)
  | openSocket (this : Nat) (answer : Except String Nat)
  | bind (this : Nat) (answer : Except String Unit)
  | destroy (this : Nat)

namespace Sockets

def after (sockets : Sockets) : SocketOp → Sockets
  | .construct this => sockets.construct this
  | .moveConstruct this other => sockets.moveConstruct this other
  | .moveAssign this other => sockets.moveAssign this other
  | .openSocket this answer => (sockets.openSocket this answer).2
  | .bind this answer => (sockets.bind this answer).2
  | .destroy this => sockets.destruct this

/-- Objects are constructed in free memory and used while they are alive; the kernel opens no
descriptor that is still open. -/
def allowed (sockets : Sockets) : SocketOp → Prop
  | .construct this => sockets.alive this = false
  | .moveConstruct this other => sockets.alive this = false ∧ sockets.alive other = true
  | .moveAssign this other => sockets.alive this = true ∧ sockets.alive other = true
  | .openSocket this answer =>
      sockets.alive this = true ∧ ∀ descriptor, answer = .ok descriptor →
        ¬ Held sockets.log (descriptor : Int)
  | .bind this _ => sockets.alive this = true
  | .destroy this => sockets.alive this = true

end Sockets

/-- Every sequence of operations, from no objects and no open descriptors on. -/
def socketSystem : TransitionSystem Sockets SocketOp where
  initial := fun sockets => (∀ this, sockets.alive this = false) ∧ sockets.log = []
  step := fun sockets operation next => sockets.allowed operation ∧ sockets.after operation = next

/-! ## What an object owns -/

def Socket.descriptor (socket : Socket) : Option Int :=
  if socket.mSocket ≠ -1 then some socket.mSocket else none

/-- A descriptor is held in the states Open and Bound. -/
def Socket.Consistent (socket : Socket) : Prop :=
  socket.mSocket ≠ -1 ↔ socket.mState = .Open ∨ socket.mState = .Bound

namespace Sockets

/-- The descriptors of the objects that are alive. -/
def ownsOf (objects : Nat → Socket) (alive : Nat → Bool) (this : Nat) : Option Int :=
  if alive this then (objects this).descriptor else none

def owns (sockets : Sockets) : Nat → Option Int := ownsOf sockets.objects sockets.alive

/-- The invariant: descriptors have unique owners, and the states say who they are. -/
structure Sound (sockets : Sockets) : Prop where
  owned : Owned sockets.owns sockets.log
  consistent : ∀ this, sockets.alive this = true → (sockets.objects this).Consistent

/-- Other objects keep what they own. -/
theorem owns_update (objects : Nat → Socket) (alive : Nat → Bool) (this : Nat) (socket : Socket)
    (lives : Bool) :
    ownsOf (Function.update objects this socket) (Function.update alive this lives) =
      Function.update (ownsOf objects alive) this (if lives then socket.descriptor else none) := by
  funext other
  by_cases same : other = this
  · subst same
    simp [ownsOf]
  · simp [ownsOf, same]

theorem owns_update_alive (objects : Nat → Socket) {alive : Nat → Bool} {this : Nat}
    (lives : alive this = true) (socket : Socket) :
    ownsOf (Function.update objects this socket) alive =
      Function.update (ownsOf objects alive) this socket.descriptor := by
  have same : Function.update alive this true = alive := Function.update_eq_self_iff.mpr lives.symm
  have kept := owns_update objects alive this socket true
  rw [same, if_pos rfl] at kept
  exact kept

theorem consistent_update {objects : Nat → Socket} {alive : Nat → Bool}
    (before : ∀ this, alive this = true → (objects this).Consistent) {this : Nat}
    {socket : Socket} {lives : Bool} (consistent : lives = true → socket.Consistent) :
    ∀ other, Function.update alive this lives other = true →
      (Function.update objects this socket other).Consistent := by
  intro other living
  by_cases same : other = this
  · subst same
    rw [Function.update_self] at living ⊢
    exact consistent living
  · rw [Function.update_of_ne same] at living ⊢
    exact before other living

theorem consistent_update_alive {objects : Nat → Socket} {alive : Nat → Bool}
    (before : ∀ this, alive this = true → (objects this).Consistent) {this : Nat}
    {socket : Socket} (lives : alive this = true) (consistent : socket.Consistent) :
    ∀ other, alive other = true → (Function.update objects this socket other).Consistent := by
  have same : Function.update alive this true = alive := Function.update_eq_self_iff.mpr lives.symm
  have kept : ∀ other, Function.update alive this true other = true →
      (Function.update objects this socket other).Consistent :=
    consistent_update before fun _ => consistent
  rw [same] at kept
  exact kept

theorem without_descriptor {mState : SocketState} (closed : mState ≠ .Open ∧ mState ≠ .Bound) :
    (⟨mState, -1⟩ : Socket).Consistent := by
  simp [Socket.Consistent, closed]

variable {sockets : Sockets} {this other : Nat}

/-- The log after the descriptor of an object, if any, is closed. -/
def closing (sockets : Sockets) (this : Nat) : List (Event Int) :=
  if (sockets.objects this).mSocket ≠ -1 then
    .released (sockets.objects this).mSocket :: sockets.log
  else sockets.log

theorem closing_owned (before : Owned sockets.owns sockets.log)
    (lives : sockets.alive this = true) :
    Owned (Function.update sockets.owns this none) (sockets.closing this) := by
  unfold closing
  by_cases some : (sockets.objects this).mSocket ≠ -1
  · rw [if_pos some]
    apply owned_release before
    simp [owns, ownsOf, lives, Socket.descriptor, some]
  · rw [if_neg some]
    have nothing : sockets.owns this = none := by
      simp [owns, ownsOf, Socket.descriptor, not_not.mp some]
    rw [Function.update_eq_self_iff.mpr nothing.symm]
    exact before

/-! ## What an operation does -/

theorem move_construct_eq :
    sockets.moveConstruct this other =
      { objects := Function.update (Function.update sockets.objects this (sockets.objects other))
          other ⟨.Moved, -1⟩
        alive := Function.update sockets.alive this true
        log := sockets.log } := by
  simp [moveConstruct, setSocket, setState]

theorem move_assign_eq (different : this ≠ other) :
    sockets.moveAssign this other =
      { objects := Function.update (Function.update sockets.objects this (sockets.objects other))
          other ⟨.Moved, -1⟩
        alive := sockets.alive
        log := sockets.closing this } := by
  unfold moveAssign closing
  split_ifs
  · simp [close, setSocket, setState, different.symm]
  · simp [setSocket, setState, different.symm]

/-- Assigned from itself, an object closes its descriptor and is left without one. -/
theorem move_assign_self :
    sockets.moveAssign this this =
      { objects := Function.update sockets.objects this ⟨.Moved, -1⟩
        alive := sockets.alive
        log := sockets.closing this } := by
  unfold moveAssign closing
  split_ifs
  · simp [close, setSocket, setState]
  · simp [setSocket, setState]

theorem destruct_eq :
    sockets.destruct this =
      { objects := Function.update sockets.objects this ⟨.Destructed, -1⟩
        alive := Function.update sockets.alive this false
        log := sockets.closing this } := by
  unfold destruct closing
  split_ifs with some
  · simp [close, setSocket, setState]
  · simp [setState, not_not.mp some]

/-! ## Unique ownership in every run -/

theorem construct_sound (before : Sound sockets) (free : sockets.alive this = false) :
    Sound (sockets.construct this) := by
  have nothing : sockets.owns this = none := by simp [owns, ownsOf, free]
  constructor
  · unfold owns construct
    dsimp only
    rw [owns_update, if_pos rfl]
    change Owned (Function.update sockets.owns this none) sockets.log
    rw [Function.update_eq_self_iff.mpr nothing.symm]
    exact before.owned
  · exact consistent_update before.consistent fun _ => without_descriptor (by decide)

/-- A moved object passes on what it owns, its state included. -/
theorem moved_owns (objects : Nat → Socket) {alive : Nat → Bool} (living : alive this = true)
    (lives : alive other = true) :
    ownsOf (Function.update (Function.update objects this (objects other)) other ⟨.Moved, -1⟩)
        alive =
      Function.update (Function.update (ownsOf objects alive) this (ownsOf objects alive other))
        other none := by
  have source : ownsOf objects alive other = (objects other).descriptor := by
    simp [ownsOf, lives]
  rw [owns_update_alive _ lives, owns_update_alive _ living, source]
  rfl

theorem move_construct_sound (before : Sound sockets) (free : sockets.alive this = false)
    (lives : sockets.alive other = true) : Sound (sockets.moveConstruct this other) := by
  have different : this ≠ other := by
    rintro rfl
    rw [free] at lives
    cases lives
  have nothing : sockets.owns this = none := by simp [owns, ownsOf, free]
  have living : Function.update sockets.alive this true other = true := by
    rw [Function.update_of_ne (Ne.symm different)]
    exact lives
  have source : sockets.owns other = (sockets.objects other).descriptor := by
    simp [owns, ownsOf, lives]
  rw [move_construct_eq]
  constructor
  · unfold owns
    dsimp only
    rw [owns_update_alive _ living, owns_update, if_pos rfl, ← source]
    exact owned_transfer before.owned different nothing
  · have constructed : ∀ place, Function.update sockets.alive this true place = true →
        (Function.update sockets.objects this (sockets.objects other) place).Consistent :=
      consistent_update before.consistent fun _ => before.consistent other lives
    exact consistent_update_alive constructed living (without_descriptor (by decide))

theorem move_assign_sound (before : Sound sockets) (living : sockets.alive this = true)
    (lives : sockets.alive other = true) : Sound (sockets.moveAssign this other) := by
  have given := closing_owned before.owned living
  by_cases different : this = other
  · subst different
    rw [move_assign_self]
    constructor
    · unfold owns
      dsimp only
      rw [owns_update_alive _ living]
      exact given
    · exact consistent_update_alive before.consistent living (without_descriptor (by decide))
  · rw [move_assign_eq different]
    constructor
    · unfold owns
      dsimp only
      rw [moved_owns _ living lives]
      have passed := owned_transfer given different (Function.update_self _ _ _)
      rw [Function.update_of_ne (Ne.symm different), Function.update_idem] at passed
      exact passed
    · have assigned := consistent_update_alive before.consistent living
        (before.consistent other lives)
      exact consistent_update_alive assigned lives (without_descriptor (by decide))

theorem destruct_sound (before : Sound sockets) (lives : sockets.alive this = true) :
    Sound (sockets.destruct this) := by
  rw [destruct_eq]
  constructor
  · unfold owns
    dsimp only
    rw [owns_update]
    exact closing_owned before.owned lives
  · exact consistent_update before.consistent fun gone => nomatch gone

theorem open_socket_sound (before : Sound sockets) (lives : sockets.alive this = true)
    {answer : Except String Nat}
    (fresh : ∀ descriptor, answer = .ok descriptor → ¬ Held sockets.log (descriptor : Int)) :
    Sound (sockets.openSocket this answer).2 := by
  unfold openSocket
  by_cases isNew : (sockets.objects this).mState ≠ .New
  · rw [if_pos isNew]
    exact before
  · rw [if_neg isNew]
    have state := not_not.mp isNew
    have empty : (sockets.objects this).mSocket = -1 := by
      by_contra some
      rcases (before.consistent this lives).mp some with opened | bound
      · exact nomatch state.symm.trans opened
      · exact nomatch state.symm.trans bound
    cases answer with
    | error text =>
        have unchanged : sockets.setSocket this (-1) = sockets := by
          unfold setSocket
          rw [← empty, Function.update_eq_self]
        simp only [callSocket, unchanged, empty, if_true]
        exact before
    | ok descriptor =>
        have valid : ((descriptor : Int) = -1) ↔ False := iff_false_intro (by omega)
        have nothing : sockets.owns this = none := by
          simp [owns, ownsOf, Socket.descriptor, empty]
        have acquired := owned_acquire before.owned nothing (fresh descriptor rfl)
        simp only [callSocket, setSocket, Function.update_self, valid, if_false, setState,
          Function.update_idem]
        constructor
        · unfold owns
          dsimp only
          rw [owns_update_alive _ lives]
          simp only [Socket.descriptor, ne_eq, valid, not_false_eq_true, if_true]
          exact acquired
        · refine consistent_update_alive before.consistent lives ?_
          simp [Socket.Consistent, valid]

theorem bind_sound (before : Sound sockets) (lives : sockets.alive this = true)
    (answer : Except String Unit) : Sound (sockets.bind this answer).2 := by
  unfold bind
  by_cases isOpen : (sockets.objects this).mState ≠ .Open
  · rw [if_pos isOpen]
    exact before
  · rw [if_neg isOpen]
    cases answer with
    | error text => exact before
    | ok done =>
        have holds := (before.consistent this lives).mpr (.inl (not_not.mp isOpen))
        constructor
        · unfold owns setState
          dsimp only
          rw [owns_update_alive _ lives]
          have same : sockets.owns this = (sockets.objects this).descriptor := by
            simp [owns, ownsOf, lives]
          change Owned (Function.update sockets.owns this (sockets.objects this).descriptor)
            sockets.log
          rw [← same, Function.update_eq_self]
          exact before.owned
        · refine consistent_update_alive before.consistent lives ?_
          simp [Socket.Consistent, holds]

theorem sound_start (nobody : ∀ this, sockets.alive this = false) (unused : sockets.log = []) :
    Sound sockets := by
  have nothing : sockets.owns = fun _ => none := by
    funext this
    simp [owns, ownsOf, nobody]
  constructor
  · rw [nothing, unused]
    exact owned_start
  · intro this lives
    exact nomatch (nobody this).symm.trans lives

theorem sound_step (before : Sound sockets) {operation : SocketOp}
    (permitted : sockets.allowed operation) : Sound (sockets.after operation) := by
  cases operation with
  | construct this => exact construct_sound before permitted
  | moveConstruct this other => exact move_construct_sound before permitted.1 permitted.2
  | moveAssign this other => exact move_assign_sound before permitted.1 permitted.2
  | openSocket this answer => exact open_socket_sound before permitted.1 permitted.2
  | bind this answer => exact bind_sound before permitted answer
  | destroy this => exact destruct_sound before permitted

theorem sound_reachable (reached : socketSystem.Reachable sockets) : Sound sockets := by
  refine TransitionSystem.reachable_invariant Sound ?_ ?_ reached
  · exact fun first start => sound_start start.1 start.2
  · rintro before operation next sound ⟨permitted, rfl⟩
    exact sound_step sound permitted

/-- What unique ownership means for the descriptors. -/
structure UniquelyOwned (sockets : Sockets) : Prop where
  owner : ∀ descriptor, Held sockets.log descriptor →
    ∃! this, sockets.alive this = true ∧ (sockets.objects this).mSocket = descriptor
  held : ∀ this, sockets.alive this = true → (sockets.objects this).mSocket ≠ -1 →
    Held sockets.log (sockets.objects this).mSocket
  states : ∀ this, sockets.alive this = true → ((sockets.objects this).mSocket ≠ -1 ↔
    (sockets.objects this).mState = .Open ∨ (sockets.objects this).mState = .Bound)
  /-- A descriptor is closed while it is open only, and so once for each time it is opened. -/
  used : WellUsed sockets.log
  closed : ∀ descriptor, sockets.log.count (.released descriptor) ≤
    sockets.log.count (.acquired descriptor)
  /-- Nothing is left open by objects that are gone. -/
  left : (∀ this, sockets.alive this = false) → ∀ descriptor, ¬ Held sockets.log descriptor ∧
    sockets.log.count (.acquired descriptor) = sockets.log.count (.released descriptor)

theorem owns_iff (this : Nat) (descriptor : Int) :
    sockets.owns this = some descriptor ↔
      sockets.alive this = true ∧ (sockets.objects this).mSocket = descriptor ∧
        descriptor ≠ -1 := by
  unfold owns ownsOf Socket.descriptor
  split_ifs with lives some
  · rw [Option.some.injEq]
    constructor
    · rintro rfl
      exact ⟨lives, rfl, some⟩
    · exact fun owned => owned.2.1
  · rw [not_not] at some
    constructor
    · intro none
      cases none
    · rintro ⟨-, same, valid⟩
      exact absurd (same.symm.trans some) valid
  · constructor
    · intro none
      cases none
    · exact fun owned => absurd owned.1 lives

/-- In every run each open descriptor has one owner, no descriptor is closed twice, and objects
that are gone leave none open. -/
theorem descriptors_uniquely_owned (reached : socketSystem.Reachable sockets) :
    UniquelyOwned sockets := by
  obtain ⟨owned, consistent⟩ := sound_reachable reached
  have counts := count_of_well_used owned.used
  constructor
  · intro descriptor held
    obtain ⟨this, owns⟩ := (owned.held descriptor).mp held
    obtain ⟨lives, same, valid⟩ := (owns_iff this descriptor).mp owns
    refine ⟨this, ⟨lives, same⟩, ?_⟩
    rintro other ⟨living, equal⟩
    exact owned.unique other this descriptor ((owns_iff other descriptor).mpr
      ⟨living, equal, valid⟩) owns
  · intro this lives valid
    exact (owned.held _).mpr ⟨this, (owns_iff this _).mpr ⟨lives, rfl, valid⟩⟩
  · exact consistent
  · exact owned.used
  · intro descriptor
    rw [counts descriptor]
    exact Nat.le_add_right _ _
  · intro nobody descriptor
    have free : ¬ Held sockets.log descriptor := by
      intro held
      obtain ⟨this, owns⟩ := (owned.held descriptor).mp held
      have lives := ((owns_iff this descriptor).mp owns).1
      exact nomatch (nobody this).symm.trans lives
    refine ⟨free, ?_⟩
    rw [counts descriptor, if_neg free, Nat.add_zero]

/-! ## An interface that fails -/

/-- A check that implies the condition on an operation. -/
def checkAllowed (sockets : Sockets) : SocketOp → Bool
  | .construct this => ¬ sockets.alive this
  | .moveConstruct this other => ¬ sockets.alive this ∧ sockets.alive other
  | .moveAssign this other => sockets.alive this ∧ sockets.alive other
  | .openSocket this (.ok descriptor) =>
      sockets.alive this ∧ ¬ Held sockets.log (descriptor : Int)
  | .openSocket this (.error _) => sockets.alive this
  | .bind this _ => sockets.alive this
  | .destroy this => sockets.alive this

theorem allowed_of_check {operation : SocketOp} (checked : sockets.checkAllowed operation = true) :
    sockets.allowed operation := by
  cases operation with
  | construct this => simpa [checkAllowed, allowed] using checked
  | moveConstruct this other => simpa [checkAllowed, allowed] using checked
  | moveAssign this other => simpa [checkAllowed, allowed] using checked
  | openSocket this answer =>
      cases answer with
      | error text => exact ⟨checked, fun _ opened => nomatch opened⟩
      | ok descriptor =>
          obtain ⟨lives, fresh⟩ := of_decide_eq_true checked
          refine ⟨lives, ?_⟩
          rintro other opened
          cases opened
          exact fresh
  | bind this answer => exact checked
  | destroy this => exact checked

/-- Two interfaces, the first of which fails: erasing it assigns the second one to its place.
Then the survivor is assigned from itself. -/
def eraseFailed : List SocketOp :=
  [.construct 0, .construct 1, .openSocket 0 (.ok 5), .bind 0 (.error "Permission denied"),
    .openSocket 1 (.ok 6), .bind 1 (.ok ()), .moveAssign 0 1, .destroy 1, .moveAssign 0 0,
    .destroy 0]

/-- Nothing is alive, and the memory holds anything. -/
def untouched : Sockets where
  objects := fun _ => { mState := .Destructed, mSocket := 99 }
  alive := fun _ => false
  log := []

theorem descriptors_uniquely_owned_erase :
    ∃ sockets : Sockets, sockets.UniquelyOwned ∧
      sockets.log = [.released 6, .released 5, .acquired 6, .acquired 5] := by
  have first : socketSystem.initial untouched := ⟨fun _ => rfl, rfl⟩
  have reached := TransitionSystem.reachable_of_check socketSystem after checkAllowed eraseFailed
    (fun _ _ _ checked => ⟨allowed_of_check checked, rfl⟩)
    (.start first) (by decide)
  generalize computed : eraseFailed.foldl after untouched = sockets at reached
  refine ⟨sockets, descriptors_uniquely_owned reached, ?_⟩
  rw [← computed]
  decide

end Sockets

end RedroidExt.Ipv6Proxy
