import NetLatencyLab.Foundation.Machine
import Mathlib.Algebra.Group.Nat.Defs
import Mathlib.Logic.Function.Basic

/-! # Single-producer single-consumer queue

`SPSCQueue` split at its shared accesses: `push` is a head load, a tail load, a
slot write, the head load of `commit` and its head store; `front` is a tail
load, a head load and the read through the returned pointer; `pop` is a tail
load and a tail store. Acquire and release make each of them one atomic step. -/

namespace NetLatencyLab.SpscQueue

/-- A template argument that passes the `has_single_bit` assertion. -/
structure Capacity where
  size : Nat
  singleBit : ∃ bit < 64, size = 2 ^ bit

def Capacity.mask (capacity : Capacity) : Nat := capacity.size - 1

def Capacity.usable (capacity : Capacity) : Nat := capacity.size - 1

/-- `(index + 1) & mask_` on `std::size_t`. -/
def Capacity.next (capacity : Capacity) (index : Nat) : Nat :=
  (index + 1) % 2 ^ 64 &&& capacity.mask

/-- Where the producer stands inside `push`. After the slot write the value
and its slot are kept only to name the element that becomes published. -/
inductive Producer (α : Type*)
  | idle
  | loadedHead (value : α) (head : Nat)
  | allocated (value : α) (slot : Nat)
  | wrote (value : α) (slot : Nat)
  | reloadedHead (value : α) (slot head : Nat)

/-- Where the consumer stands. `holding` is a successful `front` whose element
has been read; only from there may `pop` be called. -/
inductive Consumer (α : Type*)
  | idle
  | loadedTail (tail : Nat)
  | located (slot : Nat)
  | holding (slot : Nat) (value : α)
  | popping (slot : Nat) (value : α) (tail : Nat)
  | cleared (slot : Nat) (value : α) (tail : Nat)

structure State (α : Type*) where
  head : Nat
  tail : Nat
  buffer : Nat → α
  producer : Producer α
  consumer : Consumer α

/-- What each atomic access shows. `full` and `published` are the two answers
of `push`; `empty` and `slotRead` are the two answers of `front`. -/
inductive Event (α : Type*)
  | headLoaded
  | full (value : α)
  | room
  | slotWritten (slot : Nat)
  | headReloaded
  | published (slot : Nat) (value : α)
  | tailLoaded
  | empty
  | located (slot : Nat)
  | slotRead (slot : Nat) (value : α)
  | popTailLoaded
  | slotCleared (slot : Nat)
  | popped (slot : Nat) (value : α)

def initial {α : Type*} (buffer : Nat → α) : State α where
  head := 0
  tail := 0
  buffer := buffer
  producer := .idle
  consumer := .idle

/-- One atomic access of the producer. The argument is the value of the next
`push` and matters only when no call is in progress. -/
def producerStep {α : Type*} (capacity : Capacity) (state : State α) (next : α) :
    State α × Event α :=
  match state.producer with
  | .idle => ({ state with producer := .loadedHead next state.head }, .headLoaded)
  | .loadedHead value head =>
      if capacity.next head = state.tail then
        ({ state with producer := .idle }, .full value)
      else
        ({ state with producer := .allocated value head }, .room)
  | .allocated value slot =>
      ({ state with
          buffer := Function.update state.buffer slot value
          producer := .wrote value slot }, .slotWritten slot)
  | .wrote value slot =>
      ({ state with producer := .reloadedHead value slot state.head }, .headReloaded)
  | .reloadedHead value slot head =>
      ({ state with head := capacity.next head, producer := .idle }, .published slot value)

inductive ConsumerCall
  | front
  | pop

/-- The store that ends `pop`. -/
def storeTail {α : Type*} (capacity : Capacity) (state : State α) (slot : Nat) (value : α)
    (tail : Nat) : State α × Event α :=
  ({ state with tail := capacity.next tail, consumer := .idle }, .popped slot value)

/-- One atomic access of the consumer. The call is consulted only when none is
in progress. Elements that are not trivially destructible are overwritten by a
default-constructed one before their slot is released. -/
def consumerStep {α : Type*} [Inhabited α] (capacity : Capacity)
    (triviallyDestructible : Bool) (state : State α) (call : ConsumerCall) :
    State α × Event α :=
  match state.consumer, call with
  | .idle, _ => ({ state with consumer := .loadedTail state.tail }, .tailLoaded)
  | .loadedTail tail, _ =>
      if state.head = tail then
        ({ state with consumer := .idle }, .empty)
      else
        ({ state with consumer := .located tail }, .located tail)
  | .located slot, _ =>
      ({ state with consumer := .holding slot (state.buffer slot) },
        .slotRead slot (state.buffer slot))
  | .holding _ _, .front =>
      ({ state with consumer := .loadedTail state.tail }, .tailLoaded)
  | .holding slot value, .pop =>
      ({ state with consumer := .popping slot value state.tail }, .popTailLoaded)
  | .popping slot value tail, _ =>
      if triviallyDestructible then
        storeTail capacity state slot value tail
      else
        ({ state with
            buffer := Function.update state.buffer tail default
            consumer := .cleared slot value tail }, .slotCleared tail)
  | .cleared slot value tail, _ => storeTail capacity state slot value tail

/-- A schedule entry: who moves, with which call. -/
inductive Action (α : Type*)
  | produce (value : α)
  | consume (call : ConsumerCall)

def step {α : Type*} [Inhabited α] (capacity : Capacity) (triviallyDestructible : Bool)
    (state : State α) : Action α → State α × Event α
  | .produce value => producerStep capacity state value
  | .consume call => consumerStep capacity triviallyDestructible state call

def machine {α : Type*} [Inhabited α] (capacity : Capacity) (triviallyDestructible : Bool) :
    Machine (State α) (Action α) (Event α) where
  step state action :=
    let result := step capacity triviallyDestructible state action
    (result.1, [result.2])

/-- `size()` on the two loaded indices. -/
def size (capacity : Capacity) (head tail : Nat) : Nat :=
  (head + 2 ^ 64 - tail) % 2 ^ 64 &&& capacity.mask

/-! ## Histories -/

section Histories

variable {α : Type*}

def Event.published? : Event α → Option (Nat × α)
  | .published slot value => some (slot, value)
  | _ => none

def Event.popped? : Event α → Option (Nat × α)
  | .popped slot value => some (slot, value)
  | _ => none

/-- The value and the result of a `push` that returns. -/
def Event.pushAnswer? : Event α → Option (α × Bool)
  | .full value => some (value, false)
  | .published _ value => some (value, true)
  | _ => none

/-- The element a `front` finds, once it returns. -/
def Event.frontAnswer? : Event α → Option (Option α)
  | .empty => some none
  | .slotRead _ value => some (some value)
  | _ => none

/-- The elements whose `push` returned true, in order, with their slots. -/
def accepted (events : List (Event α)) : List (Nat × α) := events.filterMap Event.published?

def delivered (events : List (Event α)) : List (Nat × α) := events.filterMap Event.popped?

/-- The values passed to `push`, in order, with its results. -/
def pushes (events : List (Event α)) : List (α × Bool) := events.filterMap Event.pushAnswer?

/-- The elements the consumer read, in order. -/
def reads (events : List (Event α)) : List α :=
  events.filterMap fun event => event.frontAnswer?.join

def unpopped (events : List (Event α)) : List (Nat × α) :=
  (accepted events).drop (delivered events).length

end Histories

end NetLatencyLab.SpscQueue
