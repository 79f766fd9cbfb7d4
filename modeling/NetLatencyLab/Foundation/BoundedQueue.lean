import NetLatencyLab.Foundation.Machine

/-! # Bounded first-in first-out queues

The atomic specification a concurrent bounded queue is measured against: its
state is the list of waiting elements, oldest first, and its steps are the
answers a client sees. -/

namespace NetLatencyLab.BoundedQueue

inductive Event (α : Type*)
  | enqueued (value : α)
  | refused
  | dequeued (value : α)
  | foundEmpty

variable {α : Type*}

/-- An element is refused only by a full queue, and emptiness is reported only
by an empty one. -/
inductive Step (bound : Nat) : List α → Event α → List α → Prop
  | enqueue {contents : List α} {value : α} (room : contents.length < bound) :
      Step bound contents (.enqueued value) (contents ++ [value])
  | refuse {contents : List α} (full : contents.length = bound) :
      Step bound contents .refused contents
  | dequeue {contents : List α} {value : α} :
      Step bound (value :: contents) (.dequeued value) contents
  | findEmpty : Step bound [] .foundEmpty []

def Event.enqueued? : Event α → Option α
  | .enqueued value => some value
  | _ => none

def Event.dequeued? : Event α → Option α
  | .dequeued value => some value
  | _ => none

def enqueued (events : List (Event α)) : List α := events.filterMap Event.enqueued?

def dequeued (events : List (Event α)) : List α := events.filterMap Event.dequeued?

theorem conservation {bound : Nat} {initial final : List α} {events : List (Event α)}
    (trace : Trace (Step bound) initial events final) :
    initial ++ enqueued events = dequeued events ++ final := by
  induction trace with
  | nil => simp [enqueued, dequeued]
  | cons step rest induction =>
      simp only [enqueued, dequeued] at induction
      cases step <;>
        simp_all [enqueued, dequeued, List.filterMap_cons, Event.enqueued?, Event.dequeued?]

end NetLatencyLab.BoundedQueue
