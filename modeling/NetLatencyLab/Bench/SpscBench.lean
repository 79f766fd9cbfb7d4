import NetLatencyLab.Common.SpscQueue

/-! # `spsc_bench`

`run_once` hands numbered items from one thread to another. A full queue makes
the producer try the same item again; a consumer that finds the queue empty
after `producer_done` looks once more before it leaves. One action moves one
thread past one access to the shared variables. -/

namespace NetLatencyLab.Bench

theorem singleBit : ∃ bit < 64, 4096 = 2 ^ bit := ⟨12, by decide, rfl⟩

/-- `capacity`. -/
def queueCapacity : SpscQueue.Capacity := ⟨4096, singleBit⟩

structure Item where
  seqIdx : UInt32
  sendUnixNs : UInt64
  receiveRealNs : UInt64
  sampled : Bool
deriving DecidableEq, Inhabited

def Item.numbered (index : Nat) : Item where
  seqIdx := UInt32.ofNat index
  sendUnixNs := UInt64.ofNat index
  receiveRealNs := UInt64.ofNat index
  sampled := false

inductive Producer where
  | starting
  | pushing (index : Nat)
  | announcing
  | joining
  | finished

/-- `rechecking` is the second `front`, after `producer_done` was seen. -/
inductive Consumer where
  | starting
  | front
  | checking
  | rechecking
  | pop
  | exited
deriving DecidableEq

structure ProducerThread where
  position : Producer := .starting
  startedNs : UInt64 := 0
  elapsedNs : UInt64 := 0
  dropped : UInt64 := 0

/-- `consumed` is the counter that the consumer stores when it leaves. -/
structure ConsumerThread where
  position : Consumer := .starting
  startedNs : UInt64 := 0
  elapsedNs : UInt64 := 0
  consumed : UInt64 := 0

structure State where
  queue : SpscQueue.State Item
  producerDone : Bool
  producer : ProducerThread
  consumer : ConsumerThread

/-- Who moves, and what `mono_ns` answers if it is asked. -/
inductive Action where
  | producer (monoNs : UInt64)
  | consumer (monoNs : UInt64)

/-- A `push` has returned. -/
def ProducerThread.pushed (thread : ProducerThread) (index : Nat) (result : Bool) :
    ProducerThread :=
  if result then { thread with position := .pushing (index + 1) }
  else { thread with dropped := thread.dropped + 1 }

def producerStep (elements : UInt64) (state : State) (monoNs : UInt64) :
    State × List (SpscQueue.Event Item) :=
  let thread := state.producer
  match thread.position with
  | .starting =>
      ({ state with producer := { thread with position := .pushing 0, startedNs := monoNs } }, [])
  | .pushing index =>
      if index < elements.toNat then
        let pushed := SpscQueue.producerStep queueCapacity state.queue (Item.numbered index)
        let thread :=
          match pushed.2.pushAnswer? with
          | none => thread
          | some answer => thread.pushed index answer.2
        ({ state with queue := pushed.1, producer := thread }, [pushed.2])
      else
        ({ state with
            producer :=
              { thread with
                position := .announcing
                elapsedNs := monoNs - thread.startedNs } }, [])
  | .announcing =>
      ({ state with
          producerDone := true
          producer := { thread with position := .joining } }, [])
  | .joining =>
      if state.consumer.position = .exited then
        ({ state with producer := { thread with position := .finished } }, [])
      else (state, [])
  | .finished => (state, [])

/-- The first `front` of a turn has reached `answer`. -/
def ConsumerThread.fronted (thread : ConsumerThread) (answer : Option (Option Item)) :
    ConsumerThread :=
  match answer with
  | none => thread
  | some none => { thread with position := .checking }
  | some (some _) => { thread with position := .pop }

/-- The second `front`. An item it finds is left for the next turn; the read
through its pointer, which the source does not make, changes nothing. -/
def ConsumerThread.rechecked (thread : ConsumerThread) (answer : Option (Option Item))
    (monoNs : UInt64) : ConsumerThread :=
  match answer with
  | none => thread
  | some none => { thread with position := .exited, elapsedNs := monoNs - thread.startedNs }
  | some (some _) => { thread with position := .front }

def ConsumerThread.popped (thread : ConsumerThread) (returned : Bool) : ConsumerThread :=
  if returned then { thread with position := .front, consumed := thread.consumed + 1 }
  else thread

def consumerStep (state : State) (monoNs : UInt64) : State × List (SpscQueue.Event Item) :=
  let thread := state.consumer
  match thread.position with
  | .starting =>
      ({ state with consumer := { thread with position := .front, startedNs := monoNs } }, [])
  | .front =>
      let fronted := SpscQueue.consumerStep queueCapacity true state.queue .front
      ({ state with
          queue := fronted.1
          consumer := thread.fronted fronted.2.frontAnswer? }, [fronted.2])
  | .checking =>
      let position := if state.producerDone then .rechecking else .front
      ({ state with consumer := { thread with position := position } }, [])
  | .rechecking =>
      let fronted := SpscQueue.consumerStep queueCapacity true state.queue .front
      ({ state with
          queue := fronted.1
          consumer := thread.rechecked fronted.2.frontAnswer? monoNs }, [fronted.2])
  | .pop =>
      let popped := SpscQueue.consumerStep queueCapacity true state.queue .pop
      ({ state with
          queue := popped.1
          consumer := thread.popped popped.2.popped?.isSome }, [popped.2])
  | .exited => (state, [])

def step (elements : UInt64) (state : State) : Action → State × List (SpscQueue.Event Item)
  | .producer monoNs => producerStep elements state monoNs
  | .consumer monoNs => consumerStep state monoNs

def machine (elements : UInt64) : Machine State Action (SpscQueue.Event Item) where
  step := step elements

def start : State where
  queue := SpscQueue.initial fun _ => default
  producerDone := false
  producer := {}
  consumer := {}

/-- What `run_once` returns; the source divides the times by `elements`. -/
structure Result where
  producerElapsedNs : UInt64
  consumerElapsedNs : UInt64
  overflows : UInt64

def result (state : State) : Result where
  producerElapsedNs := state.producer.elapsedNs
  consumerElapsedNs := state.consumer.elapsedNs
  overflows := state.producer.dropped

end NetLatencyLab.Bench
