import NetLatencyLab.Receiver.ReceiveLoop

/-! # `receiver_batched`

One `recvmmsg` per batch; the messages of a batch are processed in order. -/

namespace NetLatencyLab.Receiver

def batchedPass (fwrite : List UInt8 → Nat) (host : Endianness) (config : Config)
    (environment : Environment) (accumulated : Locals × List ReceivedPacket)
    (message : Datagram × Nat) : Locals × List ReceivedPacket :=
  let used := usePacket fwrite config (environment.process message.2) accumulated.1
    (receiveMessage host config accumulated.1.stats accumulated.1.sequences
      (receiveTimestamp config environment) environment.monoNs message.1)
  (used.1, accumulated.2 ++ used.2)

def batchedHandler (fwrite : List UInt8 → Nat) (host : Endianness) (config : Config) : Handler :=
  fun locals socket environment count =>
    let received := min count (requested config locals.stats)
    let handled := (socket.take received).zipIdx.foldl
      (batchedPass fwrite host config environment) (locals, [])
    (handled.1, socket.drop received, handled.2)

def batchedMachine (fwrite : List UInt8 → Nat) (host : Endianness) (config : Config) :
    Machine LoopState LoopAction ReceivedPacket :=
  loopMachine fwrite config (batchedHandler fwrite host config)

/-! ## Correctness of the loop over a batch -/

theorem batchedPass_consistent {host : Endianness} {config : Config} (environment : Environment)
    {datagrams : List Datagram} {packets : List ReceivedPacket} (batch : List Datagram)
    (first : Nat) (accumulated : Locals × List ReceivedPacket) (received : List Datagram)
    (consistent : Consistent host config isTruncated accumulated.1 (datagrams ++ received)
      (packets ++ accumulated.2)) :
    let handled := (batch.zipIdx first).foldl
      (batchedPass BinaryLogger.completeFwrite host config environment) accumulated
    Consistent host config isTruncated handled.1 (datagrams ++ (received ++ batch))
      (packets ++ handled.2) := by
  induction batch generalizing first accumulated received with
  | nil => simpa using consistent
  | cons datagram batch induction =>
      have next := consistent.record datagram (receiveTimestamp config environment)
        environment.monoNs (environment.process first)
      rw [← receiveMessage_eq] at next
      have rest := induction (first + 1)
        (batchedPass BinaryLogger.completeFwrite host config environment accumulated
          (datagram, first)) (received ++ [datagram])
        (by simpa [batchedPass] using next)
      simpa using rest

theorem batchedHandler_handles (host : Endianness) (config : Config) :
    Handles host config isTruncated
      (batchedHandler BinaryLogger.completeFwrite host config) where
  step := by
    intro locals socket environment count wants
    let received := min count (requested config locals.stats)
    refine ⟨socket.take received, (List.take_append_drop received socket).symm, ?_, ?_⟩
    · intro nonzero
      have limit := add_requested_le wants nonzero
      have taken : (socket.take received).length ≤ received := List.length_take_le received socket
      omega
    · intro datagrams packets consistent
      exact batchedPass_consistent environment (socket.take received) 0 (locals, []) []
        (by simpa using consistent)

end NetLatencyLab.Receiver
