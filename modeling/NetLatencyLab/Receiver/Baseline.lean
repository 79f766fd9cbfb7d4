import NetLatencyLab.Receiver.ReceiveLoop

/-! # `receiver_baseline`

One `recvfrom` per datagram. -/

namespace NetLatencyLab.Receiver

/-- The only sign of truncation that `recvfrom` gives. -/
def fillsSlot (datagram : Datagram) : Bool := (copied datagram).length == receiveSlotBytes

def receiveDatagram (host : Endianness) (config : Config) (stats : Stats)
    (sequences : SequenceTracker) (receiveTs receiveMonoTs : UInt64) (datagram : Datagram) :
    Stats × SequenceTracker × Option ReceivedPacket :=
  let counted := stats.countDatagram
  if (copied datagram).length < MessageHeader.size then (counted.countShort, sequences, none)
  else
    let stats := if fillsSlot datagram then counted.countTruncated else counted
    acceptMessage host config stats sequences receiveTs receiveMonoTs (copied datagram)

def baselineHandler (fwrite : List UInt8 → Nat) (host : Endianness) (config : Config) : Handler :=
  fun locals socket environment _ =>
    match socket with
    | [] => (locals, [], [])
    | datagram :: rest =>
        let used := usePacket fwrite config (environment.process 0) locals
          (receiveDatagram host config locals.stats locals.sequences
            (receiveTimestamp config environment) environment.monoNs datagram)
        (used.1, rest, used.2)

def baselineMachine (fwrite : List UInt8 → Nat) (host : Endianness) (config : Config) :
    Machine LoopState LoopAction ReceivedPacket :=
  loopMachine fwrite config (baselineHandler fwrite host config)

/-! ## Correctness of the loop body -/

theorem receiveDatagram_eq (host : Endianness) (config : Config) (stats : Stats)
    (sequences : SequenceTracker) (receiveTs receiveMonoTs : UInt64) (datagram : Datagram) :
    receiveDatagram host config stats sequences receiveTs receiveMonoTs datagram =
      record config (fillsSlot datagram) stats sequences receiveTs receiveMonoTs
        (arrival host datagram) := by
  simp only [receiveDatagram, arrival, acceptMessage]
  split
  · rename_i short
    have fits : fillsSlot datagram = false := by
      have different : (copied datagram).length ≠ receiveSlotBytes := by
        rw [receiveSlotBytes]
        rw [MessageHeader.size] at short
        omega
      simpa [fillsSlot] using different
    rw [record, fits]
    rfl
  · split
    · rfl
    · split <;> rfl

theorem baselineHandler_handles (host : Endianness) (config : Config) :
    Handles host config fillsSlot
      (baselineHandler BinaryLogger.completeFwrite host config) where
  step := by
    intro locals socket environment count wants
    cases socket with
    | nil =>
        refine ⟨[], rfl, ?_, ?_⟩
        · intro nonzero
          have below : locals.stats.datagramsReceived < config.maxPackets := by
            simpa [wantsMore, nonzero] using wants
          exact Nat.le_of_lt below
        · intro datagrams packets consistent
          simpa [baselineHandler] using consistent
    | cons datagram rest =>
        refine ⟨[datagram], rfl, ?_, ?_⟩
        · intro nonzero
          have below : locals.stats.datagramsReceived < config.maxPackets := by
            simpa [wantsMore, nonzero] using wants
          exact below
        · intro datagrams packets consistent
          simp only [baselineHandler, receiveDatagram_eq]
          exact consistent.record datagram _ _ _

end NetLatencyLab.Receiver
