import NetLatencyLab.Common.BinaryLogger
import NetLatencyLab.Common.Packet
import NetLatencyLab.Common.SequenceTracker

/-! # What the three receivers share

Statistics, the accounting of one received packet, the processing of one packet
and the final collection of the counters. -/

namespace NetLatencyLab.Receiver

/-- A UDP payload. -/
abbrev Datagram := List UInt8

def receiveSlotBytes : Nat := 2048

structure Config where
  maxPackets : Nat
  batchSize : Nat
  workNs : Nat
  sampleEvery : Nat
  /-- The option parser accepts nothing else. -/
  batchRange : 1 ≤ batchSize ∧ batchSize ≤ 1024

structure ProcessingStats where
  processedPackets : Nat := 0
  firstProcessingMonoNs : UInt64 := 0
  lastProcessingMonoNs : UInt64 := 0
  sequences : SequenceTracker := .fresh

structure Stats where
  datagramsReceived : Nat := 0
  validPackets : Nat := 0
  uniqueValidPackets : Nat := 0
  receiveSequenceGaps : Nat := 0
  receiveDuplicates : Nat := 0
  receiveReordered : Nat := 0
  receiveOutOfWindow : Nat := 0
  processedPackets : Nat := 0
  uniqueProcessedPackets : Nat := 0
  processedSequenceGaps : Nat := 0
  processedDuplicates : Nat := 0
  processedReordered : Nat := 0
  processedOutOfWindow : Nat := 0
  shortPackets : Nat := 0
  truncatedPackets : Nat := 0
  invalidMagic : Nat := 0
  unsupportedVersion : Nat := 0
  spscOverflow : Nat := 0
  socketErrors : Nat := 0
  receiveSyscalls : Nat := 0
  sampledPackets : Nat := 0
  firstReceiveMonoNs : UInt64 := 0
  lastReceiveMonoNs : UInt64 := 0
  firstProcessingMonoNs : UInt64 := 0
  lastProcessingMonoNs : UInt64 := 0
  drainDurationNs : UInt64 := 0
  queueDepthAtShutdown : Nat := 0
  socketPendingBytesAtShutdown : Nat := 0
  interrupted : Bool := false
deriving DecidableEq

namespace Stats

/-! `++stats.field` for the fields that the receive loops increment. -/

def countDatagram (stats : Stats) : Stats :=
  { stats with datagramsReceived := stats.datagramsReceived + 1 }

def countShort (stats : Stats) : Stats := { stats with shortPackets := stats.shortPackets + 1 }

def countTruncated (stats : Stats) : Stats :=
  { stats with truncatedPackets := stats.truncatedPackets + 1 }

def countInvalidMagic (stats : Stats) : Stats :=
  { stats with invalidMagic := stats.invalidMagic + 1 }

def countUnsupportedVersion (stats : Stats) : Stats :=
  { stats with unsupportedVersion := stats.unsupportedVersion + 1 }

def countOverflow (stats : Stats) : Stats := { stats with spscOverflow := stats.spscOverflow + 1 }

def countSyscall (stats : Stats) : Stats :=
  { stats with receiveSyscalls := stats.receiveSyscalls + 1 }

def countSocketError (stats : Stats) : Stats :=
  { stats with socketErrors := stats.socketErrors + 1 }

end Stats

structure ReceivedPacket where
  message : MessageHeader
  receiveRealNs : UInt64 := 0
  receiveMonoNs : UInt64 := 0
  sampled : Bool := false
deriving DecidableEq, Inhabited

/-- The clock readings taken while one packet is processed. -/
structure ProcessReadings where
  monoStart : UInt64
  realStart : UInt64
  realFinish : UInt64
  monoFinish : UInt64
deriving DecidableEq, Inhabited

/-- `process_packet`. The synthetic work only reads the clock. -/
def processPacket (fwrite : List UInt8 → Nat) (logger : BinaryLogger) (stats : ProcessingStats)
    (packet : ReceivedPacket) (workNs : Nat) (readings : ProcessReadings) :
    BinaryLogger × ProcessingStats :=
  let processingMonoStart := readings.monoStart
  let processingRealStart := if packet.sampled then readings.realStart else 0
  let processingRealFinish := if packet.sampled then readings.realFinish else 0
  let processingMonoFinish := if workNs ≠ 0 then readings.monoFinish else processingMonoStart
  let logger :=
    if packet.sampled then
      logger.log fwrite
        { seqIdx := packet.message.seqIdx
          txTs := packet.message.sendUnixNs
          rxTs := packet.receiveRealNs
          processingStartTs := processingRealStart
          processingFinishTs := processingRealFinish }
    else logger
  (logger,
    { firstProcessingMonoNs :=
        if stats.processedPackets = 0 then processingMonoStart else stats.firstProcessingMonoNs
      lastProcessingMonoNs := processingMonoFinish
      processedPackets := stats.processedPackets + 1
      sequences := (stats.sequences.observe packet.message.seqIdx).1 })

/-- `sample_every != 0 && message.seq_idx % sample_every == 0`. -/
def isSampled (sampleEvery : Nat) (message : MessageHeader) : Bool :=
  sampleEvery != 0 && message.seqIdx.toNat % sampleEvery == 0

def accountReceive (stats : Stats) (sequences : SequenceTracker) (message : MessageHeader)
    (receiveRealNs receiveMonoNs : UInt64) (sampleEvery : Nat) :
    Stats × SequenceTracker × ReceivedPacket :=
  let sampled := isSampled sampleEvery message
  ({ stats with
      validPackets := stats.validPackets + 1
      firstReceiveMonoNs :=
        if stats.firstReceiveMonoNs = 0 then receiveMonoNs else stats.firstReceiveMonoNs
      lastReceiveMonoNs := receiveMonoNs
      sampledPackets := stats.sampledPackets + if sampled then 1 else 0 },
    (sequences.observe message.seqIdx).1,
    { message := message
      receiveRealNs := receiveRealNs
      receiveMonoNs := receiveMonoNs
      sampled := sampled })

def finalizeReceiveSequences (stats : Stats) (sequences : SequenceTracker) : Stats :=
  { stats with
    uniqueValidPackets := sequences.unique
    receiveSequenceGaps := sequences.gaps
    receiveDuplicates := sequences.duplicates
    receiveReordered := sequences.reordered
    receiveOutOfWindow := sequences.outOfWindow }

def mergeProcessing (stats : Stats) (processing : ProcessingStats) : Stats :=
  { stats with
    processedPackets := processing.processedPackets
    uniqueProcessedPackets := processing.sequences.unique
    processedSequenceGaps := processing.sequences.gaps
    processedDuplicates := processing.sequences.duplicates
    processedReordered := processing.sequences.reordered
    processedOutOfWindow := processing.sequences.outOfWindow
    firstProcessingMonoNs := processing.firstProcessingMonoNs
    lastProcessingMonoNs := processing.lastProcessingMonoNs }

/-! ## The socket

The kernel holds the datagrams that have not been received yet. It decides how
many of them one call hands over, and when a call fails. -/

inductive Reply where
  | failed (errno : Nat)
  | delivered (count : Nat)
deriving DecidableEq

/-- `EAGAIN`, `EWOULDBLOCK` and `EINTR`. -/
def isTransient (errno : Nat) : Bool := errno == 11 || errno == 4

/-- What one pass of a receive loop learns from its surroundings. -/
structure Environment where
  reply : Reply
  realNs : UInt64
  monoNs : UInt64
  /-- The readings while the packet of an index in the batch is processed. -/
  process : Nat → ProcessReadings
  pendingBytes : Nat

def copied (datagram : Datagram) : List UInt8 := datagram.take receiveSlotBytes

/-- `MSG_TRUNC`. -/
def isTruncated (datagram : Datagram) : Bool := datagram.length > receiveSlotBytes

/-- `memcpy` and `to_host`. -/
def readHeader (host : Endianness) (bytes : List UInt8) : MessageHeader :=
  (MessageHeader.ofMemory host bytes).toHost host

/-- `receive_ts`: a clock reading only when samples are taken. -/
def receiveTimestamp (config : Config) (environment : Environment) : UInt64 :=
  if config.sampleEvery ≠ 0 then environment.realNs else 0

def wantsMore (config : Config) (stats : Stats) : Bool :=
  config.maxPackets == 0 || stats.datagramsReceived < config.maxPackets

/-- The number of messages requested from `recvmmsg`. -/
def requested (config : Config) (stats : Stats) : Nat :=
  if config.maxPackets ≠ 0 then
    min config.batchSize (config.maxPackets - stats.datagramsReceived)
  else config.batchSize

/-- From `memcpy` to `account_receive`: the part of the loop body that is the
same in the three programs. -/
def acceptMessage (host : Endianness) (config : Config) (stats : Stats)
    (sequences : SequenceTracker) (receiveTs receiveMonoTs : UInt64) (buffer : List UInt8) :
    Stats × SequenceTracker × Option ReceivedPacket :=
  let message := readHeader host buffer
  if message.magic ≠ 0x6584 then (stats.countInvalidMagic, sequences, none)
  else if message.version ≠ 1 then (stats.countUnsupportedVersion, sequences, none)
  else
    let accounted :=
      accountReceive stats sequences message receiveTs receiveMonoTs config.sampleEvery
    (accounted.1, accounted.2.1, some accounted.2.2)

/-- The body of the loop over received messages in `receiver_batched` and
`receiver_threaded`, up to the use of the packet. -/
def receiveMessage (host : Endianness) (config : Config) (stats : Stats)
    (sequences : SequenceTracker) (receiveTs receiveMonoTs : UInt64) (datagram : Datagram) :
    Stats × SequenceTracker × Option ReceivedPacket :=
  let counted := stats.countDatagram
  let stats := if isTruncated datagram then counted.countTruncated else counted
  if (copied datagram).length < MessageHeader.size then (stats.countShort, sequences, none)
  else acceptMessage host config stats sequences receiveTs receiveMonoTs (copied datagram)

end NetLatencyLab.Receiver
