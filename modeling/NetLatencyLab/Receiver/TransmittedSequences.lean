import NetLatencyLab.Common.SequenceAccounting
import NetLatencyLab.Receiver.WireCodec

/-! # Sequence numbers on the wire

The sender counts in 64 bits and a header carries the low 32 of them. A receiver
that gets every packet once and in order counts exactly as long as these grow. -/

namespace NetLatencyLab.Receiver

open SequenceTracker (countsExactly_iff)

/-- A packet that a worker has transmitted. -/
structure Sending where
  sequence : Nat
  realNs : UInt64

variable (sender receiver : Endianness) (config : Sender.Config)

def payloads (sendings : List Sending) : List Datagram :=
  sendings.map fun sending =>
    (Sender.encodeMessage sender config sending.sequence sending.realNs).payload

theorem arrival_payload (sequence : Nat) (realNs : UInt64) :
    ∃ message, arrival receiver (Sender.encodeMessage sender config sequence realNs).payload =
        .valid message ∧ message.seqIdx = UInt32.ofNat sequence := by
  rw [encodeMessage_payload, encodeDatagram_eq]
  exact ⟨_, arrival_header sender receiver rfl rfl _, rfl⟩

theorem messages_payloads (sendings : List Sending) :
    (messages receiver (payloads sender config sendings)).map (·.seqIdx) =
      sendings.map fun sending => UInt32.ofNat sending.sequence := by
  induction sendings with
  | nil => rfl
  | cons sending sendings induction =>
      rcases arrival_payload sender receiver config sending.sequence sending.realNs with
        ⟨message, arrived, seqIdx⟩
      have first : messages receiver (payloads sender config (sending :: sendings)) =
          message :: messages receiver (payloads sender config sendings) := by
        rw [payloads, List.map_cons, messages, List.filterMap_cons, arrived]
        rfl
      rw [first, List.map_cons, List.map_cons, induction, seqIdx]

/-- The tracker of a receiver that got all transmitted packets in their order. -/
def trackerOf (sendings : List Sending) : SequenceTracker :=
  SequenceTracker.fresh.observeAll
    ((messages receiver (payloads sender config sendings)).map (·.seqIdx))

/-- The packets are counted exactly when the low halves of their numbers grow,
and so they do as long as the numbers themselves grow and fit the header. -/
theorem transmitted_sequences_count_exactly_iff (sendings : List Sending) :
    ((trackerOf sender receiver config sendings).CountsExactly sendings.length ↔
      sendings.Pairwise fun earlier later =>
        earlier.sequence % 2 ^ 32 < later.sequence % 2 ^ 32) ∧
    ((sendings.Pairwise fun earlier later => earlier.sequence < later.sequence) →
      (∀ sending ∈ sendings, sending.sequence < 2 ^ 32) →
        (trackerOf sender receiver config sendings).CountsExactly sendings.length) := by
  have exact : (trackerOf sender receiver config sendings).CountsExactly sendings.length ↔
      sendings.Pairwise fun earlier later =>
        earlier.sequence % 2 ^ 32 < later.sequence % 2 ^ 32 := by
    have counts := countsExactly_iff (sendings.map fun sending => UInt32.ofNat sending.sequence)
    rw [List.length_map, List.pairwise_map] at counts
    rw [trackerOf, messages_payloads]
    simpa only [UInt32.toNat_ofNat'] using counts
  refine ⟨exact, ?_⟩
  intro increasing fits
  apply exact.mpr
  apply increasing.imp_of_mem
  intro earlier later earlierMember laterMember grows
  rw [Nat.mod_eq_of_lt (fits earlier earlierMember), Nat.mod_eq_of_lt (fits later laterMember)]
  exact grows

/-- A flood of small packets. -/
def floodConfig : Sender.Config where
  ratePps := 1000000
  durationNs := 2 ^ 63
  mode := .flood
  burstSize := 2
  payloadSize := 32
  timestampEvery := 0
  sendBatchMax := 64
  batchWindowUs := 20
  threads := 1
  tracing := false
  rateRange := by decide
  durationRange := by decide
  burstRange := by decide
  payloadRange := by decide
  batchRange := by decide
  windowRange := by decide
  threadRange := by decide
  steadyBurst := nofun
  burstThreads := nofun

/-- The packet after the number 2^32 - 1 is taken for a reordered one. -/
theorem wrapped_sequence_is_reordered :
    ¬ (trackerOf .little .little floodConfig [⟨2 ^ 32 - 1, 0⟩, ⟨2 ^ 32, 0⟩]).CountsExactly 2 := by
  intro exact
  have observed : (messages .little (payloads .little floodConfig
      [⟨2 ^ 32 - 1, 0⟩, ⟨2 ^ 32, 0⟩])).map (·.seqIdx) = [4294967295, 0] :=
    messages_payloads .little .little floodConfig _
  have reordered := exact.reordered
  rw [trackerOf, observed] at reordered
  have counted : (SequenceTracker.fresh.observeAll [4294967295, 0]).reordered = 1 := by
    decide +kernel
  rw [counted] at reordered
  cases reordered

end NetLatencyLab.Receiver
