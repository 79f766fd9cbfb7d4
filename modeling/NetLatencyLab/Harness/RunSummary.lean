import NetLatencyLab.Harness.RunMetadata
import NetLatencyLab.Harness.RunQualification
import NetLatencyLab.Harness.RunValidity

/-! # The summary of a run

What the row that `generate_summary.py` makes of a run says of its packets. -/

namespace NetLatencyLab.Harness

open CommandLine (Double)
open Counters (Delta)
open Fallible (bind_eq_ok pure_eq_ok)
open GenerateSummary (RunSummary item lossPct perSecond required senderRequired receiverRequired
  receiverRequiredV2 summarizeRun validateMetadata validateV2)
open JsonFiles (Json JsonObject)
open LatencyUtils (Row)
open LeastSquares (Line)
open PythonText (Text)
open Receiver (Books Datagram ReadBack)
open Sender (FloatText wire)
open Statistics (Field safeReadJson)

/-- Python's `float` reads what the sender's `%.*f` has printed. -/
def ReadsNumbers (floats : FloatText) (float : Text → Option Double) : Prop :=
  ∀ places value, 0 < places → 0 ≤ value →
    ∃ number, float (floats.toFloat (floats.print places value)) = some (.finite number)

/-! ## The metadata -/

structure Recorded (run : SenderRun) {datagrams : List Datagram} (receiver : ReceiverRun datagrams)
    (elapsed achieved : ℚ) (metadata : GenerateSummary.Metadata) : Prop where
  version : metadata.schemaVersion = 2
  known : metadata.topology ∈ GenerateSummary.topologies
  judged : metadata.validity.isSome
  attempted : metadata.senderStats.lookup "attempted_sends" =
    some (run.report.stats.attemptedSends : Int)
  successful : metadata.senderStats.lookup "successful_sends" =
    some (run.report.stats.successfulSends : Int)
  failed : metadata.senderStats.lookup "failed_sends" = some (run.report.stats.failedSends : Int)
  elapsed : metadata.elapsedSeconds = some elapsed
  achieved : metadata.achievedSuccessfulSendPps = some achieved
  counters : ∀ field ∈ receiver.outcome.stats.fields,
    metadata.receiverStats.lookup field.1 = some field.2

section

variable {run : SenderRun} {datagrams : List Datagram} {receiver : ReceiverRun datagrams}
  {elapsed achieved : ℚ} {metadata : GenerateSummary.Metadata}

theorem item_of_lookup {fields : Fields} {key : String} {value : Int}
    (found : fields.lookup key = some value) : item fields key = .ok value := by
  rw [item, Fields.item, found]

namespace Recorded

theorem counter (recorded : Recorded run receiver elapsed achieved metadata) (key : String)
    (value : Int) (listed : (key, value) ∈ receiver.outcome.stats.fields) :
    metadata.receiverStats.lookup key = some value :=
  recorded.counters (key, value) listed

theorem complete (recorded : Recorded run receiver elapsed achieved metadata) :
    senderRequired.filter (fun key => ! metadata.senderHas key) = [] ∧
      receiverRequired.filter (fun key => (metadata.receiverStats.lookup key).isNone) = [] ∧
      receiverRequiredV2.find? (fun key => (metadata.receiverStats.lookup key).isNone) = none := by
  have present : ∀ key ∈ receiverRequired ++ receiverRequiredV2,
      (metadata.receiverStats.lookup key).isNone = false := by
    intro key member
    have names : key ∈ receiver.outcome.stats.fields.map Prod.fst := by
      revert key
      exact show ∀ key ∈ receiverRequired ++ receiverRequiredV2,
        key ∈ (({} : Receiver.Stats).fields).map Prod.fst by decide +kernel
    rcases List.mem_map.mp names with ⟨field, listed, rfl⟩
    rw [recorded.counters field listed]
    rfl
  refine ⟨?_, ?_, ?_⟩
  · simp [senderRequired, GenerateSummary.Metadata.senderHas, recorded.attempted,
      recorded.successful, recorded.failed, recorded.elapsed, recorded.achieved]
  · rw [List.filter_eq_nil_iff]
    intro key member
    simp [present key (List.mem_append_left _ member)]
  · rw [List.find?_eq_none]
    intro key member
    simp [present key (List.mem_append_right _ member)]

/-- Metadata of a run can only be refused for attempts that are neither successes
nor failures. -/
theorem validateMetadata_iff (recorded : Recorded run receiver elapsed achieved metadata) :
    validateMetadata metadata = .ok () ↔ run.report.stats.attemptedSends =
      run.report.stats.successfulSends + run.report.stats.failedSends := by
  rcases receiver.ends.books with ⟨_, _, _, books, _⟩
  have overflow := books.overflow
  rcases recorded.complete with ⟨sender, heard, later⟩
  have processed := recorded.counter "processed_packets"
    receiver.outcome.stats.processedPackets (by simp [Receiver.Stats.fields])
  have spsc := recorded.counter "spsc_overflow" receiver.outcome.stats.spscOverflow
    (by simp [Receiver.Stats.fields])
  have valid := recorded.counter "valid_packets" receiver.outcome.stats.validPackets
    (by simp [Receiver.Stats.fields])
  have judged : metadata.validity.isNone = false := by
    rw [← Option.not_isSome, recorded.judged]
    rfl
  have balanced : (receiver.outcome.stats.processedPackets : Int) +
      receiver.outcome.stats.spscOverflow = receiver.outcome.stats.validPackets := by
    exact_mod_cast overflow
  rw [validateMetadata, if_neg (not_not.mpr recorded.known), sender, heard]
  simp only [item_of_lookup recorded.attempted, item_of_lookup recorded.successful,
    item_of_lookup recorded.failed, item_of_lookup processed, item_of_lookup spsc,
    item_of_lookup valid, bind, Except.bind, ne_eq, not_true_eq_false, if_false]
  rw [validateV2, later]
  simp only [judged, recorded.version, balanced]
  by_cases reconciled : run.report.stats.attemptedSends =
      run.report.stats.successfulSends + run.report.stats.failedSends
  · simp [reconciled]
  · have apart : ¬ (run.report.stats.attemptedSends : Int) =
        run.report.stats.successfulSends + run.report.stats.failedSends := by
      exact_mod_cast reconciled
    simp [reconciled, apart]

end Recorded

end

/-! ## The record of a run -/

section

variable {floats : FloatText} {float : Text → Option Double} {run : SenderRun}
  {datagrams : List Datagram} {receiver : ReceiverRun datagrams} {sender heard : JsonObject}

theorem numberAt_of_lookup {object : JsonObject} {name : String} {text : Text} {value : ℚ}
    (found : object.lookup name.toList = some (.float text))
    (reads : float text = some (.finite value)) : numberAt float object name = some value := by
  rw [numberAt, found]
  simp [Json.toDouble, reads]

structure RecordOf (float : Text → Option Double) (config : Configuration) (item : RunTuple)
    (counters : List (String × Delta)) (states : NodeStates) (run : SenderRun)
    {datagrams : List Datagram} (receiver : ReceiverRun datagrams) (elapsed achieved : ℚ)
    (record : RunRecord) : Prop where
  recorded : Recorded run receiver elapsed achieved record.metadata
  rate : record.metadata.run.requestedRatePps = item.rate
  valid : ∃ verdict, record.metadata.validity = some ⟨some verdict⟩ ∧
    (verdict = true ↔ receiver.outcome.stats.uniqueValidPackets ≤ (wire run.outcome.2).length ∧
      Clean run receiver counters config.globalConfig.topology states)
  accounting : record.packetAccounting =
    let sent : Int := run.report.stats.successfulSends
    let received : Int := receiver.outcome.stats.uniqueValidPackets
    let processed : Int := receiver.outcome.stats.uniqueProcessedPackets
    { requestedRatePps := item.rate
      offeredPps := if elapsed > 0 then sent / elapsed else 0
      receivedPps := if elapsed > 0 then received / elapsed else 0
      processedPps := if elapsed > 0 then processed / elapsed else 0
      ingressLoss := sent - received
      applicationLoss := sent - processed
      ingressLossPct := if sent ≠ 0 then 100 * (sent - received : Int) / sent else 0
      applicationLossPct := if sent ≠ 0 then 100 * (sent - processed : Int) / sent else 0 }

private theorem exists_runRecord (reads : ReadsNumbers floats float)
    (sent : Holds sender (Sender.statsFields floats run.report))
    (told : ReadBack receiver.options receiver.outcome.stats receiver.buffer receiver.outcomes heard)
    {config : Configuration} (accepted : validateConfig config = .ok ()) (item : RunTuple)
    {settings : BenchmarkSettings} {duration : ℚ}
    (lasts : settings.sender.durationSeconds.seconds = some (.finite duration))
    (counters : List (String × Delta)) (states : NodeStates) :
    ∃ record elapsed achieved,
      runRecord float config.globalConfig item settings sender heard counters states = some record ∧
      RecordOf float config item counters states run receiver elapsed achieved record := by
  rcases reads 9 ((run.report.elapsedNs : ℚ) / 1000000000) (by decide) (by positivity) with
    ⟨elapsed, readElapsed⟩
  have rate : (0 : ℚ) ≤ if 0 < (run.report.elapsedNs : ℚ) / 1000000000 then
      (run.report.stats.successfulSends : ℚ) / ((run.report.elapsedNs : ℚ) / 1000000000) else 0 := by
    split
    · positivity
    · exact le_refl 0
  rcases reads 6 _ (by decide) rate with ⟨achieved, readAchieved⟩
  have seconds : numberAt float sender "elapsed_seconds" = some elapsed :=
    numberAt_of_lookup (sent.scalar (Sender.fixedField floats "elapsed_seconds" 9
      ((run.report.elapsedNs : ℚ) / 1000000000)) (by simp [Sender.scalarFields])) readElapsed
  have perSecond : numberAt float sender "achieved_successful_send_pps" = some achieved :=
    numberAt_of_lookup (sent.scalar (Sender.fixedField floats "achieved_successful_send_pps" 6 _)
      (by simp [Sender.scalarFields])) readAchieved
  have integer : ∀ (name : String) (value : Nat),
      Field.natural name value ∈ Sender.scalarFields floats run.report →
        (integers float sender).lookup name = some (value : Int) :=
    fun name value listed => lookup_integers (sent.scalar _ listed) rfl
  have counted := receiver_count float told
  have successful := (sent.count float "successful_sends" run.report.stats.successfulSends
    (by simp [Sender.scalarFields])).1
  have unique := (counted "unique_valid_packets" receiver.outcome.stats.uniqueValidPackets
    (by simp [Receiver.Stats.fields])).1
  have uniqueProcessed := (counted "unique_processed_packets"
    receiver.outcome.stats.uniqueProcessedPackets (by simp [Receiver.Stats.fields])).1
  rcases validityReasons_decides float sent told counters config.globalConfig.topology states with
    ⟨reasons, computed, none⟩
  refine ⟨?made, elapsed, achieved, ?computed, ?record⟩
  case computed =>
    rw [runRecord, packetAccounting, successful, unique, uniqueProcessed, seconds, computed,
      told.variant, lasts, perSecond]
    rfl
  case record =>
    exact {
      recorded := {
        version := rfl
        known := topology_mem accepted
        judged := rfl
        attempted := integer _ _ (by simp [Sender.scalarFields])
        successful := integer _ _ (by simp [Sender.scalarFields])
        failed := integer _ _ (by simp [Sender.scalarFields])
        elapsed := rfl
        achieved := rfl
        counters := fun field listed => lookup_integers (told.counters field listed) rfl }
      rate := rfl
      valid := ⟨_, rfl, decide_eq_true_iff.trans none⟩
      accounting := rfl }

/-! ## The row of a run -/

theorem loss_le_of_lossPct {sent processed : Int} (some : 0 < sent)
    (small : lossPct (sent - processed) sent ≤ 1 / 10) : 1000 * (sent - processed) ≤ sent := by
  have positive : (0 : ℚ) < sent := by exact_mod_cast some
  rw [lossPct, if_pos some.ne', div_le_iff₀ positive] at small
  have scaled : (1000 : ℚ) * ((sent - processed : Int) : ℚ) ≤ sent := by linarith
  exact_mod_cast scaled

/-- What a row says of a run that has received `received` and processed `used`. -/
structure Summarizes (config : Configuration) (counters : List (String × Delta))
    (states : NodeStates) (run : SenderRun) {datagrams : List Datagram}
    (receiver : ReceiverRun datagrams) (received : List Datagram) (used : List MessageHeader)
    (accounting : PacketAccounting) (row : RunSummary) : Prop where
  sent : row.sendSuccesses = (wire run.outcome.2).length
  unique : row.receivedPackets = receiver.outcome.stats.uniqueValidPackets
  processed : row.processedPackets = receiver.outcome.stats.uniqueProcessedPackets
  ingress : row.ingressLoss = some accounting.ingressLoss
  accounting : accounting =
    { requestedRatePps := row.requestedRatePps
      offeredPps := row.offeredPps
      receivedPps := row.receivedPps
      processedPps := row.processedPps
      ingressLoss := row.sendSuccesses - row.receivedPackets
      applicationLoss := row.applicationLoss
      ingressLossPct := row.ingressLossPct
      applicationLossPct := row.applicationLossPct }
  zeroLoss : row.zeroLossRun ↔
    receiver.outcome.stats.uniqueProcessedPackets = (wire run.outcome.2).length ∧
      receiver.outcome.stats.uniqueValidPackets = (wire run.outcome.2).length
  delivered : row.zeroLossRun → receiver.outcome.stats.receiveOutOfWindow = 0 →
    lost receiver.host run.outcome.2 received = 0 ∧ unprocessed run.outcome.2 used = 0
  sustainable : row.sustainableRun →
    Clean run receiver counters config.globalConfig.topology states ∧
      ((wire run.outcome.2).map (·.sequence)).Perm (List.range run.outcome.1.nextSequence) ∧
      (receiver.outcome.stats.receiveOutOfWindow = 0 →
        1000 * unprocessed run.outcome.2 used ≤ (wire run.outcome.2).length)

theorem RecordOf.summarizes {config : Configuration} {item : RunTuple}
    {counters : List (String × Delta)} {states : NodeStates} {elapsed achieved : ℚ}
    {record : RunRecord}
    (made : RecordOf float config item counters states run receiver elapsed achieved record)
    (carries : Carries receiver.host run.outcome.2 datagrams) {received : List Datagram}
    {used : List MessageHeader} (split : datagrams = received ++ receiver.outcome.socket)
    (books : Books receiver.host received used receiver.outcome.stats)
    {polyfit : List (ℚ × ℚ) → Line ℚ} {frame : List Row} {row : RunSummary}
    (summarized : summarizeRun polyfit record.metadata frame = .ok row) :
    Summarizes config counters states run receiver received used record.packetAccounting row := by
  have recorded := made.recorded
  have reconciled : validateMetadata record.metadata = .ok () := by
    simp only [summarizeRun, bind_eq_ok] at summarized
    rcases summarized with ⟨_, valid, _⟩
    exact valid
  rw [recorded.validateMetadata_iff] at reconciled
  have unique := recorded.counter "unique_valid_packets"
    receiver.outcome.stats.uniqueValidPackets (by simp [Receiver.Stats.fields])
  have uniqueProcessed := recorded.counter "unique_processed_packets"
    receiver.outcome.stats.uniqueProcessedPackets (by simp [Receiver.Stats.fields])
  rcases made.valid with ⟨verdict, judged, clean⟩
  have arrived := lost_add_unique_le run.encoded carries split books
  have finished := unprocessed_add_unique_le run.encoded carries split books
  have fewer := uniqueProcessed_le books
  have sent := run.successful
  simp only [summarizeRun, bind_eq_ok, pure_eq_ok, item_of_lookup recorded.attempted,
    item_of_lookup recorded.successful, item_of_lookup recorded.failed, recorded.elapsed,
    recorded.achieved, required, unique, uniqueProcessed, Option.getD_some, judged,
    Option.bind_some, made.rate] at summarized
  rcases summarized with ⟨-, -, successful, first, -, -, -, -, seconds, second, rate, third,
    attempted, fourth, failed, fifth, overflow, sixth, rfl⟩
  cases first
  cases second
  cases third
  cases fourth
  cases fifth
  exact {
    sent := congrArg Nat.cast sent
    unique := rfl
    processed := rfl
    ingress := by rw [made.accounting]
    accounting := by
      rw [made.accounting]
      rfl
    zeroLoss := by
      rw [decide_eq_true_iff]
      omega
    delivered := by
      intro exact inside
      have none := decide_eq_true_iff.mp exact
      omega
    sustainable := by
      intro good
      have all := decide_eq_true_iff.mp good
      rcases all with ⟨valid, none, _, some, _, _, _, _, small⟩
      have drawn := run.attempted
      have least := loss_le_of_lossPct some small
      refine ⟨(clean.mp valid).2, sequences_perm run.conserved ?_, ?_⟩
      · omega
      · intro inside
        omega }

end

/-- The metadata of a run are summarized unless the sender has given up packets, and
then the row agrees with the accounting of the controller. A run without loss has
delivered and processed every packet, and a sustainable one all but one in a
thousand, as long as no packet arrives outside the receiver's window. -/
theorem summary_of_run {floats : FloatText} (fixed : floats.Fixed) {float : Text → Option Double}
    (reads : ReadsNumbers floats float) (run : SenderRun) {datagrams : List Datagram}
    (receiver : ReceiverRun datagrams) (carries : Carries receiver.host run.outcome.2 datagrams)
    {config : Configuration} (accepted : validateConfig config = .ok ()) (item : RunTuple)
    {settings : BenchmarkSettings} {duration : ℚ}
    (lasts : settings.sender.durationSeconds.seconds = some (.finite duration))
    (counters : List (String × Delta)) (states : NodeStates) (polyfit : List (ℚ × ℚ) → Line ℚ)
    (frame : List Row) :
    ∃ sender heard record, safeReadJson floats.toFloat (run.file floats) = some sender ∧
      safeReadJson floats.toFloat receiver.file = some heard ∧
      runRecord float config.globalConfig item settings sender heard counters states =
        some record ∧
      ((∃ row, summarizeRun polyfit record.metadata frame = .ok row) ↔
        run.report.stats.attemptedSends =
          run.report.stats.successfulSends + run.report.stats.failedSends) ∧
      ∃ received used, datagrams = received ++ receiver.outcome.socket ∧
        Books receiver.host received used receiver.outcome.stats ∧
        ∀ row, summarizeRun polyfit record.metadata frame = .ok row →
          Summarizes config counters states run receiver received used record.packetAccounting
            row := by
  rcases run.file_read_back fixed with ⟨sender, readSender, sent⟩
  rcases receiver.file_read_back floats.toFloat with ⟨heard, readHeard, told⟩
  rcases exists_runRecord reads sent told accepted item lasts counters states with
    ⟨record, elapsed, achieved, computed, made⟩
  rcases receiver.ends.books with ⟨received, used, split, books, _⟩
  refine ⟨sender, heard, record, readSender, readHeard, computed, ?_, received, used, split, books,
    fun row summarized => made.summarizes carries split books summarized⟩
  rw [← made.recorded.validateMetadata_iff]
  constructor
  · intro some
    rcases some with ⟨row, summarized⟩
    simp only [summarizeRun, bind_eq_ok] at summarized
    rcases summarized with ⟨_, valid, _⟩
    exact valid
  · intro valid
    rcases GenerateSummary.exists_summarizeRun polyfit valid frame with ⟨row, summarized, _⟩
    exact ⟨row, summarized⟩

/-- `float` of the numbers that are printed with a point, whatever it makes of others. -/
def printedFloat (text : Text) : Option Double :=
  match pointFloat text with
  | some (.finite value) => some (.finite value)
  | _ => some (.finite 0)

private theorem printedFloat_reads : ReadsNumbers Sender.exactText printedFloat := by
  intro places value _ _
  rw [printedFloat]
  split
  · exact ⟨_, rfl⟩
  · exact ⟨_, rfl⟩

def floodBenchmark : BenchmarkSettings where
  name := "flood".toList
  receiver := { binary := "receiver_baseline".toList }
  sender :=
    { mode := "flood".toList
      durationSeconds := { text := "1".toList, seconds := some (.finite 1) }
      ratesPps := [2], payloadSize := 16, sendBatchMax := 2 }

def floodConfig : Configuration := { baselineConfig [2] with benchmarks := [floodBenchmark] }

def floodTuple : RunTuple := ⟨0, "flood", "comparison", 1, 2, 1, 1⟩

theorem two_packets_are_summarized :
    ∃ ended sender heard record row, let receiver := baselineRun twoPackets ended
      runRecord printedFloat floodConfig.globalConfig floodTuple floodBenchmark sender heard []
        ⟨[], [], [], []⟩ = some record ∧
      summarizeRun (fun _ => ⟨0, 0⟩) record.metadata [] = .ok row ∧ row.zeroLossRun = true ∧
      ∃ received used, twoPackets = received ++ receiver.outcome.socket ∧
        lost receiver.host twoPacketRun.outcome.2 received = 0 ∧
        unprocessed twoPacketRun.outcome.2 used = 0 := by
  have ended : (baselineEnd twoPackets).position = .finished := by decide +kernel
  have accepted : validateConfig floodConfig = .ok () := by decide +kernel
  have counted : (baselineEnd twoPackets).outcome.stats.uniqueProcessedPackets =
        (wire twoPacketRun.outcome.2).length ∧
      (baselineEnd twoPackets).outcome.stats.uniqueValidPackets =
        (wire twoPacketRun.outcome.2).length ∧
      (baselineEnd twoPackets).outcome.stats.receiveOutOfWindow = 0 := by decide +kernel
  have reconciled : twoPacketRun.report.stats.attemptedSends =
      twoPacketRun.report.stats.successfulSends + twoPacketRun.report.stats.failedSends := by
    decide +kernel
  have carries : Carries .big twoPacketRun.outcome.2 twoPackets := by
    intro datagram member _ _
    rcases List.mem_map.mp member with ⟨transmission, onWire, payload⟩
    exact ⟨transmission, onWire, payload⟩
  have lasts : floodBenchmark.sender.durationSeconds.seconds = some (.finite 1) := rfl
  rcases summary_of_run Sender.exactText_fixed printedFloat_reads twoPacketRun
    (baselineRun twoPackets ended) carries accepted floodTuple lasts []
    ⟨[], [], [], []⟩ (fun _ => ⟨0, 0⟩) []
    with ⟨sender, heard, record, _, _, computed, summarized, received, used, split, _, rows⟩
  rcases summarized.mpr reconciled with ⟨row, made⟩
  have summary := rows row made
  have exact := summary.zeroLoss.mpr ⟨counted.1, counted.2.1⟩
  exact ⟨ended, sender, heard, record, row, computed, made, exact, received, used, split,
    summary.delivered exact counted.2.2⟩

end NetLatencyLab.Harness
