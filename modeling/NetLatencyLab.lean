import NetLatencyLab.Common.SpscQueueContract
import NetLatencyLab.Common.Lookback
import NetLatencyLab.Common.StatisticsStrings
import NetLatencyLab.Analysis.LogRoundTrip
import NetLatencyLab.Analysis.SequenceAgreement
import NetLatencyLab.Analysis.ShortWrites
import NetLatencyLab.Analysis.LogReaders
import NetLatencyLab.Receiver.Truncation
import NetLatencyLab.Receiver.LossAccounting
import NetLatencyLab.Receiver.SampledTransmissions
import NetLatencyLab.Sender.Coverage
import NetLatencyLab.Sender.PacketLimit
import NetLatencyLab.Sender.Reconciliation
import NetLatencyLab.Sender.BurstDeadlines
import NetLatencyLab.Analysis.OverlapHandoff
import NetLatencyLab.Analysis.Saturation
import NetLatencyLab.Analysis.ZeroLossKnees
import NetLatencyLab.Analysis.ProfileSession
import NetLatencyLab.Analysis.ProfileBatch
import NetLatencyLab.Analysis.ClockOffset
import NetLatencyLab.Harness.CounterSnapshot
import NetLatencyLab.Harness.StatusPolling
import NetLatencyLab.Harness.Cleanup
import NetLatencyLab.Harness.Commands
import NetLatencyLab.Harness.RunIdentifiers
import NetLatencyLab.Harness.Retries
import NetLatencyLab.Harness.PacingWindows
import NetLatencyLab.Harness.TraceAgreement
import NetLatencyLab.Harness.RunQualification
import NetLatencyLab.Harness.RunSummary
import NetLatencyLab.Harness.ProfileEvidence
import NetLatencyLab.Bench.Completion
import NetLatencyLab.Bench.Uncontended
