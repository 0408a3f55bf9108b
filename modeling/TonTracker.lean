import TonTracker.Acquisition.EventCuts
import TonTracker.Evidence.Cancellation
import TonTracker.Syncs.Cancellation
import TonTracker.Catalog.FrozenPages
import TonTracker.Acquisition.PublishedCoverage
import TonTracker.Histories.CoverageTimelines
import TonTracker.Histories.CrossRunGroups
import TonTracker.Pnl.RowOrder
import TonTracker.Pnl.AverageCost
import TonTracker.Ownership.SingleUse
import TonTracker.Inclusion.ExactBlock
import TonTracker.Ledgers.Deduplicated
import TonTracker.Reports.RevisionCatalog
import TonTracker.Signals.Definitions
import TonTracker.Activity.BalancesExact
import TonTracker.Signals.SimilarityFaithful
import TonTracker.Imports.Total
import TonTracker.Findings.EvidenceLevels
import TonTracker.Payloads.Exact
import TonTracker.Histories.IntervalAlgebra
import TonTracker.Activity.PagesPartition
import TonTracker.Imports.BitqueryIngested
import TonTracker.Client.ViewStates
import TonTracker.Liteclient.ValidatorShuffle
import TonTracker.Trace.PreorderExact
import TonTracker.Syncs.FingerprintsSeparate
import TonTracker.Syncs.PublishedOnce
import TonTracker.Checkpoints.ScheduleFair
import TonTracker.Recovery.Exporter
import TonTracker.Deployment.CrashConsistency
