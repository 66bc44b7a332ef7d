import OmniMarket.Routing.RoiFallback
import OmniMarket.QualityGate.Grading
import OmniMarket.Delegation.Spend
import OmniMarket.Delegation.LoopBound
import OmniMarket.Delegation.ComplianceBound
import OmniMarket.LocalDispatch.Acceptance
import OmniMarket.LocalDispatch.Accounting
import OmniMarket.Redeploy.Pipeline
import OmniMarket.Redeploy.GateDecision
import OmniMarket.Redeploy.Fsm
import OmniMarket.Redeploy.GrantPruning
import OmniMarket.Delegation.StateProxy
import OmniMarket.SwarmSubtask
import OmniMarket.SwarmDispatch.TerminalUnique
import OmniMarket.EmitDaemon.Acceptance
import OmniMarket.EmitDaemon.AtLeastOnce
import OmniMarket.EmitDaemon.SpoolAccounting
import OmniMarket.PrLifecycle
import OmniMarket.MergeSweep
import OmniMarket.ConflictHunk.NoConflictLeft
import OmniMarket.ConflictHunk.HunkCoverage
import OmniMarket.PrLedger.Reconstruction
import OmniMarket.PrLedger.StoresAgree
import OmniMarket.WaveScheduler.Execution
import OmniMarket.SwarmFanout.SuccessTerminal
import OmniMarket.SwarmDecomposer.Robustness
import OmniMarket.Projection.Committed
import OmniMarket.Projection.RetryLoop
import OmniMarket.DeliveryReplay
import OmniMarket.SessionReplay
import OmniMarket.EvidencePipeline.Readiness
import OmniMarket.SwarmAggregator
import OmniMarket.PrReview.FailClosed
import OmniMarket.PrSweep.Reports
import OmniMarket.PrSweep.Envelope
import OmniMarket.MemoryLifecycle.Ownership
import OmniMarket.OccLease
import OmniMarket.HeadFreeze.Exactness
import OmniMarket.DelegationProjection.PassedAnswer
import OmniMarket.GenerationConsumer.Redelivery
import OmniMarket.OccCompanion.Attestation
import OmniMarket.OccCompanion.AppendOnly
import OmniMarket.ProjectionDatabase.Agreement
import OmniMarket.SessionPhase
import OmniMarket.ContextPack.Guidance
import OmniMarket.ContextPack.OrderIndependence
import OmniMarket.DepCascade.ClosedPrs
import OmniMarket.TopicGraph.IsolatedConsumers
import OmniMarket.SavingsProjection.Banking
import OmniMarket.Routing.RoiOverlay
import OmniMarket.DurableEvidence.Supersessions
import OmniMarket.RoutingFeedback.Statistics
import OmniMarket.NavigationHistory.Stores
import OmniMarket.AuditTrail.Isolation
import OmniMarket.FindingAggregator.Blocking
import OmniMarket.PrReview.Retrieval
import OmniMarket.ContractAssembly.ParsesBack
import OmniMarket.ReplayCheck
import OmniMarket.GenerationConsumer.CorpusAcceptance
import OmniMarket.ChainDiff
import OmniMarket.TwoStrikes
