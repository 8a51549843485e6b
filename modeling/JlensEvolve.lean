import JlensEvolve.Kernel.CampaignReload
import JlensEvolve.Governance.AggregateAgreement
import JlensEvolve.Governance.DecisionReadback
import JlensEvolve.Registry.RegistryProcesses
import JlensEvolve.Evidence.Supersession
import JlensEvolve.Kernel.CostLedgerTampering
import JlensEvolve.Kernel.ReaderRace
import JlensEvolve.Runtime.ObservedFacts
import JlensEvolve.Autonomous.IndexReadback
import JlensEvolve.AgentProgram.SearchParentProcesses
import JlensEvolve.ContinuousAB.ChangeSetChain
import JlensEvolve.Evolution.ArchiveRecovery
import JlensEvolve.Evolution.ArmDispatch
import JlensEvolve.Evolution.ControllerRecovery
import JlensEvolve.SkillLoop.HoldoutIsolation
import JlensEvolve.SkillLoop.ParentCallProcesses
import JlensEvolve.SkillLoop.LineageClosure
import JlensEvolve.Skills.TerminalOnce
import JlensEvolve.Skills.StoresReadback
import JlensEvolve.Epistasis.OrderSensitivity
import JlensEvolve.Epistasis.ResumeIdentity
import JlensEvolve.Experience.DistillationRuns
import JlensEvolve.Catalog.CatalogRecovery
import JlensEvolve.SkillLoop.CrashedCells
import JlensEvolve.Autonomous.SelectionOrder
import JlensEvolve.Evidence.ArmSeparation
import JlensEvolve.Evidence.GradeOrder
import JlensEvolve.AgentProgram.TournamentOrder
import JlensEvolve.Proposals.RouteRepair
import JlensEvolve.AgentProgram.LiveDecisionReadback
import JlensEvolve.Proposals.ProposalCharges
import JlensEvolve.Observers.ScoreSpelling
import JlensEvolve.Epistasis.IndexRebuild
import JlensEvolve.ContinuousAB.PromotionGate
import JlensEvolve.Tournament.SearchParent
import JlensEvolve.SkillLoop.PatchEncoding
import JlensEvolve.SkillLoop.HunkExactness
import JlensEvolve.SkillLoop.OfferedNames
import JlensEvolve.SkillLoop.LineBlocks
import JlensEvolve.Epistasis.ServedProgram
import JlensEvolve.Statistics.BenjaminiHochberg
import JlensEvolve.Epistasis.ThresholdAnalysis
import JlensEvolve.SkillLoop.NodeSpans
import JlensEvolve.Benchmarks.RetiredAliases
import JlensEvolve.Durable.OperationRecovery
import JlensEvolve.Registry.PromotionProvenance
