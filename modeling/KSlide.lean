import KSlide.Archive.Soundness
import KSlide.Bilingual.Acceptance
import KSlide.Certification.ReleaseDerivation
import KSlide.Certification.ResultRows
import KSlide.Certification.SecurityFindings
import KSlide.Certification.SourceTree
import KSlide.Conflict.Settlement
import KSlide.Corpus.Exposure
import KSlide.Deletion.Fence
import KSlide.Deletion.Purity
import KSlide.Deletion.Safety
import KSlide.Events.Collected
import KSlide.Evidence.Attribution
import KSlide.Evidence.Trust
import KSlide.Execution.Chain
import KSlide.Execution.Lifecycle
import KSlide.Governance.CheckSelection
import KSlide.Governance.Evaluation
import KSlide.Host.BudgetAgreement
import KSlide.Host.RouteGuard
import KSlide.Install.Upgrades
import KSlide.Recertification.Projections
import KSlide.Redaction.Metadata
import KSlide.Report.Faithful
import KSlide.Rollout.Concurrent
import KSlide.Run.Loop
import KSlide.Run.Observation
import KSlide.Run.Sessions
import KSlide.Run.Workspace
import KSlide.Runtime.Faithful
import KSlide.Scoring.Locality
import KSlide.Support.Audits
import KSlide.Telemetry.History
import KSlide.Terminology.Governed
import KSlide.Translation.ChartVerdict
import KSlide.Translation.Modality
import KSlide.Translation.PatchCodec
