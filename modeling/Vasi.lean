import Vasi.JsValue
import Vasi.CanonicalJson
import Vasi.Validation
import Vasi.Binary64
import Vasi.JsonText
import Vasi.CanonicalForm
import Vasi.Utf8
import Vasi.StoredZip
import Vasi.Media
import Vasi.Activities
import Vasi.Workflow
import Vasi.ReadCommitted
import Vasi.AtomicCommits
import Vasi.IsoTime
import Vasi.Admission
import Vasi.Productization
import Vasi.StoredConfiguration
import Vasi.EngineRows
import Vasi.EvidenceEvents
import Vasi.EngineCases
import Vasi.Notifications
import Vasi.Outbox
import Vasi.EvidenceStore
import Vasi.Sealing
import Vasi.Respond
import Vasi.IntegrationGateway
import Vasi.ProductStore
import Vasi.EngineEffects
import Vasi.CaseSteps
import Vasi.EngineMoves
import Vasi.EngineRules
import Vasi.JobRules
import Vasi.EnginePlans
import Vasi.CaseScripts
import Vasi.ProductScripts
import Vasi.WorkerScripts
import Vasi.Engine
import Vasi.Lifecycle
import Vasi.EvidenceChain
import Vasi.WorkflowProgress
import Vasi.ProductionStop
import Vasi.JobRuns
import Vasi.ConfigurationStore
import Vasi.ParticipantView
import Vasi.TenantStore
import Vasi.TenantOwners
import Vasi.StoreCounts
import Vasi.TenantRules
import Vasi.TenantQuotas
import Vasi.NumberText
import Vasi.JsonStringify
import Vasi.TenantTransfer
import Vasi.TransferRoundTrip
import Vasi.JsonRoundTrip
import Vasi.AdminAudit
import Vasi.AuditChain
import Vasi.Artifacts
import Vasi.ArtifactPublication
import Vasi.ForeignKeys
import Vasi.RetentionPurge
import Vasi.BoundedLoops
import Vasi.ReleaseArchive
import Vasi.ArchiveSafety
import Vasi.TenantProvisioning
import Vasi.Intervals
import Vasi.ZipDirectory
import Vasi.MediaTelemetry
import Vasi.MediaSummary
import Vasi.MediaOrder
import Vasi.MediaCredit
import Vasi.Sessions
import Vasi.Invitations
import Vasi.InvitationRuns
import Vasi.ParticipantNotifications
import Vasi.NotificationAccounts
import Vasi.Coercion
import Vasi.PrettyJson
import Vasi.FatalUtf8
import Vasi.PilotGate
import Vasi.PilotGateImport
import Vasi.PilotGateAgreement
import Vasi.ReadinessDossier
import Vasi.PilotAdmission
import Vasi.PilotAdmissionRuns
import Vasi.EvidenceVerifier
import Vasi.VerifierTotality
import Vasi.Grading
import Vasi.Redaction
import Vasi.DocumentInspection
import Vasi.AuditOverview
import Vasi.RetentionDeadlines
import Vasi.Conformance
import Vasi.ClientAddress
import Vasi.AddressSpelling
import Vasi.ClientAttribution
import Vasi.ActivityInteraction
import Vasi.InteractionCredit
import Vasi.DraftStability
import Vasi.DraftSaving
import Vasi.TrustedNetworks
import Vasi.CustodyContent
import Vasi.CustodyExtraction
import Vasi.FaultyRuns
import Vasi.CustodyCycle
import Vasi.CustodyRetention
import Vasi.TextLines
import Vasi.EvidenceReports
import Vasi.ReportLines
import Vasi.PartialMaps
import Vasi.DataRequests
import Vasi.DataRequestRuns
import Vasi.ParsedForms
import Vasi.VerifierSoundness
import Vasi.BundleCoverage
import Vasi.StagedRows
import Vasi.RecordLifecycle
import Vasi.LifecycleReplay
import Vasi.LifecycleRuns
import Vasi.InteractionStore
import Vasi.InteractionJournal
import Vasi.InteractionRuns
