import AiPlatform.TerminalRuns
import AiPlatform.Prompts
import AiPlatform.Authorisation
import AiPlatform.ExecutionRecords
import AiPlatform.Approvals
import AiPlatform.Erasure
import AiPlatform.Discovery
import AiPlatform.ContainerGpus
import AiPlatform.ExternalKeys
import AiPlatform.EnrollmentAttempts
import AiPlatform.ModelStatuses
import AiPlatform.ManifestLoads
import AiPlatform.GpuSync
import AiPlatform.ImportConvergence
import AiPlatform.LoginRecords
import AiPlatform.OidcFlows
import AiPlatform.GatewayMemories
import AiPlatform.BridgeAnswers
import AiPlatform.StatusCommits
import AiPlatform.VoiceTurns
import AiPlatform.AirGapExactness
import AiPlatform.ManifestReferences
import AiPlatform.EmbeddingReplies
import AiPlatform.UsageRecords
import AiPlatform.BundleDelivery
import AiPlatform.BackupRoundTrips
import AiPlatform.SpecCheckpoints
import AiPlatform.TensorParallel
import AiPlatform.FleetScans
import AiPlatform.SessionKeys
import AiPlatform.AgentTargets
import AiPlatform.StreamRelays
import AiPlatform.Deletions
import AiPlatform.ChunkedWords
import AiPlatform.CsvDocuments
import AiPlatform.RequestBudgets
import AiPlatform.LdapFilters
import AiPlatform.Redaction
import AiPlatform.Summaries
import AiPlatform.Utterances
import AiPlatform.DmonReports
import AiPlatform.CalculatorSteps
import AiPlatform.RateLimits
import AiPlatform.AccessTokens
import AiPlatform.ManagedContainers
import AiPlatform.IngestionClaims
