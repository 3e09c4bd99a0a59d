import LiderPlatform.PyJsonCut
import LiderPlatform.Registration
import LiderPlatform.RegistrationStates
import LiderPlatform.Collector
import LiderPlatform.AgentNormalization
import LiderPlatform.TreeWalkers
import LiderPlatform.BaselineRuns
import LiderPlatform.BaselineGate
import LiderPlatform.EvidenceRuns
import LiderPlatform.EventRoundTrip
import LiderPlatform.MutationEvidence
import LiderPlatform.AcceptanceSummary
import LiderPlatform.RuntimeReadiness
import LiderPlatform.PolicyCleanup
import LiderPlatform.RuntimeDb
import LiderPlatform.AgentDetection
import LiderPlatform.ReportArtifacts
import LiderPlatform.AgentIndex
import LiderPlatform.Ssha
import LiderPlatform.TaskDispatch
import LiderPlatform.ProvisionerScaleUp
import LiderPlatform.ObservabilityTargets
import LiderPlatform.AgentExtraction
import LiderPlatform.HostPorts
import LiderPlatform.TopologyProfile
import LiderPlatform.LiderapiGate
import LiderPlatform.RoundRobin
import LiderPlatform.SeedIdentities
import LiderPlatform.SeedDistribution
import LiderPlatform.ScenarioRunner
import LiderPlatform.BootstrapRuntime
import LiderPlatform.LegacyMigration
import LiderPlatform.AgentPaging
import LiderPlatform.EjabberdExporter
import LiderPlatform.PresenceMatching
import LiderPlatform.AgentInventory
import LiderPlatform.PolicyWorkflow
import LiderPlatform.PolicyOwnership
import LiderPlatform.PyShlex
import LiderPlatform.NetworkState
import LiderPlatform.FirewallRuns
import LiderPlatform.PresenceInterleavings
import LiderPlatform.MutationSoundness
import LiderPlatform.LegacyScenarioRuns
import LiderPlatform.PlatformExporterRuns
import LiderPlatform.ConsoleNavigation
import LiderPlatform.UpstreamPromotions
import LiderPlatform.PasswordMigration
import LiderPlatform.AgentLifecycle
import LiderPlatform.AgentCommands
import LiderPlatform.ComponentSource
