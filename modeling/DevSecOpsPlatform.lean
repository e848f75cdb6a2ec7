import DevSecOpsPlatform.AcceptedOrders
import DevSecOpsPlatform.Accountability
import DevSecOpsPlatform.AlertAcknowledgements
import DevSecOpsPlatform.AlertCoherence
import DevSecOpsPlatform.AlertEndTimes
import DevSecOpsPlatform.AlertFailures
import DevSecOpsPlatform.AlertIdentities
import DevSecOpsPlatform.AuditTrail
import DevSecOpsPlatform.ComplianceRuns
import DevSecOpsPlatform.DiscoveryBookkeeping
import DevSecOpsPlatform.DiscoveryCompleteness
import DevSecOpsPlatform.DiscoveryExecutions
import DevSecOpsPlatform.DriftDiffs
import DevSecOpsPlatform.EvidenceTrail
import DevSecOpsPlatform.FinalDeletions
import DevSecOpsPlatform.GoldenRaces
import DevSecOpsPlatform.InstanceLabels
import DevSecOpsPlatform.JobAgreement
import DevSecOpsPlatform.JobExecutions
import DevSecOpsPlatform.JobMessages
import DevSecOpsPlatform.JobRedelivery
import DevSecOpsPlatform.JobVariables
import DevSecOpsPlatform.MaintenanceStatus
import DevSecOpsPlatform.OrphanJobs
import DevSecOpsPlatform.PasswordSecrecy
import DevSecOpsPlatform.PrivilegeConfinement
import DevSecOpsPlatform.PushReports
import DevSecOpsPlatform.ReferentialIntegrity
import DevSecOpsPlatform.RenderedPushes
import DevSecOpsPlatform.RequestedConfigs
import DevSecOpsPlatform.RuleSeeding
import DevSecOpsPlatform.SshCredentials
import DevSecOpsPlatform.TaskAudit
import DevSecOpsPlatform.TelnetVerdicts
