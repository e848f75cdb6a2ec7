import DevSecOpsPlatform.IpAddresses
import DevSecOpsPlatform.PythonValues

/-!
# The rows of the platform's tables

One structure for each model of the four apps, with the model's columns and defaults,
and the choices of its enumerated columns. A foreign key is the key of the row it
refers to; primary keys belong to the tables and are not columns here.
-/

namespace DevSecOpsPlatform.PlatformModels

open IpAddresses PythonValues

abbrev UserId := ℕ
abbrev DeviceId := ℕ
abbrev DiscoveryJobId := ℕ
abbrev ConfigTemplateId := ℕ
abbrev ProvisioningJobId := ℕ
abbrev AlertId := ℕ
abbrev ComplianceRuleId := ℕ
abbrev ConfigSnapshotId := ℕ

/-- `django.contrib.auth.models.User`. -/
structure User where
  username : String
  email : String := ""
  isActive : Bool := true
  isSuperuser : Bool := false

/-! ### Inventory -/

inductive DeviceType where
  | router | switch | firewall | server | unknown
  deriving DecidableEq, Repr

def DeviceType.value : DeviceType → String
  | router => "router"
  | switch => "switch"
  | firewall => "firewall"
  | server => "server"
  | unknown => "unknown"

def DeviceType.label : DeviceType → String
  | router => "Router"
  | switch => "Switch"
  | firewall => "Firewall"
  | server => "Server"
  | unknown => "Unknown"

inductive Vendor where
  | cisco | juniper | arista | paloAlto | pfsense | other
  deriving DecidableEq, Repr

def Vendor.value : Vendor → String
  | cisco => "cisco"
  | juniper => "juniper"
  | arista => "arista"
  | paloAlto => "paloalto"
  | pfsense => "pfsense"
  | other => "other"

inductive DeviceStatus where
  | online | offline | unknown | maintenance
  deriving DecidableEq, Repr

def DeviceStatus.label : DeviceStatus → String
  | online => "Online"
  | offline => "Offline"
  | unknown => "Unknown"
  | maintenance => "Maintenance"

def DeviceStatus.value : DeviceStatus → String
  | online => "online"
  | offline => "offline"
  | unknown => "unknown"
  | maintenance => "maintenance"

structure Device where
  hostname : String
  ipAddress : IpAddress
  deviceType : DeviceType := .unknown
  vendor : Vendor := .cisco
  osVersion : String := ""
  description : String := ""
  status : DeviceStatus := .unknown
  sshUsername : String := "admin"
  sshPassword : String := ""
  sshPort : ℕ := 22
  snmpCommunity : String := "public"
  snmpVersion : String := "2c"
  site : String := ""
  rack : String := ""
  tags : Json := .arr []
  discoveredAt : Option DateTime := none
  createdAt : DateTime
  updatedAt : DateTime
  createdBy : Option UserId := none

def Device.netmikoDeviceType (d : Device) : String :=
  match d.vendor, d.deviceType with
  | .cisco, .router | .cisco, .switch => "cisco_ios"
  | .cisco, .firewall => "cisco_asa"
  | .juniper, .router | .juniper, .switch => "juniper_junos"
  | .arista, .switch => "arista_eos"
  | .pfsense, .firewall => "generic"
  | _, _ => "cisco_ios"

inductive DiscoveryStatus where
  | pending | running | completed | failed
  deriving DecidableEq, Repr

def DiscoveryStatus.value : DiscoveryStatus → String
  | pending => "pending"
  | running => "running"
  | completed => "completed"
  | failed => "failed"

structure DiscoveryJob where
  subnet : String
  status : DiscoveryStatus := .pending
  startedAt : Option DateTime := none
  completedAt : Option DateTime := none
  devicesFound : ℕ := 0
  devicesAdded : ℕ := 0
  log : String := ""
  initiatedBy : Option UserId := none
  celeryTaskId : String := ""
  createdAt : DateTime
  deriving DecidableEq

/-! ### Provisioning -/

inductive TemplateType where
  | vlan | interface | acl | routing | hardening | custom
  deriving DecidableEq, Repr

def TemplateType.value : TemplateType → String
  | vlan => "vlan"
  | interface => "interface"
  | acl => "acl"
  | routing => "routing"
  | hardening => "hardening"
  | custom => "custom"

structure ConfigTemplate where
  name : String
  templateType : TemplateType := .custom
  description : String := ""
  body : String
  variablesSchema : Json := .obj []
  vendor : String := ""
  createdBy : Option UserId := none
  createdAt : DateTime
  updatedAt : DateTime

inductive JobStatus where
  | pending | running | success | partialSuccess | failed
  deriving DecidableEq, Repr

def JobStatus.value : JobStatus → String
  | pending => "pending"
  | running => "running"
  | success => "success"
  | partialSuccess => "partial"
  | failed => "failed"

def JobStatus.isTerminal : JobStatus → Bool
  | success | partialSuccess | failed => true
  | pending | running => false

/-- The devices of a job are the rows of the many-to-many table. -/
structure ProvisioningJob where
  template : Option ConfigTemplateId
  jobVariables : Json := .obj []
  renderedConfig : String := ""
  status : JobStatus := .pending
  initiatedBy : Option UserId := none
  celeryTaskId : String := ""
  startedAt : Option DateTime := none
  completedAt : Option DateTime := none
  createdAt : DateTime

/-- Seconds rounded to two decimals, counted in hundredths. -/
abbrev Duration := ℕ

structure ProvisioningResult where
  job : ProvisioningJobId
  device : DeviceId
  success : Bool := false
  output : String := ""
  error : String := ""
  durationSeconds : Option Duration := none
  executedAt : DateTime

/-- The values of the text columns. -/
def ProvisioningResult.texts (r : ProvisioningResult) : List String := [r.output, r.error]

inductive AuditAction where
  | pushConfig | complianceCheck | driftCheck | snapshot | discovery
  deriving DecidableEq, Repr

def AuditAction.value : AuditAction → String
  | pushConfig => "push_config"
  | complianceCheck => "compliance_check"
  | driftCheck => "drift_check"
  | snapshot => "snapshot"
  | discovery => "discovery"

structure AuditLog where
  action : AuditAction
  actor : Option UserId := none
  device : Option DeviceId := none
  detail : Json := .obj []
  success : Bool := true
  ipAddress : Option IpAddress := none
  timestamp : DateTime

/-! ### Monitoring -/

inductive AlertSeverity where
  | critical | warning | info | resolved
  deriving DecidableEq, Repr

def AlertSeverity.value : AlertSeverity → String
  | critical => "critical"
  | warning => "warning"
  | info => "info"
  | resolved => "resolved"

def AlertSeverity.all : List AlertSeverity := [.critical, .warning, .info, .resolved]

structure Alert where
  alertName : String
  severity : AlertSeverity := .info
  status : String := "firing"
  device : Option DeviceId := none
  instanceLabel : String := ""
  labels : Json := .obj []
  annotations : Json := .obj []
  startsAt : Option DateTime := none
  endsAt : Option DateTime := none
  generatorUrl : String := ""
  fingerprint : String := ""
  receivedAt : DateTime
  acknowledged : Bool := false
  acknowledgedAt : Option DateTime := none

structure GrafanaDashboard where
  title : String
  uid : String
  panelId : Option ℤ := none
  description : String := ""
  embedUrl : String := ""
  order : ℕ := 0

/-! ### Security -/

inductive RuleSeverity where
  | critical | high | medium | low
  deriving DecidableEq, Repr

def RuleSeverity.value : RuleSeverity → String
  | critical => "critical"
  | high => "high"
  | medium => "medium"
  | low => "low"

structure ComplianceRule where
  name : String
  description : String
  checkCommand : String
  expectedPattern : String
  mustMatch : Bool := true
  severity : RuleSeverity := .high
  remediation : String := ""
  isActive : Bool := true
  createdAt : DateTime

inductive ComplianceStatus where
  | compliant | nonCompliant | error
  deriving DecidableEq, Repr

def ComplianceStatus.value : ComplianceStatus → String
  | compliant => "compliant"
  | nonCompliant => "non_compliant"
  | error => "error"

structure ComplianceCheck where
  device : DeviceId
  rule : ComplianceRuleId
  status : ComplianceStatus
  output : String := ""
  detail : String := ""
  checkedAt : DateTime
  initiatedBy : Option UserId := none

def ComplianceCheck.texts (c : ComplianceCheck) : List String := [c.output, c.detail]

structure ConfigSnapshot where
  device : DeviceId
  config : String
  isGolden : Bool := false
  takenAt : DateTime
  takenBy : Option UserId := none
  comment : String := ""

def ConfigSnapshot.texts (s : ConfigSnapshot) : List String := [s.config, s.comment]

inductive DriftStatus where
  | clean | drifted | error
  deriving DecidableEq, Repr

def DriftStatus.value : DriftStatus → String
  | clean => "clean"
  | drifted => "drifted"
  | error => "error"

structure DriftReport where
  device : DeviceId
  goldenSnapshot : Option ConfigSnapshotId := none
  currentSnapshot : Option ConfigSnapshotId := none
  status : DriftStatus := .clean
  diff : String := ""
  checkedAt : DateTime

def DriftReport.texts (r : DriftReport) : List String := [r.diff]

inductive Role where
  | admin | networkEngineer | readOnly
  deriving DecidableEq, Repr

def Role.value : Role → String
  | admin => "admin"
  | networkEngineer => "network_engineer"
  | readOnly => "read_only"

structure UserProfile where
  user : UserId
  role : Role := .readOnly
  createdAt : DateTime

end DevSecOpsPlatform.PlatformModels
