import DevSecOpsPlatform.RolePermissions

/-!
# Representations of rows in responses

`to_representation` of the serializers whose data the modelled views return: the fields
of each serializer in its order. A field whose source goes through a null key is null
where the serializer allows it (`allow_null`), and else left out.
-/

namespace DevSecOpsPlatform.PlatformSerializers

open KeyedTables StatementPrograms PlatformModels PlatformStore RolePermissions PythonValues
open IpAddresses

def timeJson (t : DateTime) : Json := .str (isoText t)

def optTimeJson : Option DateTime → Json := Json.ofOption timeJson

def optNatJson : Option ℕ → Json := Json.ofOption Json.nat

/-- `source="device.hostname"`. -/
def hostnameJson (db : Platform) (id : Option DeviceId) : Json :=
  Json.ofOption (fun d : Device => .str d.hostname) (id.bind db.devices.get?)

/-- `source="<user>.username"`. -/
def usernameJson (db : Platform) (id : Option UserId) : Json :=
  Json.ofOption (fun u : User => .str u.username) (id.bind db.users.get?)

/-- The field of a user's name, where it may not be null. -/
def usernameField (name : String) (db : Platform) (id : Option UserId) : List (String × Json) :=
  match id.bind db.users.get? with
  | none => []
  | some u => [(name, .str u.username)]

def deviceData (id : DeviceId) (d : Device) : Json := .obj [
  ("id", .nat id), ("hostname", .str d.hostname), ("ip_address", .str d.ipAddress.text),
  ("device_type", .str d.deviceType.value),
  ("device_type_display", .str d.deviceType.label),
  ("vendor", .str d.vendor.value), ("os_version", .str d.osVersion),
  ("description", .str d.description), ("status", .str d.status.value),
  ("status_display", .str d.status.label),
  ("ssh_username", .str d.sshUsername), ("ssh_port", .nat d.sshPort),
  ("snmp_community", .str d.snmpCommunity), ("snmp_version", .str d.snmpVersion),
  ("site", .str d.site), ("rack", .str d.rack), ("tags", d.tags),
  ("discovered_at", optTimeJson d.discoveredAt), ("created_at", timeJson d.createdAt),
  ("updated_at", timeJson d.updatedAt), ("netmiko_device_type", .str d.netmikoDeviceType)]

/-- The lighter serializer of the list. -/
def deviceListData (id : DeviceId) (d : Device) : Json := .obj [
  ("id", .nat id), ("hostname", .str d.hostname), ("ip_address", .str d.ipAddress.text),
  ("device_type", .str d.deviceType.value), ("vendor", .str d.vendor.value),
  ("status", .str d.status.value), ("site", .str d.site)]

def discoveryJobData (db : Platform) (id : DiscoveryJobId) (j : DiscoveryJob) : Json := .obj (
  [("id", .nat id), ("subnet", .str j.subnet), ("status", .str j.status.value),
    ("started_at", optTimeJson j.startedAt), ("completed_at", optTimeJson j.completedAt),
    ("devices_found", .nat j.devicesFound), ("devices_added", .nat j.devicesAdded),
    ("log", .str j.log)] ++
  usernameField "initiated_by_username" db j.initiatedBy ++
  [("celery_task_id", .str j.celeryTaskId), ("created_at", timeJson j.createdAt)])

/-- `round(seconds, 2)` as a float. -/
def durationJson (n : Duration) : Json :=
  let cents := n % 100
  .float (toString (n / 100) ++ "." ++
    if cents % 10 = 0 then toString (cents / 10) else padded 2 cents)

def provisioningResultData (db : Platform) (id : ℕ) (r : ProvisioningResult) : Json := .obj [
  ("id", .nat id), ("device_hostname", hostnameJson db r.device),
  ("device_ip", Json.ofOption (fun d : Device => .str d.ipAddress.text) (db.devices.get? r.device)),
  ("success", .bool r.success), ("output", .str r.output), ("error", .str r.error),
  ("duration_seconds", Json.ofOption durationJson r.durationSeconds),
  ("executed_at", timeJson r.executedAt)]

def provisioningJobData (db : Platform) (id : ProvisioningJobId) (j : ProvisioningJob) : Json :=
  .obj (
    [("id", .nat id), ("template", optNatJson j.template),
      ("device_ids", .arr ((jobDeviceRows id db).map (fun d => .nat d.1))),
      ("variables", j.jobVariables), ("rendered_config", .str j.renderedConfig),
      ("status", .str j.status.value)] ++
    usernameField "initiated_by_username" db j.initiatedBy ++
    [("celery_task_id", .str j.celeryTaskId), ("started_at", optTimeJson j.startedAt),
      ("completed_at", optTimeJson j.completedAt), ("created_at", timeJson j.createdAt),
      ("results", .arr ((db.provisioningResults.select (fun _ r => r.job == id)).map
        (fun r => provisioningResultData db r.1 r.2)))])

def configTemplateData (db : Platform) (id : ConfigTemplateId) (t : ConfigTemplate) : Json := .obj (
  [("id", .nat id), ("name", .str t.name),
    ("template_type", .str t.templateType.value),
    ("description", .str t.description), ("body", .str t.body),
    ("variables_schema", t.variablesSchema), ("vendor", .str t.vendor)] ++
  usernameField "created_by_username" db t.createdBy ++
  [("created_at", timeJson t.createdAt), ("updated_at", timeJson t.updatedAt)])

def auditLogData (db : Platform) (id : ℕ) (a : AuditLog) : Json := .obj (
  [("id", .nat id), ("action", .str a.action.value)] ++
  usernameField "actor_username" db a.actor ++
  [("device_hostname", hostnameJson db a.device), ("detail", a.detail),
    ("success", .bool a.success),
    ("ip_address", Json.ofOption (fun ip : IpAddress => .str ip.text) a.ipAddress),
    ("timestamp", timeJson a.timestamp)])

def alertData (db : Platform) (id : AlertId) (a : Alert) : Json := .obj [
  ("id", .nat id), ("alert_name", .str a.alertName), ("severity", .str a.severity.value),
  ("status", .str a.status), ("device_hostname", hostnameJson db a.device),
  ("instance", .str a.instanceLabel), ("labels", a.labels), ("annotations", a.annotations),
  ("starts_at", optTimeJson a.startsAt), ("ends_at", optTimeJson a.endsAt),
  ("fingerprint", .str a.fingerprint), ("received_at", timeJson a.receivedAt),
  ("acknowledged", .bool a.acknowledged), ("acknowledged_at", optTimeJson a.acknowledgedAt)]

def grafanaDashboardData (id : ℕ) (g : GrafanaDashboard) : Json := .obj [
  ("id", .nat id), ("title", .str g.title), ("uid", .str g.uid),
  ("panel_id", Json.ofOption Json.int g.panelId), ("description", .str g.description),
  ("embed_url", .str g.embedUrl), ("order", .nat g.order)]

def complianceRuleData (id : ComplianceRuleId) (r : ComplianceRule) : Json := .obj [
  ("id", .nat id), ("name", .str r.name), ("description", .str r.description),
  ("check_command", .str r.checkCommand), ("expected_pattern", .str r.expectedPattern),
  ("must_match", .bool r.mustMatch), ("severity", .str r.severity.value),
  ("remediation", .str r.remediation), ("is_active", .bool r.isActive),
  ("created_at", timeJson r.createdAt)]

def complianceCheckData (db : Platform) (id : ℕ) (c : ComplianceCheck) : Json := .obj [
  ("id", .nat id), ("device_hostname", hostnameJson db c.device),
  ("rule_name", Json.ofOption (fun r : ComplianceRule => .str r.name)
    (db.complianceRules.get? c.rule)),
  ("rule_severity", Json.ofOption (fun r : ComplianceRule => .str r.severity.value)
    (db.complianceRules.get? c.rule)),
  ("status", .str c.status.value), ("output", .str c.output), ("detail", .str c.detail),
  ("checked_at", timeJson c.checkedAt),
  ("initiated_by_username", usernameJson db c.initiatedBy)]

def configSnapshotData (db : Platform) (id : ConfigSnapshotId) (s : ConfigSnapshot) : Json := .obj [
  ("id", .nat id), ("device_hostname", hostnameJson db s.device), ("is_golden", .bool s.isGolden),
  ("taken_at", timeJson s.takenAt), ("taken_by_username", usernameJson db s.takenBy),
  ("comment", .str s.comment)]

def driftReportData (db : Platform) (id : ℕ) (r : DriftReport) : Json := .obj [
  ("id", .nat id), ("device_hostname", hostnameJson db r.device), ("status", .str r.status.value),
  ("diff", .str r.diff), ("checked_at", timeJson r.checkedAt)]

def userProfileData (db : Platform) (id : ℕ) (p : UserProfile) : Json := .obj [
  ("id", .nat id), ("username", usernameJson db p.user),
  ("email", Json.ofOption (fun u : User => .str u.email) (db.users.get? p.user)),
  ("role", .str p.role.value), ("created_at", timeJson p.createdAt)]

end DevSecOpsPlatform.PlatformSerializers
