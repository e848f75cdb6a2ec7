import DevSecOpsPlatform.PlatformOperations

/-!
# The GET endpoints

Every list and detail endpoint of the routers, with the permission class of its view and the
serializer it answers with. What the filter backends make of the rows, for the query string
of the request, and the paginator of the lists are parameters: they see the rows of the
queryset and what its search and filter fields join to them.
-/

namespace DevSecOpsPlatform.PlatformReads

open KeyedTables StatementPrograms PlatformModels PlatformStore RolePermissions PythonValues
open PlatformSerializers PlatformOperations

/-- The query string: the rows it selects, in their order, and the page it asks for. -/
structure Query (α : Type) where
  select : List (ℕ × α) → List (ℕ × α)
  page : List Json → Response

/-- An audit row with the rows that its search fields join. -/
structure AuditRow where
  log : AuditLog
  actor : Option User
  device : Option Device

def AuditRow.joined (db : Platform) (a : AuditLog) : AuditRow where
  log := a
  actor := a.actor.bind db.users.get?
  device := a.device.bind db.devices.get?

inductive Endpoint where
  -- inventory
  | devices (q : Query Device)
  | device (q : Query Device) (id : DeviceId)
  | statusDetail (q : Query Device) (id : DeviceId)
  | discoveryJobs (q : Query DiscoveryJob)
  | discoveryJob (q : Query DiscoveryJob) (id : DiscoveryJobId)
  | discoveryResult (q : Query DiscoveryJob) (id : DiscoveryJobId)
  -- provisioning
  | templates (q : Query ConfigTemplate)
  | template (q : Query ConfigTemplate) (id : ConfigTemplateId)
  | provisioningJobs (q : Query ProvisioningJob)
  | provisioningJob (q : Query ProvisioningJob) (id : ProvisioningJobId)
  | auditLogs (q : Query AuditRow)
  | auditLog (q : Query AuditRow) (id : ℕ)
  -- monitoring
  | alerts (q : Query Alert)
  | alert (q : Query Alert) (id : AlertId)
  | dashboards (q : Query GrafanaDashboard)
  | dashboard (q : Query GrafanaDashboard) (id : ℕ)
  -- security
  | rules (q : Query ComplianceRule)
  | rule (q : Query ComplianceRule) (id : ComplianceRuleId)
  | checks (q : Query ComplianceCheck)
  | check (q : Query ComplianceCheck) (id : ℕ)
  | snapshots (q : Query ConfigSnapshot)
  | snapshot (q : Query ConfigSnapshot) (id : ConfigSnapshotId)
  | reports (q : Query DriftReport)
  | report (q : Query DriftReport) (id : ℕ)
  | profiles (q : Query UserProfile)
  | profile (q : Query UserProfile) (id : ℕ)

def isAuthenticated : Option RequestUser → Bool := Option.isSome

/-- The permission class of the view. -/
def Endpoint.allows : Endpoint → Option RequestUser → Bool
  | devices _ | device _ _ | statusDetail _ _ => readOnlyOrAbove .get
  | discoveryJobs _ | discoveryJob _ _ | discoveryResult _ _ => isAdminOrNetworkEngineer
  | templates _ | template _ _ => isAdminOrNetworkEngineer
  | provisioningJobs _ | provisioningJob _ _ => isAdminOrNetworkEngineer
  | auditLogs _ | auditLog _ _ => readOnlyOrAbove .get
  | alerts _ | alert _ _ => readOnlyOrAbove .get
  | dashboards _ | dashboard _ _ => isAuthenticated
  | rules _ | rule _ _ => isAdminOrNetworkEngineer
  | checks _ | check _ _ => readOnlyOrAbove .get
  | snapshots _ | snapshot _ _ => readOnlyOrAbove .get
  | reports _ | report _ _ => readOnlyOrAbove .get
  | profiles _ | profile _ _ => isAdminOnly

/-- `list`. -/
def listRows {α : Type} (q : Query α) (data : ℕ → α → Json) (rows : List (ℕ × α)) : Response :=
  q.page ((q.select rows).map fun r => data r.1 r.2)

/-- `get_object` and the representation of the row. -/
def retrieveRow {α : Type} (q : Query α) (id : ℕ) (data : ℕ → α → Json) (rows : List (ℕ × α)) :
    Response :=
  match (q.select rows).lookup id with
  | some a => ⟨200, data id a⟩
  | none => ⟨404, .obj [("detail", .str "Not found.")]⟩

def statusDetailData (id : DeviceId) (d : Device) : Json := .obj [
  ("id", .nat id), ("hostname", .str d.hostname), ("ip_address", .str d.ipAddress.text),
  ("status", .str d.status.value), ("os_version", .str d.osVersion)]

def auditRows (db : Platform) : List (ℕ × AuditRow) :=
  db.auditLogs.rows.map fun r => (r.1, AuditRow.joined db r.2)

def Endpoint.view : Endpoint → Platform → Response
  | devices q, db => listRows q deviceListData db.devices.rows
  | device q id, db => retrieveRow q id deviceData db.devices.rows
  | statusDetail q id, db => retrieveRow q id statusDetailData db.devices.rows
  | discoveryJobs q, db => listRows q (discoveryJobData db) db.discoveryJobs.rows
  | discoveryJob q id, db => retrieveRow q id (discoveryJobData db) db.discoveryJobs.rows
  | discoveryResult q id, db => retrieveRow q id (discoveryJobData db) db.discoveryJobs.rows
  | templates q, db => listRows q (configTemplateData db) db.configTemplates.rows
  | template q id, db => retrieveRow q id (configTemplateData db) db.configTemplates.rows
  | provisioningJobs q, db => listRows q (provisioningJobData db) db.provisioningJobs.rows
  | provisioningJob q id, db => retrieveRow q id (provisioningJobData db) db.provisioningJobs.rows
  | auditLogs q, db => listRows q (fun id a => auditLogData db id a.log) (auditRows db)
  | auditLog q id, db => retrieveRow q id (fun id a => auditLogData db id a.log) (auditRows db)
  | alerts q, db => listRows q (alertData db) db.alerts.rows
  | alert q id, db => retrieveRow q id (alertData db) db.alerts.rows
  | dashboards q, db => listRows q grafanaDashboardData db.grafanaDashboards.rows
  | dashboard q id, db => retrieveRow q id grafanaDashboardData db.grafanaDashboards.rows
  | rules q, db => listRows q complianceRuleData db.complianceRules.rows
  | rule q id, db => retrieveRow q id complianceRuleData db.complianceRules.rows
  | checks q, db => listRows q (complianceCheckData db) db.complianceChecks.rows
  | check q id, db => retrieveRow q id (complianceCheckData db) db.complianceChecks.rows
  | snapshots q, db => listRows q (configSnapshotData db) db.configSnapshots.rows
  | snapshot q id, db => retrieveRow q id (configSnapshotData db) db.configSnapshots.rows
  | reports q, db => listRows q (driftReportData db) db.driftReports.rows
  | report q id, db => retrieveRow q id (driftReportData db) db.driftReports.rows
  | profiles q, db => listRows q (userProfileData db) db.profiles.rows
  | profile q id, db => retrieveRow q id (userProfileData db) db.profiles.rows

/-- A GET request of an endpoint. -/
def Endpoint.get (e : Endpoint) (caller : Option UserId) : Operation := .get e.allows caller e.view

/-- The endpoints of the audit log. -/
def Endpoint.isAudit : Endpoint → Bool
  | auditLogs _ | auditLog _ _ => true
  | _ => false

end DevSecOpsPlatform.PlatformReads
