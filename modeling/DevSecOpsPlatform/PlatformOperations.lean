import DevSecOpsPlatform.InventoryViews
import DevSecOpsPlatform.MonitoringViews
import DevSecOpsPlatform.ProgramInterleaving
import DevSecOpsPlatform.ProvisioningViews
import DevSecOpsPlatform.SecurityViews

/-!
# Everything the platform executes

The requests of the four apps' REST endpoints and the Celery tasks, each as the program it
runs. A GET request checks its permission class and reads the store; the endpoints that
write are the ones of the view modules.
-/

namespace DevSecOpsPlatform.PlatformOperations

open StatementPrograms PlatformModels PlatformStore RolePermissions PythonValues
open TemplateRendering InventoryTasks InventoryViews ProvisioningTasks ProvisioningViews
open MonitoringViews SecurityTasks SecurityViews ProgramInterleaving

inductive Operation where
  | get (allows : Option RequestUser → Bool) (caller : Option UserId) (view : Platform → Response)
  -- inventory
  | createDevice (caller : Option UserId) (now : DateTime) (data : DeviceData)
  | updateDevice (caller : Option UserId) (method : Method) (now : DateTime) (id : DeviceId)
      (data : DeviceData)
  | destroyDevice (caller : Option UserId) (id : DeviceId)
  | checkReachability (caller : Option UserId) (id : DeviceId) (taskId : String)
  | createDiscoveryJob (caller : Option UserId) (now : DateTime) (subnet : Option String)
      (taskId : String)
  -- provisioning
  | createTemplate (caller : Option UserId) (now : DateTime) (data : ConfigTemplateData)
  | updateTemplate (caller : Option UserId) (method : Method) (now : DateTime)
      (id : ConfigTemplateId) (data : ConfigTemplateData)
  | destroyTemplate (caller : Option UserId) (id : ConfigTemplateId)
  | preview (jinja : Jinja) (caller : Option UserId) (id : ConfigTemplateId) (vars : Option Json)
  | createProvisioningJob (caller : Option UserId) (now : DateTime) (data : ProvisioningJobData)
      (taskId : String)
  -- monitoring
  | alertmanagerWebhook (w : WebhookWorld) (body : Json)
  | acknowledge (caller : Option UserId) (now : DateTime) (id : AlertId)
  | partialUpdateAlert (caller : Option UserId) (id : AlertId) (patch : AlertPatch)
  -- security
  | createRule (caller : Option UserId) (now : DateTime) (data : ComplianceRuleData)
  | updateRule (caller : Option UserId) (method : Method) (now : DateTime) (id : ComplianceRuleId)
      (data : ComplianceRuleData)
  | destroyRule (caller : Option UserId) (id : ComplianceRuleId)
  | setGolden (caller : Option UserId) (pk : ConfigSnapshotId)
  | runCompliance (caller : Option UserId) (deviceId : Option DeviceId)
      (ruleIds : Option (List ComplianceRuleId)) (taskId : String)
  | runDrift (caller : Option UserId) (deviceId : Option DeviceId) (taskId : String)
  | takeSnapshot (caller : Option UserId) (deviceId : Option DeviceId) (golden : Bool)
      (taskId : String)
  | createUserProfile (caller : Option UserId)
  | updateUserProfile (caller : Option UserId) (now : DateTime) (id : ℕ) (role : Option Role)
  | destroyUserProfile (caller : Option UserId) (id : ℕ)
  -- tasks
  | runDiscovery (net : Network) (jobId : DiscoveryJobId)
  | checkDeviceReachability (net : Network) (deviceId : DeviceId)
  | refreshAllDeviceStatus (taskId : ℕ → String)
  | executeProvisioningJob (w : PushWorld) (jobId : ProvisioningJobId)
  | runComplianceCheck (w : ComplianceWorld) (deviceId : DeviceId)
      (ruleIds : Option (List ComplianceRuleId)) (initiatedBy : Option UserId)
  | runDriftDetection (w : DriftWorld) (deviceId : DeviceId) (initiatedBy : Option UserId)
  | takeConfigSnapshot (w : SnapshotWorld) (deviceId : DeviceId) (golden : Bool)
      (initiatedBy : Option UserId)

/-- The body of the response of a request. -/
def respond (p : Statement Response) : Statement Json := p >>= fun response => return response.data

/-- A GET request. -/
def read (allows : Option RequestUser → Bool) (caller : Option UserId)
    (view : Platform → Response) : Statement Response := do
  let _ ← permit allows caller
  Program.query view

def Operation.program : Operation → Statement Json
  | get allows caller view => respond (read allows caller view)
  | createDevice caller now data => respond (InventoryViews.createDevice caller now data)
  | updateDevice caller method now id data =>
    respond (InventoryViews.updateDevice caller method now id data)
  | destroyDevice caller id => respond (InventoryViews.destroyDevice caller id)
  | checkReachability caller id taskId =>
    respond (InventoryViews.checkReachability caller id taskId)
  | createDiscoveryJob caller now subnet taskId =>
    respond (InventoryViews.createDiscoveryJob caller now subnet taskId)
  | createTemplate caller now data => respond (ProvisioningViews.createTemplate caller now data)
  | updateTemplate caller method now id data =>
    respond (ProvisioningViews.updateTemplate caller method now id data)
  | destroyTemplate caller id => respond (ProvisioningViews.destroyTemplate caller id)
  | preview jinja caller id vars => respond (ProvisioningViews.preview jinja caller id vars)
  | createProvisioningJob caller now data taskId =>
    respond (ProvisioningViews.createProvisioningJob caller now data taskId)
  | alertmanagerWebhook w body => respond (MonitoringViews.alertmanagerWebhook w body)
  | acknowledge caller now id => respond (MonitoringViews.acknowledge caller now id)
  | partialUpdateAlert caller id patch =>
    respond (MonitoringViews.partialUpdateAlert caller id patch)
  | createRule caller now data => respond (SecurityViews.createRule caller now data)
  | updateRule caller method now id data =>
    respond (SecurityViews.updateRule caller method now id data)
  | destroyRule caller id => respond (SecurityViews.destroyRule caller id)
  | setGolden caller pk => respond (SecurityTasks.setGolden caller pk)
  | runCompliance caller deviceId ruleIds taskId =>
    respond (SecurityViews.runCompliance caller deviceId ruleIds taskId)
  | runDrift caller deviceId taskId => respond (SecurityViews.runDrift caller deviceId taskId)
  | takeSnapshot caller deviceId golden taskId =>
    respond (SecurityViews.takeSnapshot caller deviceId golden taskId)
  | createUserProfile caller => respond (SecurityViews.createUserProfile caller)
  | updateUserProfile caller now id role =>
    respond (SecurityViews.updateUserProfile caller now id role)
  | destroyUserProfile caller id => respond (SecurityViews.destroyUserProfile caller id)
  | runDiscovery net jobId => InventoryTasks.runDiscovery net jobId
  | checkDeviceReachability net deviceId => InventoryTasks.checkDeviceReachability net deviceId
  | refreshAllDeviceStatus taskId => InventoryTasks.refreshAllDeviceStatus taskId
  | executeProvisioningJob w jobId => ProvisioningTasks.executeProvisioningJob w jobId
  | runComplianceCheck w deviceId ruleIds user =>
    SecurityTasks.runComplianceCheck w deviceId ruleIds user
  | runDriftDetection w deviceId user => SecurityTasks.runDriftDetection w deviceId user
  | takeConfigSnapshot w deviceId golden user =>
    SecurityTasks.takeConfigSnapshot w deviceId golden user

/-- The request with the status code of its response; a task answers what it returns. -/
def Operation.reply : Operation → Statement Response
  | get allows caller view => read allows caller view
  | createDevice caller now data => InventoryViews.createDevice caller now data
  | updateDevice caller method now id data =>
    InventoryViews.updateDevice caller method now id data
  | destroyDevice caller id => InventoryViews.destroyDevice caller id
  | checkReachability caller id taskId => InventoryViews.checkReachability caller id taskId
  | createDiscoveryJob caller now subnet taskId =>
    InventoryViews.createDiscoveryJob caller now subnet taskId
  | createTemplate caller now data => ProvisioningViews.createTemplate caller now data
  | updateTemplate caller method now id data =>
    ProvisioningViews.updateTemplate caller method now id data
  | destroyTemplate caller id => ProvisioningViews.destroyTemplate caller id
  | preview jinja caller id vars => ProvisioningViews.preview jinja caller id vars
  | createProvisioningJob caller now data taskId =>
    ProvisioningViews.createProvisioningJob caller now data taskId
  | alertmanagerWebhook w body => MonitoringViews.alertmanagerWebhook w body
  | acknowledge caller now id => MonitoringViews.acknowledge caller now id
  | partialUpdateAlert caller id patch => MonitoringViews.partialUpdateAlert caller id patch
  | createRule caller now data => SecurityViews.createRule caller now data
  | updateRule caller method now id data => SecurityViews.updateRule caller method now id data
  | destroyRule caller id => SecurityViews.destroyRule caller id
  | setGolden caller pk => SecurityTasks.setGolden caller pk
  | runCompliance caller deviceId ruleIds taskId =>
    SecurityViews.runCompliance caller deviceId ruleIds taskId
  | runDrift caller deviceId taskId => SecurityViews.runDrift caller deviceId taskId
  | takeSnapshot caller deviceId golden taskId =>
    SecurityViews.takeSnapshot caller deviceId golden taskId
  | createUserProfile caller => SecurityViews.createUserProfile caller
  | updateUserProfile caller now id role => SecurityViews.updateUserProfile caller now id role
  | destroyUserProfile caller id => SecurityViews.destroyUserProfile caller id
  | o => o.program >>= fun data => return ⟨200, data⟩

def Operation.isTask : Operation → Bool
  | runDiscovery .. | checkDeviceReachability .. | refreshAllDeviceStatus .. => true
  | executeProvisioningJob .. | runComplianceCheck .. | runDriftDetection .. => true
  | takeConfigSnapshot .. => true
  | _ => false

/-- The body of the response is what the operation answers. -/
theorem program_of_reply {o : Operation} (h : o.isTask = false) : o.program = respond o.reply := by
  cases o with
  | runDiscovery => cases h
  | checkDeviceReachability => cases h
  | refreshAllDeviceStatus => cases h
  | executeProvisioningJob => cases h
  | runComplianceCheck => cases h
  | runDriftDetection => cases h
  | takeConfigSnapshot => cases h
  | _ => rfl

/-- What the statements of an operation do, those of its answer do. -/
theorem writes_reply {R : Platform → Platform → Prop} {o : Operation} (h : o.program.Writes R) :
    o.reply.Writes R := by
  cases htask : o.isTask with
  | false => exact (program_of_reply htask ▸ h).of_bind
  | true =>
    cases o with
    | runDiscovery => exact h.bind fun _ => trivial
    | checkDeviceReachability => exact h.bind fun _ => trivial
    | refreshAllDeviceStatus => exact h.bind fun _ => trivial
    | executeProvisioningJob => exact h.bind fun _ => trivial
    | runComplianceCheck => exact h.bind fun _ => trivial
    | runDriftDetection => exact h.bind fun _ => trivial
    | takeConfigSnapshot => exact h.bind fun _ => trivial
    | _ => cases htask

/-- The operations, each about to execute its first statement. -/
abbrev startAll (store : Platform) (operations : List Operation) :
    Pool Operation Platform Exn Json := Pool.start Operation.program store operations

end DevSecOpsPlatform.PlatformOperations
