import DevSecOpsPlatform.PlatformOperations

/-!
# The statements the operations are made of

Every request and task is a sequence of a few kinds of statements. A property of programs
that sequencing keeps and that each kind of statement has, a `Vocabulary`, is a property of
every operation, so that the programs are walked through once and not once for each
property. Some statements are known to be those of a certain operation, `particular`, and
need have the property only there; and a row or a message names no user but the one that the
operation is for, `initiator`. The operations that create and execute provisioning jobs,
run a discovery or change profiles have statements of their own and stand apart, as does a
GET request, which reads whatever its view reads.
-/

namespace DevSecOpsPlatform.OperationStatements

open KeyedTables StatementPrograms PlatformModels PlatformStore RolePermissions PythonValues
open PlatformSerializers TemplateRendering InventoryTasks InventoryViews ProvisioningTasks
open ProvisioningViews MonitoringViews SecurityTasks SecurityViews PlatformOperations

/-- The store without what only provisioning jobs, the audit log and the broker hold. -/
def conceal (db : Platform) : Platform :=
  { db with
    provisioningJobs := .empty
    jobDevices := []
    provisioningResults := .empty
    auditLogs := .empty
    queue := [] }

/-- The statement answers from the store without the concealed tables, and leaves the store. -/
structure LooksUp {α : Type} (f : Platform → Except Exn (α × Platform)) : Prop where
  keeps : ∀ db r, f db = .ok r → r.2 = db
  answers : ∀ db, (f (conceal db)).map Prod.fst = (f db).map Prod.fst

/-- The statements of one kind of operation each. -/
inductive Particular where
  | saveDevice (id : DeviceId)
  | setDeviceStatus (id : DeviceId)
  | deleteDevice (id : DeviceId)
  | createDiscoveryJob
  deriving DecidableEq

/-- The particular statement that an operation may execute. -/
def particular : Operation → Option Particular
  | .updateDevice _ _ _ id _ => some (.saveDevice id)
  | .checkDeviceReachability _ id => some (.setDeviceStatus id)
  | .destroyDevice _ id => some (.deleteDevice id)
  | .createDiscoveryJob .. => some .createDiscoveryJob
  | _ => none

/-- The caller of a request whose rows or messages name one, and the user a task is for. -/
def initiator : Operation → Option UserId
  | .createDevice caller _ _ | .createDiscoveryJob caller _ _ _ => caller
  | .createTemplate caller _ _ | .createProvisioningJob caller _ _ _ => caller
  | .runCompliance caller _ _ _ | .runDrift caller _ _ | .takeSnapshot caller _ _ _ => caller
  | .runComplianceCheck _ _ _ user | .runDriftDetection _ _ user => user
  | .takeConfigSnapshot _ _ _ user => user
  | _ => none

/-- A message that is sent for the users in `names`; that of a provisioning job is sent where
the job is created. -/
def Sendable (may : Particular → Prop) (names : Option UserId → Prop) : TaskMessage → Prop
  | .runDiscovery _ => may .createDiscoveryJob
  | .checkDeviceReachability _ => True
  | .executeProvisioningJob _ => False
  | .runComplianceCheck _ _ user | .runDriftDetection _ user => names user
  | .takeConfigSnapshot _ _ user => names user

/-- The configuration that was read, from which device, when and for whom. -/
structure SameReading (s t : ConfigSnapshot) : Prop where
  device : t.device = s.device
  config : t.config = s.config
  takenAt : t.takenAt = s.takenAt
  takenBy : t.takenBy = s.takenBy

theorem sameReading_self (s : ConfigSnapshot) : SameReading s s := ⟨rfl, rfl, rfl, rfl⟩

theorem SameReading.trans {a b c : ConfigSnapshot} (h : SameReading a b) (h' : SameReading b c) :
    SameReading a c :=
  ⟨h'.device.trans h.device, h'.config.trans h.config, h'.takenAt.trans h.takenAt,
    h'.takenBy.trans h.takenBy⟩

/-- The statements, of the particular ones those in `may` and with users in `names`, are
in `P`. -/
structure Vocabulary (P : ∀ α : Type, Statement α → Prop) (may : Particular → Prop)
    (names : Option UserId → Prop) : Prop where
  ret : ∀ {α : Type} (a : α), P α (.ret a)
  raise : ∀ {α : Type} (e : Exn), P α (.raise e)
  bind : ∀ {α β : Type} {p : Statement α} {f : α → Statement β},
    P α p → (∀ a, P β (f a)) → P β (p >>= f)
  attempt : ∀ {α : Type} {p : Statement α}, P α p → P (Except Exn α) p.attempt
  nobody : names none
  -- reads
  lookUp : ∀ {α : Type} {f : Platform → Except Exn (α × Platform)},
    LooksUp f → P α (.statement f)
  gated : ∀ {β : Type} (allows : Option RequestUser → Bool) (caller : Option UserId)
    {f : RequestUser → Statement β}, (∀ u, caller = some u.id → P β (f u)) →
    P β (RolePermissions.permit allows caller >>= f)
  query : ∀ {α : Type} {f : Platform → α}, (∀ db, f (conceal db) = f db) → P α (.query f)
  getAlert : ∀ {β : Type} (id : AlertId) {f : Alert → (Alert → Json) → Statement β},
    (∀ a data, P β (f a data)) → P β (MonitoringViews.getAlert id >>= fun r =>
      f r.1 (alertData r.2 id))
  -- writes
  delay : ∀ taskId m, Sendable may names m → P String (PlatformStore.delay taskId m)
  createDevice : ∀ d, names d.createdBy → P DeviceId (Device.create d)
  saveDevice : ∀ id d, may (.saveDevice id) → P Device (InventoryViews.saveDevice id d)
  setDeviceStatus : ∀ id (status : DeviceStatus), may (.setDeviceStatus id) →
    P Unit (.execute fun db => { db with
      devices := db.devices.update id (fun d => { d with status := status }) })
  deleteDevice : ∀ id, may (.deleteDevice id) → P Unit (Device.delete id)
  createDiscoveryJob : ∀ j, may .createDiscoveryJob → names j.initiatedBy →
    P DiscoveryJobId (DiscoveryJob.create j)
  setDiscoveryTask : ∀ id (task : String),
    P Unit (DiscoveryJob.save id fun j => { j with celeryTaskId := task })
  createTemplate : ∀ t, names t.createdBy → P ConfigTemplateId (ConfigTemplate.create t)
  saveTemplate : ∀ id t, P ConfigTemplate (ProvisioningViews.saveTemplate id t)
  deleteTemplate : ∀ id, P Unit (ConfigTemplate.delete id)
  createLog : ∀ {β : Type} (a : AuditLog) {q : Statement β}, names a.actor →
    P β q → P β (AuditLog.create a >>= fun _ => q)
  updateOrCreateAlert : ∀ w now fingerprint d,
    P Bool (Alert.updateOrCreate w now fingerprint d)
  saveAcknowledged : ∀ id now, P Unit (MonitoringViews.saveAcknowledged id now)
  saveAlert : ∀ id a, P Alert (MonitoringViews.saveAlert id a)
  createRule : ∀ r, P ComplianceRuleId (ComplianceRule.create r)
  saveRule : ∀ id r now, P ComplianceRule (SecurityViews.saveRule id r now)
  deleteRule : ∀ id, P Unit (ComplianceRule.delete id)
  createCheck : ∀ c, names c.initiatedBy → P ℕ (ComplianceCheck.create c)
  createSnapshot : ∀ s, names s.takenBy → P ConfigSnapshotId (ConfigSnapshot.create s)
  saveSnapshot : ∀ id set, (∀ s, SameReading s (set s)) → P Unit (ConfigSnapshot.save id set)
  unsetGolden : ∀ deviceId, P Unit (.execute (SecurityTasks.unsetGolden deviceId))
  createReport : ∀ r, P ℕ (DriftReport.create r)

/-! ### Reads -/

/-- Checks of which each passes or raises, on what the concealed tables do not hold. -/
theorem looksUp_of_eq {α : Type} {f : Platform → Except Exn (α × Platform)}
    {g : Platform → Except Exn α} (hf : ∀ db, f db = (g db).map (fun a => (a, db)))
    (hg : ∀ db, g (conceal db) = g db) : LooksUp f where
  keeps := by
    intro db r hr
    rw [hf] at hr
    cases hgdb : g db with
    | error e => simp [hgdb, Except.map] at hr
    | ok a =>
      simp only [hgdb, Except.map, Except.ok.injEq] at hr
      exact hr ▸ rfl
  answers := by
    intro db
    rw [hf, hf, hg]
    cases g db <;> rfl

theorem looksUp_ok {α : Type} (a : α) : LooksUp (fun db => .ok (a, db)) where
  keeps := fun _ _ hr => (Except.ok.inj hr) ▸ rfl
  answers := fun _ => rfl

/-- A check, and then what looks up. -/
theorem looksUp_bind {α β : Type} {g : Platform → Except Exn α}
    {k : α → Platform → Except Exn (β × Platform)} (hg : ∀ db, g (conceal db) = g db)
    (hk : ∀ a, LooksUp (k a)) : LooksUp (fun db => g db >>= fun a => k a db) where
  keeps := by
    intro db r hr
    obtain ⟨a, -, hr⟩ := ok_of_bind hr
    exact (hk a).keeps db r hr
  answers := by
    intro db
    rw [hg]
    cases g db with
    | error e => rfl
    | ok a => exact (hk a).answers db

/-- What `permit` answers. -/
def permitted (allows : Option RequestUser → Bool) (caller : Option UserId) (db : Platform) :
    Except Exn RequestUser :=
  match authenticate caller db with
  | none => .error notAuthenticatedError
  | some u => if allows (some u) then .ok u else .error permissionDeniedError

theorem looksUp_permit (allows : Option RequestUser → Bool) (caller : Option UserId) :
    LooksUp fun db => match authenticate caller db with
      | none => .error notAuthenticatedError
      | some u => if allows (some u) then .ok (u, db) else .error permissionDeniedError := by
  refine looksUp_of_eq (g := permitted allows caller) (fun db => ?_) fun _ => rfl
  unfold permitted
  cases authenticate caller db with
  | none => rfl
  | some u => cases h : allows (some u) <;> simp [h, Except.map]

/-- A row that is found, or an exception. -/
def found {α : Type} (e : Exn) : Option α → Except Exn α
  | some a => .ok a
  | none => .error e

section

variable {P : ∀ α : Type, Statement α → Prop} {may : Particular → Prop}
  {names : Option UserId → Prop} (v : Vocabulary P may names)
include v

theorem Vocabulary.permit (allows : Option RequestUser → Bool) (caller : Option UserId) :
    P RequestUser (RolePermissions.permit allows caller) := v.lookUp (looksUp_permit allows caller)

theorem Vocabulary.getObject {α : Type} {find : Platform → Option α}
    (h : ∀ db, find (conceal db) = find db) : P α (RolePermissions.getObject find) := by
  refine v.lookUp (looksUp_of_eq (g := fun db => found ⟨.http404, "Not found."⟩ (find db))
    (fun db => ?_) fun db => congrArg _ (h db))
  cases find db <;> rfl

theorem Vocabulary.getDevice (id : DeviceId) : P Device (Device.get id) := by
  refine v.lookUp (looksUp_of_eq
    (g := fun db => found (doesNotExistError "Device") (db.devices.get? id))
    (fun db => ?_) fun _ => rfl)
  cases db.devices.get? id <;> rfl

theorem Vocabulary.getDiscoveryJob (id : DiscoveryJobId) :
    P DiscoveryJob (DiscoveryJob.get id) := by
  refine v.lookUp (looksUp_of_eq
    (g := fun db => found (doesNotExistError "DiscoveryJob") (db.discoveryJobs.get? id))
    (fun db => ?_) fun _ => rfl)
  cases db.discoveryJobs.get? id <;> rfl

theorem Vocabulary.ofExcept {α : Type} (x : Except Exn α) : P α (.ofExcept x) := by
  cases x with
  | ok a => exact v.ret a
  | error e => exact v.raise e

theorem Vocabulary.respond {p : Statement Response} (hp : P Response p) :
    P Json (PlatformOperations.respond p) := v.bind hp fun _ => v.ret _

/-! ### Inventory -/

theorem Vocabulary.validateDevice (self : Option DeviceId) (data : DeviceData) :
    P (Option IpAddresses.IpAddress) (InventoryViews.validateDevice self data) := by
  refine v.lookUp ?_
  refine looksUp_bind (fun _ => rfl) fun _ => looksUp_bind (fun _ => rfl) fun address => ?_
  exact looksUp_bind (fun _ => rfl) fun _ => looksUp_ok address

theorem Vocabulary.createDeviceView (caller : Option UserId) (now : DateTime) (data : DeviceData)
    (hnames : names caller) : P Response (InventoryViews.createDevice caller now data) := by
  refine v.gated _ caller fun user huser =>
    v.bind (v.validateDevice none data) fun address => ?_
  split
  · exact v.bind (v.createDevice _ (huser ▸ hnames)) fun id => v.ret _
  · exact v.raise _

theorem Vocabulary.updateDevice (caller : Option UserId) (method : Method) (now : DateTime)
    (id : DeviceId) (data : DeviceData) (hmay : may (.saveDevice id)) :
    P Response (InventoryViews.updateDevice caller method now id data) := by
  refine v.bind (v.permit _ caller) fun _ => v.bind (v.getObject fun _ => rfl) fun device => ?_
  refine v.bind (v.validateDevice (some id) data) fun address => ?_
  split
  · exact v.raise _
  · exact v.bind (v.saveDevice id _ hmay) fun _ => v.ret _

theorem Vocabulary.destroyDevice (caller : Option UserId) (id : DeviceId)
    (hmay : may (.deleteDevice id)) : P Response (InventoryViews.destroyDevice caller id) := by
  refine v.bind (v.permit _ caller) fun _ => v.bind (v.getObject fun _ => rfl) fun _ => ?_
  exact v.bind (v.deleteDevice id hmay) fun _ => v.ret _

theorem Vocabulary.checkReachability (caller : Option UserId) (id : DeviceId) (taskId : String) :
    P Response (InventoryViews.checkReachability caller id taskId) := by
  refine v.bind (v.permit _ caller) fun _ => v.bind (v.getObject fun _ => rfl) fun device => ?_
  exact v.bind (v.delay taskId _ trivial) fun _ => v.ret _

theorem Vocabulary.createDiscoveryJobView (caller : Option UserId) (now : DateTime)
    (subnet : Option String) (taskId : String) (hmay : may .createDiscoveryJob)
    (hnames : names caller) :
    P Response (InventoryViews.createDiscoveryJob caller now subnet taskId) := by
  refine v.gated _ caller fun user huser => ?_
  split
  · exact v.raise _
  · split
    · exact v.raise _
    · refine v.bind (v.createDiscoveryJob _ hmay (huser ▸ hnames)) fun jobId => ?_
      refine v.bind (v.delay taskId _ hmay) fun taskId => ?_
      refine v.bind (v.setDiscoveryTask jobId _) fun _ => ?_
      exact v.bind (v.query fun _ => rfl) fun data => v.ret _

/-- The loop adds devices, one after the other, and asks the inventory before. -/
theorem Vocabulary.discoverHosts (net : Network) (n : ℕ) (hosts : List IpAddresses.IpAddress)
    (acc : Discovered) :
    P (Discovered × Option Exn) (InventoryTasks.discoverHosts net n hosts acc) := by
  induction hosts generalizing n acc with
  | nil => exact v.ret _
  | cons host hosts ih =>
    unfold InventoryTasks.discoverHosts
    dsimp only
    split
    · exact v.ret _
    · exact ih (n + 1) acc
    · refine v.bind (v.query fun _ => rfl) fun known => ?_
      split
      · exact ih (n + 1) _
      · split
        · exact v.ret _
        · refine v.bind (v.attempt (v.createDevice _ v.nobody)) fun created => ?_
          split
          · exact v.ret _
          · exact ih (n + 1) _

theorem Vocabulary.runDiscovery (net : Network) (jobId : DiscoveryJobId)
    (hsave : ∀ set : DiscoveryJob → DiscoveryJob, (∀ j, (set j).subnet = j.subnet) →
      P Unit (DiscoveryJob.save jobId set)) :
    P Json (InventoryTasks.runDiscovery net jobId) := by
  refine v.bind (v.getDiscoveryJob jobId) fun job => ?_
  refine v.bind (hsave _ fun _ => rfl) fun _ => ?_
  refine v.bind ?_ fun result => v.bind (hsave _ fun _ => rfl) fun _ => v.ret _
  unfold InventoryTasks.discoverSubnet
  split
  · exact v.ret _
  · exact v.discoverHosts net 0 _ _

theorem Vocabulary.checkDeviceReachability (net : Network) (id : DeviceId)
    (hmay : may (.setDeviceStatus id)) :
    P Json (InventoryTasks.checkDeviceReachability net id) := by
  refine v.bind (v.getDevice id) fun device => v.bind (v.ofExcept _) fun reachable => ?_
  exact v.bind (v.setDeviceStatus id _ hmay) fun _ => v.ret _

theorem Vocabulary.refreshAllDeviceStatus (taskId : ℕ → String) :
    P Json (InventoryTasks.refreshAllDeviceStatus taskId) := by
  have hqueue (n : ℕ) (ids : List DeviceId) : P Unit (queueChecks taskId n ids) := by
    induction ids generalizing n with
    | nil => exact v.ret _
    | cons id ids ih => exact v.bind (v.delay (taskId n) _ trivial) fun _ => ih (n + 1)
  exact v.bind (v.query fun _ => rfl) fun ids => v.bind (hqueue 0 ids) fun _ => v.ret _

/-! ### Templates -/

theorem Vocabulary.validateTemplate (self : Option ConfigTemplateId) (data : ConfigTemplateData) :
    P Unit (ProvisioningViews.validateTemplate self data) := by
  refine v.lookUp ?_
  refine looksUp_bind (fun _ => rfl) fun _ => looksUp_bind (fun _ => rfl) fun _ => ?_
  exact looksUp_ok ()

theorem Vocabulary.createTemplateView (caller : Option UserId) (now : DateTime)
    (data : ConfigTemplateData) (hnames : names caller) :
    P Response (ProvisioningViews.createTemplate caller now data) := by
  refine v.gated _ caller fun user huser => v.bind (v.validateTemplate none data) fun _ => ?_
  split
  · refine v.bind (v.createTemplate _ (huser ▸ hnames)) fun id => ?_
    exact v.bind (v.query fun _ => rfl) fun data => v.ret _
  · exact v.raise _

theorem Vocabulary.updateTemplate (caller : Option UserId) (method : Method) (now : DateTime)
    (id : ConfigTemplateId) (data : ConfigTemplateData) :
    P Response (ProvisioningViews.updateTemplate caller method now id data) := by
  refine v.bind (v.permit _ caller) fun _ => v.bind (v.getObject fun _ => rfl) fun template => ?_
  refine v.bind (v.validateTemplate (some id) data) fun _ => ?_
  split
  · exact v.raise _
  · refine v.bind (v.saveTemplate id _) fun _ => ?_
    exact v.bind (v.query fun _ => rfl) fun data => v.ret _

theorem Vocabulary.destroyTemplate (caller : Option UserId) (id : ConfigTemplateId) :
    P Response (ProvisioningViews.destroyTemplate caller id) := by
  refine v.bind (v.permit _ caller) fun _ => v.bind (v.getObject fun _ => rfl) fun _ => ?_
  exact v.bind (v.deleteTemplate id) fun _ => v.ret _

theorem Vocabulary.preview (jinja : Jinja) (caller : Option UserId) (id : ConfigTemplateId)
    (vars : Option Json) : P Response (ProvisioningViews.preview jinja caller id vars) := by
  refine v.bind (v.permit _ caller) fun _ => v.bind (v.getObject fun _ => rfl) fun template => ?_
  split
  · exact v.ret _
  · split
    · exact v.raise _
    · exact v.ret _

/-! ### Monitoring -/

theorem Vocabulary.firstDevice (ip : String) :
    P (Option DeviceId) (MonitoringViews.firstDevice ip) := by
  refine v.lookUp (looksUp_of_eq (g := fun db =>
    if ip = "" then .ok none
    else found inetError ((IpAddresses.ipAddress ip).map fun address =>
      (devicesAt db address).head?.map Prod.fst)) (fun db => ?_) fun _ => rfl)
  split
  · rfl
  · cases IpAddresses.ipAddress ip <;> rfl

theorem Vocabulary.alertmanagerWebhook (w : WebhookWorld) (body : Json) :
    P Response (MonitoringViews.alertmanagerWebhook w body) := by
  have hloop (k : ℕ) (raws : List (List (String × Json))) : P ℕ (processAlerts w k raws) := by
    induction raws generalizing k with
    | nil => exact v.ret _
    | cons raw raws ih =>
      refine v.bind ?_ fun created => v.bind (ih (k + 1)) fun count => v.ret _
      refine v.bind (v.ofExcept _) fun input => v.bind (v.firstDevice input.ip) fun device => ?_
      exact v.bind (v.ofExcept _) fun d => v.updateOrCreateAlert w _ _ d
  unfold MonitoringViews.alertmanagerWebhook
  split
  · exact v.ret _
  · exact v.bind (hloop 0 _) fun created => v.ret _

theorem Vocabulary.acknowledge (caller : Option UserId) (now : DateTime) (id : AlertId) :
    P Response (MonitoringViews.acknowledge caller now id) := by
  let reply (alert : Alert) (data : Alert → Json) : Statement Response := do
    MonitoringViews.saveAcknowledged id now
    return ⟨200, data (acknowledgedRow now alert)⟩
  refine v.bind (v.permit _ caller) fun _ => v.getAlert id (f := reply) fun alert data => ?_
  exact v.bind (v.saveAcknowledged id now) fun _ => v.ret _

theorem Vocabulary.partialUpdateAlert (caller : Option UserId) (id : AlertId)
    (patch : AlertPatch) : P Response (MonitoringViews.partialUpdateAlert caller id patch) := by
  let reply (alert : Alert) (data : Alert → Json) : Statement Response := do
    if !patch.isValid then throw (invalidError "Invalid input.")
    let alert ← MonitoringViews.saveAlert id (patch.apply alert)
    return ⟨200, data alert⟩
  refine v.bind (v.permit _ caller) fun _ => v.getAlert id (f := reply) fun alert data => ?_
  unfold reply
  split
  · exact v.raise _
  · exact v.bind (v.saveAlert id _) fun _ => v.ret _

/-! ### Security -/

theorem Vocabulary.validateRule (self : Option ComplianceRuleId) (data : ComplianceRuleData) :
    P Unit (SecurityViews.validateRule self data) := by
  refine v.lookUp ?_
  refine looksUp_bind (fun _ => rfl) fun _ => looksUp_bind (fun _ => rfl) fun _ => ?_
  exact looksUp_ok ()

theorem Vocabulary.createRuleView (caller : Option UserId) (now : DateTime)
    (data : ComplianceRuleData) : P Response (SecurityViews.createRule caller now data) := by
  refine v.bind (v.permit _ caller) fun _ => v.bind (v.validateRule none data) fun _ => ?_
  split
  · exact v.bind (v.createRule _) fun id => v.ret _
  · exact v.raise _

theorem Vocabulary.updateRule (caller : Option UserId) (method : Method) (now : DateTime)
    (id : ComplianceRuleId) (data : ComplianceRuleData) :
    P Response (SecurityViews.updateRule caller method now id data) := by
  refine v.bind (v.permit _ caller) fun _ => v.bind (v.getObject fun _ => rfl) fun rule => ?_
  refine v.bind (v.validateRule (some id) data) fun _ => ?_
  split
  · exact v.raise _
  · exact v.bind (v.saveRule id _ now) fun _ => v.ret _

theorem Vocabulary.destroyRule (caller : Option UserId) (id : ComplianceRuleId) :
    P Response (SecurityViews.destroyRule caller id) := by
  refine v.bind (v.permit _ caller) fun _ => v.bind (v.getObject fun _ => rfl) fun _ => ?_
  exact v.bind (v.deleteRule id) fun _ => v.ret _

theorem Vocabulary.setGolden (caller : Option UserId) (pk : ConfigSnapshotId) :
    P Response (SecurityTasks.setGolden caller pk) := by
  refine v.bind (v.permit _ caller) fun _ => v.bind (v.getObject fun _ => rfl) fun r => ?_
  refine v.bind (v.unsetGolden _) fun _ => ?_
  exact v.bind (v.saveSnapshot pk _ fun _ => ⟨rfl, rfl, rfl, rfl⟩) fun _ => v.ret _

theorem Vocabulary.deviceAction (caller : Option UserId) (deviceId : Option DeviceId)
    (taskId : String) (message : DeviceId → UserId → TaskMessage)
    (hmessage : ∀ device user, caller = some user → Sendable may names (message device user)) :
    P Response (SecurityViews.deviceAction caller deviceId taskId message) := by
  refine v.gated _ caller fun user huser => ?_
  split
  · exact v.ret _
  · exact v.ret _
  · exact v.bind (v.delay taskId _ (hmessage _ _ huser)) fun _ => v.ret _

theorem Vocabulary.runComplianceCheck (w : ComplianceWorld) (deviceId : DeviceId)
    (ruleIds : Option (List ComplianceRuleId)) (user : Option UserId) (hnames : names user) :
    P Json (SecurityTasks.runComplianceCheck w deviceId ruleIds user) := by
  have hrules (device : Device) (n : ℕ) (rules : List (ComplianceRuleId × ComplianceRule)) :
      P (List (String × ComplianceStatus)) (checkRules w deviceId device user n rules) := by
    induction rules generalizing n with
    | nil => exact v.ret _
    | cons rule rules ih =>
      exact v.bind (v.createCheck _ hnames) fun _ => v.bind (ih (n + 1)) fun _ => v.ret _
  refine v.bind (v.getDevice deviceId) fun device => v.bind (v.query fun _ => rfl) fun rules => ?_
  exact v.bind (hrules device 0 rules) fun results => v.createLog _ hnames (v.ret _)

theorem Vocabulary.runDriftDetection (w : DriftWorld) (deviceId : DeviceId)
    (user : Option UserId) (hnames : names user) :
    P Json (SecurityTasks.runDriftDetection w deviceId user) := by
  refine v.bind (v.getDevice deviceId) fun device => ?_
  split
  · split
    · exact v.raise _
    · exact v.bind (v.createReport _) fun _ => v.ret _
  · refine v.bind (v.createSnapshot _ hnames) fun snap => ?_
    refine v.bind (v.query fun _ => rfl) fun golden => ?_
    split
    · refine v.bind (v.saveSnapshot snap _ fun _ => ⟨rfl, rfl, rfl, rfl⟩) fun _ => ?_
      exact v.bind (v.createReport _) fun _ => v.ret _
    · exact v.bind (v.createReport _) fun report => v.createLog _ hnames (v.ret _)

theorem Vocabulary.takeConfigSnapshot (w : SnapshotWorld) (deviceId : DeviceId) (golden : Bool)
    (user : Option UserId) (hnames : names user) :
    P Json (SecurityTasks.takeConfigSnapshot w deviceId golden user) := by
  refine v.bind (v.getDevice deviceId) fun device => ?_
  split
  · split
    · exact v.raise _
    · exact v.ret _
  · exact v.bind (v.createSnapshot _ hnames) fun snap => v.createLog _ hnames (v.ret _)

/-! ### Operations -/

/-- The operations whose statements are their own. -/
def standsApart : Operation → Bool
  | .get .. | .createProvisioningJob .. | .executeProvisioningJob .. => true
  | .updateUserProfile .. | .destroyUserProfile .. | .runDiscovery .. => true
  | _ => false

/-- A property of the common statements is one of every request that has only these. -/
theorem Vocabulary.reply {operation : Operation} (htask : operation.isTask = false)
    (hmay : ∀ s, particular operation = some s → may s) (hnames : names (initiator operation))
    (hown : standsApart operation = true → P Response operation.reply) :
    P Response operation.reply := by
  cases operation with
  | get allows caller view => exact hown rfl
  | createDevice caller now data => exact v.createDeviceView caller now data hnames
  | updateDevice caller method now id data =>
    exact v.updateDevice caller method now id data (hmay _ rfl)
  | destroyDevice caller id => exact v.destroyDevice caller id (hmay _ rfl)
  | checkReachability caller id taskId => exact v.checkReachability caller id taskId
  | createDiscoveryJob caller now subnet taskId =>
    exact v.createDiscoveryJobView caller now subnet taskId (hmay _ rfl) hnames
  | createTemplate caller now data => exact v.createTemplateView caller now data hnames
  | updateTemplate caller method now id data => exact v.updateTemplate caller method now id data
  | destroyTemplate caller id => exact v.destroyTemplate caller id
  | preview jinja caller id vars => exact v.preview jinja caller id vars
  | createProvisioningJob caller now data taskId => exact hown rfl
  | alertmanagerWebhook w body => exact v.alertmanagerWebhook w body
  | acknowledge caller now id => exact v.acknowledge caller now id
  | partialUpdateAlert caller id patch => exact v.partialUpdateAlert caller id patch
  | createRule caller now data => exact v.createRuleView caller now data
  | updateRule caller method now id data => exact v.updateRule caller method now id data
  | destroyRule caller id => exact v.destroyRule caller id
  | setGolden caller pk => exact v.setGolden caller pk
  | runCompliance caller deviceId ruleIds taskId =>
    change P Response (SecurityViews.runCompliance caller deviceId ruleIds taskId)
    exact v.deviceAction caller deviceId taskId _ fun _ _ huser => huser ▸ hnames
  | runDrift caller deviceId taskId =>
    change P Response (SecurityViews.runDrift caller deviceId taskId)
    exact v.deviceAction caller deviceId taskId _ fun _ _ huser => huser ▸ hnames
  | takeSnapshot caller deviceId golden taskId =>
    change P Response (SecurityViews.takeSnapshot caller deviceId golden taskId)
    exact v.deviceAction caller deviceId taskId _ fun _ _ huser => huser ▸ hnames
  | createUserProfile caller => exact v.bind (v.permit _ caller) fun _ => v.raise _
  | updateUserProfile caller now id role => exact hown rfl
  | destroyUserProfile caller id => exact hown rfl
  | runDiscovery => cases htask
  | checkDeviceReachability => cases htask
  | refreshAllDeviceStatus => cases htask
  | executeProvisioningJob => cases htask
  | runComplianceCheck => cases htask
  | runDriftDetection => cases htask
  | takeConfigSnapshot => cases htask

/-- A property of the common statements is one of every operation that has only these. -/
theorem Vocabulary.program (operation : Operation)
    (hmay : ∀ s, particular operation = some s → may s) (hnames : names (initiator operation))
    (hown : standsApart operation = true → P Json operation.program) :
    P Json operation.program := by
  cases hapart : standsApart operation with
  | true => exact hown hapart
  | false =>
    cases htask : operation.isTask with
    | false =>
      rw [program_of_reply htask]
      exact v.respond (v.reply htask hmay hnames fun h => absurd h (by simp [hapart]))
    | true =>
      cases operation with
      | checkDeviceReachability net deviceId =>
        exact v.checkDeviceReachability net deviceId (hmay _ rfl)
      | refreshAllDeviceStatus taskId => exact v.refreshAllDeviceStatus taskId
      | runComplianceCheck w deviceId ruleIds user =>
        exact v.runComplianceCheck w deviceId ruleIds user hnames
      | runDriftDetection w deviceId user => exact v.runDriftDetection w deviceId user hnames
      | takeConfigSnapshot w deviceId golden user =>
        exact v.takeConfigSnapshot w deviceId golden user hnames
      | runDiscovery => cases hapart
      | executeProvisioningJob => cases hapart
      | _ => cases htask

end

end DevSecOpsPlatform.OperationStatements
