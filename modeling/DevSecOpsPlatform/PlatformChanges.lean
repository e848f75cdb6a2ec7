import DevSecOpsPlatform.AlertUpserts
import DevSecOpsPlatform.OperationStatements
import DevSecOpsPlatform.ThreadHistories

/-!
# What one statement can do to the store

`Change` lists everything that a statement of a request or task can do, apart from the
statements that only one operation has; `Effect` adds those, each for its operation. Every
statement of an operation is one of its effects, so a property of all runs is proved by going
through this list. Four of the changes are what a `Particular` statement does, and `Own` says
that only the operations that may execute it do that to devices and discovery jobs.
-/

namespace DevSecOpsPlatform.PlatformChanges

open KeyedTables StatementPrograms PlatformModels PlatformStore RolePermissions PythonValues
open InventoryTasks InventoryViews ProvisioningTasks ProvisioningViews MonitoringViews
open AlertUpserts SecurityTasks SecurityViews ProgramInterleaving PlatformOperations
open OperationStatements

inductive Change : Platform → Platform → Prop where
  | nothing (db : Platform) : Change db db
  | enqueue (db : Platform) (taskId : String) (m : TaskMessage) :
    Change db { db with queue := db.queue ++ [(taskId, m)] }
  -- inventory
  | createDevice (db : Platform) (d : Device) (hunique : deviceUnique db none d = true) :
    Change db { db with devices := db.devices.insert d }
  | saveDevice (db : Platform) (id : DeviceId) (d : Device)
    (hunique : deviceUnique db (some id) d = true) :
    Change db { db with devices := db.devices.store id d }
  | setDeviceStatus (db : Platform) (id : DeviceId) (status : DeviceStatus) :
    Change db { db with devices := db.devices.update id (fun d => { d with status := status }) }
  | deleteDevice (db : Platform) (id : DeviceId) : Change db (Device.cascade id db)
  | createDiscoveryJob (db : Platform) (j : DiscoveryJob) :
    Change db { db with discoveryJobs := db.discoveryJobs.insert j }
  | setDiscoveryTask (db : Platform) (id : DiscoveryJobId) (task : String) :
    Change db { db with
      discoveryJobs := db.discoveryJobs.update id (fun j => { j with celeryTaskId := task }) }
  -- provisioning
  | createTemplate (db : Platform) (t : ConfigTemplate) :
    Change db { db with configTemplates := db.configTemplates.insert t }
  | saveTemplate (db : Platform) (id : ConfigTemplateId) (t : ConfigTemplate) :
    Change db { db with configTemplates := db.configTemplates.store id t }
  | deleteTemplate (db : Platform) (id : ConfigTemplateId) :
    Change db { db with
      configTemplates := db.configTemplates.delete id
      provisioningJobs := db.provisioningJobs.updateWhere (fun _ j => j.template == some id)
        (fun j => { j with template := none }) }
  | createLog (db : Platform) (a : AuditLog)
    (hdevice : refersToOrNull db.devices a.device = true) :
    Change db { db with auditLogs := db.auditLogs.insert a }
  -- monitoring
  | upsertAlert (db : Platform) (row : Alert) :
    Change db { db with alerts := (upsert db.alerts row).2 }
  | acknowledgeAlert (db : Platform) (id : AlertId) (now : DateTime) :
    Change db { db with alerts := db.alerts.update id (acknowledgedRow now) }
  | saveAlert (db : Platform) (id : AlertId) (a : Alert) :
    Change db { db with alerts := db.alerts.store id a }
  -- security
  | createRule (db : Platform) (r : ComplianceRule) :
    Change db { db with complianceRules := db.complianceRules.insert r }
  | saveRule (db : Platform) (id : ComplianceRuleId) (r : ComplianceRule) :
    Change db { db with complianceRules := db.complianceRules.store id r }
  | deleteRule (db : Platform) (id : ComplianceRuleId) :
    Change db { db with
      complianceRules := db.complianceRules.delete id
      complianceChecks := db.complianceChecks.deleteWhere (fun _ c => c.rule == id) }
  | createCheck (db : Platform) (c : ComplianceCheck) :
    Change db { db with complianceChecks := db.complianceChecks.insert c }
  | createSnapshot (db : Platform) (s : ConfigSnapshot) :
    Change db { db with configSnapshots := db.configSnapshots.insert s }
  | saveSnapshot (db : Platform) (id : ConfigSnapshotId) (set : ConfigSnapshot → ConfigSnapshot)
    (hset : ∀ s, SameReading s (set s)) :
    Change db { db with configSnapshots := db.configSnapshots.update id set }
  | unsetGolden (db : Platform) (deviceId : DeviceId) :
    Change db (SecurityTasks.unsetGolden deviceId db)
  | createReport (db : Platform) (r : DriftReport) :
    Change db { db with driftReports := db.driftReports.insert r }

/-- What a particular statement does. -/
inductive Does : Particular → Platform → Platform → Prop where
  | saveDevice (db : Platform) (id : DeviceId) (d : Device)
    (hunique : deviceUnique db (some id) d = true) :
    Does (.saveDevice id) db { db with devices := db.devices.store id d }
  | setDeviceStatus (db : Platform) (id : DeviceId) (status : DeviceStatus) :
    Does (.setDeviceStatus id) db
      { db with devices := db.devices.update id (fun d => { d with status := status }) }
  | deleteDevice (db : Platform) (id : DeviceId) :
    Does (.deleteDevice id) db (Device.cascade id db)
  | createDiscoveryJob (db : Platform) (j : DiscoveryJob) :
    Does .createDiscoveryJob db { db with discoveryJobs := db.discoveryJobs.insert j }

theorem Does.change {s : Particular} {db db' : Platform} (h : Does s db db') : Change db db' := by
  cases h with
  | saveDevice _ id d hunique => exact .saveDevice db id d hunique
  | setDeviceStatus _ id status => exact .setDeviceStatus db id status
  | deleteDevice _ id => exact .deleteDevice db id
  | createDiscoveryJob _ j => exact .createDiscoveryJob db j

/-- The devices stay as they are, and the discovery jobs keep their statuses. -/
structure Quiet (db db' : Platform) : Prop where
  devices : ∀ id d, db.devices.get? id = some d → db'.devices.get? id = some d
  discoveryJobs : ∀ id, (db'.discoveryJobs.get? id).map DiscoveryJob.status =
    (db.discoveryJobs.get? id).map DiscoveryJob.status

theorem Quiet.of_eq {db db' : Platform} (hdevices : db'.devices = db.devices)
    (hjobs : db'.discoveryJobs = db.discoveryJobs) : Quiet db db' where
  devices _ _ h := by rw [hdevices, h]
  discoveryJobs _ := by rw [hjobs]

/-- A change that a statement makes which is not a particular one. -/
def Ordinary (db db' : Platform) : Prop := Change db db' ∧ Quiet db db'

theorem Change.ordinary {db db' : Platform} (h : Change db db')
    (hdevices : db'.devices = db.devices) (hjobs : db'.discoveryJobs = db.discoveryJobs) :
    Ordinary db db' := ⟨h, .of_eq hdevices hjobs⟩

/-- An ordinary change that sends no message. -/
def Silent (db db' : Platform) : Prop := Ordinary db db' ∧ db'.queue = db.queue

theorem Change.silent {db db' : Platform} (h : Change db db')
    (hdevices : db'.devices = db.devices) (hjobs : db'.discoveryJobs = db.discoveryJobs)
    (hqueue : db'.queue = db.queue) : Silent db db' := ⟨h.ordinary hdevices hjobs, hqueue⟩

instance : Std.Refl Silent := ⟨fun db => (Change.nothing db).silent rfl rfl rfl⟩

theorem silent_createDevice (db : Platform) (d : Device)
    (hunique : deviceUnique db none d = true) :
    Silent db { db with devices := db.devices.insert d } where
  left := ⟨.createDevice db d hunique, fun _ _ h => Table.get?_insert_of_some h, fun _ => rfl⟩
  right := rfl

theorem silent_setDiscoveryTask (db : Platform) (id : DiscoveryJobId) (task : String) :
    Silent db { db with
      discoveryJobs := db.discoveryJobs.update id (fun j => { j with celeryTaskId := task }) } := by
  refine ⟨⟨.setDiscoveryTask db id task, fun _ _ h => h, fun k => ?_⟩, rfl⟩
  rw [Table.get?_update]
  split
  · rw [Option.map_map]
    rfl
  · rfl

/-- The effects of an operation. -/
inductive Effect : Operation → Platform → Platform → Prop where
  | common {o : Operation} {db db' : Platform} (h : Change db db') : Effect o db db'
  -- a discovery
  | saveDiscoveryJob (net : Network) (jobId : DiscoveryJobId) (db : Platform)
    (set : DiscoveryJob → DiscoveryJob) (hsubnet : ∀ j, (set j).subnet = j.subnet) :
    Effect (.runDiscovery net jobId) db
      { db with discoveryJobs := db.discoveryJobs.update jobId set }
  -- creating a job
  | createJob (caller : Option UserId) (now : DateTime) (data : ProvisioningJobData)
    (taskId : String) (db : Platform) (user : UserId) :
    Effect (.createProvisioningJob caller now data taskId) db
      { db with
        provisioningJobs := db.provisioningJobs.insert
          (ProvisioningJob.stored (data.row user now)) }
  | setJobDevices (caller : Option UserId) (now : DateTime) (data : ProvisioningJobData)
    (taskId : String) (db : Platform) (id : ProvisioningJobId) (devices : List DeviceId) :
    Effect (.createProvisioningJob caller now data taskId) db
      { db with jobDevices := db.jobDevices ++ devices.dedup.map (fun d => (id, d)) }
  | setJobTask (caller : Option UserId) (now : DateTime) (data : ProvisioningJobData)
    (taskId : String) (db : Platform) (id : ProvisioningJobId) (task : String) :
    Effect (.createProvisioningJob caller now data taskId) db
      { db with
        provisioningJobs := db.provisioningJobs.update id
          (fun j => { j with celeryTaskId := task }) }
  -- executing a job
  | setRunning (w : PushWorld) (jobId : ProvisioningJobId) (db : Platform) :
    Effect (.executeProvisioningJob w jobId) db { db with
      provisioningJobs := db.provisioningJobs.update jobId (fun row =>
        { row with status := .running, startedAt := some (w.clock 0) }) }
  | setRendered (w : PushWorld) (jobId : ProvisioningJobId) (db : Platform) (rendered : String) :
    Effect (.executeProvisioningJob w jobId) db { db with
      provisioningJobs := db.provisioningJobs.update jobId (fun row =>
        { row with renderedConfig := rendered }) }
  | createResult (w : PushWorld) (jobId : ProvisioningJobId) (db : Platform)
    (r : ProvisioningResult) (hjob : r.job = jobId)
    (hdevice : refersTo db.devices r.device = true) :
    Effect (.executeProvisioningJob w jobId) db
      { db with provisioningResults := db.provisioningResults.insert r }
  | setFinished (w : PushWorld) (jobId : ProvisioningJobId) (db : Platform)
    (successes total : ℕ) :
    Effect (.executeProvisioningJob w jobId) db { db with
      provisioningJobs := db.provisioningJobs.update jobId (fun row => { row with
        status := finalStatus successes total
        completedAt := some (w.clock (2 * total + 1)) }) }
  -- profiles
  | saveProfile (caller : Option UserId) (now : DateTime) (id : ℕ) (role : Option Role)
    (db : Platform) (p : UserProfile) :
    Effect (.updateUserProfile caller now id role) db { db with profiles := db.profiles.store id p }
  | deleteProfile (caller : Option UserId) (id : ℕ) (db : Platform) :
    Effect (.destroyUserProfile caller id) db { db with profiles := db.profiles.delete id }

instance (o : Operation) : Std.Refl (Effect o) := ⟨fun db => .common (.nothing db)⟩

/-! ### Statements -/

theorem writes_lookUp {α : Type} {R : Platform → Platform → Prop} [Std.Refl R]
    {f : Platform → Except Exn (α × Platform)} (h : LooksUp f) : (Program.statement f).Writes R :=
  Program.writes_statement (fun db a db' hf => by
    obtain rfl : db' = db := h.keeps db (a, db') hf
    exact refl db')

/-- An upsert that goes through has found the device of its row. -/
theorem writes_updateOrCreate_of {R : Platform → Platform → Prop} [Std.Refl R]
    (h : ∀ db row, refersToOrNull db.devices row.device = true →
      R db { db with alerts := (upsert db.alerts row).2 })
    (w : WebhookWorld) (now : DateTime) (fingerprint : Json) (d : AlertDefaults) :
    (Alert.updateOrCreate w now fingerprint d).Writes R := by
  refine Program.writes_statement fun db created db' hrun => ?_
  obtain ⟨f, -, hrun⟩ := ok_of_bind hrun
  obtain ⟨_, -, hrun⟩ := ok_of_bind hrun
  obtain ⟨row, -, hrun⟩ := ok_of_bind hrun
  obtain ⟨_, hdevice, hrun⟩ := ok_of_bind hrun
  obtain ⟨-, rfl⟩ := Prod.mk.inj (Except.ok.inj hrun)
  exact h db row (require_eq_ok hdevice)

theorem writes_updateOrCreate (w : WebhookWorld) (now : DateTime) (fingerprint : Json)
    (d : AlertDefaults) : (Alert.updateOrCreate w now fingerprint d).Writes Silent :=
  writes_updateOrCreate_of (fun db row _ => (Change.upsertAlert db row).silent rfl rfl rfl) w now
    fingerprint d

theorem writes_createDevice (d : Device) : (Device.create d).Writes Silent := by
  refine writes_insertRow_of_ok (fun db u hok => silent_createDevice db d ?_)
  obtain ⟨_, -, hok⟩ := ok_of_bind hok
  obtain ⟨_, -, hok⟩ := ok_of_bind hok
  obtain ⟨_, -, hok⟩ := ok_of_bind hok
  obtain ⟨_, -, hok⟩ := ok_of_bind hok
  exact require_eq_ok hok

theorem writes_saveDevice {R : Platform → Platform → Prop} [Std.Refl R] (id : DeviceId)
    (d : Device) (h : ∀ {db db'}, Does (.saveDevice id) db db' → R db db') :
    (InventoryViews.saveDevice id d).Writes R := by
  refine writes_saveRow_of_ok (fun db b hok hb => h (.saveDevice db id b ?_))
  obtain ⟨_, -, hok⟩ := ok_of_bind hok
  obtain ⟨_, -, hok⟩ := ok_of_bind hok
  rcases hb with rfl | rfl <;> exact require_eq_ok hok

theorem writes_createLog (a : AuditLog) : (AuditLog.create a).Writes Silent := by
  refine writes_insertRow_of_ok (fun db u hok => (Change.createLog db a ?_).silent rfl rfl rfl)
  exact (Bool.and_eq_true_iff.mp (require_bind_eq_ok hok).2).2

/-- The common statements are in every relation that holds of the changes that send nothing, of
the messages that may be sent, and of what the particular statements do. -/
theorem vocabulary_writes_of_delay {R : Platform → Platform → Prop} [Std.Refl R]
    {may : Particular → Prop} {names : Option UserId → Prop} (hnobody : names none)
    (h : ∀ {db db'}, Silent db db' → R db db')
    (hdelay : ∀ (db : Platform) taskId m, Sendable may names m →
      R db { db with queue := db.queue ++ [(taskId, m)] })
    (hmay : ∀ {s db db'}, may s → Does s db db' → R db db') :
    Vocabulary (fun _ p => p.Writes R) may names where
  ret _ := trivial
  raise _ := trivial
  bind hp hf := hp.bind hf
  attempt hp := hp.attempt
  nobody := hnobody
  lookUp hf := writes_lookUp hf
  gated _ _ _ hf := writes_permit_bind hf
  query _ := Program.writes_query _
  getAlert _ _ hf := (writes_getObject _).bind fun _ => hf _ _
  delay taskId m hm := fun db => ⟨hdelay db taskId m hm, trivial⟩
  createDevice d _ := (writes_createDevice d).mono fun _ _ => h
  saveDevice id d hs := writes_saveDevice id d (hmay hs)
  setDeviceStatus id status hs :=
    Program.writes_execute fun db => hmay hs (.setDeviceStatus db id status)
  deleteDevice id hs := Program.writes_execute fun db => hmay hs (.deleteDevice db id)
  createDiscoveryJob j hs _ := writes_insertRow fun db => hmay hs (.createDiscoveryJob db j)
  setDiscoveryTask id task := writes_saveFields fun db => h (silent_setDiscoveryTask db id task)
  createTemplate t _ :=
    writes_insertRow fun db => h ((Change.createTemplate db t).silent rfl rfl rfl)
  saveTemplate id _ :=
    writes_saveRow_of_ok fun db b _ _ => h ((Change.saveTemplate db id b).silent rfl rfl rfl)
  deleteTemplate id :=
    Program.writes_execute fun db => h ((Change.deleteTemplate db id).silent rfl rfl rfl)
  createLog a _ _ hq := ((writes_createLog a).mono fun _ _ => h).bind fun _ => hq
  updateOrCreateAlert w now f d := (writes_updateOrCreate w now f d).mono fun _ _ => h
  saveAcknowledged id now :=
    writes_saveFields fun db => h ((Change.acknowledgeAlert db id now).silent rfl rfl rfl)
  saveAlert id _ :=
    writes_saveRow_of_ok fun db b _ _ => h ((Change.saveAlert db id b).silent rfl rfl rfl)
  createRule r := writes_insertRow fun db => h ((Change.createRule db r).silent rfl rfl rfl)
  saveRule id _ _ :=
    writes_saveRow_of_ok fun db b _ _ => h ((Change.saveRule db id b).silent rfl rfl rfl)
  deleteRule id :=
    Program.writes_execute fun db => h ((Change.deleteRule db id).silent rfl rfl rfl)
  createCheck c _ := writes_insertRow fun db => h ((Change.createCheck db c).silent rfl rfl rfl)
  createSnapshot s _ :=
    writes_insertRow fun db => h ((Change.createSnapshot db s).silent rfl rfl rfl)
  saveSnapshot id set hset :=
    writes_saveFields fun db => h ((Change.saveSnapshot db id set hset).silent rfl rfl rfl)
  unsetGolden deviceId :=
    Program.writes_execute fun db => h ((Change.unsetGolden db deviceId).silent rfl rfl rfl)
  createReport r := writes_insertRow fun db => h ((Change.createReport db r).silent rfl rfl rfl)

/-- The common statements are in every relation that holds of the ordinary changes and of what
the particular statements do. -/
theorem vocabulary_writes {R : Platform → Platform → Prop} [Std.Refl R] {may : Particular → Prop}
    (h : ∀ {db db'}, Ordinary db db' → R db db')
    (hmay : ∀ {s db db'}, may s → Does s db db' → R db db') :
    Vocabulary (fun _ p => p.Writes R) may (fun _ => True) :=
  vocabulary_writes_of_delay trivial (fun hs => h hs.1)
    (fun db taskId m _ => h ((Change.enqueue db taskId m).ordinary rfl rfl)) hmay

/-- The common statements of an operation are among its effects. -/
theorem vocabulary_effect (o : Operation) :
    Vocabulary (fun _ p => p.Writes (Effect o)) (fun _ => True) (fun _ => True) :=
  vocabulary_writes (fun h => .common h.1) fun _ h => .common h.change

/-! ### Operations -/

theorem writes_createProvisioningJob (caller : Option UserId) (now : DateTime)
    (data : ProvisioningJobData) (taskId : String) :
    (Operation.createProvisioningJob caller now data taskId).program.Writes
      (Effect (.createProvisioningJob caller now data taskId)) := by
  refine Program.Writes.bind ?_ (fun _ => trivial)
  exact ProvisioningViews.writes_createProvisioningJob
    (fun db user _ => .createJob caller now data taskId db user)
    (.setJobDevices caller now data taskId) (fun db m => .common (.enqueue db taskId m))
    fun db id => .setJobTask caller now data taskId db id taskId

theorem writes_execute (w : PushWorld) (jobId : ProvisioningJobId) :
    (executeProvisioningJob w jobId).Writes (Effect (.executeProvisioningJob w jobId)) :=
  writes_executeProvisioningJob (.setRunning w jobId) (.setRendered w jobId)
    (fun db r => .createResult w jobId db r) (fun db a h => .common (.createLog db a h))
    (.setFinished w jobId)

theorem writes_runDiscovery (net : Network) (jobId : DiscoveryJobId) :
    (InventoryTasks.runDiscovery net jobId).Writes (Effect (.runDiscovery net jobId)) :=
  (vocabulary_effect _).runDiscovery net jobId fun set hset =>
    writes_saveFields fun db => .saveDiscoveryJob net jobId db set hset

theorem writes_updateUserProfile {R : Platform → Platform → Prop} [Std.Refl R]
    (caller : Option UserId) (now : DateTime) (id : ℕ) (role : Option Role)
    (h : ∀ db p, R db { db with profiles := db.profiles.store id p }) :
    (Operation.updateUserProfile caller now id role).program.Writes R := by
  refine Program.Writes.bind ?_ (fun _ => trivial)
  refine (writes_permit _ _).bind fun _ => (writes_getObject _).bind fun profile => ?_
  refine (writes_saveRow_of_ok fun db b _ _ => h db b).bind fun _ => ?_
  exact (Program.writes_query _).bind fun _ => trivial

theorem writes_destroyUserProfile {R : Platform → Platform → Prop} [Std.Refl R]
    (caller : Option UserId) (id : ℕ)
    (h : ∀ db : Platform, R db { db with profiles := db.profiles.delete id }) :
    (Operation.destroyUserProfile caller id).program.Writes R := by
  refine Program.Writes.bind ?_ (fun _ => trivial)
  refine (writes_permit _ _).bind fun _ => (writes_getObject _).bind fun _ => ?_
  refine Program.Writes.bind ?_ (fun _ => trivial)
  exact Program.writes_execute h

theorem writes_get {R : Platform → Platform → Prop} [Std.Refl R]
    (allows : Option RequestUser → Bool) (caller : Option UserId) (view : Platform → Response) :
    (Operation.get allows caller view).program.Writes R :=
  ((writes_permit _ _).bind fun _ => Program.writes_query _).bind fun _ => trivial

/-- Every statement of an operation is one of its effects. -/
theorem writes_program (o : Operation) : o.program.Writes (Effect o) := by
  by_cases hapart : standsApart o = true
  · cases o with
    | get allows caller view => exact writes_get allows caller view
    | createProvisioningJob caller now data taskId =>
      exact writes_createProvisioningJob caller now data taskId
    | executeProvisioningJob w jobId => exact writes_execute w jobId
    | runDiscovery net jobId => exact writes_runDiscovery net jobId
    | updateUserProfile caller now id role =>
      exact writes_updateUserProfile caller now id role (.saveProfile caller now id role)
    | destroyUserProfile caller id =>
      exact writes_destroyUserProfile caller id (.deleteProfile caller id)
    | _ => cases hapart
  · exact (vocabulary_effect o).program o (fun _ _ => trivial) trivial fun h => absurd h hapart

/-- What an operation does to devices and discovery jobs: nothing, what its particular
statement does, or the bookkeeping of a discovery. -/
inductive Own (o : Operation) (db db' : Platform) : Prop where
  | quiet (h : Quiet db db')
  | particular (s : Particular) (hs : particular o = some s) (h : Does s db db')
  | discovery (net : Network) (jobId : DiscoveryJobId) (ho : o = .runDiscovery net jobId)
    (hdevices : db'.devices = db.devices)

instance (o : Operation) : Std.Refl (Own o) := ⟨fun _ => .quiet (.of_eq rfl rfl)⟩

/-- Every statement of an operation is its own. -/
theorem writes_own (o : Operation) : o.program.Writes (Own o) := by
  have v : Vocabulary (fun _ p => p.Writes (Own o)) (fun s => particular o = some s)
      (fun _ => True) :=
    vocabulary_writes (fun h => .quiet h.2) fun hs h => .particular _ hs h
  refine v.program o (fun _ hs => hs) trivial fun hapart => ?_
  cases o with
  | get allows caller view => exact writes_get allows caller view
  | createProvisioningJob caller now data taskId =>
    refine Program.Writes.bind ?_ (fun _ => trivial)
    exact ProvisioningViews.writes_createProvisioningJob (fun _ _ _ => .quiet (.of_eq rfl rfl))
      (fun _ _ _ => .quiet (.of_eq rfl rfl)) (fun _ _ => .quiet (.of_eq rfl rfl))
      fun _ _ => .quiet (.of_eq rfl rfl)
  | executeProvisioningJob w jobId =>
    exact writes_executeProvisioningJob (fun _ => .quiet (.of_eq rfl rfl))
      (fun _ _ => .quiet (.of_eq rfl rfl)) (fun _ _ _ _ => .quiet (.of_eq rfl rfl))
      (fun _ _ _ => .quiet (.of_eq rfl rfl)) fun _ _ _ => .quiet (.of_eq rfl rfl)
  | runDiscovery net jobId =>
    exact v.runDiscovery net jobId fun set _ =>
      writes_saveFields fun db => .discovery net jobId rfl rfl
  | updateUserProfile caller now id role =>
    exact writes_updateUserProfile caller now id role fun _ _ => .quiet (.of_eq rfl rfl)
  | destroyUserProfile caller id =>
    exact writes_destroyUserProfile caller id fun _ => .quiet (.of_eq rfl rfl)
  | _ => cases hapart

theorem writes_startAll (store : Platform) (operations : List Operation) :
    ∀ t ∈ (startAll store operations).threads, t.rest.Writes (Effect t.name) := by
  intro t ht
  obtain ⟨o, -, rfl⟩ := List.mem_map.mp ht
  exact writes_program o

theorem threads_startAll (store : Platform) {operations : List Operation} {i : ℕ}
    {o : Operation} (h : operations[i]? = some o) :
    (startAll store operations).threads[i]? = some ⟨o, 0, o.program⟩ := by
  simp [startAll, Pool.start, h]

/-- A thread keeps the operation it was started with. -/
theorem operation_of_thread {store : Platform} {operations : List Operation} (schedule : List ℕ)
    {k : ℕ} {t : Thread Operation Platform Exn Json}
    (h : ((startAll store operations).run schedule).threads[k]? = some t) :
    operations[k]? = some t.name := by
  obtain ⟨u, hu, hname⟩ := Pool.name_run h
  obtain ⟨o, ho, rfl⟩ := Option.map_eq_some_iff.mp ((List.getElem?_map ..).symm.trans hu)
  exact hname ▸ ho

/-- A step of a run changes nothing, or does what the statements of its operation do. -/
theorem step_writes {R : Operation → Platform → Platform → Prop}
    (hR : ∀ o : Operation, o.program.Writes (R o)) (store : Platform) (operations : List Operation)
    (done : List ℕ) (k : ℕ) :
    (((startAll store operations).run done).step k).store =
        ((startAll store operations).run done).store ∨
      ∃ o, operations[k]? = some o ∧ R o ((startAll store operations).run done).store
        (((startAll store operations).run done).step k).store := by
  have hstart : ∀ t ∈ (startAll store operations).threads, t.rest.Writes (R t.name) := by
    intro t ht
    obtain ⟨o, -, rfl⟩ := List.mem_map.mp ht
    exact hR o
  obtain hs | ⟨t, hk, hstmt, hs⟩ := ((startAll store operations).run done).step_cases k
  · exact .inl (congrArg Pool.store hs)
  · refine .inr ⟨t.name, operation_of_thread done hk, ?_⟩
    rw [hs]
    exact (Pool.writes_run hstart done t (List.mem_of_getElem? hk)).write hstmt _

/-- A step of a run changes nothing, or has an effect of the operation of its thread. -/
theorem step_effect (store : Platform) (operations : List Operation) (done : List ℕ) (k : ℕ) :
    (((startAll store operations).run done).step k).store =
        ((startAll store operations).run done).store ∨
      ∃ o, operations[k]? = some o ∧ Effect o ((startAll store operations).run done).store
        (((startAll store operations).run done).step k).store :=
  step_writes writes_program store operations done k

/-! ### What stays of a provisioning job -/

/-- A row is still there after an update, changed if it is the one that is updated. -/
theorem get?_update_of_some {α : Type} {t : Table α} {a : α} {k : ℕ} (h : t.get? k = some a)
    (id : ℕ) (set : α → α) :
    (t.update id set).get? k = some (if k = id then set a else a) := by
  rw [Table.get?_update, h]
  split <;> rfl

/-- No operation deletes a job or changes its variables; its template may become null, and only
its execution sets its status. -/
theorem job_of_effect {o : Operation} {db db' : Platform} (h : Effect o db db')
    {jobId : ProvisioningJobId} {job : ProvisioningJob}
    (hjob : db.provisioningJobs.get? jobId = some job) :
    ∃ job', db'.provisioningJobs.get? jobId = some job' ∧
      job'.jobVariables = job.jobVariables ∧
      (job'.template = job.template ∨ job'.template = none) ∧
      ((∀ w, o ≠ .executeProvisioningJob w jobId) → job'.status = job.status) := by
  have hsame : ∃ job', db.provisioningJobs.get? jobId = some job' ∧
      job'.jobVariables = job.jobVariables ∧
      (job'.template = job.template ∨ job'.template = none) ∧
      ((∀ w, o ≠ .executeProvisioningJob w jobId) → job'.status = job.status) :=
    ⟨job, hjob, rfl, .inl rfl, fun _ => rfl⟩
  cases h with
  | common hchange =>
    cases hchange with
    | deleteTemplate id =>
      refine ⟨_, (Table.get?_updateWhere ..).trans (congrArg _ hjob), ?_⟩
      dsimp only
      split
      · exact ⟨rfl, .inr rfl, fun _ => rfl⟩
      · exact ⟨rfl, .inl rfl, fun _ => rfl⟩
    | _ => exact hsame
  | createJob caller now data taskId _ user =>
    exact ⟨job, Table.get?_insert_of_some hjob, rfl, .inl rfl, fun _ => rfl⟩
  | setJobTask caller now data taskId _ id task =>
    refine ⟨_, get?_update_of_some hjob id _, ?_⟩
    split <;> exact ⟨rfl, .inl rfl, fun _ => rfl⟩
  | setRunning w id =>
    refine ⟨_, get?_update_of_some hjob id _, ?_⟩
    split
    · rename_i hid
      exact ⟨rfl, .inl rfl, fun hother => absurd (congrArg _ hid.symm) (hother w)⟩
    · exact ⟨rfl, .inl rfl, fun _ => rfl⟩
  | setRendered w id _ rendered =>
    refine ⟨_, get?_update_of_some hjob id _, ?_⟩
    split <;> exact ⟨rfl, .inl rfl, fun _ => rfl⟩
  | setFinished w id _ s t =>
    refine ⟨_, get?_update_of_some hjob id _, ?_⟩
    split
    · rename_i hid
      exact ⟨rfl, .inl rfl, fun hother => absurd (congrArg _ hid.symm) (hother w)⟩
    · exact ⟨rfl, .inl rfl, fun _ => rfl⟩
  | _ => exact hsame

/-- A job that was not there is new, and PENDING. -/
theorem new_job_of_effect {o : Operation} {db db' : Platform} (h : Effect o db db')
    {jobId : ProvisioningJobId} (hnone : db.provisioningJobs.get? jobId = none)
    {job : ProvisioningJob} (hjob : db'.provisioningJobs.get? jobId = some job) :
    job.status = .pending := by
  have habsent (id : ProvisioningJobId) (set : ProvisioningJob → ProvisioningJob) :
      (db.provisioningJobs.update id set).get? jobId = none := by
    rw [Table.get?_update, hnone]
    split <;> rfl
  have hsame (hjob : db.provisioningJobs.get? jobId = some job) : job.status = .pending := by
    simp [hnone] at hjob
  have hupdate {id : ProvisioningJobId} {set : ProvisioningJob → ProvisioningJob}
      (hjob : (db.provisioningJobs.update id set).get? jobId = some job) :
      job.status = .pending := by
    simp [habsent id set] at hjob
  cases h with
  | common hchange =>
    cases hchange with
    | deleteTemplate id =>
      rw [Table.get?_updateWhere, hnone] at hjob
      cases hjob
    | _ => exact hsame hjob
  | createJob caller now data taskId _ user =>
    rw [Table.get?_insert] at hjob
    split at hjob
    · exact Option.some.inj hjob ▸ rfl
    · exact hsame hjob
  | setJobTask => exact hupdate hjob
  | setRunning => exact hupdate hjob
  | setRendered => exact hupdate hjob
  | setFinished => exact hupdate hjob
  | _ => exact hsame hjob

/-! ### Following the statements of a thread -/

section

variable {α β : Type} {A : History Platform → Platform → Prop} {I : History Platform → Prop}
  {P : History Platform → Except Exn β → Prop} {h : History Platform}

theorem along_permit_bind {allows : Option RequestUser → Bool} {caller : Option UserId}
    {g : RequestUser → Statement β} (hI : I h)
    (hok : ∀ db u, A h db → authenticate caller db = some u → allows (some u) = true →
      (g u).Along A I P (h ++ [(db, db)]))
    (herror : ∀ db e, A h db → P (h ++ [(db, db)]) (.error e)) :
    (permit allows caller >>= g).Along A I P h := by
  refine Program.along_statement_bind hI (fun db u db' hdb hrun => ?_)
    (fun db e hdb _ => herror db e hdb)
  cases hu : authenticate caller db with
  | none => simp [hu] at hrun
  | some u' =>
    cases hallows : allows (some u') with
    | false => simp [hu, hallows] at hrun
    | true =>
      simp only [hu, hallows, if_true, Except.ok.injEq, Prod.mk.injEq] at hrun
      obtain ⟨rfl, rfl⟩ := hrun
      exact hok db u' hdb hu hallows

theorem along_getObject_bind {find : Platform → Option α} {g : α → Statement β} (hI : I h)
    (hok : ∀ db a, A h db → find db = some a → (g a).Along A I P (h ++ [(db, db)]))
    (herror : ∀ db e, A h db → P (h ++ [(db, db)]) (.error e)) :
    (getObject find >>= g).Along A I P h := by
  refine Program.along_statement_bind hI (fun db a db' hdb hrun => ?_)
    (fun db e hdb _ => herror db e hdb)
  cases hfind : find db with
  | none => simp [hfind] at hrun
  | some a' =>
    simp only [hfind, Except.ok.injEq, Prod.mk.injEq] at hrun
    obtain ⟨rfl, rfl⟩ := hrun
    exact hok db a' hdb hfind

theorem along_insertRow_bind {ok : Platform → Except Exn Unit} {next : Platform → ℕ}
    {set : Platform → Platform} {g : ℕ → Statement β} (hI : I h)
    (hok : ∀ db, A h db → (g (next db)).Along A I P (h ++ [(db, set db)]))
    (herror : ∀ db e, A h db → P (h ++ [(db, db)]) (.error e)) :
    (insertRow ok next set >>= g).Along A I P h := by
  refine Program.along_statement_bind hI (fun db id db' hdb hrun => ?_)
    (fun db e hdb _ => herror db e hdb)
  obtain ⟨rfl, rfl⟩ := eq_of_insertRow hrun
  exact hok db hdb

theorem along_saveFields_bind {rows : Platform → Table α}
    {setRows : Platform → Table α → Platform} {id : ℕ} {set : α → α} {g : Unit → Statement β}
    (hI : I h)
    (hok : ∀ db a, A h db → (rows db).get? id = some a →
      (g ()).Along A I P (h ++ [(db, setRows db ((rows db).update id set))]))
    (herror : ∀ db e, A h db → (rows db).get? id = none → P (h ++ [(db, db)]) (.error e)) :
    (saveFields rows setRows id set >>= g).Along A I P h := by
  refine Program.along_statement_bind hI (fun db u db' hdb hrun => ?_) (fun db e hdb hrun => ?_)
  · cases hget : (rows db).get? id with
    | none => simp [hget] at hrun
    | some a =>
      simp only [hget, Except.ok.injEq, Prod.mk.injEq, true_and] at hrun
      exact hrun ▸ hok db a hdb hget
  · cases hget : (rows db).get? id with
    | none => exact herror db e hdb hget
    | some a => simp [hget] at hrun

end

end DevSecOpsPlatform.PlatformChanges
