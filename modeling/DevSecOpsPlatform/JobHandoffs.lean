import DevSecOpsPlatform.ProvisioningTaskRuns
import DevSecOpsPlatform.ProvisioningViews
import DevSecOpsPlatform.SecurityTasks
import DevSecOpsPlatform.TaskHandoff
import Mathlib.Data.List.Dedup

/-!
# Creating a job while its task runs

`ProvisioningJobViewSet.create` and `DiscoveryJobViewSet.create` put the task of the new job
on the broker before their last save, so a worker may run it, in part or to its end, while
the request goes on. Both hold a copy of the job row. Every save names its columns: the
request writes only the task identifier after the handoff, and the task never does.
-/

namespace DevSecOpsPlatform.JobHandoffs

open KeyedTables StatementPrograms PlatformModels PlatformStore RolePermissions PythonValues
open InventoryTasks InventoryViews ProvisioningTasks ProvisioningViews SecurityTasks TaskHandoff

/-! ### Workers -/

/-- What the tasks of a worker meet. -/
structure Worker where
  network : Network
  push : PushWorld
  compliance : ComplianceWorld
  drift : DriftWorld
  snapshot : SnapshotWorld

def Worker.task (w : Worker) : TaskMessage → Statement Json
  | .runDiscovery jobId => runDiscovery w.network jobId
  | .checkDeviceReachability deviceId => checkDeviceReachability w.network deviceId
  | .executeProvisioningJob jobId => executeProvisioningJob w.push jobId
  | .runComplianceCheck deviceId ruleIds user =>
    runComplianceCheck w.compliance deviceId ruleIds user
  | .runDriftDetection deviceId user => runDriftDetection w.drift deviceId user
  | .takeConfigSnapshot deviceId golden user => takeConfigSnapshot w.snapshot deviceId golden user

/-- The broker without the message. -/
def dequeue (taskId : String) (db : Platform) : Platform :=
  { db with queue := db.queue.filter (fun m => m.1 != taskId) }

/-- The task of the message with the identifier, once it is on the broker. -/
def Worker.take (w : Worker) (taskId : String) (db : Platform) :
    Option (Statement Json × Platform) :=
  (db.queue.find? (fun m => m.1 == taskId)).map (fun m => (w.task m.2, dequeue taskId db))

/-! ### Jobs -/

inductive JobRequest where
  | discovery (caller : Option UserId) (now : DateTime) (subnet : Option String)
  | provisioning (caller : Option UserId) (now : DateTime) (data : ProvisioningJobData)

def JobRequest.view (taskId : String) : JobRequest → Statement Response
  | discovery caller now subnet => createDiscoveryJob caller now subnet taskId
  | provisioning caller now data => createProvisioningJob caller now data taskId

inductive JobRow where
  | discovery (row : DiscoveryJob)
  | provisioning (row : ProvisioningJob)

/-- The stored status of a job. -/
inductive StoredStatus where
  | pending | running
  | terminal (value : String)
  deriving DecidableEq

def JobRow.status : JobRow → StoredStatus
  | discovery row => match row.status with
    | .pending => .pending
    | .running => .running
    | status => .terminal status.value
  | provisioning row => match row.status with
    | .pending => .pending
    | .running => .running
    | status => .terminal status.value

def JobRow.withTaskId (taskId : String) : JobRow → JobRow
  | discovery row => .discovery { row with celeryTaskId := taskId }
  | provisioning row => .provisioning { row with celeryTaskId := taskId }

@[simp] theorem JobRow.status_withTaskId (taskId : String) (row : JobRow) :
    (row.withTaskId taskId).status = row.status := by
  cases row <;> rfl

/-- The row of the job that the request creates from the store. -/
def JobRequest.jobId (store : Platform) : JobRequest → ℕ
  | discovery _ _ _ => store.discoveryJobs.nextId
  | provisioning _ _ _ => store.provisioningJobs.nextId

def JobRequest.row? (jobId : ℕ) (db : Platform) : JobRequest → Option JobRow
  | discovery _ _ _ => (db.discoveryJobs.get? jobId).map .discovery
  | provisioning _ _ _ => (db.provisioningJobs.get? jobId).map .provisioning

def JobRequest.message (jobId : ℕ) : JobRequest → TaskMessage
  | discovery _ _ _ => .runDiscovery jobId
  | provisioning _ _ _ => .executeProvisioningJob jobId

/-- The statements of the request up to the one that puts the message on the broker. -/
def JobRequest.handoff : JobRequest → ℕ
  | discovery _ _ _ => 3
  | provisioning _ _ _ => 5

/-- The store when the message has just been put on the broker. -/
def JobRequest.handed (taskId : String) (store : Platform) (r : JobRequest) : Platform :=
  ((r.view taskId).advance r.handoff store).2

/-- The task of the job, running alone from the moment its message is taken. -/
def JobRequest.outcome (w : Worker) (taskId : String) (store : Platform) (r : JobRequest) :
    Except Exn Json × Platform :=
  (w.task (r.message (r.jobId store))).run (dequeue taskId (r.handed taskId store))

/-- The devices that the task of the job loads are those of the request. -/
def JobRequest.SeesDevices (jobId : ℕ) (db : Platform) : JobRequest → Prop
  | discovery _ _ _ => True
  | provisioning _ _ data =>
    ∀ d, d ∈ data.deviceIds.getD [] ↔ ∃ device, (d, device) ∈ jobDeviceRows jobId db

/-- One step of the stored status. -/
inductive StatusStep : Option StoredStatus → Option StoredStatus → Prop where
  | same (s : Option StoredStatus) : StatusStep s s
  | created : StatusStep none (some .pending)
  | started : StatusStep (some .pending) (some .running)
  | ended (value : String) : StatusStep (some .running) (some (.terminal value))

instance : Std.Refl StatusStep := ⟨.same⟩

def JobRequest.status (jobId : ℕ) (r : JobRequest) (db : Platform) : Option StoredStatus :=
  (r.row? jobId db).map JobRow.status

def markDiscovery (taskId : String) (jobId : ℕ) (db : Platform) : Platform :=
  { db with
    discoveryJobs := db.discoveryJobs.update jobId (fun j => { j with celeryTaskId := taskId }) }

def markProvisioning (taskId : String) (jobId : ℕ) (db : Platform) : Platform :=
  { db with
    provisioningJobs := db.provisioningJobs.update jobId
      (fun j => { j with celeryTaskId := taskId }) }

/-- What the final save of the request does to the store. -/
def JobRequest.saveTaskId (taskId : String) (jobId : ℕ) : JobRequest → Platform → Platform
  | discovery _ _ _ => markDiscovery taskId jobId
  | provisioning _ _ _ => markProvisioning taskId jobId

theorem JobRequest.row?_saveTaskId (taskId : String) (jobId : ℕ) (db : Platform) (r : JobRequest) :
    r.row? jobId (r.saveTaskId taskId jobId db) =
      (r.row? jobId db).map (·.withTaskId taskId) := by
  cases r with
  | discovery caller now subnet =>
    simp [row?, saveTaskId, markDiscovery, Option.map_map, Function.comp_def, JobRow.withTaskId]
  | provisioning caller now data =>
    simp [row?, saveTaskId, markProvisioning, Option.map_map, Function.comp_def, JobRow.withTaskId]

theorem JobRequest.status_saveTaskId (taskId : String) (jobId : ℕ) (db : Platform)
    (r : JobRequest) : r.status jobId (r.saveTaskId taskId jobId db) = r.status jobId db := by
  simp [status, row?_saveTaskId, Option.map_map, Function.comp_def]

theorem JobRequest.status_dequeue (taskId : String) (jobId : ℕ) (db : Platform)
    (r : JobRequest) : r.status jobId (dequeue taskId db) = r.status jobId db := by
  cases r <;> rfl

/-! ### The tasks write past the identifier -/

theorem commutes_saveDiscoveryJob (taskId : String) (jobId : ℕ) {set : DiscoveryJob → DiscoveryJob}
    (h : ∀ j, set { j with celeryTaskId := taskId } = { set j with celeryTaskId := taskId }) :
    (DiscoveryJob.save jobId set).Commutes (markDiscovery taskId jobId) :=
  commutes_saveFields (fun _ => rfl) (fun _ _ => rfl) (fun _ _ _ => rfl) h

theorem commutes_saveProvisioningJob (taskId : String) (jobId : ℕ)
    {set : ProvisioningJob → ProvisioningJob}
    (h : ∀ j, set { j with celeryTaskId := taskId } = { set j with celeryTaskId := taskId }) :
    (ProvisioningJob.save jobId set).Commutes (markProvisioning taskId jobId) :=
  commutes_saveFields (fun _ => rfl) (fun _ _ => rfl) (fun _ _ _ => rfl) h

theorem commutes_discoverHosts (taskId : String) (jobId : ℕ) (net : Network) (n : ℕ)
    (hosts : List IpAddresses.IpAddress) (acc : Discovered) :
    (discoverHosts net n hosts acc).Commutes (markDiscovery taskId jobId) := by
  have hcreate (d : Device) : (Device.create d).Commutes (markDiscovery taskId jobId) :=
    commutes_insertRow (fun _ => rfl) (fun _ => rfl) (fun _ => rfl)
  induction hosts generalizing n acc with
  | nil => trivial
  | cons host hosts ih =>
    unfold discoverHosts
    dsimp only
    split
    · trivial
    · exact ih (n + 1) acc
    · refine Program.Commutes.bind (Program.commutes_query ?_) fun known => ?_
      · exact fun _ => rfl
      split
      · exact ih (n + 1) _
      · split
        · trivial
        · refine (hcreate _).attempt.bind fun created => ?_
          split
          · trivial
          · exact ih (n + 1) _

theorem commutes_runDiscovery (taskId : String) (jobId : ℕ) (net : Network) :
    (runDiscovery net jobId).Commutes (markDiscovery taskId jobId) := by
  have hsubnet (subnet : String) (acc : Discovered) :
      (discoverSubnet net subnet acc).Commutes (markDiscovery taskId jobId) := by
    unfold discoverSubnet
    split
    · trivial
    · exact commutes_discoverHosts taskId jobId net 0 _ acc
  refine Program.commutes_statement_bind (fun db job db' h => ?_) (fun db e h => ?_)
    fun db job db' h => ?_
  -- the task reads the subnet of the row it loads
  · split at h
    · rename_i j hj
      obtain ⟨rfl, rfl⟩ := Prod.mk.inj (Except.ok.inj h)
      exact ⟨{ j with celeryTaskId := taskId }, by simp [markDiscovery, hj], rfl⟩
    · cases h
  · split at h
    · cases h
    · rename_i hj
      simpa [markDiscovery, hj] using h
  · refine (commutes_saveDiscoveryJob taskId jobId (fun _ => rfl)).bind fun _ => ?_
    refine (hsubnet job.subnet _).bind fun result => ?_
    exact (commutes_saveDiscoveryJob taskId jobId (fun _ => rfl)).bind fun _ => trivial

theorem pushDevices_congr (w : PushWorld) {job job' : LoadedJob} (hid : job'.id = job.id)
    (htemplate : job'.template = job.template) (huser : job'.initiatedBy = job.initiatedBy)
    (hvars : job'.row.jobVariables = job.row.jobVariables) (lines : List String) (n : ℕ)
    (devices : List (DeviceId × Device)) :
    pushDevices w job' lines n devices = pushDevices w job lines n devices := by
  induction devices generalizing n with
  | nil => rfl
  | cons device devices ih =>
    have hname : job'.templateName = job.templateName := by
      rw [LoadedJob.templateName, LoadedJob.templateName, htemplate]
    simp only [pushDevices, pushDevice, ih, hid, hname, huser, hvars]

theorem commutes_pushDevices (taskId : String) (jobId : ℕ) (w : PushWorld) (job : LoadedJob)
    (lines : List String) (n : ℕ) (devices : List (DeviceId × Device)) :
    (pushDevices w job lines n devices).Commutes (markProvisioning taskId jobId) := by
  have hresult (r : ProvisioningResult) :
      (ProvisioningResult.create r).Commutes (markProvisioning taskId jobId) := by
    refine commutes_insertRow (fun db => ?_) (fun _ => rfl) (fun _ => rfl)
    simp [markProvisioning, refersTo, Table.get?_update, apply_ite]
  have hlog (a : AuditLog) : (AuditLog.create a).Commutes (markProvisioning taskId jobId) :=
    commutes_insertRow (fun _ => rfl) (fun _ => rfl) (fun _ => rfl)
  induction devices generalizing n with
  | nil => trivial
  | cons device devices ih =>
    refine Program.Commutes.bind ?_ fun success => (ih (n + 1)).bind fun _ => trivial
    exact (hresult _).bind fun _ => (hlog _).bind fun _ => trivial

theorem commutes_executeProvisioningJob (taskId : String) (jobId : ℕ) (w : PushWorld) :
    (executeProvisioningJob w jobId).Commutes (markProvisioning taskId jobId) := by
  refine Program.commutes_statement_bind (fun db job db' h => ?_) (fun db e h => ?_)
    fun db job db' h => ?_
  · split at h
    · rename_i row hrow
      obtain ⟨rfl, rfl⟩ := Prod.mk.inj (Except.ok.inj h)
      -- the task reads the variables of the row it loads
      have hpush (lines : List String) (devices : List (DeviceId × Device)) :
          pushDevices w ⟨jobId, { row with celeryTaskId := taskId },
            row.template.bind db.configTemplates.get?, row.initiatedBy.filter (refersTo db.users)⟩
            lines 0 devices =
          pushDevices w ⟨jobId, row, row.template.bind db.configTemplates.get?,
            row.initiatedBy.filter (refersTo db.users)⟩ lines 0 devices := by
        apply pushDevices_congr <;> rfl
      refine ⟨_, by simp only [markProvisioning, Table.get?_update_self, hrow]; rfl, ?_⟩
      simp only [hpush]
      rfl
    · cases h
  · split at h
    · cases h
    · rename_i hrow
      simpa [markProvisioning, hrow] using h
  · have hid : job.id = jobId := by
      split at h
      · exact (Prod.mk.inj (Except.ok.inj h)).1 ▸ rfl
      · cases h
    rw [hid]
    refine Program.Commutes.bind (Program.commutes_query ?_) fun devices => ?_
    · exact fun _ => rfl
    refine (commutes_saveProvisioningJob taskId jobId (fun _ => rfl)).bind fun _ => ?_
    refine (Program.commutes_ofExcept _).bind fun rendered => ?_
    refine Program.Commutes.bind ?_ fun _ => ?_
    · exact (Program.commutes_ofExcept _).bind fun _ =>
        commutes_saveProvisioningJob taskId jobId (fun _ => rfl)
    refine (commutes_pushDevices taskId jobId w job _ 0 devices).bind fun results => ?_
    exact (commutes_saveProvisioningJob taskId jobId (fun _ => rfl)).bind fun _ => trivial

/-! ### The tasks move the status -/

def JobRequest.Moves (jobId : ℕ) (r : JobRequest) (db db' : Platform) : Prop :=
  StatusStep (r.status jobId db) (r.status jobId db')

instance (jobId : ℕ) (r : JobRequest) : Std.Refl (r.Moves jobId) := ⟨fun _ => .same _⟩

def JobRequest.Terminal (jobId : ℕ) (r : JobRequest) (db : Platform) : Prop :=
  ∃ value, r.status jobId db = some (.terminal value)

/-- The statement leaves the jobs as they are. -/
def SameJobs (db db' : Platform) : Prop :=
  db'.discoveryJobs = db.discoveryJobs ∧ db'.provisioningJobs = db.provisioningJobs

instance : Std.Refl SameJobs := ⟨fun _ => ⟨rfl, rfl⟩⟩

instance : IsTrans Platform SameJobs :=
  ⟨fun _ _ _ h h' => ⟨h'.1.trans h.1, h'.2.trans h.2⟩⟩

theorem status_of_sameJobs {db db' : Platform} (h : SameJobs db db') (jobId : ℕ) (r : JobRequest) :
    r.status jobId db' = r.status jobId db := by
  cases r with
  | discovery caller now subnet => simp [JobRequest.status, JobRequest.row?, h.1]
  | provisioning caller now data => simp [JobRequest.status, JobRequest.row?, h.2]

/-- A part of a task that leaves the jobs as they are does not move the status. -/
theorem traces_of_sameJobs {α : Type} {p : Statement α} (hp : p.Writes SameJobs) (jobId : ℕ)
    (r : JobRequest) (db : Platform) :
    p.Traces (r.Moves jobId) (fun _ db' => r.status jobId db' = r.status jobId db) db := by
  refine (hp.traces db).mono (fun s t h => ?_) (fun _ t h => status_of_sameJobs h jobId r)
  rw [JobRequest.Moves, status_of_sameJobs h]
  exact .same _

theorem sameJobs_discoverSubnet (net : Network) (subnet : String) (acc : Discovered) :
    (discoverSubnet net subnet acc).Writes SameJobs :=
  writes_discoverSubnet net (fun _ => writes_insertRow (fun _ => ⟨rfl, rfl⟩)) subnet acc

theorem sameJobs_pushDevices (w : PushWorld) (job : LoadedJob) (lines : List String) (n : ℕ)
    (devices : List (DeviceId × Device)) : (pushDevices w job lines n devices).Writes SameJobs :=
  writes_pushDevices (fun _ _ => writes_insertRow (fun _ => ⟨rfl, rfl⟩))
    (fun _ _ => writes_insertRow (fun _ => ⟨rfl, rfl⟩)) lines n devices

theorem status_discovery_update {db : Platform} {jobId : ℕ} {row : DiscoveryJob}
    (hrow : db.discoveryJobs.get? jobId = some row) (set : DiscoveryJob → DiscoveryJob)
    (caller : Option UserId) (now : DateTime) (subnet : Option String) :
    (JobRequest.discovery caller now subnet).status jobId
      { db with discoveryJobs := db.discoveryJobs.update jobId set } =
      some (JobRow.discovery (set row)).status := by
  simp [JobRequest.status, JobRequest.row?, hrow]

theorem status_provisioning_update {db : Platform} {jobId : ℕ} {row : ProvisioningJob}
    (hrow : db.provisioningJobs.get? jobId = some row) (set : ProvisioningJob → ProvisioningJob)
    (caller : Option UserId) (now : DateTime) (data : ProvisioningJobData) :
    (JobRequest.provisioning caller now data).status jobId
      { db with provisioningJobs := db.provisioningJobs.update jobId set } =
      some (JobRow.provisioning (set row)).status := by
  simp [JobRequest.status, JobRequest.row?, hrow]

theorem traces_runDiscovery (net : Network) (jobId : ℕ) (caller : Option UserId) (now : DateTime)
    (subnet : Option String) {db : Platform}
    (hpending : (JobRequest.discovery caller now subnet).status jobId db = some .pending) :
    (runDiscovery net jobId).Traces ((JobRequest.discovery caller now subnet).Moves jobId)
      (fun _ => (JobRequest.discovery caller now subnet).Terminal jobId) db := by
  refine Program.traces_statement_bind (fun job db' h => ?_)
  split at h
  · obtain ⟨rfl, rfl⟩ := Prod.mk.inj (Except.ok.inj h)
    refine ⟨.same _, traces_saveFields_bind (fun row hrow => ?_)⟩
    have hrunning := status_discovery_update hrow
      (fun j => { j with status := .running, startedAt := some (net.clock 0) }) caller now subnet
    refine ⟨?_, (traces_of_sameJobs (sameJobs_discoverSubnet net _ _) jobId _ _).bind
      fun result db' hdb' => ?_⟩
    · rw [JobRequest.Moves, hpending, hrunning]
      exact .started
    · refine traces_saveFields_bind (fun row' hrow' => ?_)
      rw [hrunning] at hdb'
      obtain ⟨found, failure⟩ := result
      -- COMPLETED and FAILED are both final
      rw [JobRequest.Moves, hdb', status_discovery_update hrow']
      cases failure with
      | none => exact ⟨.ended _, _, status_discovery_update hrow' _ caller now subnet⟩
      | some exc => exact ⟨.ended _, _, status_discovery_update hrow' _ caller now subnet⟩
  · cases h

theorem status_finalStatus (successes total : ℕ) (row : ProvisioningJob)
    (h : row.status = finalStatus successes total) :
    (JobRow.provisioning row).status = .terminal (finalStatus successes total).value := by
  rw [JobRow.status, h]
  unfold finalStatus
  by_cases hall : successes = total
  · rw [if_pos hall]
  · rw [if_neg hall]
    by_cases hnone : successes = 0
    · rw [if_pos hnone]
    · rw [if_neg hnone]

theorem traces_executeProvisioningJob (w : PushWorld) (jobId : ℕ) (caller : Option UserId)
    (now : DateTime) (data : ProvisioningJobData) {db : Platform}
    (hpending : (JobRequest.provisioning caller now data).status jobId db = some .pending) :
    (executeProvisioningJob w jobId).Traces ((JobRequest.provisioning caller now data).Moves jobId)
      (fun _ => (JobRequest.provisioning caller now data).Terminal jobId) db := by
  refine Program.traces_statement_bind (fun job db' h => ?_)
  split at h
  · obtain ⟨rfl, rfl⟩ := Prod.mk.inj (Except.ok.inj h)
    refine ⟨.same _, Program.traces_query_bind (traces_saveFields_bind (fun row hrow => ?_))⟩
    have hrunning := status_provisioning_update hrow
      (fun row => { row with status := .running, startedAt := some (w.clock 0) }) caller now data
    refine ⟨?_, (traces_of_sameJobs (Program.writes_ofExcept _) jobId _ _).bind
      fun rendered db₁ hdb₁ => ?_⟩
    · rw [JobRequest.Moves, hpending, hrunning]
      exact .started
    rw [ProvisioningJob.saveRendered, Program.bind_assoc]
    refine (traces_of_sameJobs (Program.writes_ofExcept _) jobId _ _).bind fun _ db' hdb' => ?_
    rw [hdb₁, hrunning] at hdb'
    refine traces_saveFields_bind (fun row' hrow' => ?_)
    have hrow'' : some (JobRow.provisioning row').status = some .running := by
      refine Eq.trans ?_ hdb'
      simp [JobRequest.status, JobRequest.row?, hrow']
    have hstill := (status_provisioning_update hrow'
      (fun row => { row with renderedConfig := rendered }) caller now data).trans hrow''
    refine ⟨?_, (traces_of_sameJobs (sameJobs_pushDevices _ _ _ _ _) jobId _ _).bind
      fun results db'' hdb'' => traces_saveFields_bind (fun row'' hrow'' => ?_)⟩
    · rw [JobRequest.Moves, hdb', hstill]
      exact .same _
    rw [hstill] at hdb''
    have hended := (status_provisioning_update hrow'' (fun row => { row with
      status := finalStatus (results.count true) results.length
      completedAt := some (w.clock (2 * results.length + 1)) }) caller now data).trans
      (congrArg some (status_finalStatus (results.count true) results.length _ rfl))
    refine ⟨?_, _, hended⟩
    rw [JobRequest.Moves, hdb'', hended]
    exact .ended _
  · cases h

/-! ### The requests hand over -/

/-- The store and the rest of the request when the message has just been put on the broker. -/
structure Hands (w : Worker) (taskId : String) (store : Platform) (r : JobRequest)
    (handed : Platform) (rest : Statement Response) : Prop where
  handed_eq : handed = r.handed taskId store
  apart : Apart (w.take taskId) (r.saveTaskId taskId (r.jobId store))
    (w.task (r.message (r.jobId store))) (dequeue taskId handed) handed rest
  pending : r.status (r.jobId store) handed = some .pending
  devices : r.SeesDevices (r.jobId store) handed

theorem commutes_task (w : Worker) (taskId : String) (jobId : ℕ) (r : JobRequest) :
    (w.task (r.message jobId)).Commutes (r.saveTaskId taskId jobId) := by
  cases r with
  | discovery caller now subnet => exact commutes_runDiscovery taskId jobId w.network
  | provisioning caller now data => exact commutes_executeProvisioningJob taskId jobId w.push

/-- The message is the only one with its identifier, and the request saves the identifier and
answers. -/
theorem apart_of_save (w : Worker) {taskId : String} {jobId : ℕ} {r : JobRequest} {α : Type}
    {store handed : Platform} (hfresh : ∀ m ∈ store.queue, m.1 ≠ taskId)
    (hqueue : handed.queue = store.queue ++ [(taskId, r.message jobId)])
    {rows : Platform → Table α} {setRows : Platform → Table α → Platform} {set : α → α}
    (hself : ∀ db, setRows db (rows db) = db)
    (hsave : ∀ db, r.saveTaskId taskId jobId db = setRows db ((rows db).update jobId set))
    (data : Platform → Json) :
    Apart (w.take taskId) (r.saveTaskId taskId jobId) (w.task (r.message jobId))
      (dequeue taskId handed) handed
      (saveFields rows setRows jobId set >>= fun _ =>
        Program.query data >>= fun data => (.ret ⟨201, data⟩ : Statement Response)) := by
  have hfind : handed.queue.find? (fun m => m.1 == taskId) = some (taskId, r.message jobId) := by
    have hnone : store.queue.find? (fun m => m.1 == taskId) = none := by
      simpa using fun a b h => hfresh (a, b) h
    simp [hqueue, List.find?_append, hnone]
  have hsame : (r.saveTaskId taskId jobId handed).queue = handed.queue := by cases r <;> rfl
  have hdequeue : dequeue taskId (r.saveTaskId taskId jobId handed) =
      r.saveTaskId taskId jobId (dequeue taskId handed) := by cases r <;> rfl
  constructor
  case take_eq => simp [Worker.take, hfind]
  case take_write => simp [Worker.take, hsame, hfind, hdequeue]
  case commutes => exact commutes_task w taskId jobId r
  case isStmt => rfl
  case write_eq => exact fun db => (write_saveFields_bind hself _ _ _ db).trans (hsave db).symm
  case reads =>
    refine fun db => Program.writes_next_statement_bind (fun _ => ?_) db
    exact (Program.writes_query _).bind fun _ => trivial

theorem mem_jobDeviceRows {jobId : ℕ} {db : Platform} {d : DeviceId} {device : Device} :
    (d, device) ∈ jobDeviceRows jobId db ↔
      db.devices.get? d = some device ∧ (jobId, d) ∈ db.jobDevices := by
  simp [jobDeviceRows, byHostname, Table.mem_select]

/-- The devices that are set on a job without devices are the devices of the job. -/
theorem exists_mem_jobDeviceRows {jobId : ℕ} {db : Platform} {members : List (ℕ × DeviceId)}
    (hnew : ∀ m ∈ members, m.1 ≠ jobId) {ids : List DeviceId}
    (hexist : ids.all (refersTo db.devices) = true)
    (hdevices : db.jobDevices = members ++ ids.dedup.map (fun d => (jobId, d))) (d : DeviceId) :
    d ∈ ids ↔ ∃ device, (d, device) ∈ jobDeviceRows jobId db := by
  have hmem : (jobId, d) ∈ db.jobDevices ↔ d ∈ ids := by
    rw [hdevices, List.mem_append]
    constructor
    · rintro (hold | h)
      · exact absurd rfl (hnew _ hold)
      · obtain ⟨d', hd', heq⟩ := List.mem_map.mp h
        obtain ⟨-, rfl⟩ := Prod.mk.inj heq
        exact List.mem_dedup.mp hd'
    · exact fun hd => .inr (List.mem_map.mpr ⟨d, List.mem_dedup.mpr hd, rfl⟩)
  simp only [mem_jobDeviceRows, hmem]
  constructor
  · intro hd
    obtain ⟨device, hdevice⟩ := Option.isSome_iff_exists.mp (List.all_eq_true.mp hexist d hd)
    exact ⟨device, hdevice, hd⟩
  · rintro ⟨device, -, hd⟩
    exact hd

theorem eq_of_permit {allows : Option RequestUser → Bool} {caller : Option UserId}
    {db db' : Platform} {user : RequestUser}
    (h : (match authenticate caller db with
      | none => .error notAuthenticatedError
      | some u => if allows (some u) then .ok (u, db) else .error permissionDeniedError) =
        Except.ok (user, db')) : db' = db := by
  split at h
  · cases h
  · split at h
    · exact (Prod.mk.inj (Except.ok.inj h)).2.symm
    · cases h

/-- The devices of a body that is valid are there. -/
theorem eq_of_validateJob {data : ProvisioningJobData} {db db' : Platform}
    {deviceIds : List DeviceId}
    (h : (match data.deviceIds with
      | none => .error (invalidError "This field is required.")
      | some deviceIds => do
        require (refersToOrNull db.configTemplates data.template &&
          deviceIds.all (refersTo db.devices)) (invalidError "Invalid pk - object does not exist.")
        require (data.jobVariables.all (fun v => match v with | .null => false | _ => true))
          (invalidError "This field may not be null.")
        return (deviceIds, db)) = Except.ok (deviceIds, db')) :
    data.deviceIds = some deviceIds ∧ deviceIds.all (refersTo db.devices) = true ∧ db' = db := by
  split at h
  · cases h
  · rename_i ids hids
    obtain ⟨_, hexist, h⟩ := ok_of_bind h
    obtain ⟨_, -, h⟩ := ok_of_bind h
    obtain ⟨rfl, rfl⟩ := Prod.mk.inj (Except.ok.inj h)
    exact ⟨hids, (Bool.and_eq_true_iff.mp (require_eq_ok hexist)).2, rfl⟩

theorem handsOver_discovery (w : Worker) (taskId : String) (store : Platform)
    (hfresh : ∀ m ∈ store.queue, m.1 ≠ taskId) (caller : Option UserId) (now : DateTime)
    (subnet : Option String) :
    HandsOver (w.take taskId)
      ((JobRequest.discovery caller now subnet).Moves store.discoveryJobs.nextId)
      (Hands w taskId store (.discovery caller now subnet))
      (createDiscoveryJob caller now subnet taskId) store := by
  have htake (db : Platform) (h : db.queue = store.queue) : w.take taskId db = none := by
    simpa [Worker.take, h] using fun a b h => hfresh (a, b) h
  refine handsOver_statement_bind (htake _ rfl) (fun user db hpermit => ?_)
  obtain rfl : db = store := eq_of_permit hpermit
  refine ⟨.same _, .inl ?_⟩
  cases hsubnet : subnet with
  | none => exact htake _ rfl
  | some subnet =>
    dsimp only
    split
    · exact htake _ rfl
    rename_i hlength
    refine handsOver_statement_bind (htake _ rfl) (fun jobId db' hcreate => ?_)
    obtain ⟨rfl, rfl⟩ := eq_of_insertRow hcreate
    refine ⟨?_, .inl (handsOver_statement_bind (htake _ rfl) fun taskId' db' hdelay => ?_)⟩
    · simpa [JobRequest.Moves, JobRequest.status, JobRequest.row?] using .created
    obtain ⟨rfl, rfl⟩ := Prod.mk.inj (Except.ok.inj hdelay)
    refine ⟨.same _, .inr ⟨?_, ?_, ?_, trivial⟩⟩
    · symm
      rw [JobRequest.handed, JobRequest.view, JobRequest.handoff, createDiscoveryJob, permit,
        Program.advance_statement_bind_ok hpermit]
      dsimp only
      rw [if_neg hlength, DiscoveryJob.create, insertRow,
        Program.advance_statement_bind_ok hcreate, delay, Program.advance_statement_bind_ok hdelay,
        Program.advance_zero]
    · exact apart_of_save w hfresh rfl (fun _ => rfl) (fun _ => rfl) _
    · simp [JobRequest.status, JobRequest.row?, JobRequest.jobId, JobRow.status]

theorem handsOver_provisioning (w : Worker) (taskId : String) (store : Platform)
    (hfresh : ∀ m ∈ store.queue, m.1 ≠ taskId)
    (hmembers : ∀ m ∈ store.jobDevices, store.provisioningJobs.get? m.1 ≠ none)
    (caller : Option UserId) (now : DateTime) (data : ProvisioningJobData) :
    HandsOver (w.take taskId)
      ((JobRequest.provisioning caller now data).Moves store.provisioningJobs.nextId)
      (Hands w taskId store (.provisioning caller now data))
      (createProvisioningJob caller now data taskId) store := by
  have htake (db : Platform) (h : db.queue = store.queue) : w.take taskId db = none := by
    simpa [Worker.take, h] using fun a b h => hfresh (a, b) h
  refine handsOver_statement_bind (htake _ rfl) (fun user db hpermit => ?_)
  obtain rfl : db = store := eq_of_permit hpermit
  refine ⟨.same _, .inl (handsOver_statement_bind (htake _ rfl) fun deviceIds db' hvalid => ?_)⟩
  obtain ⟨hids, hexist, rfl⟩ := eq_of_validateJob hvalid
  refine ⟨.same _, .inl (handsOver_statement_bind (htake _ rfl) fun jobId db' hcreate => ?_)⟩
  obtain ⟨rfl, rfl⟩ := eq_of_insertRow hcreate
  refine ⟨?_, .inl (handsOver_statement_bind (htake _ rfl) fun _ db' hset => ?_)⟩
  · simpa [JobRequest.Moves, JobRequest.status, JobRequest.row?] using .created
  have hset' := hset
  rw [if_pos hexist] at hset'
  obtain ⟨-, rfl⟩ := Prod.mk.inj (Except.ok.inj hset')
  refine ⟨.same _, .inl (handsOver_statement_bind (htake _ rfl) fun taskId' db' hdelay => ?_)⟩
  obtain ⟨rfl, rfl⟩ := Prod.mk.inj (Except.ok.inj hdelay)
  refine ⟨.same _, .inr ⟨?_, ?_, ?_, ?_⟩⟩
  · symm
    rw [JobRequest.handed, JobRequest.view, JobRequest.handoff, createProvisioningJob, permit,
      Program.advance_statement_bind_ok hpermit, validateJob,
      Program.advance_statement_bind_ok hvalid]
    dsimp only
    rw [ProvisioningJob.create, insertRow, Program.advance_statement_bind_ok hcreate,
      ProvisioningJob.setDevices, Program.advance_statement_bind_ok hset, delay,
      Program.advance_statement_bind_ok hdelay, Program.advance_zero]
  · exact apart_of_save w hfresh rfl (fun _ => rfl) (fun _ => rfl) _
  · simp [JobRequest.status, JobRequest.row?, JobRequest.jobId, ProvisioningJobData.row,
      ProvisioningJob.stored, JobRow.status]
  · -- no membership names a job that is not there yet
    have hnew : ∀ m ∈ db'.jobDevices, m.1 ≠ db'.provisioningJobs.nextId :=
      fun m hm heq => hmembers m hm (heq ▸ Table.get?_nextId _)
    intro d
    rw [hids]
    refine exists_mem_jobDeviceRows hnew ?_ rfl d
    exact hexist

theorem handsOver_view (w : Worker) (taskId : String) (store : Platform)
    (hfresh : ∀ m ∈ store.queue, m.1 ≠ taskId)
    (hmembers : ∀ m ∈ store.jobDevices, store.provisioningJobs.get? m.1 ≠ none) (r : JobRequest) :
    HandsOver (w.take taskId) (r.Moves (r.jobId store)) (Hands w taskId store r) (r.view taskId)
      store := by
  cases r with
  | discovery caller now subnet =>
    exact handsOver_discovery w taskId store hfresh caller now subnet
  | provisioning caller now data =>
    exact handsOver_provisioning w taskId store hfresh hmembers caller now data

/-! ### Frames -/

/-- Every job row stays as it is or takes the identifier. -/
def RequestStep (taskId : String) (r : JobRequest) (db db' : Platform) : Prop :=
  ∀ jobId row, r.row? jobId db = some row →
    r.row? jobId db' = some row ∨ r.row? jobId db' = some (row.withTaskId taskId)

instance (taskId : String) (r : JobRequest) : Std.Refl (RequestStep taskId r) :=
  ⟨fun _ _ _ h => .inl h⟩

theorem requestStep_of_sameJobs {taskId : String} {r : JobRequest} {db db' : Platform}
    (h : SameJobs db db') : RequestStep taskId r db db' := by
  intro jobId row hrow
  refine .inl (Eq.trans ?_ hrow)
  cases r with
  | discovery caller now subnet => simp [JobRequest.row?, h.1]
  | provisioning caller now data => simp [JobRequest.row?, h.2]

theorem requestStep_saveTaskId (taskId : String) (jobId : ℕ) (r : JobRequest) (db : Platform) :
    RequestStep taskId r db (r.saveTaskId taskId jobId db) := by
  intro k row hrow
  by_cases hk : k = jobId
  · exact .inr (by rw [hk, r.row?_saveTaskId, ← hk, hrow]; rfl)
  · refine .inl (Eq.trans ?_ hrow)
    cases r with
    | discovery caller now subnet =>
      simp [JobRequest.row?, JobRequest.saveTaskId, markDiscovery, Table.get?_update, hk]
    | provisioning caller now data =>
      simp [JobRequest.row?, JobRequest.saveTaskId, markProvisioning, Table.get?_update, hk]

/-- A job that is inserted leaves the rows that are there. -/
theorem requestStep_insertDiscovery {taskId : String} {caller : Option UserId} {now : DateTime}
    {subnet : Option String} (db : Platform) (j : DiscoveryJob) :
    RequestStep taskId (.discovery caller now subnet) db
      { db with discoveryJobs := db.discoveryJobs.insert j } := by
  intro jobId row hrow
  obtain ⟨k, hk, rfl⟩ := Option.map_eq_some_iff.mp hrow
  exact .inl (by simp [JobRequest.row?, Table.get?_insert_of_some hk])

theorem requestStep_insertProvisioning {taskId : String} {caller : Option UserId} {now : DateTime}
    {data : ProvisioningJobData} (db : Platform) (j : ProvisioningJob) :
    RequestStep taskId (.provisioning caller now data) db
      { db with provisioningJobs := db.provisioningJobs.insert j } := by
  intro jobId row hrow
  obtain ⟨k, hk, rfl⟩ := Option.map_eq_some_iff.mp hrow
  exact .inl (by simp [JobRequest.row?, Table.get?_insert_of_some hk])

theorem writes_view (taskId : String) (r : JobRequest) :
    (r.view taskId).Writes (RequestStep taskId r) := by
  cases r with
  | discovery caller now subnet =>
    refine (writes_permit _ _).bind fun user => ?_
    split
    · trivial
    · split
      · trivial
      · refine Program.Writes.bind (writes_insertRow fun db => ?_) fun jobId => ?_
        · exact requestStep_insertDiscovery db _
        refine writes_delay_bind (fun db => requestStep_of_sameJobs ⟨rfl, rfl⟩) ?_
        refine Program.Writes.bind (writes_saveFields ?_) fun _ => ?_
        · exact requestStep_saveTaskId taskId jobId (.discovery caller now none)
        · exact (Program.writes_query _).bind fun data => trivial
  | provisioning caller now data =>
    refine writes_createProvisioningJob (fun db _ _ => requestStep_insertProvisioning db _)
      (fun db _ _ => requestStep_of_sameJobs ⟨rfl, rfl⟩)
      (fun db _ => requestStep_of_sameJobs ⟨rfl, rfl⟩) fun db jobId => ?_
    exact requestStep_saveTaskId taskId jobId (.provisioning caller now data) db

/-- The statement leaves the devices and the devices of the jobs as they are. -/
def SameDevices (db db' : Platform) : Prop :=
  db'.devices = db.devices ∧ db'.jobDevices = db.jobDevices

instance : Std.Refl SameDevices := ⟨fun _ => ⟨rfl, rfl⟩⟩

instance : IsTrans Platform SameDevices :=
  ⟨fun _ _ _ h h' => ⟨h'.1.trans h.1, h'.2.trans h.2⟩⟩

theorem seesDevices_of_sameDevices {db db' : Platform} (h : SameDevices db db') {jobId : ℕ}
    {r : JobRequest} (hdb : r.SeesDevices jobId db) : r.SeesDevices jobId db' := by
  cases r with
  | discovery caller now subnet => trivial
  | provisioning caller now data =>
    intro d
    rw [hdb d]
    simp only [mem_jobDeviceRows, h.1, h.2]

theorem sameDevices_executeProvisioningJob (w : PushWorld) (jobId : ℕ) :
    (executeProvisioningJob w jobId).Writes SameDevices :=
  writes_executeProvisioningJob (fun _ => ⟨rfl, rfl⟩) (fun _ _ => ⟨rfl, rfl⟩)
    (fun _ _ _ _ => ⟨rfl, rfl⟩) (fun _ _ _ => ⟨rfl, rfl⟩) fun _ _ _ => ⟨rfl, rfl⟩

theorem seesDevices_advance (w : Worker) {jobId : ℕ} {r : JobRequest} {db : Platform}
    (h : r.SeesDevices jobId db) (k : ℕ) :
    r.SeesDevices jobId ((w.task (r.message jobId)).advance k db).2 := by
  cases r with
  | discovery caller now subnet => trivial
  | provisioning caller now data =>
    exact seesDevices_of_sameDevices
      ((sameDevices_executeProvisioningJob w.push jobId).advance k db) h

theorem traces_task (w : Worker) {jobId : ℕ} {r : JobRequest} {db : Platform}
    (h : r.status jobId db = some .pending) :
    (w.task (r.message jobId)).Traces (r.Moves jobId) (fun _ => r.Terminal jobId) db := by
  cases r with
  | discovery caller now subnet => exact traces_runDiscovery w.network jobId caller now subnet h
  | provisioning caller now data =>
    exact traces_executeProvisioningJob w.push jobId caller now data h

/-! ### No update is lost -/

/-- What holds in every state of a request and the task it enqueues. -/
structure KeepsUpdates (w : Worker) (taskId : String) (store : Platform) (r : JobRequest)
    (c : Handoff Platform Exn Response Json) : Prop where
  status : ∀ a, StatusStep (r.status (r.jobId store) c.store)
    (r.status (r.jobId store) (c.step (w.take taskId) a).store)
  request : ∀ row, r.row? (r.jobId store) c.store = some row →
    r.row? (r.jobId store) (c.step (w.take taskId) .request).store = some row ∨
    r.row? (r.jobId store) (c.step (w.take taskId) .request).store = some (row.withTaskId taskId)
  devices : ∀ q, c.worker = some q → r.SeesDevices (r.jobId store) c.store
  terminal : ∀ v, c.worker = some (.ret v) → r.Terminal (r.jobId store) c.store
  final : ∀ q, c.worker = some q → q.isStmt = false → c.request.isStmt = false →
    ∃ row, r.row? (r.jobId store) (r.outcome w taskId store).2 = some row ∧
      r.row? (r.jobId store) c.store = some (row.withTaskId taskId)

theorem sameDevices_saveTaskId (taskId : String) (jobId : ℕ) (r : JobRequest) (db : Platform) :
    SameDevices db (r.saveTaskId taskId jobId db) := by
  cases r <;> exact ⟨rfl, rfl⟩

theorem sameDevices_dequeue (taskId : String) (db : Platform) :
    SameDevices db (dequeue taskId db) := ⟨rfl, rfl⟩

/-- A job that is there stays there. -/
theorem row?_ne_none_of_moves {jobId : ℕ} {r : JobRequest} (db db' : Platform)
    (h : r.Moves jobId db db') (hdb : r.row? jobId db ≠ none) : r.row? jobId db' ≠ none := by
  intro hnone
  rw [JobRequest.Moves, JobRequest.status, JobRequest.status, hnone] at h
  generalize hs : (r.row? jobId db).map JobRow.status = s at h
  cases h
  exact hdb (Option.map_eq_none_iff.mp hs)

section

variable {w : Worker} {taskId : String} {store handed : Platform} {r : JobRequest}
variable {rest : Statement Response} {c : Handoff Platform Exn Response Json} {q : Statement Json}

theorem Hands.traces (h : Hands w taskId store r handed rest) :
    (w.task (r.message (r.jobId store))).Traces (r.Moves (r.jobId store))
      (fun _ => r.Terminal (r.jobId store)) (dequeue taskId handed) :=
  traces_task w ((r.status_dequeue taskId _ handed).trans h.pending)

theorem Hands.seesDevices_of_racing (h : Hands w taskId store r handed rest)
    (hrace : Racing (r.saveTaskId taskId (r.jobId store)) (w.task (r.message (r.jobId store)))
      (dequeue taskId handed) handed rest c) (hq : c.worker = some q) :
    r.SeesDevices (r.jobId store) c.store := by
  obtain ⟨mark, k, hmark, hworker, hstore⟩ := hrace
  cases k with
  | zero => cases hworker.symm.trans hq
  | succ k =>
    have htaken : r.SeesDevices (r.jobId store) (dequeue taskId handed) :=
      seesDevices_of_sameDevices (sameDevices_dequeue taskId handed) h.devices
    have halone := seesDevices_advance w htaken k
    rw [hstore]
    generalize c.request = p at hmark
    cases hmark with
    | before => exact halone
    | after p hreads =>
      exact seesDevices_of_sameDevices (sameDevices_saveTaskId taskId _ r _) halone

theorem Hands.terminal_of_racing (h : Hands w taskId store r handed rest)
    (hrace : Racing (r.saveTaskId taskId (r.jobId store)) (w.task (r.message (r.jobId store)))
      (dequeue taskId handed) handed rest c) {v : Json} (hv : c.worker = some (.ret v)) :
    r.Terminal (r.jobId store) c.store := by
  obtain ⟨mark, k, hmark, hworker, hstore⟩ := hrace
  cases k with
  | zero => cases hworker.symm.trans hv
  | succ k =>
    have hended := h.traces.advance k
    rw [Option.some.inj (hworker.symm.trans hv)] at hended
    obtain ⟨value, hvalue⟩ := hended
    refine ⟨value, ?_⟩
    rw [hstore, observe_mark (r.status_saveTaskId taskId _) hmark]
    exact hvalue

theorem Hands.row_of_ended (h : Hands w taskId store r handed rest)
    (hrace : Racing (r.saveTaskId taskId (r.jobId store)) (w.task (r.message (r.jobId store)))
      (dequeue taskId handed) handed rest c) (hq : c.worker = some q) (hdone : q.isStmt = false)
    (hended : c.request.isStmt = false) :
    ∃ row, r.row? (r.jobId store) (r.outcome w taskId store).2 = some row ∧
      r.row? (r.jobId store) c.store = some (row.withTaskId taskId) := by
  obtain ⟨hstore, -⟩ := store_of_ended h.apart hrace hended hq hdone
  have hthere : r.row? (r.jobId store) (dequeue taskId handed) ≠ none := by
    intro hnone
    have hpending := (r.status_dequeue taskId _ handed).trans h.pending
    simp [JobRequest.status, hnone] at hpending
  obtain ⟨row, hrow⟩ := Option.ne_none_iff_exists'.mp
    (h.traces.run_invariant row?_ne_none_of_moves hthere)
  refine ⟨row, ?_, ?_⟩
  · rw [JobRequest.outcome, ← h.handed_eq, hrow]
  · rw [hstore, r.row?_saveTaskId, hrow]
    rfl

end

/-- In every interleaving of the request that creates a job with the task that it enqueues, the
status only moves forward, the request leaves the columns of the task alone, the task sees all
devices of the request, and the final row is the one the task leaves when it runs alone, with
the identifier that the request writes. -/
theorem keepsUpdates_run (w : Worker) (taskId : String) (store : Platform)
    (hfresh : ∀ m ∈ store.queue, m.1 ≠ taskId)
    (hmembers : ∀ m ∈ store.jobDevices, store.provisioningJobs.get? m.1 ≠ none) (r : JobRequest)
    (schedule : List Actor) :
    KeepsUpdates w taskId store r
      (Handoff.run (w.take taskId) ⟨store, r.view taskId, none⟩ schedule) := by
  have hapart (s : Platform) (p : Statement Response) (h : Hands w taskId store r s p) := h.apart
  have hreached := reached_run hapart (handsOver_view w taskId store hfresh hmembers r) schedule
  have hrequest : (Handoff.run (w.take taskId) ⟨store, r.view taskId, none⟩
      schedule).request.Writes (RequestStep taskId r) :=
    writes_request_run (writes_view taskId r) store schedule
  constructor
  case status =>
    exact moves_of_reached hapart (r.status_saveTaskId taskId _) (r.status_dequeue taskId _)
      (fun _ _ h => h.traces) hreached
  case request => exact hrequest.write_refl _ (r.jobId store)
  case devices =>
    intro q hq
    obtain ⟨handed, rest, hhands, hrace⟩ := racing_of_worker hreached hq
    exact hhands.seesDevices_of_racing hrace hq
  case terminal =>
    intro v hv
    obtain ⟨handed, rest, hhands, hrace⟩ := racing_of_worker hreached hv
    exact hhands.terminal_of_racing hrace hv
  case final =>
    intro q hq hdone hended
    obtain ⟨handed, rest, hhands, hrace⟩ := racing_of_worker hreached hq
    exact hhands.row_of_ended hrace hq hdone hended

def labWorker : Worker where
  network := {
    ping := fun _ => .exit 0
    pingFallback := fun _ => .exit 0
    getCmd := fun _ _ => .ok (false, "r2")
    gethostbyaddr := fun _ => .ok "r2"
    hosts := fun _ => .ok [labDevice.ipAddress]
    clock := fun n => n
    snmpCommunity := "public" }
  push := .calm
  compliance := ⟨fun _ => .answering "ok", fun n => n, fun _ _ => .ok true⟩
  drift := ⟨.answering "ok", fun n => n, fun _ _ _ _ _ => []⟩
  snapshot := ⟨.answering "ok", fun n => n⟩

/-- A second job for the device of the small platform. -/
def labRequest : JobRequest :=
  .provisioning (some 1) 0 { template := some 1, deviceIds := some [1] }

/-- The worker runs the task to its end before the last save of the request. -/
def labSchedule : List Actor :=
  List.replicate 5 .request ++ List.replicate 8 .worker ++ List.replicate 2 .request

theorem keepsUpdates_of_labRequest :
    KeepsUpdates labWorker "t" labJob labRequest
      (Handoff.run (labWorker.take "t") ⟨labJob, labRequest.view "t", none⟩ labSchedule) :=
  keepsUpdates_run labWorker "t" labJob (by simp [labJob, lab]) (by decide) labRequest labSchedule

example : ((Handoff.run (labWorker.take "t") ⟨labJob, labRequest.view "t", none⟩
    labSchedule).store.provisioningJobs.get? 2).map (fun j => (j.status, j.celeryTaskId)) =
    some (.success, "t") := rfl

end DevSecOpsPlatform.JobHandoffs
