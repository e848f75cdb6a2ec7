import DevSecOpsPlatform.ForeignKeys
import DevSecOpsPlatform.JobMessages

/-!
# Nobody acts in another's name

Audit entries, jobs, compliance checks and snapshots name the user they are for, and so do the
messages of the tasks that write them. A user of whom no request is received is named by none of
them: a view writes the name of its caller only, a task that of its message or of its job, and
a message or a job has it from the view that sent or inserted it.
-/

namespace DevSecOpsPlatform.Accountability

open KeyedTables StatementPrograms PlatformModels PlatformStore RolePermissions PythonValues
open InventoryTasks InventoryViews ProvisioningTasks ProvisioningViews MonitoringViews
open SecurityTasks PlatformOperations OperationStatements PlatformChanges JobHandoffs OrphanJobs
open JobMessages

/-- The user that a message is for. -/
def messageUser : TaskMessage → Option UserId
  | .runComplianceCheck _ _ user | .runDriftDetection _ user | .takeConfigSnapshot _ _ user => user
  | _ => none

theorem initiator_operation (w : Worker) (m : TaskMessage) :
    initiator (operation w m) = messageUser m := by
  cases m <;> rfl

/-- No row names the user as the one it is for, and no message on the queue does. -/
structure Unnamed (u : UserId) (db : Platform) : Prop where
  auditLogs : Lacks AuditLog.actor (some u) db.auditLogs
  discoveryJobs : Lacks DiscoveryJob.initiatedBy (some u) db.discoveryJobs
  provisioningJobs : Lacks ProvisioningJob.initiatedBy (some u) db.provisioningJobs
  complianceChecks : Lacks ComplianceCheck.initiatedBy (some u) db.complianceChecks
  configSnapshots : Lacks ConfigSnapshot.takenBy (some u) db.configSnapshots
  queue : ∀ x ∈ db.queue, messageUser x.2 ≠ some u

instance (u : UserId) (db : Platform) : Decidable (Unnamed u db) :=
  decidable_of_iff (Lacks AuditLog.actor (some u) db.auditLogs ∧
    Lacks DiscoveryJob.initiatedBy (some u) db.discoveryJobs ∧
    Lacks ProvisioningJob.initiatedBy (some u) db.provisioningJobs ∧
    Lacks ComplianceCheck.initiatedBy (some u) db.complianceChecks ∧
    Lacks ConfigSnapshot.takenBy (some u) db.configSnapshots ∧
    ∀ x ∈ db.queue, messageUser x.2 ≠ some u)
    ⟨fun h => ⟨h.1, h.2.1, h.2.2.1, h.2.2.2.1, h.2.2.2.2.1, h.2.2.2.2.2⟩,
      fun h => ⟨h.1, h.2, h.3, h.4, h.5, h.6⟩⟩

variable {u : UserId} {db db' : Platform}

/-- The statement does not name the user. -/
abbrev Spares (u : UserId) : Platform → Platform → Prop := Program.Preserving (Unnamed u)

theorem spares_of_delay {taskId : String} {m : TaskMessage} (hm : messageUser m ≠ some u) :
    Spares u db { db with queue := db.queue ++ [(taskId, m)] } := by
  refine fun h => { h with queue := fun x hx => ?_ }
  rcases List.mem_append.mp hx with hx | hx
  · exact h.queue x hx
  · rw [List.mem_singleton.mp hx]
    exact hm

theorem writes_createLog {a : AuditLog} (ha : a.actor ≠ some u) :
    (AuditLog.create a).Writes (Spares u) :=
  writes_insertRow fun _ h => { h with auditLogs := h.auditLogs.insert ha }

theorem writes_createDevice (d : Device) : (Device.create d).Writes (Spares u) :=
  writes_insertRow fun _ h => { h with }

theorem spares_cascade (id : DeviceId) : Spares u db (Device.cascade id db) :=
  fun h => { h with
    auditLogs := h.auditLogs.updateWhere fun _ => rfl
    complianceChecks := h.complianceChecks.deleteWhere _
    configSnapshots := h.configSnapshots.deleteWhere _ }

/-- The common statements name no user but those in `names`. -/
theorem vocabulary_spares :
    Vocabulary (fun _ p => p.Writes (Spares u)) (fun _ => True) (fun user => user ≠ some u) where
  ret _ := trivial
  raise _ := trivial
  bind hp hf := hp.bind hf
  attempt hp := hp.attempt
  nobody h := by cases h
  lookUp hf := writes_lookUp hf
  gated _ _ _ hf := writes_permit_bind hf
  query _ := Program.writes_query _
  getAlert _ _ hf := (writes_getObject _).bind fun _ => hf _ _
  delay taskId m hm := fun db => by
    refine ⟨spares_of_delay ?_, trivial⟩
    cases m with
    | runComplianceCheck => exact hm
    | runDriftDetection => exact hm
    | takeConfigSnapshot => exact hm
    | _ => exact fun h => by cases h
  createDevice d _ := writes_createDevice d
  saveDevice id d _ := writes_saveRow_of_ok fun _ _ _ _ h => { h with }
  setDeviceStatus id status _ := Program.writes_execute fun _ h => { h with }
  deleteDevice id _ := Program.writes_execute fun _ => spares_cascade id
  createDiscoveryJob j _ hj := writes_insertRow fun _ h =>
    { h with discoveryJobs := h.discoveryJobs.insert hj }
  setDiscoveryTask id task := writes_saveFields fun _ h =>
    { h with discoveryJobs := h.discoveryJobs.update fun _ => rfl }
  createTemplate t _ := writes_insertRow fun _ h => { h with }
  saveTemplate id t := writes_saveRow_of_ok fun _ _ _ _ h => { h with }
  deleteTemplate id := Program.writes_execute fun _ h =>
    { h with provisioningJobs := h.provisioningJobs.updateWhere fun _ => rfl }
  createLog a _ ha hq := (writes_createLog ha).bind fun _ => hq
  updateOrCreateAlert := writes_updateOrCreate_of fun _ _ _ h => { h with }
  saveAcknowledged id now := writes_saveFields fun _ h => { h with }
  saveAlert id a := writes_saveRow_of_ok fun _ _ _ _ h => { h with }
  createRule r := writes_insertRow fun _ h => { h with }
  saveRule id r now := writes_saveRow_of_ok fun _ _ _ _ h => { h with }
  deleteRule id := Program.writes_execute fun _ h =>
    { h with complianceChecks := h.complianceChecks.deleteWhere _ }
  createCheck c hc := writes_insertRow fun _ h =>
    { h with complianceChecks := h.complianceChecks.insert hc }
  createSnapshot s hs := writes_insertRow fun _ h =>
    { h with configSnapshots := h.configSnapshots.insert hs }
  saveSnapshot id set hset := writes_saveFields fun _ h =>
    { h with configSnapshots := h.configSnapshots.update fun s => (hset s).takenBy }
  unsetGolden deviceId := Program.writes_execute fun _ h =>
    { h with configSnapshots := h.configSnapshots.updateWhere fun _ => rfl }
  createReport r := writes_insertRow fun _ h => { h with }

/-! ### Operations -/

theorem writes_saveJob (id : ProvisioningJobId) {set : ProvisioningJob → ProvisioningJob}
    (hset : ∀ j, (set j).initiatedBy = j.initiatedBy) :
    (ProvisioningJob.save id set).Writes (Spares u) :=
  writes_saveFields fun _ h =>
    { h with provisioningJobs := h.provisioningJobs.update hset }

theorem writes_createProvisioningJob {caller : Option UserId} (hcaller : caller ≠ some u)
    (now : DateTime) (data : ProvisioningJobData) (taskId : String) :
    (ProvisioningViews.createProvisioningJob caller now data taskId).Writes (Spares u) := by
  refine writes_permit_bind fun user huser => (writes_validateJob data).bind fun deviceIds => ?_
  refine (writes_insertRow fun db => ?_).bind fun id => ?_
  · refine fun h => { h with provisioningJobs := h.provisioningJobs.insert ?_ }
    exact fun hnamed => hcaller (huser.trans hnamed)
  refine Program.Writes.bind (Program.writes_statement fun db _ db' h => ?_) fun _ => ?_
  · split at h
    · obtain ⟨-, rfl⟩ := Prod.mk.inj (Except.ok.inj h)
      exact fun h => { h with }
    · cases h
  refine writes_delay_bind (fun db => spares_of_delay fun h => by cases h) ?_
  refine (writes_saveJob id (by intro _; rfl)).bind fun _ => ?_
  exact (Program.writes_query _).bind fun _ => trivial

theorem writes_discovery (net : Network) (jobId : DiscoveryJobId) :
    (runDiscovery net jobId).Writes (Spares u) := by
  have hsave {set : DiscoveryJob → DiscoveryJob} (hset : ∀ j, (set j).initiatedBy = j.initiatedBy) :
      (DiscoveryJob.save jobId set).Writes (Spares u) :=
    writes_saveFields fun _ h =>
      { h with discoveryJobs := h.discoveryJobs.update hset }
  refine (vocabulary_spares.getDiscoveryJob jobId).bind fun job => ?_
  refine (hsave (by intro _; rfl)).bind fun _ => ?_
  refine (writes_discoverSubnet net writes_createDevice job.subnet _).bind fun result => ?_
  exact (hsave (by intro _; rfl)).bind fun _ => trivial

theorem writes_spares {o : Operation} (ho : initiator o ≠ some u)
    (hexecute : ∀ w jobId, o ≠ .executeProvisioningJob w jobId) :
    o.program.Writes (Spares u) := by
  refine vocabulary_spares.program o (fun _ _ => trivial) ho fun hapart => ?_
  cases o with
  | get allows caller view => exact writes_get allows caller view
  | createProvisioningJob caller now data taskId =>
    exact (writes_createProvisioningJob ho now data taskId).bind fun _ => trivial
  | executeProvisioningJob w jobId => exact absurd rfl (hexecute w jobId)
  | runDiscovery net jobId => exact writes_discovery net jobId
  | updateUserProfile caller now id role =>
    exact writes_updateUserProfile caller now id role fun _ _ => fun h => { h with }
  | destroyUserProfile caller id =>
    exact writes_destroyUserProfile caller id fun _ h => { h with }
  | _ => cases hapart

/-- The execution of a job writes its entries for the user of the job, who is not one that no
row names. -/
theorem keeps_execute (w : PushWorld) (jobId : ProvisioningJobId) :
    (executeProvisioningJob w jobId).Keeps (Unnamed u) := by
  refine Program.keeps_statement_bind fun db job t hunnamed hload => ?_
  split at hload
  · rename_i row hrow
    obtain ⟨rfl, rfl⟩ := Prod.mk.inj (Except.ok.inj hload)
    have hactor : row.initiatedBy.filter (refersTo db.users) ≠ some u := by
      rw [Ne, Option.filter_eq_some_iff]
      exact fun h => hunnamed.provisioningJobs.get? hrow h.1
    refine ⟨hunnamed, Program.Writes.keeps ?_⟩
    refine (Program.writes_query _).bind fun devices => ?_
    refine (writes_saveJob _ (by intro _; rfl)).bind fun _ => ?_
    refine (Program.writes_ofExcept _).bind fun rendered => ?_
    refine (writes_saveRendered fun _ h =>
      { h with provisioningJobs := h.provisioningJobs.update fun _ => rfl }).bind fun _ => ?_
    refine (writes_pushDevices (fun r _ => ?_) (fun a ha => ?_) _ 0 _).bind fun results => ?_
    · exact writes_insertRow fun _ h => { h with }
    · exact writes_createLog (ha ▸ hactor)
    · exact (writes_saveJob _ (by intro _; rfl)).bind fun _ => trivial
  · cases hload

theorem keeps_program {o : Operation} (ho : initiator o ≠ some u) :
    o.program.Keeps (Unnamed u) := by
  by_cases hexecute : ∃ w jobId, o = .executeProvisioningJob w jobId
  · obtain ⟨w, jobId, rfl⟩ := hexecute
    exact keeps_execute w jobId
  · exact (writes_spares ho fun w jobId heq => hexecute ⟨w, jobId, heq⟩).keeps

/-! ### Runs -/

/-- In every state of a run in which no request of the user is received, no audit entry, job,
check or snapshot and no message names the user, when none does at the start. -/
theorem unnamed_run (store : Platform) (u : UserId) (h : Unnamed u store) (moves : List Move)
    (hmoves : ∀ o, .receive o ∈ moves → initiator o ≠ some u) :
    Unnamed u (System.run { store := store } moves).store := by
  refine invariant_run (fun o ho => keeps_program ho) (fun db n x hdb hn => ?_) h moves hmoves
  refine ⟨{ hdb with queue := fun y hy => hdb.queue y (List.mem_of_mem_eraseIdx hy) }, fun w => ?_⟩
  refine keeps_program ?_
  rw [initiator_operation]
  exact hdb.queue x (List.mem_of_getElem? hn)

theorem unnamed_lab : Unnamed 2 lab := by decide

/-- The discovery that the first user requests names no second one. -/
theorem unnamed_run_of_lab : Unnamed 2 (System.run { store := lab } labRequested).store :=
  unnamed_run lab 2 unnamed_lab labRequested fun o ho => by
    obtain rfl : o = .createDiscoveryJob (some 1) 0 (some "10.0.0.0/30") "t1" := by
      simpa [labRequested] using ho
    decide

example : ¬ Unnamed 1 (System.run { store := lab } labRequested).store := by decide

end DevSecOpsPlatform.Accountability
