import DevSecOpsPlatform.NetmikoSessions
import DevSecOpsPlatform.PlatformSerializers
import DevSecOpsPlatform.TemplateRendering
import Mathlib.Data.List.Sort

/-!
# The provisioning task

`executeProvisioningJob` is `apps/provisioning/tasks.py`, statement by statement: load the
job and its devices, set it RUNNING, render its template, then push to one device after
the other and record a result and an audit entry for each. Only the push stands inside a
`try`: any other exception leaves the task where it is raised.
-/

namespace DevSecOpsPlatform.ProvisioningTasks

open KeyedTables StatementPrograms PlatformModels PlatformStore PlatformSerializers PythonValues
open NetmikoSessions TemplateRendering

/-- What the run of a job meets: the session opened for each device of the loop, the
readings of the clock, the duration of each push. -/
structure PushWorld where
  jinja : Jinja
  session : ℕ → SshSession
  clock : ℕ → DateTime
  duration : ℕ → Duration

/-- The job object of the task, with its related rows; a key that refers to no row
loads as null. -/
structure LoadedJob where
  id : ProvisioningJobId
  row : ProvisioningJob
  template : Option ConfigTemplate
  initiatedBy : Option UserId

def loadJob (id : ProvisioningJobId) : Statement LoadedJob :=
  .statement fun db => match db.provisioningJobs.get? id with
    | some row => .ok (⟨id, row, row.template.bind db.configTemplates.get?,
        row.initiatedBy.filter (refersTo db.users)⟩, db)
    | none => .error (doesNotExistError "ProvisioningJob")

/-- `render_template(job.template.body, job.variables)`. -/
def renderJob (jinja : Jinja) (job : LoadedJob) : Except Exn String :=
  match job.template with
  | none => .error ⟨.attributeError, "'NoneType' object has no attribute 'body'"⟩
  | some t => renderTemplate jinja t.body job.row.jobVariables

/-- The lines of a rendered text that are not blank. -/
def configLines (rendered : String) : List String :=
  (splitlines rendered).filter (fun line => !(strip line.toList).isEmpty)

/-- Success, output and error of one push. -/
def pushOutcome (session : SshSession) (device : Device) (lines : List String) :
    Bool × String × String :=
  match pushConfig session device lines with
  | .ok output => (true, output, "")
  | .error exc =>
    if exc.cls = .netmikoError then (false, "", exc.message)
    else (false, "", "Unexpected error: " ++ exc.message)

/-- `job.template.name if job.template else "ad-hoc"`. -/
def LoadedJob.templateName (job : LoadedJob) : String :=
  match job.template with
  | some t => t.name
  | none => "ad-hoc"

/-- The body of the device loop, for the device numbered `n`. -/
def pushDevice (w : PushWorld) (job : LoadedJob) (lines : List String) (n : ℕ)
    (device : DeviceId × Device) : Statement Bool := do
  let (success, output, error) := pushOutcome (w.session n) device.2 lines
  let _ ← ProvisioningResult.create {
    job := job.id, device := device.1, success, output, error
    durationSeconds := some (w.duration n), executedAt := w.clock (2 * n + 1) }
  let _ ← AuditLog.create {
    action := .pushConfig, actor := job.initiatedBy, device := some device.1, success
    detail := .obj [
      ("job_id", .nat job.id),
      ("template", .str job.templateName),
      ("variables", job.row.jobVariables), ("error", .str error),
      ("duration_seconds", durationJson (w.duration n))]
    timestamp := w.clock (2 * n + 2) }
  return success

/-- The device loop from the device numbered `n` on, with the flags of its results. -/
def pushDevices (w : PushWorld) (job : LoadedJob) (lines : List String) :
    ℕ → List (DeviceId × Device) → Statement (List Bool)
  | _, [] => return []
  | n, device :: devices => do
    let success ← pushDevice w job lines n device
    let successes ← pushDevices w job lines (n + 1) devices
    return success :: successes

def finalStatus (successes total : ℕ) : JobStatus :=
  if successes = total then .success else if successes = 0 then .failed else .partialSuccess

def executeProvisioningJob (w : PushWorld) (jobId : ProvisioningJobId) : Statement Json := do
  let job ← loadJob jobId
  let devices ← Program.query (jobDeviceRows jobId)
  ProvisioningJob.save job.id (fun row =>
    { row with status := .running, startedAt := some (w.clock 0) })
  let rendered ← Program.ofExcept (renderJob w.jinja job)
  ProvisioningJob.saveRendered job.id rendered
  let results ← pushDevices w job (configLines rendered) 0 devices
  let total := results.length
  let successes := results.count true
  ProvisioningJob.save job.id (fun row =>
    { row with
      status := finalStatus successes total
      completedAt := some (w.clock (2 * total + 1)) })
  return .obj [("job_id", .nat jobId), ("total", .nat total), ("success", .nat successes),
    ("failed", .nat (total - successes))]

/-! ### What the task writes -/

/-- The result of the push to the device numbered `n`. -/
def pushResult (w : PushWorld) (job : LoadedJob) (lines : List String) (n : ℕ)
    (device : DeviceId × Device) : ProvisioningResult where
  job := job.id
  device := device.1
  success := (pushOutcome (w.session n) device.2 lines).1
  output := (pushOutcome (w.session n) device.2 lines).2.1
  error := (pushOutcome (w.session n) device.2 lines).2.2
  durationSeconds := some (w.duration n)
  executedAt := w.clock (2 * n + 1)

/-- The audit entry of that push. -/
def pushEntry (w : PushWorld) (job : LoadedJob) (lines : List String) (n : ℕ)
    (device : DeviceId × Device) : AuditLog where
  action := .pushConfig
  actor := job.initiatedBy
  device := some device.1
  success := (pushOutcome (w.session n) device.2 lines).1
  detail := .obj [
    ("job_id", .nat job.id),
    ("template", .str job.templateName),
    ("variables", job.row.jobVariables),
    ("error", .str (pushOutcome (w.session n) device.2 lines).2.2),
    ("duration_seconds", durationJson (w.duration n))]
  timestamp := w.clock (2 * n + 2)

theorem pushDevice_eq (w : PushWorld) (job : LoadedJob) (lines : List String) (n : ℕ)
    (device : DeviceId × Device) : pushDevice w job lines n device =
      ProvisioningResult.create (pushResult w job lines n device) >>= fun _ =>
        AuditLog.create (pushEntry w job lines n device) >>= fun _ =>
          .ret (pushOutcome (w.session n) device.2 lines).1 := rfl

theorem writes_saveRendered {R : Platform → Platform → Prop} [Std.Refl R]
    {jobId : ProvisioningJobId} {rendered : String}
    (h : ∀ db : Platform, R db { db with
      provisioningJobs := db.provisioningJobs.update jobId (fun row =>
        { row with renderedConfig := rendered }) }) :
    (ProvisioningJob.saveRendered jobId rendered).Writes R :=
  (Program.writes_ofExcept _).bind fun _ => writes_saveFields h

theorem writes_pushDevices {R : Platform → Platform → Prop} {w : PushWorld} {job : LoadedJob}
    (hresult : ∀ r, r.job = job.id → (ProvisioningResult.create r).Writes R)
    (hlog : ∀ a, a.actor = job.initiatedBy → (AuditLog.create a).Writes R) (lines : List String)
    (n : ℕ) (devices : List (DeviceId × Device)) :
    (pushDevices w job lines n devices).Writes R := by
  induction devices generalizing n with
  | nil => trivial
  | cons device devices ih =>
    have hpush : (pushDevice w job lines n device).Writes R :=
      (hresult _ rfl).bind fun _ => (hlog _ rfl).bind fun _ => trivial
    exact hpush.bind fun success => (ih (n + 1)).bind fun _ => trivial

/-- What holds of its five writes holds of the execution of a job. -/
theorem writes_executeProvisioningJob {R : Platform → Platform → Prop} [Std.Refl R]
    {w : PushWorld} {jobId : ProvisioningJobId}
    (hrunning : ∀ db : Platform, R db { db with
      provisioningJobs := db.provisioningJobs.update jobId (fun row =>
        { row with status := .running, startedAt := some (w.clock 0) }) })
    (hrendered : ∀ (db : Platform) (rendered : String), R db { db with
      provisioningJobs := db.provisioningJobs.update jobId (fun row =>
        { row with renderedConfig := rendered }) })
    (hresult : ∀ (db : Platform) (r : ProvisioningResult), r.job = jobId →
      refersTo db.devices r.device = true →
      R db { db with provisioningResults := db.provisioningResults.insert r })
    (hlog : ∀ (db : Platform) (a : AuditLog), refersToOrNull db.devices a.device = true →
      R db { db with auditLogs := db.auditLogs.insert a })
    (hfinished : ∀ (db : Platform) (successes total : ℕ), R db { db with
      provisioningJobs := db.provisioningJobs.update jobId (fun row => { row with
        status := finalStatus successes total
        completedAt := some (w.clock (2 * total + 1)) }) }) :
    (executeProvisioningJob w jobId).Writes R := by
  have hcreate (r : ProvisioningResult) (hr : r.job = jobId) :
      (ProvisioningResult.create r).Writes R := by
    refine writes_insertRow_of_ok (fun db u hok => hresult db r hr ?_)
    exact (Bool.and_eq_true_iff.mp (require_bind_eq_ok hok).2).2
  have haudit (a : AuditLog) : (AuditLog.create a).Writes R := by
    refine writes_insertRow_of_ok (fun db u hok => hlog db a ?_)
    exact (Bool.and_eq_true_iff.mp (require_bind_eq_ok hok).2).2
  refine Program.writes_statement_bind (fun db job db' h => ?_)
  split at h
  · obtain ⟨rfl, rfl⟩ := Prod.mk.inj (Except.ok.inj h)
    refine ⟨refl db, (Program.writes_query _).bind fun devices => ?_⟩
    refine (writes_saveFields hrunning).bind fun _ => ?_
    refine (Program.writes_ofExcept _).bind fun rendered => ?_
    refine (writes_saveRendered fun db => hrendered db rendered).bind fun _ => ?_
    refine (writes_pushDevices hcreate (fun a _ => haudit a) _ 0 devices).bind fun results => ?_
    exact (writes_saveFields fun db => hfinished db _ _).bind fun _ => trivial
  · cases h

end DevSecOpsPlatform.ProvisioningTasks
