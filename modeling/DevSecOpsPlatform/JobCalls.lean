import DevSecOpsPlatform.LoggedPrograms
import DevSecOpsPlatform.ProvisioningTaskRuns
import DevSecOpsPlatform.SessionCalls

/-!
# What a job does when it runs alone

`traceJob` is the task with every call to a device recorded under the device. Its run alone
is computed once: the tables it leaves, the calls it makes and the text it returns. The run
of the task is that run without the record.
-/

namespace DevSecOpsPlatform.JobCalls

open KeyedTables StatementPrograms PlatformModels PlatformStore PythonValues NetmikoSessions
open ProvisioningTasks SessionCalls

abbrev Traced (α : Type) := Program (Platform × List (DeviceId × SshCall)) Exn α

/-- The calls of the push to the device numbered `n`. -/
def deviceCalls (w : PushWorld) (lines : List String) (n : ℕ) (device : DeviceId × Device) :
    List (DeviceId × SshCall) :=
  (pushCalls (w.session n) device.2 lines).map (fun call => (device.1, call))

/-- The device loop of `executeProvisioningJob`, with its calls recorded. -/
def traceDevices (w : PushWorld) (job : LoadedJob) (lines : List String) :
    ℕ → List (DeviceId × Device) → Traced (List Bool)
  | _, [] => return []
  | n, device :: devices => do
    Program.emit (deviceCalls w lines n device)
    let success ← (pushDevice w job lines n device).logged
    let successes ← traceDevices w job lines (n + 1) devices
    return success :: successes

/-- `executeProvisioningJob` with its calls recorded. -/
def traceJob (w : PushWorld) (jobId : ProvisioningJobId) : Traced Json := do
  let job ← (loadJob jobId).logged
  let devices ← (Program.query (jobDeviceRows jobId)).logged
  (ProvisioningJob.save job.id (fun row =>
    { row with status := .running, startedAt := some (w.clock 0) })).logged
  let rendered ← Program.ofExcept (renderJob w.jinja job)
  (ProvisioningJob.saveRendered job.id rendered).logged
  let results ← traceDevices w job (configLines rendered) 0 devices
  let total := results.length
  let successes := results.count true
  (ProvisioningJob.save job.id (fun row =>
    { row with
      status := finalStatus successes total
      completedAt := some (w.clock (2 * total + 1)) })).logged
  return .obj [("job_id", .nat jobId), ("total", .nat total), ("success", .nat successes),
    ("failed", .nat (total - successes))]

theorem erases_traceDevices (w : PushWorld) (job : LoadedJob) (lines : List String) (n : ℕ)
    (devices : List (DeviceId × Device)) :
    (traceDevices w job lines n devices).Erases (pushDevices w job lines n devices) := by
  induction devices generalizing n with
  | nil => exact .ret _
  | cons device devices ih =>
    apply Program.erases_emit_bind
    apply (Program.erases_logged _).bind
    intro success
    exact (ih (n + 1)).bind fun _ => .ret _

/-- The recorded task is the task, statement by statement. -/
theorem erases_traceJob (w : PushWorld) (jobId : ProvisioningJobId) :
    (traceJob w jobId).Erases (executeProvisioningJob w jobId) := by
  apply (Program.erases_logged _).bind
  intro job
  apply (Program.erases_logged _).bind
  intro devices
  apply (Program.erases_logged _).bind
  intro _
  apply (Program.erases_ofExcept _).bind
  intro rendered
  apply (Program.erases_logged _).bind
  intro _
  apply (erases_traceDevices w job _ 0 devices).bind
  intro results
  exact (Program.erases_logged _).bind fun _ => .ret _

/-! ### The device loop -/

/-- The results of the pushes, in the order of the devices. -/
def pushResults (w : PushWorld) (job : LoadedJob) (lines : List String) (n : ℕ)
    (devices : List (DeviceId × Device)) : List ProvisioningResult :=
  (devices.zipIdx n).map fun d => pushResult w job lines d.2 d.1

/-- Their audit entries. -/
def pushEntries (w : PushWorld) (job : LoadedJob) (lines : List String) (n : ℕ)
    (devices : List (DeviceId × Device)) : List AuditLog :=
  (devices.zipIdx n).map fun d => pushEntry w job lines d.2 d.1

/-- The calls of the loop. -/
def jobCalls (w : PushWorld) (lines : List String) (n : ℕ) (devices : List (DeviceId × Device)) :
    List (DeviceId × SshCall) :=
  (devices.zipIdx n).flatMap fun d => deviceCalls w lines d.2 d.1

/-- The store with further results and audit entries. -/
def inserted (results : List ProvisioningResult) (entries : List AuditLog) (db : Platform) :
    Platform :=
  { db with
    provisioningResults := db.provisioningResults.insertAll results
    auditLogs := db.auditLogs.insertAll entries }

/-- The store after the loop. -/
def pushed (w : PushWorld) (job : LoadedJob) (lines : List String) (n : ℕ)
    (devices : List (DeviceId × Device)) (db : Platform) : Platform :=
  inserted (pushResults w job lines n devices) (pushEntries w job lines n devices) db

theorem pushResults_append (w : PushWorld) (job : LoadedJob) (lines : List String) (n : ℕ)
    (before after : List (DeviceId × Device)) : pushResults w job lines n (before ++ after) =
      pushResults w job lines n before ++ pushResults w job lines (n + before.length) after := by
  simp [pushResults, List.zipIdx_append]

theorem jobCalls_append (w : PushWorld) (lines : List String) (n : ℕ)
    (before after : List (DeviceId × Device)) : jobCalls w lines n (before ++ after) =
      jobCalls w lines n before ++ jobCalls w lines (n + before.length) after := by
  simp [jobCalls, List.zipIdx_append]

theorem inserted_inserted (rs rs' : List ProvisioningResult) (as as' : List AuditLog)
    (db : Platform) : inserted rs' as' (inserted rs as db) = inserted (rs ++ rs') (as ++ as') db := by
  simp [inserted, Table.insertAll]

theorem pushFlags_eq (w : PushWorld) (job : LoadedJob) (lines : List String) (n : ℕ)
    (devices : List (DeviceId × Device)) :
    pushFlags w lines n devices = (pushResults w job lines n devices).map (·.success) := by
  induction devices generalizing n with
  | nil => rfl
  | cons device devices ih => exact congrArg (_ :: ·) (ih (n + 1))

section

variable (w : PushWorld) {job : LoadedJob} (lines : List String) (n : ℕ)
  {device : DeviceId × Device} {devices : List (DeviceId × Device)} {db : Platform}

/-- One pass of the loop inserts the two rows of its device. -/
theorem run_pushDevice (hready : Ready job db) (hdevice : refersTo db.devices device.1 = true)
    (haccepted : Accepted w job lines n device) : (pushDevice w job lines n device).run db =
      (.ok (pushResult w job lines n device).success,
        withAudit (pushEntry w job lines n device)
          (withResult (pushResult w job lines n device) db)) := by
  have hresult : (refersTo db.provisioningJobs (pushResult w job lines n device).job &&
      refersTo db.devices (pushResult w job lines n device).device) = true :=
    Bool.and_eq_true_iff.mpr ⟨hready.job_exists, hdevice⟩
  have hentry : (refersToOrNull db.users (pushEntry w job lines n device).actor &&
      refersToOrNull db.devices (pushEntry w job lines n device).device) = true :=
    Bool.and_eq_true_iff.mpr ⟨hready.actor_exists, hdevice⟩
  rw [pushDevice_eq, ProvisioningResult.create, run_insertRow_bind, haccepted.1, require_true,
    ok_bind, hresult, require_true]
  dsimp only
  rw [AuditLog.create, run_insertRow_bind, haccepted.2, Bool.not_false, require_true, ok_bind]
  dsimp only
  rw [hentry]
  rfl

/-- Or it inserts the result alone, or none, and raises. -/
theorem run_pushDevice_refused (hready : Ready job db)
    (hdevice : refersTo db.devices device.1 = true) (hrefused : ¬ Accepted w job lines n device) :
    ∃ e, ∃ rs, rs <+: [pushResult w job lines n device] ∧
      (pushDevice w job lines n device).run db = (.error e, inserted rs [] db) := by
  rw [pushDevice_eq, ProvisioningResult.create, run_insertRow_bind]
  cases hresult : storable (pushResult w job lines n device).texts with
  | false => exact ⟨_, [], List.nil_prefix, rfl⟩
  | true =>
    have hkeys : (refersTo db.provisioningJobs (pushResult w job lines n device).job &&
        refersTo db.devices (pushResult w job lines n device).device) = true :=
      Bool.and_eq_true_iff.mpr ⟨hready.job_exists, hdevice⟩
    have hdetail : (pushEntry w job lines n device).detail.hasNul = true :=
      (Bool.eq_false_or_eq_true _).resolve_right fun h => hrefused ⟨hresult, h⟩
    refine ⟨nulJsonError, [pushResult w job lines n device], List.prefix_rfl, ?_⟩
    rw [require_true, ok_bind, hkeys, require_true]
    dsimp only
    rw [AuditLog.create, run_insertRow_bind, hdetail]
    rfl

theorem run_traceDevices (calls : List (DeviceId × SshCall)) (hready : Ready job db)
    (hdevices : ∀ d ∈ devices, refersTo db.devices d.1 = true)
    (haccepted : AllAccepted w job lines n devices) :
    (traceDevices w job lines n devices).run (db, calls) =
      (.ok (pushFlags w lines n devices),
        (pushed w job lines n devices db, calls ++ jobCalls w lines n devices)) := by
  induction devices generalizing n db calls with
  | nil =>
    simp [traceDevices, pushFlags, pushed, inserted, pushResults, pushEntries, jobCalls,
      Table.insertAll]
  | cons device devices ih =>
    obtain ⟨hdevice, hrest⟩ := List.forall_mem_cons.mp hdevices
    obtain ⟨hfirst, hothers⟩ := allAccepted_cons.mp haccepted
    have hpush := run_pushDevice w lines n hready hdevice hfirst
    have hready' : Ready job (withAudit (pushEntry w job lines n device)
        (withResult (pushResult w job lines n device) db)) :=
      ⟨hready.job_exists, hready.actor_exists⟩
    have hloop := ih (n + 1) (calls ++ deviceCalls w lines n device) hready' hrest hothers
    rw [traceDevices, Program.emit, Program.execute_bind, Program.run_stmt,
      Program.run_logged_bind hpush, Program.run_bind, hloop]
    simp [pushFlags, pushed, inserted, pushResults, pushEntries, jobCalls, Table.insertAll_cons,
      withAudit, withResult, pushResult]

theorem traceDevices_append (before after : List (DeviceId × Device)) :
    traceDevices w job lines n (before ++ after) = traceDevices w job lines n before >>= fun flags =>
      traceDevices w job lines (n + before.length) after >>= fun flags' =>
        Program.ret (flags ++ flags') := by
  induction before generalizing n with
  | nil => simp [traceDevices, Program.bind_ret]
  | cons device before ih =>
    simp only [List.cons_append, traceDevices, ih, Program.bind_assoc, List.length_cons,
      Nat.add_assoc, Nat.add_comm 1]
    rfl

/-- The first device of the loop whose rows the database does not take. -/
theorem exists_refused (h : ¬ AllAccepted w job lines n devices) :
    ∃ before d after, devices = before ++ d :: after ∧ AllAccepted w job lines n before ∧
      ¬ Accepted w job lines (n + before.length) d := by
  induction devices generalizing n with
  | nil => exact absurd (by simp [AllAccepted]) h
  | cons device devices ih =>
    by_cases hfirst : Accepted w job lines n device
    · obtain ⟨before, d, after, rfl, hbefore, hd⟩ :=
        ih (n + 1) fun hothers => h (allAccepted_cons.mpr ⟨hfirst, hothers⟩)
      refine ⟨device :: before, d, after, rfl, allAccepted_cons.mpr ⟨hfirst, hbefore⟩, ?_⟩
      rwa [List.length_cons, ← Nat.add_assoc, Nat.add_right_comm]
    · exact ⟨[], device, devices, rfl, by simp [AllAccepted], hfirst⟩

/-- The loop makes the calls of that device and stops at its rows. -/
theorem run_traceDevices_refused {before after : List (DeviceId × Device)}
    {d : DeviceId × Device} (calls : List (DeviceId × SshCall)) (hready : Ready job db)
    (hdevices : ∀ e ∈ before ++ d :: after, refersTo db.devices e.1 = true)
    (haccepted : AllAccepted w job lines n before)
    (hrefused : ¬ Accepted w job lines (n + before.length) d) :
    ∃ e, ∃ rs, rs <+: [pushResult w job lines (n + before.length) d] ∧
      (traceDevices w job lines n (before ++ d :: after)).run (db, calls) =
        (.error e, (inserted (pushResults w job lines n before ++ rs)
          (pushEntries w job lines n before) db, calls ++ jobCalls w lines n (before ++ [d]))) := by
  have hbefore := run_traceDevices w lines n calls hready
    (fun e he => hdevices e (List.mem_append_left _ he)) haccepted
  have hready' : Ready job (pushed w job lines n before db) :=
    ⟨hready.job_exists, hready.actor_exists⟩
  obtain ⟨e, rs, hrs, hpush⟩ := run_pushDevice_refused w lines (n + before.length) hready'
    (hdevices d (by simp)) hrefused
  refine ⟨e, rs, hrs, ?_⟩
  rw [traceDevices_append, Program.run_bind, hbefore]
  dsimp only
  rw [Program.run_bind, traceDevices, Program.emit, Program.execute_bind, Program.run_stmt,
    Program.run_bind, Program.run_logged, hpush]
  have hlast : jobCalls w lines (n + before.length) [d] =
      deviceCalls w lines (n + before.length) d := by simp [jobCalls]
  rw [jobCalls_append, hlast]
  simp [pushed, inserted_inserted]

end

/-! ### The whole task -/

theorem run_loadJob {jobId : ProvisioningJobId} {db : Platform} {row : ProvisioningJob}
    (hrow : db.provisioningJobs.get? jobId = some row) :
    (loadJob jobId).run db = (.ok (loadedJob jobId row db), db) := by
  rw [loadJob, Program.run_statement, hrow]
  rfl

theorem run_job_save {jobId : ProvisioningJobId} (set : ProvisioningJob → ProvisioningJob)
    {db : Platform} (h : refersTo db.provisioningJobs jobId = true) :
    (ProvisioningJob.save jobId set).run db =
      (.ok (), { db with provisioningJobs := db.provisioningJobs.update jobId set }) := by
  have hsave := run_job_save_bind jobId set Program.ret h
  rwa [Program.bind_ret] at hsave

/-- The store once the job is RUNNING. -/
def running (w : PushWorld) (jobId : ProvisioningJobId) (db : Platform) : Platform :=
  { db with provisioningJobs := db.provisioningJobs.update jobId (fun row =>
      { row with status := .running, startedAt := some (w.clock 0) }) }

/-- What the task returns for the flags of its results. -/
def jobSummary (jobId : ProvisioningJobId) (flags : List Bool) : Json :=
  .obj [("job_id", .nat jobId), ("total", .nat flags.length), ("success", .nat (flags.count true)),
    ("failed", .nat (flags.length - flags.count true))]

/-- The store after the task. -/
def completed (w : PushWorld) (jobId : ProvisioningJobId) (row : ProvisioningJob) (text : String)
    (db : Platform) : Platform :=
  let devices := jobDeviceRows jobId db
  let lines := configLines text
  let flags := pushFlags w lines 0 devices
  let loop := pushed w (loadedJob jobId row db) lines 0 devices
    (started w jobId text (fun _ => []) db)
  { loop with provisioningJobs := loop.provisioningJobs.update jobId (fun row => { row with
      status := finalStatus (flags.count true) flags.length
      completedAt := some (w.clock (2 * flags.length + 1)) }) }

theorem refersTo_jobDeviceRows {jobId : ProvisioningJobId} {db : Platform}
    {d : DeviceId × Device} (hd : d ∈ jobDeviceRows jobId db) :
    refersTo db.devices d.1 = true := by
  have hmem := (List.perm_insertionSort _ _).mem_iff.mp hd
  exact refersTo_of_get? ((Table.mem_select _ _ d.1 d.2).mp hmem).1

section

variable (w : PushWorld) {jobId : ProvisioningJobId} {db : Platform} {row : ProvisioningJob}
  {text : String} (calls : List (DeviceId × SshCall))

theorem run_running (hrow : db.provisioningJobs.get? jobId = some row) :
    (ProvisioningJob.save (loadedJob jobId row db).id (fun row =>
      { row with status := .running, startedAt := some (w.clock 0) })).run db =
        (.ok (), running w jobId db) :=
  run_job_save _ (refersTo_of_get? hrow)

/-- The statements before the loop, when the database takes the rendered text. -/
theorem run_traceJob_started (hrow : db.provisioningJobs.get? jobId = some row)
    (htext : storedText w.jinja (loadedJob jobId row db) = .ok text) :
    (traceJob w jobId).run (db, calls) =
      (traceDevices w (loadedJob jobId row db) (configLines text) 0 (jobDeviceRows jobId db) >>=
        fun results => (finishJob w jobId results).logged).run
          (started w jobId text (fun _ => []) db, calls) := by
  obtain ⟨hrender, hstorable⟩ := storedText_eq_ok_iff.mp htext
  have hstill : refersTo (running w jobId db).provisioningJobs jobId = true := by
    simp [refersTo, running, hrow]
  have hrendered : (ProvisioningJob.saveRendered (loadedJob jobId row db).id text).run
      (running w jobId db) = (.ok (), started w jobId text (fun _ => []) db) := by
    have hsaved := run_saveRendered_bind jobId text .ret hstill
    rwa [Program.bind_ret, if_pos hstorable] at hsaved
  rw [traceJob, Program.run_logged_bind (run_loadJob hrow),
    Program.run_logged_bind (p := Program.query (jobDeviceRows jobId)) (t := db) rfl,
    Program.run_logged_bind (run_running w hrow), hrender, Program.ofExcept_ok, Program.ret_bind,
    Program.run_logged_bind hrendered]
  simp only [finishJob, Program.logged_bind]
  rfl

theorem devices_started (d : DeviceId × Device) (hd : d ∈ jobDeviceRows jobId db) :
    refersTo (started w jobId text (fun _ => []) db).devices d.1 = true :=
  refersTo_jobDeviceRows hd

/-- A job whose texts the database takes pushes to every device that it has. -/
theorem run_traceJob (hrow : db.provisioningJobs.get? jobId = some row)
    (hrender : renderJob w.jinja (loadedJob jobId row db) = .ok text)
    (hnul : NulFree w (loadedJob jobId row db) text (jobDeviceRows jobId db)) :
    (traceJob w jobId).run (db, calls) =
      (.ok (jobSummary jobId (pushFlags w (configLines text) 0 (jobDeviceRows jobId db))),
        (completed w jobId row text db,
          calls ++ jobCalls w (configLines text) 0 (jobDeviceRows jobId db))) := by
  obtain ⟨hstorable, haccepted⟩ := nulFree_iff.mp hnul
  have hready := ready_started w text (fun _ => []) hrow
  have hloop := run_traceDevices w (configLines text) 0 calls hready (devices_started w) haccepted
  have hfinished : (finishJob w jobId
      (pushFlags w (configLines text) 0 (jobDeviceRows jobId db))).run
      (pushed w (loadedJob jobId row db) (configLines text) 0 (jobDeviceRows jobId db)
        (started w jobId text (fun _ => []) db)) =
        (.ok (jobSummary jobId (pushFlags w (configLines text) 0 (jobDeviceRows jobId db))),
          completed w jobId row text db) :=
    run_job_save_bind jobId _ _ hready.job_exists
  rw [run_traceJob_started w calls hrow (storedText_eq_ok_iff.mpr ⟨hrender, hstorable⟩),
    Program.run_bind, hloop]
  dsimp only
  rw [Program.run_logged, hfinished]

/-- Another job stops at the rows of the first device that the database refuses. -/
theorem run_traceJob_refused (hrow : db.provisioningJobs.get? jobId = some row)
    (htext : storedText w.jinja (loadedJob jobId row db) = .ok text)
    (hrefused : ¬ AllAccepted w (loadedJob jobId row db) (configLines text) 0
      (jobDeviceRows jobId db)) :
    ∃ e before d after rs, jobDeviceRows jobId db = before ++ d :: after ∧
      AllAccepted w (loadedJob jobId row db) (configLines text) 0 before ∧
      ¬ Accepted w (loadedJob jobId row db) (configLines text) before.length d ∧
      rs <+: [pushResult w (loadedJob jobId row db) (configLines text) before.length d] ∧
      (traceJob w jobId).run (db, calls) = (.error e,
        (inserted (pushResults w (loadedJob jobId row db) (configLines text) 0 before ++ rs)
          (pushEntries w (loadedJob jobId row db) (configLines text) 0 before)
          (started w jobId text (fun _ => []) db),
        calls ++ jobCalls w (configLines text) 0 (before ++ [d]))) := by
  obtain ⟨before, d, after, hdevices, haccepted, hd⟩ :=
    exists_refused w (configLines text) 0 hrefused
  have hready := ready_started w text (fun _ => []) hrow
  have hstarted : ∀ d' ∈ before ++ d :: after,
      refersTo (started w jobId text (fun _ => []) db).devices d'.1 = true := by
    rw [← hdevices]
    exact devices_started w
  obtain ⟨e, rs, hrs, hloop⟩ := run_traceDevices_refused w (configLines text) 0 calls hready
    hstarted haccepted hd
  rw [Nat.zero_add] at hd hrs
  refine ⟨e, before, d, after, rs, hdevices, haccepted, hd, hrs, ?_⟩
  rw [run_traceJob_started w calls hrow htext, hdevices, Program.run_bind, hloop]

/-- A job whose template does not render, or renders a text that the database does not take,
contacts no device and inserts no row. -/
theorem run_traceJob_error {e : Exn} (hrow : db.provisioningJobs.get? jobId = some row)
    (htext : storedText w.jinja (loadedJob jobId row db) = .error e) :
    (traceJob w jobId).run (db, calls) = (.error e, (running w jobId db, calls)) := by
  rw [traceJob, Program.run_logged_bind (run_loadJob hrow),
    Program.run_logged_bind (p := Program.query (jobDeviceRows jobId)) (t := db) rfl,
    Program.run_logged_bind (run_running w hrow)]
  unfold storedText at htext
  cases hrender : renderJob w.jinja (loadedJob jobId row db) with
  | error e' =>
    rw [hrender] at htext
    obtain rfl := Except.error.inj htext
    rfl
  | ok r =>
    rw [hrender, ok_bind] at htext
    rw [Program.ofExcept_ok, Program.ret_bind, ProvisioningJob.saveRendered]
    cases hstorable : storable [r] with
    | true =>
      rw [hstorable] at htext
      cases htext
    | false =>
      rw [hstorable] at htext
      obtain rfl := Except.error.inj htext
      rfl

end

/-- The task alone is its recorded version alone. -/
theorem run_executeProvisioningJob (w : PushWorld) (jobId : ProvisioningJobId) (db : Platform) :
    (executeProvisioningJob w jobId).run db =
      (((traceJob w jobId).run (db, [])).1, ((traceJob w jobId).run (db, [])).2.1) :=
  (erases_traceJob w jobId).run_eq (db, [])

end DevSecOpsPlatform.JobCalls
