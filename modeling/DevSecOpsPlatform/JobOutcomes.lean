import DevSecOpsPlatform.JobCalls
import DevSecOpsPlatform.ProvisioningViews

/-!
# What a job reports of its devices

The rows that the device loop inserts, the calls it makes and the status it ends with, each
in terms of what the session of every single device answers. A text with a NUL character that
was to be stored ends the loop, and the job stays RUNNING.
-/

namespace DevSecOpsPlatform.JobOutcomes

open KeyedTables StatementPrograms PlatformModels PlatformStore PythonValues NetmikoSessions
open ProvisioningTasks ProvisioningViews SessionCalls JobCalls

/-- The text stored of the exception that a push raised. -/
def errorText (exc : Exn) : String :=
  if exc.cls = .netmikoError then exc.message else "Unexpected error: " ++ exc.message

/-- `r` and `a` are the result and the audit entry of the push to a device, which returned or
raised `push`. -/
structure Records (push : Except Exn String) (jobId : ProvisioningJobId) (device : DeviceId)
    (r : ProvisioningResult) (a : AuditLog) : Prop where
  ofJob : r.job = jobId
  ofDevice : r.device = device ∧ a.device = some device
  action : a.action = .pushConfig
  success : r.success = push.isOk ∧ a.success = push.isOk
  output : r.output = match push with
    | .ok output => output
    | .error _ => ""
  error : r.error = match push with
    | .ok _ => ""
    | .error exc => errorText exc
  detail : ∃ entries, a.detail = .obj entries ∧ entries.lookup "error" = some (.str r.error)

/-- What the task returns for the results it inserted. -/
def summary (jobId : ProvisioningJobId) (results : List ProvisioningResult) : Json :=
  .obj [("job_id", .nat jobId), ("total", .nat results.length),
    ("success", .nat (results.countP (·.success))),
    ("failed", .nat (results.countP (fun r => !r.success)))]

theorem pushOutcome_eq (session : SshSession) (device : Device) (lines : List String) :
    pushOutcome session device lines =
      match NetmikoSessions.pushConfig session device lines with
      | .ok output => (true, output, "")
      | .error exc => (false, "", errorText exc) := by
  unfold pushOutcome
  cases NetmikoSessions.pushConfig session device lines with
  | ok output => rfl
  | error exc => by_cases h : exc.cls = .netmikoError <;> simp [errorText, h]

theorem records_push (w : PushWorld) (job : LoadedJob) (lines : List String) (n : ℕ)
    (device : DeviceId × Device) :
    Records (NetmikoSessions.pushConfig (w.session n) device.2 lines) job.id device.1
      (pushResult w job lines n device) (pushEntry w job lines n device) := by
  have houtcome := pushOutcome_eq (w.session n) device.2 lines
  cases hpush : NetmikoSessions.pushConfig (w.session n) device.2 lines with
  | ok output =>
    rw [hpush] at houtcome
    exact {
      ofJob := rfl
      ofDevice := ⟨rfl, rfl⟩
      action := rfl
      success := ⟨congrArg Prod.fst houtcome, congrArg Prod.fst houtcome⟩
      output := congrArg (·.2.1) houtcome
      error := congrArg (·.2.2) houtcome
      detail := ⟨_, rfl, rfl⟩ }
  | error exc =>
    rw [hpush] at houtcome
    exact {
      ofJob := rfl
      ofDevice := ⟨rfl, rfl⟩
      action := rfl
      success := ⟨congrArg Prod.fst houtcome, congrArg Prod.fst houtcome⟩
      output := congrArg (·.2.1) houtcome
      error := congrArg (·.2.2) houtcome
      detail := ⟨_, rfl, rfl⟩ }

theorem jobSummary_pushFlags (w : PushWorld) (jobId : ProvisioningJobId) (job : LoadedJob)
    (lines : List String) (n : ℕ) (devices : List (DeviceId × Device)) :
    jobSummary jobId (pushFlags w lines n devices) =
      summary jobId (pushResults w job lines n devices) := by
  have hflags := pushFlags_eq w job lines n devices
  have hcount : (pushFlags w lines n devices).count true =
      (pushResults w job lines n devices).countP (·.success) := by
    rw [hflags, List.count, List.countP_map]
    exact List.countP_congr fun r _ => by simp
  have hlength : (pushFlags w lines n devices).length =
      (pushResults w job lines n devices).length := by
    rw [hflags, List.length_map]
  have hsplit : (pushResults w job lines n devices).length =
      (pushResults w job lines n devices).countP (·.success) +
        (pushResults w job lines n devices).countP (fun r => !r.success) := by
    rw [List.length_eq_countP_add_countP (fun r : ProvisioningResult => r.success)]
    exact congrArg _ (List.countP_congr fun r _ => by simp)
  have hfailed : (pushFlags w lines n devices).length - (pushFlags w lines n devices).count true =
      (pushResults w job lines n devices).countP (fun r => !r.success) := by
    omega
  rw [jobSummary, summary, hfailed, hcount, hlength]

/-- The calls of the loop to one of its devices are those of the push to it. -/
theorem filter_jobCalls (w : PushWorld) (lines : List String) (n k : ℕ)
    {devices : List (DeviceId × Device)} {d : DeviceId × Device}
    (hnodup : (devices.map Prod.fst).Nodup) (hd : devices[k]? = some d) :
    (jobCalls w lines n devices).filter (fun c => c.1 == d.1) =
      deviceCalls w lines (n + k) d := by
  have hself (n : ℕ) (e : DeviceId × Device) (id : DeviceId) :
      (deviceCalls w lines n e).filter (fun c => c.1 == id) =
        if e.1 = id then deviceCalls w lines n e else [] := by
    by_cases h : e.1 = id <;> simp [deviceCalls, List.filter_map, Function.comp_def, h]
  induction devices generalizing n k with
  | nil => cases hd
  | cons e devices ih =>
    obtain ⟨hnew, hrest⟩ := List.nodup_cons.mp hnodup
    have hcalls : jobCalls w lines n (e :: devices) =
        deviceCalls w lines n e ++ jobCalls w lines (n + 1) devices := by
      simp [jobCalls]
    rw [hcalls, List.filter_append, hself]
    cases k with
    | zero =>
      obtain rfl : e = d := Option.some.inj hd
      have hnone : (jobCalls w lines (n + 1) devices).filter (fun c => c.1 == e.1) = [] := by
        apply List.filter_eq_nil_iff.mpr
        intro c hc
        obtain ⟨f, hf, hcall⟩ := List.mem_flatMap.mp hc
        obtain ⟨call, -, rfl⟩ := List.mem_map.mp hcall
        have hmem : f.1.1 ∈ devices.map Prod.fst :=
          List.mem_map_of_mem (List.fst_mem_of_mem_zipIdx hf)
        intro heq
        exact hnew (beq_iff_eq.mp heq ▸ hmem)
      rw [if_pos rfl, hnone, List.append_nil]
      rfl
    | succ k =>
      have hmem : d.1 ∈ devices.map Prod.fst :=
        List.mem_map_of_mem (List.mem_of_getElem? hd)
      have hne : e.1 ≠ d.1 := fun heq => hnew (heq ▸ hmem)
      rw [if_neg hne, List.nil_append, ih (n + 1) k hrest hd]
      congr 1
      omega

theorem nodup_jobDeviceRows (jobId : ProvisioningJobId) (db : Platform) :
    ((jobDeviceRows jobId db).map Prod.fst).Nodup :=
  ((List.perm_insertionSort _ _).map Prod.fst).nodup_iff.mpr (db.devices.select_nodup _)

theorem getElem?_zipIdx_map {α β : Type} (f : α × ℕ → β) {l : List α} {n : ℕ} {a : α}
    (h : l[n]? = some a) : ((l.zipIdx 0).map f)[n]? = some (f (a, n)) := by
  simp [h]

/-- What a run that sends `lines` to the devices `devices` leaves of them: one result and one
audit entry for each, in order, of its own push, and the calls of that push. -/
structure RecordsEach (w : PushWorld) (jobId : ProvisioningJobId) (lines : List String)
    (devices : List (DeviceId × Device)) (results : List ProvisioningResult)
    (entries : List AuditLog) (calls : List (DeviceId × SshCall)) : Prop where
  distinct : (devices.map Prod.fst).Nodup
  oneResult : results.length = devices.length
  oneEntry : entries.length = devices.length
  recorded : ∀ n d, devices[n]? = some d → ∃ r a, results[n]? = some r ∧ entries[n]? = some a ∧
    Records (NetmikoSessions.pushConfig (w.session n) d.2 lines) jobId d.1 r a
  attempted : ∀ n d, devices[n]? = some d → calls.filter (fun c => c.1 == d.1) =
    (pushCalls (w.session n) d.2 lines).map (fun call => (d.1, call))

theorem recordsEach (w : PushWorld) (job : LoadedJob) (lines : List String)
    (devices : List (DeviceId × Device)) (hnodup : (devices.map Prod.fst).Nodup) :
    RecordsEach w job.id lines devices (pushResults w job lines 0 devices)
      (pushEntries w job lines 0 devices) (jobCalls w lines 0 devices) where
  distinct := hnodup
  oneResult := by simp [pushResults]
  oneEntry := by simp [pushEntries]
  recorded n d hd := ⟨_, _, getElem?_zipIdx_map _ hd, getElem?_zipIdx_map _ hd,
    records_push w job lines n d⟩
  attempted n d hd := by
    rw [filter_jobCalls w lines 0 n hnodup hd, Nat.zero_add, deviceCalls]

theorem run_executeProvisioningJob_summary (w : PushWorld) {jobId : ProvisioningJobId}
    {db : Platform} {row : ProvisioningJob} {text : String}
    (hrow : db.provisioningJobs.get? jobId = some row)
    (hrender : renderJob w.jinja (loadedJob jobId row db) = .ok text)
    (hnul : NulFree w (loadedJob jobId row db) text (jobDeviceRows jobId db)) :
    (executeProvisioningJob w jobId).run db =
      (.ok (summary jobId (pushResults w (loadedJob jobId row db) (configLines text) 0
        (jobDeviceRows jobId db))), completed w jobId row text db) := by
  rw [run_executeProvisioningJob, run_traceJob w [] hrow hrender hnul, jobSummary_pushFlags]

/-- Where the database takes all texts, the loop loses no device and mixes up none, and each
device is sent the same commands whatever happens to the others. -/
theorem executeProvisioningJob_records (w : PushWorld) (jobId : ProvisioningJobId) (db : Platform)
    (row : ProvisioningJob) (text : String) (hrow : db.provisioningJobs.get? jobId = some row)
    (hrender : renderJob w.jinja (loadedJob jobId row db) = .ok text)
    (hnul : NulFree w (loadedJob jobId row db) text (jobDeviceRows jobId db)) :
    ∃ after results entries calls,
      (executeProvisioningJob w jobId).run db = (.ok (summary jobId results), after) ∧
      (traceJob w jobId).run (db, []) = (.ok (summary jobId results), (after, calls)) ∧
      after.provisioningResults = db.provisioningResults.insertAll results ∧
      after.auditLogs = db.auditLogs.insertAll entries ∧
      RecordsEach w jobId (configLines text) (jobDeviceRows jobId db) results entries calls := by
  have htrace := run_traceJob w [] hrow hrender hnul
  rw [jobSummary_pushFlags w jobId (loadedJob jobId row db), List.nil_append] at htrace
  exact ⟨_, _, _, _, run_executeProvisioningJob_summary w hrow hrender hnul, htrace, rfl, rfl,
    recordsEach w (loadedJob jobId row db) _ _ (nodup_jobDeviceRows jobId db)⟩

/-- A template of two lines with variables, and a blank and an empty one between them. -/
def labTemplate : ConfigTemplate where
  name := "base"
  body := "hostname \x7b\x7b site \x7d\x7d-r1\n \n\nusername \x7b\x7b user \x7d\x7d"
  createdAt := 0
  updatedAt := 0

/-- The small platform with two more devices, and a job that pushes the template to all three. -/
def labFleet : Platform := { lab with
  devices := (lab.devices.insert
    { labDevice with hostname := "core1", ipAddress := labAddress 2 }).insert
    { labDevice with hostname := "edge1", ipAddress := labAddress 3 }
  configTemplates := Table.empty.insert labTemplate
  provisioningJobs := Table.empty.insert {
    template := some 1, jobVariables := .obj [("site", .str "fra"), ("user", .str "ops")]
    initiatedBy := some 1, createdAt := 0 }
  jobDevices := [(1, 1), (1, 2), (1, 3)] }

/-- The second connection is refused, the third session breaks while it is sent the lines. -/
def labSessions : PushWorld where
  jinja _ := .ok fun kvs => match kvs.lookup "site", kvs.lookup "user" with
    | some (.str site), some (.str user) =>
      .ok ("hostname " ++ site ++ "-r1\n \n\nusername " ++ user)
    | _, _ => .error (.undefinedError "'user' is undefined")
  session
    | 1 => { SshSession.answering "ok" with connectHandler := fun _ => .error (.timeout "timed out") }
    | 2 => { SshSession.answering "ok" with
        sendConfigSet := fun _ => .error (.other "Socket is closed") }
    | _ => .answering "ok"
  clock n := n
  duration _ := 1

/-- The row of the job of `labFleet`, and the text that it renders. -/
def labFleetJob : ProvisioningJob where
  template := some 1
  jobVariables := .obj [("site", .str "fra"), ("user", .str "ops")]
  initiatedBy := some 1
  createdAt := 0

def labLines : String := "hostname fra-r1\n \n\nusername ops"

theorem nulFree_labFleet :
    NulFree labSessions (loadedJob 1 labFleetJob labFleet) labLines (jobDeviceRows 1 labFleet) := by
  decide +kernel

theorem executeProvisioningJob_records_of_labFleet : ∃ after results entries calls,
    (executeProvisioningJob labSessions 1).run labFleet = (.ok (summary 1 results), after) ∧
    (traceJob labSessions 1).run (labFleet, []) = (.ok (summary 1 results), (after, calls)) ∧
    after.provisioningResults = labFleet.provisioningResults.insertAll results ∧
    after.auditLogs = labFleet.auditLogs.insertAll entries ∧
    RecordsEach labSessions 1 (configLines labLines) (jobDeviceRows 1 labFleet) results entries
      calls :=
  executeProvisioningJob_records labSessions 1 labFleet labFleetJob labLines rfl rfl
    nulFree_labFleet

/-- The devices in the order of their hostnames, with how their pushes went. -/
example : (pushResults labSessions (loadedJob 1 labFleetJob labFleet) (configLines labLines) 0
    (jobDeviceRows 1 labFleet)).map (fun r => (r.device, r.success, r.error)) =
    [(2, true, ""), (3, false, "Timeout connecting to edge1: timed out"),
      (1, false, "Connection error on r1: Socket is closed")] := by
  decide +kernel

/-! ### The status at the end -/

/-- Whether the push to each device returned. -/
def pushesReturned (w : PushWorld) (lines : List String) (devices : List (DeviceId × Device)) :
    List Bool :=
  (devices.zipIdx 0).map fun d =>
    (NetmikoSessions.pushConfig (w.session d.2) d.1.2 lines).isOk

/-- The status says of the devices what it is documented to say. -/
structure Means (returned : List Bool) (status : JobStatus) : Prop where
  success : status = .success ↔ true ∈ returned ∧ false ∉ returned
  partialSuccess : status = .partialSuccess ↔ true ∈ returned ∧ false ∈ returned
  failed : status = .failed ↔ true ∉ returned

theorem pushFlags_eq_pushesReturned (w : PushWorld) (lines : List String)
    (devices : List (DeviceId × Device)) :
    pushFlags w lines 0 devices = pushesReturned w lines devices := by
  have hflag (n : ℕ) (d : DeviceId × Device) : (pushOutcome (w.session n) d.2 lines).1 =
      (NetmikoSessions.pushConfig (w.session n) d.2 lines).isOk := by
    rw [pushOutcome_eq]
    cases NetmikoSessions.pushConfig (w.session n) d.2 lines <;> rfl
  have hloop (n : ℕ) : pushFlags w lines n devices = (devices.zipIdx n).map fun d =>
      (NetmikoSessions.pushConfig (w.session d.2) d.1.2 lines).isOk := by
    induction devices generalizing n with
    | nil => rfl
    | cons d devices ih => simp [pushFlags, hflag, ih]
  exact hloop 0

/-- The task's classification by counts is the documented one unless there is no device. -/
theorem means_finalStatus_iff (returned : List Bool) :
    Means returned (finalStatus (returned.count true) returned.length) ↔ returned ≠ [] := by
  have hall : returned.count true = returned.length ↔ false ∉ returned := by
    rw [List.count_eq_length]
    constructor
    · intro h hfalse
      exact absurd (h false hfalse) (by decide)
    · intro h b hb
      cases b with
      | true => rfl
      | false => exact absurd hb h
  have hnone : returned.count true = 0 ↔ true ∉ returned := List.count_eq_zero
  constructor
  · rintro hmeans rfl
    have hsuccess := hmeans.success.mp rfl
    cases hsuccess.1
  · intro hne
    have hsome : true ∈ returned ∨ false ∈ returned := by
      obtain ⟨b, hb⟩ := List.exists_mem_of_ne_nil returned hne
      cases b with
      | true => exact .inl hb
      | false => exact .inr hb
    by_cases hfalse : false ∈ returned
    · have hlength : returned.count true ≠ returned.length := fun h => hall.mp h hfalse
      by_cases htrue : true ∈ returned
      · have hcount : returned.count true ≠ 0 := fun h => hnone.mp h htrue
        constructor <;> simp [finalStatus, hlength, hcount, htrue, hfalse]
      · rw [hnone.mpr htrue] at hlength ⊢
        constructor <;> simp [finalStatus, hlength, htrue, hfalse]
    · have htrue := hsome.resolve_right hfalse
      constructor <;> simp [finalStatus, hall.mpr hfalse, htrue, hfalse]

theorem status_completed (w : PushWorld) {jobId : ProvisioningJobId} {db : Platform}
    {row : ProvisioningJob} (text : String) (hrow : db.provisioningJobs.get? jobId = some row) :
    ((completed w jobId row text db).provisioningJobs.get? jobId).map (·.status) =
      some (finalStatus ((pushFlags w (configLines text) 0 (jobDeviceRows jobId db)).count true)
        (pushFlags w (configLines text) 0 (jobDeviceRows jobId db)).length) := by
  have hstarted := started_get? w text (fun _ => []) hrow
  simp [completed, pushed, inserted, hstarted]

theorem not_means_running (returned : List Bool) : ¬ Means returned .running := by
  intro h
  have htrue : true ∈ returned := by
    by_contra hnone
    cases h.failed.mpr hnone
  by_cases hfalse : false ∈ returned
  · cases h.partialSuccess.mpr ⟨htrue, hfalse⟩
  · cases h.success.mpr ⟨htrue, hfalse⟩

/-- A job that stops at a text that the database does not take stays RUNNING. -/
theorem running_of_not_nulFree (w : PushWorld) {jobId : ProvisioningJobId} {db : Platform}
    {row : ProvisioningJob} {text : String} (hrow : db.provisioningJobs.get? jobId = some row)
    (hrender : renderJob w.jinja (loadedJob jobId row db) = .ok text)
    (hnul : ¬ NulFree w (loadedJob jobId row db) text (jobDeviceRows jobId db)) :
    (((executeProvisioningJob w jobId).run db).2.provisioningJobs.get? jobId).map (·.status) =
      some .running := by
  rw [run_executeProvisioningJob]
  cases htext : storedText w.jinja (loadedJob jobId row db) with
  | error e =>
    rw [run_traceJob_error w [] hrow htext]
    simp [running, hrow]
  | ok text' =>
    obtain ⟨hrender', hstorable⟩ := storedText_eq_ok_iff.mp htext
    obtain rfl := Except.ok.inj (hrender.symm.trans hrender')
    obtain ⟨e, before, d, after, rs, -, -, -, -, htrace⟩ := run_traceJob_refused w [] hrow htext
      fun hall => hnul (nulFree_iff.mpr ⟨hstorable, hall⟩)
    rw [htrace]
    simp [inserted, started_get? w text (fun _ => []) hrow]

end DevSecOpsPlatform.JobOutcomes
