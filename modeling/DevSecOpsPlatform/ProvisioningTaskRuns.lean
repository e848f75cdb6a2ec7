import DevSecOpsPlatform.ProvisioningTasks

/-!
# How a provisioning job ends

Devices may be deleted while the job runs: `dels n` are the devices that go just before
the task's statement numbered `n`. The loop pushes to every device it loaded, or stops at
the first one whose result or audit entry no longer finds the device; either way the job
row is only written by the task. The loop also stops where a text that it stores has a NUL
character. The job ends in a terminal status exactly when nothing is raised.
-/

namespace DevSecOpsPlatform.ProvisioningTasks

open KeyedTables StatementPrograms PlatformModels PlatformStore PlatformSerializers PythonValues
open NetmikoSessions TemplateRendering Program

def deleteDevices (ids : List DeviceId) (db : Platform) : Platform :=
  ids.foldl (fun db id => Device.cascade id db) db

@[simp] theorem deleteDevices_provisioningJobs (ids : List DeviceId) (db : Platform) :
    (deleteDevices ids db).provisioningJobs = db.provisioningJobs := by
  induction ids generalizing db with
  | nil => rfl
  | cons id ids ih => exact ih (Device.cascade id db)

@[simp] theorem deleteDevices_configTemplates (ids : List DeviceId) (db : Platform) :
    (deleteDevices ids db).configTemplates = db.configTemplates := by
  induction ids generalizing db with
  | nil => rfl
  | cons id ids ih => exact ih (Device.cascade id db)

@[simp] theorem deleteDevices_users (ids : List DeviceId) (db : Platform) :
    (deleteDevices ids db).users = db.users := by
  induction ids generalizing db with
  | nil => rfl
  | cons id ids ih => exact ih (Device.cascade id db)

/-- A device is there after the deletions if it was there and was not deleted. -/
@[simp] theorem refersTo_deleteDevices (ids : List DeviceId) (db : Platform) (d : DeviceId) :
    refersTo (deleteDevices ids db).devices d = (refersTo db.devices d && !ids.contains d) := by
  induction ids generalizing db with
  | nil => simp [deleteDevices]
  | cons id ids ih =>
    have hstep :
        refersTo (Device.cascade id db).devices d = (refersTo db.devices d && d != id) := by
      simp only [refersTo, Device.cascade, Table.delete, Table.get?_deleteWhere]
      cases db.devices.get? d with
      | none => rfl
      | some e => simp [bne]
    change refersTo (deleteDevices ids (Device.cascade id db)).devices d = _
    rw [ih, hstep, List.contains_cons, Bool.not_or, Bool.and_assoc]
    rfl

/-! ### Texts with NUL characters -/

/-- The text that a push brings back: its output, or the text of its exception. -/
def pushText (session : SshSession) (device : Device) (lines : List String) : String :=
  match pushConfig session device lines with
  | .ok output => output
  | .error exc => exc.message

/-- The database takes the texts that the task stores: the rendered one, what the audit entries
repeat of the job, and what every push brings back. -/
structure NulFree (w : PushWorld) (job : LoadedJob) (text : String)
    (devices : List (DeviceId × Device)) : Prop where
  rendered : storable [text] = true
  repeated : devices ≠ [] → storable [job.templateName] = true ∧ job.row.jobVariables.hasNul = false
  pushes : ∀ n d, devices[n]? = some d →
    storable [pushText (w.session n) d.2 (configLines text)] = true

theorem nulFree_iff_zipIdx {w : PushWorld} {job : LoadedJob} {text : String}
    {devices : List (DeviceId × Device)} : NulFree w job text devices ↔
      storable [text] = true ∧ (devices ≠ [] → storable [job.templateName] = true ∧
        job.row.jobVariables.hasNul = false) ∧ ∀ d ∈ devices.zipIdx,
          storable [pushText (w.session d.2) d.1.2 (configLines text)] = true := by
  constructor
  · intro h
    exact ⟨h.rendered, h.repeated, fun d hd => h.pushes d.2 d.1 (List.mem_zipIdx_iff_getElem?.mp hd)⟩
  · rintro ⟨hrendered, hrepeated, hpushes⟩
    exact ⟨hrendered, hrepeated, fun n d hd =>
      hpushes (d, n) (List.mem_zipIdx_iff_getElem?.mpr hd)⟩

instance decidableNulFree (w : PushWorld) (job : LoadedJob) (text : String)
    (devices : List (DeviceId × Device)) : Decidable (NulFree w job text devices) :=
  decidable_of_iff _ nulFree_iff_zipIdx.symm

/-- The database takes both rows of the device numbered `n`. -/
def Accepted (w : PushWorld) (job : LoadedJob) (lines : List String) (n : ℕ)
    (device : DeviceId × Device) : Prop :=
  storable (pushResult w job lines n device).texts = true ∧
    (pushEntry w job lines n device).detail.hasNul = false

theorem storable_pushResult (w : PushWorld) (job : LoadedJob) (lines : List String) (n : ℕ)
    (device : DeviceId × Device) : storable (pushResult w job lines n device).texts =
      storable [pushText (w.session n) device.2 lines] := by
  unfold pushResult ProvisioningResult.texts pushText pushOutcome
  dsimp only
  cases pushConfig (w.session n) device.2 lines with
  | ok output => exact (storable_cons output [""]).trans (Bool.and_true _)
  | error exc =>
    dsimp only
    split
    · rfl
    · rw [storable_cons, storable_textAppend]
      rfl

theorem hasNul_pushEntry (w : PushWorld) (job : LoadedJob) (lines : List String) (n : ℕ)
    (device : DeviceId × Device) : (pushEntry w job lines n device).detail.hasNul =
      (!storable [job.templateName] || (job.row.jobVariables.hasNul ||
        !storable [(pushResult w job lines n device).error])) := by
  have hid : (Json.nat job.id).hasNul = false := rfl
  have hduration (x : Duration) : (durationJson x).hasNul = false := rfl
  simp [pushEntry, pushResult, Json.hasNul, Json.hasNulEntries, storable, hid, hduration,
    Json.isNul]

theorem accepted_iff (w : PushWorld) (job : LoadedJob) (lines : List String) (n : ℕ)
    (device : DeviceId × Device) : Accepted w job lines n device ↔
      (storable [job.templateName] = true ∧ job.row.jobVariables.hasNul = false) ∧
        storable [pushText (w.session n) device.2 lines] = true := by
  rw [Accepted, hasNul_pushEntry, ← storable_pushResult w job]
  have herror : storable (pushResult w job lines n device).texts = true →
      storable [(pushResult w job lines n device).error] = true := by
    rw [ProvisioningResult.texts, storable_cons, Bool.and_eq_true]
    exact And.right
  constructor
  · rintro ⟨hresult, hentry⟩
    simpa [herror hresult, hresult] using hentry
  · rintro ⟨⟨hname, hvars⟩, hresult⟩
    simp [herror hresult, hresult, hname, hvars]

/-- The database takes the rows of all devices, the first of which is numbered `n`. -/
def AllAccepted (w : PushWorld) (job : LoadedJob) (lines : List String) (n : ℕ)
    (devices : List (DeviceId × Device)) : Prop :=
  ∀ k d, devices[k]? = some d → Accepted w job lines (n + k) d

theorem allAccepted_cons {w : PushWorld} {job : LoadedJob} {lines : List String} {n : ℕ}
    {d : DeviceId × Device} {ds : List (DeviceId × Device)} :
    AllAccepted w job lines n (d :: ds) ↔
      Accepted w job lines n d ∧ AllAccepted w job lines (n + 1) ds := by
  constructor
  · intro h
    refine ⟨h 0 d rfl, fun k e he => ?_⟩
    have hk := h (k + 1) e he
    rwa [← Nat.add_assoc, Nat.add_right_comm] at hk
  · rintro ⟨hd, hds⟩ k e he
    cases k with
    | zero => exact Option.some.inj he ▸ hd
    | succ k =>
      have hk := hds k e he
      rwa [Nat.add_right_comm] at hk

theorem nulFree_iff {w : PushWorld} {job : LoadedJob} {text : String}
    {devices : List (DeviceId × Device)} : NulFree w job text devices ↔
      storable [text] = true ∧ AllAccepted w job (configLines text) 0 devices := by
  simp only [AllAccepted, Nat.zero_add, accepted_iff]
  constructor
  · intro h
    refine ⟨h.rendered, fun k d hd => ⟨h.repeated ?_, h.pushes k d hd⟩⟩
    rintro rfl
    cases hd
  · rintro ⟨hrendered, hall⟩
    refine ⟨hrendered, fun hne => ?_, fun k d hd => (hall k d hd).2⟩
    obtain ⟨d, ds, rfl⟩ := List.exists_cons_of_ne_nil hne
    exact (hall 0 d rfl).1

/-! ### The device loop -/

/-- `db'` has the jobs and the users of `db`, and its devices but for the deleted ones. -/
structure After (ids : List DeviceId) (db db' : Platform) : Prop where
  jobs : db'.provisioningJobs = db.provisioningJobs
  users : db'.users = db.users
  devices : ∀ d, refersTo db'.devices d = (refersTo db.devices d && !ids.contains d)

theorem after_deleteDevices (ids : List DeviceId) (db : Platform) :
    After ids db (deleteDevices ids db) where
  jobs := by simp
  users := by simp
  devices := refersTo_deleteDevices ids db

theorem After.trans {ids ids' : List DeviceId} {db db' db'' : Platform} (h : After ids db db')
    (h' : After ids' db' db'') : After (ids ++ ids') db db'' where
  jobs := h'.jobs.trans h.jobs
  users := h'.users.trans h.users
  devices d := by
    rw [h'.devices, h.devices, List.contains_append, Bool.not_or, Bool.and_assoc]

variable {β : Type}

def withResult (r : ProvisioningResult) (db : Platform) : Platform :=
  { db with provisioningResults := db.provisioningResults.insert r }

def withAudit (a : AuditLog) (db : Platform) : Platform :=
  { db with auditLogs := db.auditLogs.insert a }

theorem after_withResult (r : ProvisioningResult) (ids : List DeviceId) (db : Platform) :
    After ids db (withResult r (deleteDevices ids db)) :=
  ⟨deleteDevices_provisioningJobs ids db, deleteDevices_users ids db, refersTo_deleteDevices ids db⟩

theorem after_withAudit (a : AuditLog) (ids : List DeviceId) (db : Platform) :
    After ids db (withAudit a (deleteDevices ids db)) :=
  ⟨deleteDevices_provisioningJobs ids db, deleteDevices_users ids db, refersTo_deleteDevices ids db⟩

/-- A result is inserted when its device stays and its texts can be stored. -/
theorem runWith_createResult (r : ProvisioningResult) (f : ℕ → Statement β)
    (dels : ℕ → List DeviceId) {db : Platform} (hjob : refersTo db.provisioningJobs r.job = true) :
    let db' := deleteDevices (dels 0) db
    if (refersTo db.devices r.device = true ∧ r.device ∉ dels 0) ∧ storable r.texts = true then
      (ProvisioningResult.create r >>= f).runWith (fun i => deleteDevices (dels i)) db =
        (f db'.provisioningResults.nextId).runWith (fun i => deleteDevices (dels (i + 1)))
          (withResult r db')
    else ∃ e, (ProvisioningResult.create r >>= f).runWith (fun i => deleteDevices (dels i)) db =
      (.error e, db') := by
  have hjob' : refersTo (deleteDevices (dels 0) db).provisioningJobs r.job = true := by simpa
  rw [ProvisioningResult.create, runWith_insertRow_bind, hjob', refersTo_deleteDevices]
  cases storable r.texts with
  | false => simp [require_false, error_bind]
  | true =>
    cases hd : refersTo db.devices r.device with
    | false => simp
    | true => by_cases hgone : r.device ∈ dels 0 <;> simp [hgone, withResult]

theorem runWith_createAudit (a : AuditLog) (f : ℕ → Statement β) (dels : ℕ → List DeviceId)
    {db : Platform} {d : DeviceId} (ha : a.device = some d)
    (hactor : refersToOrNull db.users a.actor = true) :
    let db' := deleteDevices (dels 0) db
    if (refersTo db.devices d = true ∧ d ∉ dels 0) ∧ a.detail.hasNul = false then
      (AuditLog.create a >>= f).runWith (fun i => deleteDevices (dels i)) db =
        (f db'.auditLogs.nextId).runWith (fun i => deleteDevices (dels (i + 1))) (withAudit a db')
    else ∃ e, (AuditLog.create a >>= f).runWith (fun i => deleteDevices (dels i)) db =
      (.error e, db') := by
  have hactor' : refersToOrNull (deleteDevices (dels 0) db).users a.actor = true := by simpa
  rw [AuditLog.create, runWith_insertRow_bind, hactor', ha, refersToOrNull_some,
    refersTo_deleteDevices]
  cases a.detail.hasNul with
  | true => simp
  | false =>
    cases hd : refersTo db.devices d with
    | false => simp
    | true => by_cases hgone : d ∈ dels 0 <;> simp [hgone, withAudit]

/-- The store the loop runs over has the job, and the actor of its audit entries. -/
structure Ready (job : LoadedJob) (db : Platform) : Prop where
  job_exists : refersTo db.provisioningJobs job.id = true
  actor_exists : refersToOrNull db.users job.initiatedBy = true

theorem Ready.after {job : LoadedJob} {ids : List DeviceId} {db db' : Platform}
    (h : Ready job db) (hafter : After ids db db') : Ready job db' where
  job_exists := by rw [hafter.jobs, h.job_exists]
  actor_exists := by rw [hafter.users, h.actor_exists]

/-- The device is there for the next two statements, before which `dels 0` and `dels 1` go. -/
def Stays (dels : ℕ → List DeviceId) (db : Platform) (d : DeviceId) : Prop :=
  refersTo db.devices d = true ∧ d ∉ dels 0 ∧ d ∉ dels 1

/-- One pass of the loop goes on exactly when its device stays until both rows are written and
the database takes them. -/
theorem runWith_pushDevice (w : PushWorld) {job : LoadedJob} (lines : List String) (n : ℕ)
    (device : DeviceId × Device) (f : Bool → Statement β) (dels : ℕ → List DeviceId)
    {db : Platform} (hready : Ready job db) :
    ∃ ids db', After ids db db' ∧
      (Stays dels db device.1 ∧ Accepted w job lines n device → ids = dels 0 ++ dels 1 ∧
        (pushDevice w job lines n device >>= f).runWith (fun i => deleteDevices (dels i)) db =
          (f (pushOutcome (w.session n) device.2 lines).1).runWith
            (fun i => deleteDevices (dels (i + 2))) db') ∧
      (¬(Stays dels db device.1 ∧ Accepted w job lines n device) → ∃ e,
        (pushDevice w job lines n device >>= f).runWith (fun i => deleteDevices (dels i)) db =
          (.error e, db')) := by
  have hafter := after_withResult (pushResult w job lines n device) (dels 0) db
  have hresult := runWith_createResult (pushResult w job lines n device)
    (fun _ => AuditLog.create (pushEntry w job lines n device) >>= fun _ =>
      f (pushOutcome (w.session n) device.2 lines).1) dels hready.job_exists
  have hentry := runWith_createAudit (d := device.1) (pushEntry w job lines n device)
    (fun _ => f (pushOutcome (w.session n) device.2 lines).1) (fun i => dels (i + 1)) rfl
    (hready.after hafter).actor_exists
  dsimp only at hresult hentry
  simp only [pushDevice_eq, Program.bind_assoc, ret_bind]
  split at hresult
  · rename_i h0
    split at hentry
    · rename_i h1
      refine ⟨dels 0 ++ dels 1, _, hafter.trans (after_withAudit _ (dels 1) _),
        fun _ => ⟨rfl, hresult.trans hentry⟩, fun h => absurd ?_ h⟩
      exact ⟨⟨h0.1.1, h0.1.2, h1.1.2⟩, h0.2, h1.2⟩
    · rename_i h1
      obtain ⟨e, hentry⟩ := hentry
      refine ⟨dels 0 ++ dels 1, _, hafter.trans (after_deleteDevices (dels 1) _), ?_,
        fun _ => ⟨e, hresult.trans hentry⟩⟩
      rintro ⟨⟨hd, hd0, hd1⟩, -, hdetail⟩
      have hthere : refersTo (withResult (pushResult w job lines n device)
          (deleteDevices (dels 0) db)).devices device.1 = true := by
        rw [hafter.devices, hd]
        simpa using hd0
      exact absurd ⟨⟨hthere, hd1⟩, hdetail⟩ h1
  · rename_i h0
    obtain ⟨e, hresult⟩ := hresult
    refine ⟨dels 0, _, after_deleteDevices (dels 0) db, fun h => absurd ?_ h0,
      fun _ => ⟨e, hresult⟩⟩
    exact ⟨⟨h.1.1, h.1.2.1⟩, h.2.1⟩

/-! ### The whole loop -/

/-- The devices of the loop each stay until both of their rows are written; the device
numbered `k` has them written by the loop's statements `2 * k` and `2 * k + 1`. -/
def AllStay (dels : ℕ → List DeviceId) (db : Platform) (devices : List (DeviceId × Device)) :
    Prop :=
  ∀ k d, devices[k]? = some d → refersTo db.devices d.1 = true ∧ ∀ i ≤ 2 * k + 1, d.1 ∉ dels i

theorem allStay_cons {dels : ℕ → List DeviceId} {db db' : Platform} {d : DeviceId × Device}
    {ds : List (DeviceId × Device)} (h : After (dels 0 ++ dels 1) db db') :
    AllStay dels db (d :: ds) ↔ Stays dels db d.1 ∧
      AllStay (fun i => dels (i + 2)) db' ds := by
  constructor
  · intro hall
    have h0 := hall 0 d rfl
    refine ⟨⟨h0.1, h0.2 0 (by omega), h0.2 1 (by omega)⟩, fun k e he => ?_⟩
    have hk := hall (k + 1) e he
    refine ⟨?_, fun i hi => hk.2 (i + 2) (by omega)⟩
    simp [h.devices, hk.1, hk.2 0 (by omega), hk.2 1 (by omega)]
  · rintro ⟨⟨hd, hd0, hd1⟩, hall⟩ k e he
    cases k with
    | zero =>
      obtain rfl : d = e := by simpa using he
      refine ⟨hd, fun i hi => ?_⟩
      obtain rfl | rfl : i = 0 ∨ i = 1 := by omega
      · exact hd0
      · exact hd1
    | succ k =>
      obtain ⟨hpres, hstay⟩ := hall k e he
      rw [h.devices] at hpres
      simp only [List.contains_eq_mem, List.mem_append, Bool.and_eq_true, Bool.not_eq_true',
        decide_eq_false_iff_not, not_or] at hpres
      refine ⟨hpres.1, fun i hi => ?_⟩
      match i with
      | 0 => exact hpres.2.1
      | 1 => exact hpres.2.2
      | i + 2 => exact hstay i (by omega)

/-- The flags the loop returns when nothing stops it. -/
def pushFlags (w : PushWorld) (lines : List String) : ℕ → List (DeviceId × Device) → List Bool
  | _, [] => []
  | n, d :: ds => (pushOutcome (w.session n) d.2 lines).1 :: pushFlags w lines (n + 1) ds

theorem runWith_pushDevices (w : PushWorld) {job : LoadedJob} (lines : List String) (n : ℕ)
    (devices : List (DeviceId × Device)) (f : List Bool → Statement β)
    (dels : ℕ → List DeviceId) {db : Platform} (hready : Ready job db) :
    ∃ ids db', After ids db db' ∧
      (AllStay dels db devices ∧ AllAccepted w job lines n devices →
        (pushDevices w job lines n devices >>= f).runWith (fun i => deleteDevices (dels i)) db =
          (f (pushFlags w lines n devices)).runWith
            (fun i => deleteDevices (dels (i + 2 * devices.length))) db') ∧
      (¬(AllStay dels db devices ∧ AllAccepted w job lines n devices) → ∃ e,
        (pushDevices w job lines n devices >>= f).runWith (fun i => deleteDevices (dels i)) db =
          (.error e, db')) := by
  induction devices generalizing n f dels db with
  | nil =>
    exact ⟨[], db, ⟨rfl, rfl, by simp⟩, fun _ => rfl,
      fun h => absurd (by simp [AllStay, AllAccepted]) h⟩
  | cons d ds ih =>
    simp only [pushDevices, bind_assoc]
    obtain ⟨ids, db₁, hafter, hgo, hstop⟩ := runWith_pushDevice w lines n d
      (fun success => pushDevices w job lines (n + 1) ds >>= fun successes =>
        f (success :: successes)) dels hready
    by_cases hpass : Stays dels db d.1 ∧ Accepted w job lines n d
    · obtain ⟨rfl, hrun⟩ := hgo hpass
      obtain ⟨ids', db', hafter', hall, hstop'⟩ := ih (n + 1)
        (fun successes => f ((pushOutcome (w.session n) d.2 lines).1 :: successes))
        (fun i => dels (i + 2)) (hready.after hafter)
      refine ⟨_, db', hafter.trans hafter', fun h => ?_, fun h => ?_⟩
      · have hlen : (fun i => deleteDevices (dels (i + 2 * (d :: ds).length))) =
            fun i => deleteDevices (dels (i + 2 * ds.length + 2)) := by
          funext i
          rw [List.length_cons, Nat.mul_succ, Nat.add_assoc]
        rw [hlen]
        exact hrun.trans (hall ⟨((allStay_cons hafter).mp h.1).2, (allAccepted_cons.mp h.2).2⟩)
      · have htail : ¬(AllStay (fun i => dels (i + 2)) db₁ ds ∧
            AllAccepted w job lines (n + 1) ds) := fun ht =>
          h ⟨(allStay_cons hafter).mpr ⟨hpass.1, ht.1⟩, allAccepted_cons.mpr ⟨hpass.2, ht.2⟩⟩
        obtain ⟨e, hrest⟩ := hstop' htail
        exact ⟨e, hrun.trans hrest⟩
    · refine ⟨ids, db₁, hafter, fun h => absurd ?_ hpass, fun _ => hstop hpass⟩
      have h0 := h.1 0 d rfl
      exact ⟨⟨h0.1, h0.2 0 (by omega), h0.2 1 (by omega)⟩, (allAccepted_cons.mp h.2).1⟩

/-! ### The whole task -/

/-- The job has a terminal status and a completion time. -/
def Terminal (db : Platform) (jobId : ProvisioningJobId) : Prop :=
  (db.provisioningJobs.get? jobId).any
    (fun row => row.status.isTerminal && row.completedAt.isSome) = true

theorem finalStatus_isTerminal (successes total : ℕ) :
    (finalStatus successes total).isTerminal = true := by
  unfold finalStatus
  split
  · rfl
  · split <;> rfl

/-- The template is there and renders as `text` with the variables of the job. -/
def Renders (jinja : Jinja) (db : Platform) (row : ProvisioningJob) (text : String) : Prop :=
  ∃ id template, row.template = some id ∧ db.configTemplates.get? id = some template ∧
    renderTemplate jinja template.body row.jobVariables = .ok text

/-- The job's devices at the moment the task reads them, its second statement. -/
def loadedDevices (dels : ℕ → List DeviceId) (jobId : ProvisioningJobId) (db : Platform) :
    List (DeviceId × Device) :=
  jobDeviceRows jobId (deleteDevices (dels 1) (deleteDevices (dels 0) db))

/-- No device is deleted between that moment and the entry it gets in the audit log. -/
def DevicesStay (dels : ℕ → List DeviceId) (devices : List (DeviceId × Device)) : Prop :=
  ∀ k d, devices[k]? = some d → ∀ n, 2 ≤ n → n ≤ 2 * k + 5 → d.1 ∉ dels n

/-- The store when the loop starts, after the statements that set the job RUNNING and store
its rendered text. -/
def started (w : PushWorld) (jobId : ProvisioningJobId) (text : String)
    (dels : ℕ → List DeviceId) (db : Platform) : Platform :=
  let loaded := deleteDevices (dels 2) (deleteDevices (dels 1) (deleteDevices (dels 0) db))
  let running : Platform := { loaded with
    provisioningJobs := loaded.provisioningJobs.update jobId (fun row =>
      { row with status := .running, startedAt := some (w.clock 0) }) }
  let read := deleteDevices (dels 3) running
  { read with
    provisioningJobs := read.provisioningJobs.update jobId (fun row =>
      { row with renderedConfig := text }) }

def loadedJob (jobId : ProvisioningJobId) (row : ProvisioningJob) (db : Platform) : LoadedJob :=
  ⟨jobId, row, row.template.bind db.configTemplates.get?,
    row.initiatedBy.filter (refersTo db.users)⟩

theorem renders_iff (jinja : Jinja) (jobId : ProvisioningJobId) (row : ProvisioningJob)
    (db : Platform) (text : String) :
    Renders jinja db row text ↔ renderJob jinja (loadedJob jobId row db) = .ok text := by
  unfold Renders renderJob loadedJob
  cases row.template with
  | none => simp
  | some id => cases ht : db.configTemplates.get? id <;> simp [ht]

/-- The last statement of the task. -/
def finishJob (w : PushWorld) (jobId : ProvisioningJobId) (results : List Bool) :
    Statement Json := do
  let total := results.length
  let successes := results.count true
  ProvisioningJob.save jobId (fun row =>
    { row with
      status := finalStatus successes total
      completedAt := some (w.clock (2 * total + 1)) })
  return .obj [("job_id", .nat jobId), ("total", .nat total), ("success", .nat successes),
    ("failed", .nat (total - successes))]

theorem runWith_job_save_bind (id : ProvisioningJobId) (set : ProvisioningJob → ProvisioningJob)
    (f : Unit → Statement β) (env : ℕ → Platform → Platform) {db : Platform}
    (h : refersTo (env 0 db).provisioningJobs id = true) :
    (ProvisioningJob.save id set >>= f).runWith env db =
      (f ()).runWith (fun i => env (i + 1)) { env 0 db with
        provisioningJobs := (env 0 db).provisioningJobs.update id set } := by
  obtain ⟨row, hrow⟩ := Option.isSome_iff_exists.mp h
  rw [ProvisioningJob.save, saveFields, runWith_statement_bind, hrow]

theorem run_job_save_bind (jobId : ProvisioningJobId) (set : ProvisioningJob → ProvisioningJob)
    (f : Unit → Statement β) {db : Platform} (h : refersTo db.provisioningJobs jobId = true) :
    (ProvisioningJob.save jobId set >>= f).run db =
      (f ()).run { db with provisioningJobs := db.provisioningJobs.update jobId set } := by
  rw [← runWith_id, runWith_job_save_bind jobId set f _ h, runWith_id]
  rfl

theorem run_saveRendered_bind (jobId : ProvisioningJobId) (text : String) (f : Unit → Statement β)
    {db : Platform} (h : refersTo db.provisioningJobs jobId = true) :
    (ProvisioningJob.saveRendered jobId text >>= f).run db =
      if storable [text] then
        (f ()).run { db with provisioningJobs := db.provisioningJobs.update jobId fun row =>
          { row with renderedConfig := text } }
      else (.error nulTextError, db) := by
  rw [ProvisioningJob.saveRendered, Program.bind_assoc]
  cases storable [text] with
  | false => rfl
  | true =>
    rw [require_true, Program.ofExcept_ok, Program.ret_bind, run_job_save_bind _ _ _ h, if_pos rfl]

/-- The rendered text of the job, when the database takes it. -/
def storedText (jinja : Jinja) (job : LoadedJob) : Except Exn String := do
  let text ← renderJob jinja job
  require (storable [text]) nulTextError
  return text

theorem storedText_eq_ok_iff {jinja : Jinja} {job : LoadedJob} {text : String} :
    storedText jinja job = .ok text ↔ renderJob jinja job = .ok text ∧ storable [text] = true := by
  unfold storedText
  cases renderJob jinja job with
  | error e => simp
  | ok r =>
    rw [ok_bind, Except.ok.injEq]
    constructor
    · intro h
      obtain ⟨_, hstorable, htext⟩ := ok_of_bind h
      obtain rfl := Except.ok.inj htext
      exact ⟨rfl, require_eq_ok hstorable⟩
    · rintro ⟨rfl, hstorable⟩
      rw [hstorable]
      rfl

/-- The task up to the moment its rendered text is stored. -/
theorem runWith_executeProvisioningJob (w : PushWorld) {jobId : ProvisioningJobId}
    (dels : ℕ → List DeviceId) {db : Platform} {row : ProvisioningJob}
    (hrow : db.provisioningJobs.get? jobId = some row) :
    ∃ db', (executeProvisioningJob w jobId).runWith (fun i => deleteDevices (dels i)) db =
        (match storedText w.jinja (loadedJob jobId row db) with
        | .ok text =>
          (pushDevices w (loadedJob jobId row db) (configLines text) 0
            (loadedDevices dels jobId db) >>= finishJob w jobId).runWith
              (fun i => deleteDevices (dels (i + 4))) (started w jobId text dels db)
        | .error e => (.error e, db')) ∧
      db'.provisioningJobs.get? jobId =
        some { row with status := .running, startedAt := some (w.clock 0) } := by
  unfold executeProvisioningJob loadJob
  rw [runWith_statement_bind]
  simp only [deleteDevices_provisioningJobs, hrow, deleteDevices_configTemplates,
    deleteDevices_users, query_bind, runWith_stmt, id_eq]
  rw [runWith_job_save_bind]
  case h => simpa using refersTo_of_get? hrow
  change ∃ db', Program.runWith _
    (Program.ofExcept (renderJob w.jinja (loadedJob jobId row db)) >>= _) _ = _ ∧ _
  unfold storedText
  cases renderJob w.jinja (loadedJob jobId row db) with
  | error e =>
    refine ⟨_, rfl, ?_⟩
    simp [hrow]
  | ok text =>
    rw [ofExcept_ok, ret_bind, ok_bind, ProvisioningJob.saveRendered]
    cases storable [text] with
    | false =>
      refine ⟨_, rfl, ?_⟩
      simp [hrow]
    | true =>
      refine ⟨{ db with provisioningJobs := db.provisioningJobs.update jobId fun row =>
        { row with status := .running, startedAt := some (w.clock 0) } }, ?_, by simp [hrow]⟩
      rw [require_true, ofExcept_ok, ret_bind, runWith_job_save_bind]
      case h => simpa [refersTo] using Option.isSome_of_eq_some hrow
      rfl

theorem ready_started (w : PushWorld) {jobId : ProvisioningJobId} (text : String)
    (dels : ℕ → List DeviceId) {db : Platform} {row : ProvisioningJob}
    (hrow : db.provisioningJobs.get? jobId = some row) :
    Ready (loadedJob jobId row db) (started w jobId text dels db) where
  job_exists := by simp [refersTo, started, loadedJob, hrow]
  actor_exists := by
    simp only [loadedJob, started, deleteDevices_users]
    cases row.initiatedBy with
    | none => rfl
    | some u => cases h : refersTo db.users u <;> simp [Option.filter, h]

theorem started_get? (w : PushWorld) {jobId : ProvisioningJobId} (text : String)
    (dels : ℕ → List DeviceId) {db : Platform} {row : ProvisioningJob}
    (hrow : db.provisioningJobs.get? jobId = some row) :
    (started w jobId text dels db).provisioningJobs.get? jobId = some { row with
      status := .running, startedAt := some (w.clock 0), renderedConfig := text } := by
  simp [started, hrow]

/-- The devices that were loaded are there, and no one is deleted before the loop. -/
theorem allStay_started_iff (w : PushWorld) (jobId : ProvisioningJobId) (text : String)
    (dels : ℕ → List DeviceId) (db : Platform) :
    AllStay (fun i => dels (i + 4)) (started w jobId text dels db) (loadedDevices dels jobId db) ↔
      DevicesStay dels (loadedDevices dels jobId db) := by
  have hpresent : ∀ (k : ℕ) (d : DeviceId × Device), (loadedDevices dels jobId db)[k]? = some d →
      refersTo (deleteDevices (dels 1) (deleteDevices (dels 0) db)).devices d.1 = true := by
    intro k d hk
    have hmem := (List.perm_insertionSort _ _).mem_iff.mp (List.mem_of_getElem? hk)
    exact refersTo_of_get? ((Table.mem_select _ _ d.1 d.2).mp hmem).1
  have hstarted : ∀ d, refersTo (started w jobId text dels db).devices d =
      (refersTo (deleteDevices (dels 1) (deleteDevices (dels 0) db)).devices d &&
        !(dels 2).contains d && !(dels 3).contains d) := by
    intro d
    simp only [started, refersTo_deleteDevices]
  refine forall_congr' fun k => forall_congr' fun d => imp_congr_right fun hk => ?_
  rw [hstarted, hpresent k d hk]
  simp only [Bool.true_and, Bool.and_eq_true, Bool.not_eq_true', List.contains_eq_mem,
    decide_eq_false_iff_not]
  constructor
  · rintro ⟨⟨h2, h3⟩, hlater⟩ n hn hle
    match n with
    | 2 => exact h2
    | 3 => exact h3
    | n + 4 => exact hlater n (by omega)
  · intro h
    exact ⟨⟨h 2 (by omega) (by omega), h 3 (by omega) (by omega)⟩,
      fun i hi => h (i + 4) (by omega) (by omega)⟩

theorem terminal_finishJob (w : PushWorld) {jobId : ProvisioningJobId} (results : List Bool)
    (dels : ℕ → List DeviceId) {db : Platform}
    (hjob : refersTo db.provisioningJobs jobId = true) :
    Terminal ((finishJob w jobId results).runWith (fun i => deleteDevices (dels i)) db).2
      jobId := by
  obtain ⟨row, hrow⟩ := Option.isSome_iff_exists.mp hjob
  unfold finishJob
  rw [runWith_job_save_bind]
  case h => simpa using hjob
  simp [Terminal, hrow, finalStatus_isTerminal]

theorem not_terminal_of_running {db : Platform} {jobId : ProvisioningJobId} {row : ProvisioningJob}
    (hrow : db.provisioningJobs.get? jobId = some row) (hstatus : row.status = .running) :
    ¬ Terminal db jobId := by
  simp [Terminal, hrow, hstatus, JobStatus.isTerminal]

/-- A job ends in a terminal status exactly when its template is there and renders, no text that
is to be stored has a NUL character, and no loaded device is deleted before its audit entry is
written: every other run leaves an exception behind and the job RUNNING. -/
theorem executeProvisioningJob_terminal_iff (w : PushWorld) (jobId : ProvisioningJobId)
    (dels : ℕ → List DeviceId) (db : Platform) (row : ProvisioningJob)
    (hrow : db.provisioningJobs.get? jobId = some row) :
    Terminal ((executeProvisioningJob w jobId).runWith (fun n => deleteDevices (dels n)) db).2
        jobId ↔
      (∃ text, Renders w.jinja db row text ∧
        NulFree w (loadedJob jobId row db) text (loadedDevices dels jobId db)) ∧
      DevicesStay dels (loadedDevices dels jobId db) := by
  obtain ⟨db', hrun, hstore⟩ := runWith_executeProvisioningJob w dels hrow
  have hcondition : (∃ text, Renders w.jinja db row text ∧
      NulFree w (loadedJob jobId row db) text (loadedDevices dels jobId db)) ↔
        ∃ text, storedText w.jinja (loadedJob jobId row db) = .ok text ∧
          AllAccepted w (loadedJob jobId row db) (configLines text) 0
            (loadedDevices dels jobId db) := by
    simp only [renders_iff w.jinja jobId, nulFree_iff, storedText_eq_ok_iff, and_assoc]
  rw [hrun, hcondition]
  cases htext : storedText w.jinja (loadedJob jobId row db) with
  | error e => simpa using not_terminal_of_running hstore rfl
  | ok text =>
    have hready := ready_started w text dels hrow
    obtain ⟨ids, db'', hafter, hall, hstop⟩ := runWith_pushDevices w (configLines text) 0
      (loadedDevices dels jobId db) (finishJob w jobId) (fun i => dels (i + 4)) hready
    simp only [Except.ok.injEq, exists_eq_left', ← allStay_started_iff w jobId text dels db]
    rw [and_comm]
    by_cases hpass : AllStay (fun i => dels (i + 4)) (started w jobId text dels db)
        (loadedDevices dels jobId db) ∧ AllAccepted w (loadedJob jobId row db) (configLines text) 0
          (loadedDevices dels jobId db)
    · rw [hall hpass]
      exact iff_of_true (terminal_finishJob w _ _ (hready.after hafter).job_exists) hpass
    · obtain ⟨e, hstop⟩ := hstop hpass
      rw [hstop]
      have hrunning := (congrArg (·.get? jobId) hafter.jobs).trans (started_get? w text dels hrow)
      exact iff_of_false (not_terminal_of_running hrunning rfl) hpass

/-- A world in which every template renders and every push succeeds. -/
def PushWorld.calm : PushWorld where
  jinja _ := .ok (fun _ => .ok "hostname r1")
  session _ := .answering "ok"
  clock n := n
  duration _ := 1

/-- The small platform with a template, and a job that pushes it to the device. -/
def labJob : Platform := { lab with
  configTemplates := Table.empty.insert {
    name := "base", body := "hostname r1", createdAt := 0, updatedAt := 0 }
  provisioningJobs := Table.empty.insert { template := some 1, createdAt := 0 }
  jobDevices := [(1, 1)] }

/-- A device that is deleted after its audit entry does not keep the job from its end. -/
theorem labJob_terminal :
    Terminal ((executeProvisioningJob .calm 1).runWith
      (fun n => deleteDevices (if n = 6 then [1] else [])) labJob).2 1 := by
  refine (executeProvisioningJob_terminal_iff .calm 1 (fun n => if n = 6 then [1] else []) labJob
    { template := some 1, createdAt := 0 } rfl).mpr
      ⟨⟨"hostname r1", ⟨1, _, rfl, rfl, rfl⟩, by decide +kernel⟩, ?_⟩
  intro k d hk n hn hle
  have hdevices :
      loadedDevices (fun n => if n = 6 then [1] else []) 1 labJob = [(1, labDevice)] := rfl
  rw [hdevices] at hk
  obtain ⟨hk, -⟩ := List.getElem?_eq_some_iff.mp hk
  obtain rfl : k = 0 := by simpa using hk
  have hne : n ≠ 6 := by omega
  simp [hne]

/-- A job whose template was deleted stays RUNNING. -/
theorem not_terminal_without_template :
    ¬ ∀ (w : PushWorld) (jobId : ProvisioningJobId) (dels : ℕ → List DeviceId) (db : Platform)
      (row : ProvisioningJob), db.provisioningJobs.get? jobId = some row →
      Terminal ((executeProvisioningJob w jobId).runWith (fun n => deleteDevices (dels n)) db).2
        jobId := by
  intro h
  have hterminal := h .calm 1 (fun _ => []) { lab with
    provisioningJobs := Table.empty.insert { template := none, createdAt := 0 } } _ rfl
  exact not_terminal_of_running rfl rfl hterminal

end DevSecOpsPlatform.ProvisioningTasks
