import DevSecOpsPlatform.LoggedPrograms
import DevSecOpsPlatform.PlatformChanges
import DevSecOpsPlatform.ProvisioningTaskRuns
import Mathlib.Data.List.Induction

/-!
# What the deliveries of a job send to the devices

A delivery of the message that executes a job is a run of `executeProvisioningJob`, with a
statement before each result that records in a log what reached the device. Without that
log it is the task, statement by statement. `Turn` lists what each statement of a delivery
can do, given the statements before it.
-/

namespace DevSecOpsPlatform.JobDeliveries

open KeyedTables StatementPrograms PlatformModels PlatformStore PythonValues NetmikoSessions
open ProvisioningTasks ProgramInterleaving PlatformOperations PlatformChanges

/-- A configuration that was sent over an open connection. -/
structure Push where
  job : ProvisioningJobId
  device : DeviceId
  params : SshParams
  lines : List String

abbrev Recorded := Platform × List Push

abbrev Delivery (α : Type) := Program Recorded Exn α

/-- What reaches the device: nothing unless the connection opens. -/
def sent (session : SshSession) (job : LoadedJob) (device : DeviceId × Device)
    (lines : List String) : List Push :=
  match session.connectHandler (buildParams device.2) with
  | .ok _ => [⟨job.id, device.1, buildParams device.2, lines⟩]
  | .error _ => []

theorem sent_cases (session : SshSession) (job : LoadedJob) (device : DeviceId × Device)
    (lines : List String) : sent session job device lines = [] ∨ ∃ x,
      sent session job device lines = [x] ∧ x.job = job.id ∧ x.device = device.1 ∧
        x.lines = lines := by
  unfold sent
  split
  · exact .inr ⟨_, rfl, rfl, rfl, rfl⟩
  · exact .inl rfl

/-- The device loop of `executeProvisioningJob`, with its pushes recorded. -/
def deliverDevices (w : PushWorld) (job : LoadedJob) (lines : List String) :
    ℕ → List (DeviceId × Device) → Delivery (List Bool)
  | _, [] => return []
  | n, device :: devices => do
    Program.emit (sent (w.session n) job device lines)
    let success ← (pushDevice w job lines n device).logged
    let successes ← deliverDevices w job lines (n + 1) devices
    return success :: successes

/-- `executeProvisioningJob` with its pushes recorded. -/
def deliver (w : PushWorld) (jobId : ProvisioningJobId) : Delivery Json := do
  let job ← (loadJob jobId).logged
  let devices ← (Program.query (jobDeviceRows jobId)).logged
  (ProvisioningJob.save job.id (fun row =>
    { row with status := .running, startedAt := some (w.clock 0) })).logged
  let rendered ← Program.ofExcept (renderJob w.jinja job)
  (ProvisioningJob.saveRendered job.id rendered).logged
  let results ← deliverDevices w job (configLines rendered) 0 devices
  let total := results.length
  let successes := results.count true
  (ProvisioningJob.save job.id (fun row =>
    { row with
      status := finalStatus successes total
      completedAt := some (w.clock (2 * total + 1)) })).logged
  return .obj [("job_id", .nat jobId), ("total", .nat total), ("success", .nat successes),
    ("failed", .nat (total - successes))]

/-- The program of an operation, with the pushes of the deliveries recorded. -/
def recorded : Operation → Delivery Json
  | .executeProvisioningJob w jobId => deliver w jobId
  | o => o.program.logged

/-- The operations, each about to execute its first statement; nothing has been sent. -/
abbrev startRecorded (store : Platform) (operations : List Operation) :
    Pool Operation Recorded Exn Json := Pool.start recorded (store, []) operations

/-! ### The task behind a delivery -/

theorem erases_deliverDevices (w : PushWorld) (job : LoadedJob) (lines : List String) (n : ℕ)
    (devices : List (DeviceId × Device)) :
    (deliverDevices w job lines n devices).Erases (pushDevices w job lines n devices) := by
  induction devices generalizing n with
  | nil => exact .ret _
  | cons device devices ih =>
    refine Program.erases_emit_bind ((Program.erases_logged _).bind fun success => ?_)
    exact (ih (n + 1)).bind fun _ => .ret _

theorem erases_deliver (w : PushWorld) (jobId : ProvisioningJobId) :
    (deliver w jobId).Erases (executeProvisioningJob w jobId) := by
  refine (Program.erases_logged _).bind fun job => (Program.erases_logged _).bind fun devices => ?_
  refine (Program.erases_logged _).bind fun _ => (Program.erases_ofExcept _).bind fun rendered => ?_
  refine (Program.erases_logged _).bind fun _ => ?_
  refine (erases_deliverDevices w job _ 0 devices).bind fun results => ?_
  exact (Program.erases_logged _).bind fun _ => .ret _

theorem erases_recorded (o : Operation) : (recorded o).Erases o.program := by
  cases o with
  | executeProvisioningJob w jobId => exact erases_deliver w jobId
  | _ => exact Program.erases_logged _

/-- Without the log, a run with recorded pushes is a run of the same operations. -/
theorem store_run (store : Platform) (operations : List Operation) (schedule : List ℕ) :
    ∃ erased, erased.Sublist schedule ∧
      ((startAll store operations).run erased).store =
        ((startRecorded store operations).run schedule).store.1 := by
  obtain ⟨erased, hsub, hrun⟩ :=
    (Pool.erases_start erases_recorded store [] operations).run schedule
  exact ⟨erased, hsub, hrun.store⟩

/-! ### What each statement of a delivery does -/

/-- The job as the first statement of the history loaded it. -/
def jobLoaded (jobId : ProvisioningJobId) (h : History Recorded) : Option LoadedJob :=
  h[0]?.bind fun p =>
    (p.1.1.provisioningJobs.get? jobId).map fun row => loadedJob jobId row p.1.1

/-- The devices that its second statement loaded. -/
def devicesLoaded (jobId : ProvisioningJobId) (h : History Recorded) :
    List (DeviceId × Device) :=
  (h[1]?.map fun p => jobDeviceRows jobId p.1.1).getD []

/-- The delivery has loaded its job and its devices, and rendered the template. -/
structure Rendered (w : PushWorld) (jobId : ProvisioningJobId) (job : LoadedJob) (text : String)
    (h : History Recorded) : Prop where
  length : 2 ≤ h.length
  loaded : jobLoaded jobId h = some job
  renders : renderJob w.jinja job = .ok text

/-- What the statement after those of the history can do, except for the last one. -/
inductive Turn (w : PushWorld) (jobId : ProvisioningJobId) (h : History Recorded)
    (s : Recorded) : Recorded → Prop where
  | nothing : Turn w jobId h s s
  | running (hlength : h.length = 2) : Turn w jobId h s ({ s.1 with
      provisioningJobs := s.1.provisioningJobs.update jobId (fun row =>
        { row with status := .running, startedAt := some (w.clock 0) }) }, s.2)
  | rendered (hlength : h.length = 3) (text : String) : Turn w jobId h s ({ s.1 with
      provisioningJobs := s.1.provisioningJobs.update jobId (fun row =>
        { row with renderedConfig := text }) }, s.2)
  | push (n : ℕ) (job : LoadedJob) (text : String) (device : DeviceId × Device)
      (hlength : h.length = 4 + 3 * n) (hrendered : Rendered w jobId job text h)
      (hdevice : (devicesLoaded jobId h)[n]? = some device) :
      Turn w jobId h s (s.1, s.2 ++ sent (w.session n) job device (configLines text))
  | result (n : ℕ) (job : LoadedJob) (text : String) (device : DeviceId × Device)
      (hlength : h.length = 5 + 3 * n) (hrendered : Rendered w jobId job text h)
      (hdevice : (devicesLoaded jobId h)[n]? = some device) :
      Turn w jobId h s
        (withResult (pushResult w job (configLines text) n device) s.1, s.2)
  | audit (a : AuditLog) : Turn w jobId h s (withAudit a s.1, s.2)

/-- The last statement, with the status that the task computed. -/
def finished (w : PushWorld) (jobId : ProvisioningJobId) (successes total : ℕ) (s : Recorded) :
    Recorded :=
  ({ s.1 with
    provisioningJobs := s.1.provisioningJobs.update jobId (fun row => { row with
      status := finalStatus successes total
      completedAt := some (w.clock (2 * total + 1)) }) }, s.2)

/-- A delivery that returns finishes its job with its last statement; one that raises has
executed turns only. -/
def Ended (w : PushWorld) (jobId : ProvisioningJobId) (h : History Recorded) :
    Except Exn Json → Prop
  | .ok _ => ∃ g s successes total, h = g ++ [(s, finished w jobId successes total s)] ∧
      Follows (Turn w jobId) g
  | .error _ => Follows (Turn w jobId) h

variable {w : PushWorld} {jobId : ProvisioningJobId} {h : History Recorded}

theorem id_of_jobLoaded {job : LoadedJob} (hh : jobLoaded jobId h = some job) :
    job.id = jobId := by
  obtain ⟨p, -, hjob⟩ := Option.bind_eq_some_iff.mp hh
  obtain ⟨row, -, rfl⟩ := Option.map_eq_some_iff.mp hjob
  rfl

theorem jobLoaded_append (hlength : 1 ≤ h.length) (g : History Recorded) :
    jobLoaded jobId (h ++ g) = jobLoaded jobId h := by
  rw [jobLoaded, jobLoaded, List.getElem?_append_left hlength]

theorem devicesLoaded_append (hlength : 2 ≤ h.length) (g : History Recorded) :
    devicesLoaded jobId (h ++ g) = devicesLoaded jobId h := by
  rw [devicesLoaded, devicesLoaded, List.getElem?_append_left hlength]

theorem Rendered.append {job : LoadedJob} {text : String} (hh : Rendered w jobId job text h)
    (g : History Recorded) : Rendered w jobId job text (h ++ g) where
  length := Nat.le_trans hh.length (by simp)
  loaded := (jobLoaded_append (Nat.le_of_succ_le hh.length) g).trans hh.loaded
  renders := hh.renders

section

variable {α β : Type} {A : History Recorded → Recorded → Prop} {I : History Recorded → Prop}
  {P : History Recorded → Except Exn β → Prop}

theorem along_logged_insertRow_bind {ok : Platform → Except Exn Unit} {next : Platform → ℕ}
    {set : Platform → Platform} {g : ℕ → Delivery β} (hI : I h)
    (hok : ∀ s, (g (next s.1)).Along A I P (h ++ [(s, (set s.1, s.2))]))
    (herror : ∀ s e, P (h ++ [(s, s)]) (.error e)) :
    ((insertRow ok next set).logged >>= g).Along A I P h := by
  refine Program.along_logged_bind hI (fun s id db' _ hrun => ?_) (fun s e _ _ => herror s e)
  obtain ⟨rfl, rfl⟩ := eq_of_insertRow hrun
  exact hok s

theorem along_logged_saveFields_bind {rows : Platform → Table α}
    {setRows : Platform → Table α → Platform} {id : ℕ} {set : α → α} {g : Unit → Delivery β}
    (hI : I h)
    (hok : ∀ s, (g ()).Along A I P (h ++ [(s, (setRows s.1 ((rows s.1).update id set), s.2))]))
    (herror : ∀ s e, P (h ++ [(s, s)]) (.error e)) :
    ((saveFields rows setRows id set).logged >>= g).Along A I P h := by
  refine Program.along_logged_bind hI (fun s u db' _ hrun => ?_) (fun s e _ _ => herror s e)
  cases hget : (rows s.1).get? id with
  | none => simp [hget] at hrun
  | some a =>
    simp only [hget, Except.ok.injEq, Prod.mk.injEq, true_and] at hrun
    exact hrun ▸ hok s

/-- A text that the database does not take is refused without a statement. -/
theorem along_logged_saveRendered_bind {id : ProvisioningJobId} {text : String}
    {g : Unit → Delivery β} (hI : I h)
    (hok : ∀ s, (g ()).Along A I P (h ++ [(s, ({ s.1 with
      provisioningJobs := s.1.provisioningJobs.update id (fun row =>
        { row with renderedConfig := text }) }, s.2))]))
    (herror : ∀ s e, P (h ++ [(s, s)]) (.error e)) (hnul : P h (.error nulTextError)) :
    ((ProvisioningJob.saveRendered id text).logged >>= g).Along A I P h := by
  rw [ProvisioningJob.saveRendered]
  cases storable [text] with
  | false => exact hnul
  | true =>
    rw [require_true, Program.ofExcept_ok, Program.ret_bind]
    exact along_logged_saveFields_bind hI hok herror

end

/-- The loop over the devices from the one numbered `n` on. -/
theorem along_deliverDevices {job : LoadedJob} {text : String}
    (hrendered : Rendered w jobId job text h) (hturns : Follows (Turn w jobId) h)
    (n : ℕ) (devices : List (DeviceId × Device)) (hlength : h.length = 4 + 3 * n)
    (hdevices : (devicesLoaded jobId h).drop n = devices) :
    (deliverDevices w job (configLines text) n devices).Along Program.anyStore
      (Follows (Turn w jobId)) (fun g _ => Follows (Turn w jobId) g) h := by
  induction devices generalizing n h with
  | nil => exact hturns
  | cons device devices ih =>
    have hdevice : (devicesLoaded jobId h)[n]? = some device := by
      rw [← List.head?_drop, hdevices]
      rfl
    have hloaded (g : History Recorded) : devicesLoaded jobId (h ++ g) = devicesLoaded jobId h :=
      devicesLoaded_append hrendered.length g
    refine Program.along_emit_bind hturns fun s _ => ?_
    have hpush := hturns.snoc (s := s) (.push n job text device hlength hrendered hdevice)
    rw [pushDevice_eq]
    simp only [Program.logged_bind, Program.bind_assoc]
    refine along_logged_insertRow_bind hpush (fun s' => ?_) (fun s' e => hpush.snoc .nothing)
    have hresult := hpush.snoc (s := s') (.result n job text device (by simp [hlength]; omega)
      (hrendered.append _) (by rw [hloaded]; exact hdevice))
    refine along_logged_insertRow_bind hresult (fun s'' => ?_) (fun s'' e => hresult.snoc .nothing)
    have haudit := hresult.snoc (s := s'')
      (.audit (pushEntry w job (configLines text) n device))
    rw [List.append_assoc, List.append_assoc] at haudit ⊢
    refine (ih (hrendered.append _) haudit (n + 1) (by simp [hlength]; omega) ?_).bind
      (fun g flags hg => hg) (fun g e hg => hg)
    rw [hloaded, ← List.drop_drop, hdevices]
    rfl

/-- The loop and the last statement, once the template is rendered. -/
theorem along_finish {job : LoadedJob} {text : String} (hjob : job.id = jobId)
    (hrendered : Rendered w jobId job text h) (hturns : Follows (Turn w jobId) h)
    (hlength : h.length = 3) {devices : List (DeviceId × Device)}
    (hdevices : devicesLoaded jobId h = devices) :
    ((ProvisioningJob.saveRendered job.id text).logged >>=
      fun _ => deliverDevices w job (configLines text) 0 devices >>= fun results =>
        (ProvisioningJob.save job.id (fun row => { row with
          status := finalStatus (results.count true) results.length
          completedAt := some (w.clock (2 * results.length + 1)) })).logged >>= fun _ =>
            return .obj [("job_id", .nat jobId), ("total", .nat results.length),
              ("success", .nat (results.count true)),
              ("failed", .nat (results.length - results.count true))]).Along Program.anyStore
      (Follows (Turn w jobId)) (Ended w jobId) h := by
  subst hjob
  refine along_logged_saveRendered_bind hturns (fun s => ?_) (fun s e => hturns.snoc .nothing)
    hturns
  have hsaved := hturns.snoc (s := s) (.rendered hlength text)
  refine (along_deliverDevices (hrendered.append _) hsaved 0 devices (by simp [hlength]) ?_).bind
    (fun g results hg => ?_) (fun g e hg => hg)
  · rw [devicesLoaded_append hrendered.length]
    exact hdevices
  · refine along_logged_saveFields_bind hg (fun s' => ?_) (fun s' e => hg.snoc .nothing)
    exact ⟨g, s', results.count true, results.length, rfl, hg⟩

theorem along_deliver (w : PushWorld) (jobId : ProvisioningJobId) :
    (deliver w jobId).Along Program.anyStore (Follows (Turn w jobId)) (Ended w jobId) [] := by
  refine Program.along_logged_bind follows_nil (fun s job db _ hrun => ?_)
    (fun s e _ _ => follows_nil.snoc .nothing)
  cases hrow : s.1.provisioningJobs.get? jobId with
  | none => simp [hrow] at hrun
  | some row =>
    simp only [hrow, Except.ok.injEq, Prod.mk.injEq] at hrun
    obtain ⟨rfl, rfl⟩ := hrun
    have hloaded : Follows (Turn w jobId) [(s, s)] := follows_nil.snoc .nothing
    refine Program.along_logged_query_bind hloaded fun s' _ => ?_
    have hread := hloaded.snoc (s := s') .nothing
    refine along_logged_saveFields_bind hread (fun s'' => ?_) (fun s'' e => hread.snoc .nothing)
    have hrunning := hread.snoc (s := s'') (.running rfl)
    refine Program.along_ofExcept_bind (fun text htext => ?_) (fun e _ => hrunning)
    exact along_finish rfl ⟨by simp, by simp [jobLoaded, hrow, loadedJob], htext⟩ hrunning rfl rfl

/-! ### Runs -/

theorem writes_recorded (o : Operation) : (recorded o).Writes (fun s t => Effect o s.1 t.1 ∧
    ((∀ w jobId, o ≠ .executeProvisioningJob w jobId) → t.2 = s.2)) := by
  cases o with
  | executeProvisioningJob w jobId =>
    refine ((erases_deliver w jobId).writes (writes_execute w jobId)).mono fun s t heffect => ?_
    exact ⟨heffect, fun hother => absurd rfl (hother w jobId)⟩
  | _ => exact (writes_program _).logged.mono fun s t h => ⟨h.1, fun _ => h.2⟩

section

variable {store : Platform} {operations : List Operation}

theorem threads_startRecorded (store : Platform) {i : ℕ} {o : Operation}
    (h : operations[i]? = some o) :
    (startRecorded store operations).threads[i]? = some ⟨o, 0, recorded o⟩ := by
  simp [startRecorded, Pool.start, h]

/-- A step changes nothing, or has an effect of the operation of its thread, which writes
the log only if it is a delivery. -/
theorem step_recorded (store : Platform) (operations : List Operation) (done : List ℕ) (k : ℕ) :
    (((startRecorded store operations).run done).step k).store =
        ((startRecorded store operations).run done).store ∨
      ∃ o, operations[k]? = some o ∧
        Effect o ((startRecorded store operations).run done).store.1
          (((startRecorded store operations).run done).step k).store.1 ∧
        ((∀ w jobId, o ≠ .executeProvisioningJob w jobId) →
          (((startRecorded store operations).run done).step k).store.2 =
            ((startRecorded store operations).run done).store.2) := by
  have hstart : ∀ t ∈ (startRecorded store operations).threads, t.rest.Writes
      (fun s s' => Effect t.name s.1 s'.1 ∧
        ((∀ w jobId, t.name ≠ .executeProvisioningJob w jobId) → s'.2 = s.2)) := by
    intro t ht
    obtain ⟨o, -, rfl⟩ := List.mem_map.mp ht
    exact writes_recorded o
  obtain hs | ⟨t, hk, hstmt, hs⟩ := ((startRecorded store operations).run done).step_cases k
  · exact .inl (congrArg Pool.store hs)
  · obtain ⟨u, hu, hname⟩ := Pool.name_run hk
    obtain ⟨o, ho, rfl⟩ := Option.map_eq_some_iff.mp ((List.getElem?_map ..).symm.trans hu)
    refine .inr ⟨t.name, hname ▸ ho, ?_⟩
    rw [hs]
    exact (Pool.writes_run (R := fun (o : Operation) (s s' : Recorded) => Effect o s.1 s'.1 ∧
      ((∀ w jobId, o ≠ .executeProvisioningJob w jobId) → s'.2 = s.2)) hstart done t
        (List.mem_of_getElem? hk)).write hstmt _

/-- A step of a delivery is a turn, or the last statement of a delivery that has returned. -/
theorem turn_of_moves {k : ℕ} (hk : operations[k]? = some (.executeProvisioningJob w jobId))
    {done : List ℕ} (hmoves : ((startRecorded store operations).run done).Moves k) :
    Turn w jobId ((startRecorded store operations).history k done)
        ((startRecorded store operations).run done).store
        (((startRecorded store operations).run done).step k).store ∨
      ((startRecorded store operations).run (done ++ [k])).Returned k ∧
        ∃ successes total, (((startRecorded store operations).run done).step k).store =
          finished w jobId successes total ((startRecorded store operations).run done).store := by
  obtain ⟨t, ht, -, halong⟩ :=
    Pool.along_run (threads_startRecorded store hk) (along_deliver w jobId) (done ++ [k])
  rw [List.nil_append, Pool.history_concat, if_pos rfl, Pool.move_of_moves hmoves] at halong
  cases hrest : t.rest with
  | ret a =>
    rw [hrest] at halong
    obtain ⟨g, s, successes, total, heq, -⟩ := halong
    obtain ⟨-, hpair⟩ := List.append_inj' heq rfl
    obtain ⟨rfl, hfinished⟩ := Prod.mk.inj (List.singleton_inj.mp hpair)
    exact .inr ⟨⟨t, a, ht, hrest⟩, successes, total, hfinished⟩
  | raise e =>
    rw [hrest] at halong
    exact .inl (halong.last)
  | stmt write next =>
    rw [hrest] at halong
    exact .inl halong.1.last

/-- A step records at most one push, that of a delivery at a device of its loop. -/
theorem push_of_moves {k : ℕ} {done : List ℕ}
    (hmoves : ((startRecorded store operations).run done).Moves k) :
    ∃ entries : List Push, (((startRecorded store operations).run done).step k).store.2 =
        ((startRecorded store operations).run done).store.2 ++ entries ∧ entries.length ≤ 1 ∧
      ∀ x ∈ entries, ∃ w n job text device,
        operations[k]? = some (.executeProvisioningJob w x.job) ∧
        ((startRecorded store operations).history k done).length = 4 + 3 * n ∧
        Rendered w x.job job text ((startRecorded store operations).history k done) ∧
        (devicesLoaded x.job ((startRecorded store operations).history k done))[n]? =
          some device ∧ device.1 = x.device ∧ x.lines = configLines text := by
  have hnone {log log' : List Push} (h : log' = log) :
      ∃ entries : List Push, log' = log ++ entries ∧ entries.length ≤ 1 ∧
        ∀ x ∈ entries, ∃ w n job text device,
          operations[k]? = some (.executeProvisioningJob w x.job) ∧
          ((startRecorded store operations).history k done).length = 4 + 3 * n ∧
          Rendered w x.job job text ((startRecorded store operations).history k done) ∧
          (devicesLoaded x.job ((startRecorded store operations).history k done))[n]? =
            some device ∧ device.1 = x.device ∧ x.lines = configLines text :=
    ⟨[], by simp [h], Nat.zero_le 1, by simp⟩
  rcases step_recorded store operations done k with hs | ⟨o, ho, -, hlog⟩
  · exact hnone (congrArg Prod.snd hs)
  · by_cases hdelivery : ∃ w jobId, o = .executeProvisioningJob w jobId
    · obtain ⟨w, jobId, rfl⟩ := hdelivery
      rcases turn_of_moves ho hmoves with hturn | ⟨-, successes, total, hs⟩
      · generalize ((((startRecorded store operations).run done).step k).store) = t at hturn
        cases hturn with
        | push n job text device hlength hrendered hdevice =>
          rcases sent_cases (w.session n) job device (configLines text) with
            hsent | ⟨x, hsent, hjob, hd, hlines⟩
          · exact hnone (by simp [hsent])
          · obtain rfl : jobId = x.job := (id_of_jobLoaded hrendered.loaded).symm.trans hjob.symm
            refine ⟨[x], by simp [hsent], Nat.le_refl 1, fun y hy => ?_⟩
            obtain rfl := List.mem_singleton.mp hy
            exact ⟨w, n, job, text, device, ho, hlength, hrendered, hdevice, hd.symm, hlines⟩
        | _ => exact hnone rfl
      · rw [hs]
        exact hnone rfl
    · exact hnone (hlog fun w jobId heq => hdelivery ⟨w, jobId, heq⟩)

/-- A job stays, with its variables; its template may become null. -/
theorem job_run {jobId : ProvisioningJobId} (done later : List ℕ) {job : ProvisioningJob}
    (hjob : ((startRecorded store operations).run done).store.1.provisioningJobs.get? jobId =
      some job) :
    ∃ job', ((startRecorded store operations).run
        (done ++ later)).store.1.provisioningJobs.get? jobId = some job' ∧
      job'.jobVariables = job.jobVariables := by
  induction later using List.reverseRecOn with
  | nil => exact ⟨job, by simpa using hjob, rfl⟩
  | append_singleton later k ih =>
    obtain ⟨job', hjob', hvariables⟩ := ih
    rw [← List.append_assoc, Pool.run_append]
    rcases step_recorded store operations (done ++ later) k with hs | ⟨o, -, heffect, -⟩
    · rw [Pool.run_cons, Pool.run_nil, hs]
      exact ⟨job', hjob', hvariables⟩
    · obtain ⟨job'', hjob'', hvariables', -⟩ := job_of_effect heffect hjob'
      exact ⟨job'', hjob'', hvariables'.trans hvariables⟩

end

end DevSecOpsPlatform.JobDeliveries
