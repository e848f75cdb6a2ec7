import DevSecOpsPlatform.PlatformChanges
import DevSecOpsPlatform.ProvisioningTaskRuns

/-!
# The status of a job and its results

A job's status is computed from the flags of its device loop, and no other statement sets
it. Its results are the rows that the loop inserted, without those that went with a deleted
device. While no device with a result of the job is deleted, the two agree.
-/

namespace DevSecOpsPlatform.JobAgreement

open KeyedTables StatementPrograms PlatformModels PlatformStore PythonValues GuardedRuns
open NetmikoSessions ProvisioningTasks ProvisioningViews ProgramInterleaving PlatformOperations
open PlatformChanges

/-- The stored results of a job. -/
def jobResults (jobId : ProvisioningJobId) (db : Platform) : List (ℕ × ProvisioningResult) :=
  db.provisioningResults.select (fun _ r => r.job == jobId)

/-- The status says of the results what its name says. -/
structure Agrees (status : JobStatus) (results : List (ℕ × ProvisioningResult)) : Prop where
  success : status = .success ↔ ∀ r ∈ results, r.2.success = true
  failed : status = .failed ↔ ∀ r ∈ results, r.2.success = false
  partialSuccess : status = .partialSuccess ↔
    (∃ r ∈ results, r.2.success = true) ∧ ∃ r ∈ results, r.2.success = false

/-- The number of results that are successes. -/
def successes (results : List (ℕ × ProvisioningResult)) : ℕ :=
  (results.map (·.2.success)).count true

theorem successes_eq_length {results : List (ℕ × ProvisioningResult)} :
    successes results = results.length ↔ ∀ r ∈ results, r.2.success = true := by
  have hlength : results.length = (results.map (·.2.success)).length := by simp
  rw [successes, hlength, List.count_eq_length, List.forall_mem_map]
  exact forall₂_congr fun r _ => eq_comm

theorem successes_eq_zero {results : List (ℕ × ProvisioningResult)} :
    successes results = 0 ↔ ∀ r ∈ results, r.2.success = false := by
  rw [successes, List.count_eq_zero]
  simp

theorem finalStatus_cases (s t : ℕ) (ht : t ≠ 0) :
    (finalStatus s t = .success ∧ s = t ∧ s ≠ 0) ∨ (finalStatus s t = .failed ∧ s ≠ t ∧ s = 0) ∨
      (finalStatus s t = .partialSuccess ∧ s ≠ t ∧ s ≠ 0) := by
  unfold finalStatus
  by_cases hall : s = t
  · exact .inl ⟨if_pos hall, hall, hall ▸ ht⟩
  · by_cases hnone : s = 0
    · exact .inr (.inl ⟨by rw [if_neg hall, if_pos hnone], hall, hnone⟩)
    · exact .inr (.inr ⟨by rw [if_neg hall, if_neg hnone], hall, hnone⟩)

/-- The status that the task computes agrees with the flags it computes it from. -/
theorem agrees_finalStatus {results : List (ℕ × ProvisioningResult)} (hresults : results ≠ []) :
    Agrees (finalStatus (successes results) results.length) results := by
  have hpos : results.length ≠ 0 := fun h => hresults (List.length_eq_zero_iff.mp h)
  have hmixed : ((∃ r ∈ results, r.2.success = true) ∧ ∃ r ∈ results, r.2.success = false) ↔
      successes results ≠ 0 ∧ successes results ≠ results.length := by
    rw [Ne, Ne, successes_eq_length, successes_eq_zero]
    simp
  have hstatus := finalStatus_cases (successes results) results.length hpos
  constructor
  · rw [← successes_eq_length]
    rcases hstatus with ⟨h, hall, -⟩ | ⟨h, hall, -⟩ | ⟨h, hall, -⟩ <;>
      rw [h] <;> simp [hall]
  · rw [← successes_eq_zero]
    rcases hstatus with ⟨h, -, hnone⟩ | ⟨h, -, hnone⟩ | ⟨h, -, hnone⟩ <;>
      rw [h] <;> simp [hnone]
  · rw [hmixed]
    rcases hstatus with ⟨h, hall, hnone⟩ | ⟨h, hall, hnone⟩ | ⟨h, hall, hnone⟩ <;>
      rw [h] <;> simp [hall, hnone]

/-! ### What an execution does -/

/-- The results of the job that are stored after and were not before. -/
def newResults (jobId : ProvisioningJobId) (before after : Platform) :
    List (ℕ × ProvisioningResult) :=
  after.provisioningResults.select
    (fun k r => r.job == jobId && (before.provisioningResults.get? k).isNone)

/-- The results of the job that the statements of a history inserted. -/
def insertedResults (jobId : ProvisioningJobId) (h : History Platform) :
    List (ℕ × ProvisioningResult) :=
  h.flatMap (fun p => newResults jobId p.1 p.2)

theorem newResults_of_eq {jobId : ProvisioningJobId} {db db' : Platform}
    (h : db'.provisioningResults = db.provisioningResults) : newResults jobId db db' = [] := by
  rw [newResults, h]
  exact Table.select_eq_nil.mpr fun id a ha => by simp [ha]

theorem insertedResults_of_eq {jobId : ProvisioningJobId} (h : History Platform)
    {db db' : Platform} (hdb : db'.provisioningResults = db.provisioningResults) :
    insertedResults jobId (h ++ [(db, db')]) = insertedResults jobId h := by
  simp [insertedResults, newResults_of_eq hdb]

theorem insertedResults_insert {jobId : ProvisioningJobId} (h : History Platform) (db : Platform)
    (r : ProvisioningResult) (hr : r.job = jobId) :
    insertedResults jobId (h ++ [(db, withResult r db)]) =
      insertedResults jobId h ++ [(db.provisioningResults.nextId, r)] := by
  have hold : db.provisioningResults.select (fun k q => q.job == jobId &&
      (db.provisioningResults.get? k).isNone) = [] :=
    newResults_of_eq (rfl : db.provisioningResults = _)
  simp [insertedResults, newResults, withResult, Table.select_insert, hold, hr]

/-- The job has the status. -/
def StatusIs (jobId : ProvisioningJobId) (status : JobStatus) (db : Platform) : Prop :=
  ∃ job, db.provisioningJobs.get? jobId = some job ∧ job.status = status

/-- The job keeps its status. -/
def KeepsStatus (jobId : ProvisioningJobId) (db db' : Platform) : Prop :=
  ∀ status, StatusIs jobId status db → StatusIs jobId status db'

instance (jobId : ProvisioningJobId) : Std.Refl (KeepsStatus jobId) := ⟨fun _ _ h => h⟩

instance (jobId : ProvisioningJobId) : IsTrans Platform (KeepsStatus jobId) :=
  ⟨fun _ _ _ h h' status hs => h' status (h status hs)⟩

theorem keepsStatus_of_eq {jobId : ProvisioningJobId} {db db' : Platform}
    (h : db'.provisioningJobs = db.provisioningJobs) : KeepsStatus jobId db db' := by
  intro status hs
  unfold StatusIs
  rw [h]
  exact hs

theorem statusIs_update {jobId : ProvisioningJobId} {db : Platform} {job : ProvisioningJob}
    (hjob : db.provisioningJobs.get? jobId = some job) (set : ProvisioningJob → ProvisioningJob) :
    StatusIs jobId (set job).status
      { db with provisioningJobs := db.provisioningJobs.update jobId set } := by
  refine ⟨set job, ?_, rfl⟩
  rw [Table.get?_update_self, hjob]
  rfl

/-- The last statement of the history left the job with the status. -/
def LeftStatus (jobId : ProvisioningJobId) (status : JobStatus) (h : History Platform) : Prop :=
  ∃ p, h.getLast? = some p ∧ StatusIs jobId status p.2

theorem leftStatus_append {jobId : ProvisioningJobId} {status : JobStatus} (h : History Platform)
    (db : Platform) {db' : Platform} (hs : StatusIs jobId status db') :
    LeftStatus jobId status (h ++ [(db, db')]) := ⟨(db, db'), by simp, hs⟩

theorem LeftStatus.found {jobId : ProvisioningJobId} {status : JobStatus} {h : History Platform}
    (hleft : LeftStatus jobId status h) {db : Platform}
    (hdb : Program.asLeft (KeepsStatus jobId) h db) : StatusIs jobId status db := by
  obtain ⟨p, hp, hs⟩ := hleft
  exact hdb p hp status hs

/-- While it has inserted results and has not returned, an execution has left its job RUNNING. -/
def Executing (jobId : ProvisioningJobId) (h : History Platform) : Prop :=
  insertedResults jobId h = [] ∨ LeftStatus jobId .running h

/-- One device of the loop: its result is inserted and the job is still RUNNING. -/
theorem along_pushDevice (w : PushWorld) (job : LoadedJob) (lines : List String) (n : ℕ)
    (device : DeviceId × Device) {h : History Platform} (hh : LeftStatus job.id .running h) :
    (pushDevice w job lines n device).Along (Program.asLeft (KeepsStatus job.id))
      (Executing job.id) (fun g r => LeftStatus job.id .running g ∧ ∀ success, r = .ok success →
        (insertedResults job.id g).map (·.2.success) =
          (insertedResults job.id h).map (·.2.success) ++ [success]) h := by
  rw [pushDevice_eq]
  refine along_insertRow_bind (.inr hh) (fun db hdb => ?_) (fun db e hdb => ?_)
  · have hresult : LeftStatus job.id .running
        (h ++ [(db, withResult (pushResult w job lines n device) db)]) :=
      leftStatus_append h db (keepsStatus_of_eq rfl _ (hh.found hdb))
    refine along_insertRow_bind (.inr hresult) (fun db' hdb' => ?_) (fun db' e hdb' => ?_)
    · refine ⟨leftStatus_append _ _ (keepsStatus_of_eq rfl _ (hresult.found hdb')), ?_⟩
      intro success hsuccess
      obtain rfl := Except.ok.inj hsuccess
      have hinserted : insertedResults job.id
          (h ++ [(db, withResult (pushResult w job lines n device) db)] ++
            [(db', withAudit (pushEntry w job lines n device) db')]) =
          insertedResults job.id h ++
            [(db.provisioningResults.nextId, pushResult w job lines n device)] := by
        have haudit : (withAudit (pushEntry w job lines n device) db').provisioningResults =
          db'.provisioningResults := rfl
        rw [insertedResults_of_eq _ haudit]
        exact insertedResults_insert h db (pushResult w job lines n device) rfl
      exact (congrArg (List.map (·.2.success)) hinserted).trans List.map_append
    · refine ⟨leftStatus_append _ _ (hresult.found hdb'), fun success hsuccess => ?_⟩
      cases hsuccess
  · refine ⟨leftStatus_append _ _ (hh.found hdb), fun success hsuccess => ?_⟩
    cases hsuccess

theorem along_pushDevices (w : PushWorld) (job : LoadedJob) (lines : List String) (n : ℕ)
    (devices : List (DeviceId × Device)) {h : History Platform}
    (hh : LeftStatus job.id .running h) :
    (pushDevices w job lines n devices).Along (Program.asLeft (KeepsStatus job.id))
      (Executing job.id) (fun g r => LeftStatus job.id .running g ∧ ∀ flags, r = .ok flags →
        (insertedResults job.id g).map (·.2.success) =
          (insertedResults job.id h).map (·.2.success) ++ flags) h := by
  induction devices generalizing n h with
  | nil =>
    refine ⟨hh, fun flags hflags => ?_⟩
    obtain rfl := Except.ok.inj hflags
    simp
  | cons device devices ih =>
    refine (along_pushDevice w job lines n device hh).bind (fun g success hg => ?_)
      (fun g e hg => ⟨hg.1, fun flags hflags => by cases hflags⟩)
    obtain ⟨hg, hsuccess⟩ := hg
    refine (ih (n + 1) hg).bind (fun g' flags hg' => ?_)
      (fun g' e hg' => ⟨hg'.1, fun flags hflags => by cases hflags⟩)
    refine ⟨hg'.1, fun all hall => ?_⟩
    obtain rfl := Except.ok.inj hall
    rw [hg'.2 flags rfl, hsuccess success rfl, List.append_assoc]
    rfl

/-- What is known of an execution that has ended: when it returned, its last statement left
the job with the status computed from the results it inserted. -/
def Executed (jobId : ProvisioningJobId) (h : History Platform) (r : Except Exn Json) : Prop :=
  match r with
  | .error _ => Executing jobId h
  | .ok _ => LeftStatus jobId (finalStatus (successes (insertedResults jobId h))
      (insertedResults jobId h).length) h

theorem executing_of_same {jobId : ProvisioningJobId} {h : History Platform}
    (hh : insertedResults jobId h = []) (db : Platform) :
    insertedResults jobId (h ++ [(db, db)]) = [] :=
  (insertedResults_of_eq h rfl).trans hh

/-- A save of other columns leaves the status. -/
theorem StatusIs.update {jobId : ProvisioningJobId} {status : JobStatus} {db : Platform}
    (hs : StatusIs jobId status db) {set : ProvisioningJob → ProvisioningJob}
    (hset : ∀ job, (set job).status = job.status) :
    StatusIs jobId status
      { db with provisioningJobs := db.provisioningJobs.update jobId set } := by
  obtain ⟨job, hjob, rfl⟩ := hs
  exact hset job ▸ statusIs_update hjob set

theorem executed_ok {jobId : ProvisioningJobId} {g : History Platform} {flags : List Bool}
    (hall : (insertedResults jobId g).map (·.2.success) = flags) {db db' : Platform}
    (hdb' : db'.provisioningResults = db.provisioningResults)
    (hstatus : StatusIs jobId (finalStatus (flags.count true) flags.length) db') {v : Json} :
    Executed jobId (g ++ [(db, db')]) (.ok v) := by
  have hsuccesses : successes (insertedResults jobId g) = flags.count true := by
    rw [successes, hall]
  have hlength : (insertedResults jobId g).length = flags.length := by
    rw [← hall, List.length_map]
  unfold Executed
  rw [insertedResults_of_eq g hdb', hsuccesses, hlength]
  exact leftStatus_append g db hstatus

/-- The loop and the last save, from a job that was set RUNNING and has no results yet. -/
theorem along_finish (w : PushWorld) (job : LoadedJob) (lines : List String)
    (devices : List (DeviceId × Device)) {h : History Platform}
    (hh : LeftStatus job.id .running h) (hnone : insertedResults job.id h = []) :
    (pushDevices w job lines 0 devices >>= finishJob w job.id).Along
      (Program.asLeft (KeepsStatus job.id)) (Executing job.id) (Executed job.id) h := by
  refine (along_pushDevices w job lines 0 devices hh).bind (fun g flags hg => ?_)
    (fun g e hg => .inr hg.1)
  obtain ⟨hleft, hflags⟩ := hg
  have hall : (insertedResults job.id g).map (·.2.success) = flags := by
    simpa [hnone] using hflags flags rfl
  refine along_saveFields_bind (.inr hleft) (fun db row hdb hrow => ?_)
    (fun db e hdb hgone => .inr (leftStatus_append g db (hleft.found hdb)))
  refine executed_ok hall ?_ ?_
  · rfl
  · exact statusIs_update hrow _

/-- The same from where the template is rendered. -/
theorem along_render (w : PushWorld) (job : LoadedJob) (devices : List (DeviceId × Device))
    {h : History Platform} (hh : LeftStatus job.id .running h)
    (hnone : insertedResults job.id h = []) :
    (Program.ofExcept (renderJob w.jinja job) >>= fun rendered =>
      ProvisioningJob.saveRendered job.id rendered >>= fun _ =>
        pushDevices w job (configLines rendered) 0 devices >>= finishJob w job.id).Along
      (Program.asLeft (KeepsStatus job.id)) (Executing job.id) (Executed job.id) h := by
  refine Program.along_ofExcept_bind (fun text _ => ?_) (fun e _ => .inr hh)
  rw [ProvisioningJob.saveRendered, bind_assoc]
  refine Program.along_ofExcept_bind (fun _ _ => ?_) (fun e _ => .inr hh)
  refine along_saveFields_bind (.inr hh) (fun db row hdb _ => ?_)
    (fun db e hdb _ => .inr (leftStatus_append h db (hh.found hdb)))
  refine along_finish w job _ devices ?_ ?_
  · exact leftStatus_append h db ((hh.found hdb).update fun _ => rfl)
  · rw [insertedResults_of_eq h]
    · exact hnone
    · rfl

theorem along_executeProvisioningJob (w : PushWorld) (jobId : ProvisioningJobId) :
    (executeProvisioningJob w jobId).Along (Program.asLeft (KeepsStatus jobId))
      (Executing jobId) (Executed jobId) [] := by
  have hempty (db : Platform) : insertedResults jobId [(db, db)] = [] :=
    executing_of_same (h := []) rfl db
  refine Program.along_statement_bind (.inl rfl) (fun db job db' hdb hrun => ?_)
    (fun db e _ _ => .inl (hempty db))
  cases hjob : db.provisioningJobs.get? jobId with
  | none => simp [hjob] at hrun
  | some row =>
    simp only [hjob, Except.ok.injEq, Prod.mk.injEq] at hrun
    obtain ⟨rfl, rfl⟩ := hrun
    refine Program.along_query_bind (.inl (hempty db)) (fun db₁ hdb₁ => ?_)
    have hqueried := executing_of_same (hempty db) db₁
    refine along_saveFields_bind (.inl hqueried) (fun db₂ row₂ hdb₂ hrow₂ => ?_)
      (fun db₂ e _ _ => .inl (executing_of_same hqueried db₂))
    refine along_render w ⟨jobId, row, _, _⟩ (jobDeviceRows jobId db₁) ?_ ?_
    · exact leftStatus_append _ db₂ (statusIs_update hrow₂ _)
    · rw [insertedResults_of_eq]
      · exact hqueried
      · rfl

/-! ### What the others do -/

/-- The other operations leave the status of a job. -/
theorem keepsStatus_effect {o : Operation} {db db' : Platform} (h : Effect o db db')
    {jobId : ProvisioningJobId} (hother : ∀ w, o ≠ .executeProvisioningJob w jobId) :
    KeepsStatus jobId db db' := by
  rintro status ⟨job, hjob, rfl⟩
  obtain ⟨job', hjob', -, -, hstatus⟩ := job_of_effect h hjob
  exact ⟨job', hjob', hstatus hother⟩

/-- The other operations leave the results of a job whose devices they leave. -/
theorem jobResults_effect {o : Operation} {db db' : Platform} (h : Effect o db db')
    {jobId : ProvisioningJobId} (hother : ∀ w, o ≠ .executeProvisioningJob w jobId)
    (hstay : ∀ r ∈ jobResults jobId db, db'.devices.get? r.2.device ≠ none) :
    jobResults jobId db' = jobResults jobId db := by
  cases h with
  | common hchange =>
    cases hchange with
    | deleteDevice id =>
      have hgone : (Device.cascade id db).devices.get? id = none := by
        simp [Device.cascade, Table.delete]
      change (db.provisioningResults.deleteWhere (fun _ r => r.device == id)).select _ = _
      rw [Table.select_deleteWhere]
      refine Table.select_congr fun k r hr => ?_
      by_cases hjob : r.job = jobId
      · have hmem : (k, r) ∈ jobResults jobId db := (Table.mem_select ..).mpr ⟨hr, by simp [hjob]⟩
        have hne : r.device ≠ id := fun hid => hstay _ hmem (hid ▸ hgone)
        simp [hjob, hne]
      · simp [hjob]
    | _ => rfl
  | createResult w id _ r hjob hdevice =>
    have hne : r.job ≠ jobId := fun hid => hother w (hid ▸ hjob ▸ rfl)
    change (db.provisioningResults.insert r).select _ = _
    rw [Table.select_insert]
    simp [hne, jobResults]
  | _ => rfl

/-- What an execution does to the results of its job is to insert some. -/
theorem writes_results (w : PushWorld) (jobId : ProvisioningJobId) :
    (executeProvisioningJob w jobId).Writes (fun db db' =>
      jobResults jobId db' = jobResults jobId db ++ newResults jobId db db') := by
  have hsame (db db' : Platform) (h : db'.provisioningResults = db.provisioningResults) :
      jobResults jobId db' = jobResults jobId db ++ newResults jobId db db' := by
    rw [newResults_of_eq h, List.append_nil, jobResults, h]
    rfl
  have hrefl : Std.Refl (fun db db' : Platform =>
      jobResults jobId db' = jobResults jobId db ++ newResults jobId db db') :=
    ⟨fun db => hsame db db rfl⟩
  refine writes_executeProvisioningJob (fun db => hsame _ _ rfl) (fun db _ => hsame _ _ rfl)
    (fun db r _ _ => ?_) (fun db _ _ => hsame _ _ rfl) fun db _ _ => hsame _ _ rfl
  have hold : db.provisioningResults.select (fun k q => q.job == jobId &&
      (db.provisioningResults.get? k).isNone) = [] :=
    newResults_of_eq (rfl : db.provisioningResults = _)
  simp [jobResults, newResults, Table.select_insert, hold]

/-! ### Runs -/

/-- The step deletes no device that has a stored result of the job. -/
def LeavesDevices (jobId : ProvisioningJobId) (c : Pool Operation Platform Exn Json) (k : ℕ) :
    Prop :=
  ∀ r ∈ jobResults jobId c.store, (c.step k).store.devices.get? r.2.device ≠ none

instance (jobId : ProvisioningJobId) (c : Pool Operation Platform Exn Json) (k : ℕ) :
    Decidable (LeavesDevices jobId c k) :=
  inferInstanceAs (Decidable (∀ r ∈ jobResults jobId c.store,
    (c.step k).store.devices.get? r.2.device ≠ none))

/-- While its devices stay, the stored results of a job are those that the thread which
executes it inserted. -/
theorem jobResults_run {c : Pool Operation Platform Exn Json} {jobId : ProvisioningJobId} {i : ℕ}
    (hwrites : ∀ t ∈ c.threads, t.rest.Writes (Effect t.name))
    (hexecutes : ∀ t, c.threads[i]? = some t → t.rest.Writes (fun db db' =>
      jobResults jobId db' = jobResults jobId db ++ newResults jobId db db'))
    (hothers : ∀ k t, c.threads[k]? = some t → k ≠ i →
      ∀ w, t.name ≠ .executeProvisioningJob w jobId)
    (schedule : List ℕ) (hleaves : Meets Pool.step (LeavesDevices jobId) c schedule) :
    jobResults jobId (c.run schedule).store =
      jobResults jobId c.store ++ insertedResults jobId (c.history i schedule) := by
  induction schedule generalizing c with
  | nil => simp [insertedResults]
  | cons k schedule ih =>
    have hexecutes' : ∀ t, (c.step k).threads[i]? = some t → t.rest.Writes (fun db db' =>
        jobResults jobId db' = jobResults jobId db ++ newResults jobId db db') := by
      intro t ht
      rcases Pool.threads_step_cases ht with ht | ⟨u, hu, -, rfl⟩
      · exact hexecutes t ht
      · exact (hexecutes u hu).next c.store
    have hothers' : ∀ j t, (c.step k).threads[j]? = some t → j ≠ i →
        ∀ w, t.name ≠ .executeProvisioningJob w jobId := by
      intro j t ht hj
      rcases Pool.threads_step_cases ht with ht | ⟨u, hu, -, rfl⟩
      · exact hothers j t ht hj
      · exact hothers j u hu hj
    have hwrites' : ∀ t ∈ (c.step k).threads, t.rest.Writes (Effect t.name) :=
      Pool.writes_run hwrites [k]
    have hrest := ih hwrites' hexecutes' hothers' hleaves.2
    rw [Pool.run_cons, hrest, Pool.history_cons, insertedResults, insertedResults,
      List.flatMap_append, ← List.append_assoc]
    congr 1
    by_cases hk : k = i
    · subst hk
      rw [if_pos rfl]
      rcases c.step_cases k with hs | ⟨t, hi, hstmt, hs⟩
      · rcases c.move_cases k with ⟨-, hnone⟩ | hone
        · simp [hs, hnone]
        · simp [hs, hone, newResults_of_eq]
      · rw [Pool.move_of_stmt hi hstmt, hs]
        simpa using (hexecutes t hi).write hstmt c.store
    · rw [if_neg hk]
      rcases c.step_cases k with hs | ⟨t, ht, hstmt, hs⟩
      · simp [hs]
      · have heffect := (hwrites t (List.mem_of_getElem? ht)).write hstmt c.store
        have hsame := jobResults_effect heffect (hothers k t ht hk) (fun r hr => by
          have := hleaves.1 r hr
          rwa [hs] at this)
        simpa [hs] using hsame

/-- At most one thread executes the job. -/
def ExecutedOnce (operations : List Operation) (jobId : ProvisioningJobId) : Prop :=
  ∀ (i j : ℕ) (w w' : PushWorld), operations[i]? = some (.executeProvisioningJob w jobId) →
    operations[j]? = some (.executeProvisioningJob w' jobId) → i = j

theorem not_executes_of_ne {operations : List Operation} {jobId : ProvisioningJobId}
    (honce : ExecutedOnce operations jobId) {i : ℕ} {w : PushWorld}
    (hi : operations[i]? = some (.executeProvisioningJob w jobId)) {k : ℕ} {o : Operation}
    (hk : operations[k]? = some o) (hne : k ≠ i) :
    ∀ w', o ≠ .executeProvisioningJob w' jobId :=
  fun w' ho => hne (honce k i w' w (ho ▸ hk) hi)

/-- The other threads keep the status that the execution of a job left. -/
theorem asLeft_execution (store : Platform) {operations : List Operation}
    {jobId : ProvisioningJobId} (honce : ExecutedOnce operations jobId) {i : ℕ} {w : PushWorld}
    (hi : operations[i]? = some (.executeProvisioningJob w jobId)) (schedule : List ℕ) :
    Program.asLeft (KeepsStatus jobId) ((startAll store operations).history i schedule)
      ((startAll store operations).run schedule).store := by
  have hstart : Program.asLeft (KeepsStatus jobId) [] (startAll store operations).store :=
    fun p hp => by cases hp
  refine Pool.asLeft_run hstart schedule (fun done k later _ hk => ?_)
  rcases step_effect store operations done k with hs | ⟨o, ho, heffect⟩
  · rw [hs]
    exact refl _
  · exact keepsStatus_effect heffect (not_executes_of_ne honce hi ho hk)

/-- The stored results of a job, while its devices stay: none, or what its execution
inserted. -/
theorem jobResults_cases {store : Platform} (hnone : store.provisioningResults.rows = [])
    {operations : List Operation} {schedule : List ℕ} {jobId : ProvisioningJobId}
    (honce : ExecutedOnce operations jobId)
    (hleaves : Meets Pool.step (LeavesDevices jobId) (startAll store operations) schedule) :
    jobResults jobId ((startAll store operations).run schedule).store = [] ∨
      ∃ (i : ℕ) (w : PushWorld), operations[i]? = some (.executeProvisioningJob w jobId) ∧
        jobResults jobId ((startAll store operations).run schedule).store =
          insertedResults jobId ((startAll store operations).history i schedule) := by
  have hwrites := writes_startAll store operations
  have hstart : jobResults jobId (startAll store operations).store = [] := by
    simp [startAll, Pool.start, jobResults, Table.select, hnone]
  by_cases hex : ∃ (i : ℕ) (w : PushWorld), operations[i]? = some (.executeProvisioningJob w jobId)
  · obtain ⟨i, w, hi⟩ := hex
    have hrun := jobResults_run hwrites (i := i) (fun t ht => ?_) (fun k t ht hk => ?_) schedule
      hleaves
    · exact .inr ⟨i, w, hi, by simpa [hstart] using hrun⟩
    · rw [threads_startAll store hi] at ht
      obtain rfl := Option.some.inj ht
      exact writes_results w jobId
    · exact not_executes_of_ne honce hi (operation_of_thread [] ht) hk
  · have hlast : (startAll store operations).threads[operations.length]? = none := by
      simp [startAll, Pool.start]
    have hrun := jobResults_run hwrites (i := operations.length) (fun t ht => ?_)
      (fun k t ht hk w hname => ?_) schedule hleaves
    · refine .inl ?_
      rw [hrun, hstart, Pool.history_of_none hlast]
      rfl
    · simp [hlast] at ht
    · exact hex ⟨k, w, hname ▸ operation_of_thread [] ht⟩

/-- In every run of requests and tasks from a store without results in which a job is executed
at most once and no device with a result of it is deleted, the job's status, once it is
terminal and there are results, says which of its stored results are successes. -/
theorem status_agrees (store : Platform) (hnone : store.provisioningResults.rows = [])
    (operations : List Operation) (schedule : List ℕ) (jobId : ProvisioningJobId)
    (honce : ExecutedOnce operations jobId)
    (hleaves : Meets Pool.step (LeavesDevices jobId) (startAll store operations) schedule)
    (job : ProvisioningJob)
    (hjob : ((startAll store operations).run schedule).store.provisioningJobs.get? jobId = some job)
    (hterminal : job.status.isTerminal = true)
    (hresults : jobResults jobId ((startAll store operations).run schedule).store ≠ []) :
    Agrees job.status (jobResults jobId ((startAll store operations).run schedule).store) := by
  rcases jobResults_cases hnone honce hleaves with hempty | ⟨i, w, hi, hinserted⟩
  · exact absurd hempty hresults
  · have hleft := asLeft_execution store honce hi schedule
    obtain ⟨t, -, -, halong⟩ := Pool.along_run_of (threads_startAll store hi)
      (along_executeProvisioningJob w jobId) schedule
      (fun done later _ => asLeft_execution store honce hi done)
    rw [List.nil_append] at halong
    have hstatus {status : JobStatus}
        (h : LeftStatus jobId status ((startAll store operations).history i schedule)) :
        job.status = status := by
      obtain ⟨job', hjob', hjobStatus⟩ := h.found hleft
      obtain rfl := Option.some.inj (hjob.symm.trans hjob')
      exact hjobStatus
    have hexecuting
        (h : Executing jobId ((startAll store operations).history i schedule)) : False := by
      rcases h with hempty | hrunning
      · exact hresults (hinserted.trans hempty)
      · rw [hstatus hrunning] at hterminal
        cases hterminal
    rw [hinserted]
    cases hrest : t.rest with
    | ret v =>
      rw [hrest] at halong
      rw [hstatus halong]
      exact agrees_finalStatus (hinserted ▸ hresults)
    | raise e =>
      rw [hrest] at halong
      exact (hexecuting halong).elim
    | stmt write next =>
      rw [hrest] at halong
      exact (hexecuting halong.1).elim

/-! ### A job that one of two devices fails -/

/-- The first session answers and the others do not connect. -/
def labSessions : PushWorld :=
  { PushWorld.calm with
    session := fun n =>
      if n = 0 then .answering "ok"
      else { SshSession.answering "" with
        connectHandler := fun _ => .error (.timeout "no answer") } }

/-- The small platform with a second device, and a job that pushes to both. -/
def labTwo : Platform := { labJob with
  devices := labJob.devices.insert { labDevice with
    hostname := "r2", ipAddress := (IpAddresses.ipAddress "10.0.0.2").getD labDevice.ipAddress }
  jobDevices := [(1, 1), (1, 2)] }

/-- The job is executed, and then an administrator deletes the device that failed. -/
def labOperations : List Operation :=
  [.executeProvisioningJob labSessions 1, .destroyDevice (some 1) 2]

theorem executedOnce_lab : ExecutedOnce labOperations 1 := by
  intro i j w w' hi hj
  match i, j with
  | 0, 0 => rfl
  | 0, 1 => cases hj
  | 1, _ => cases hi
  | _ + 2, _ => cases hi
  | 0, _ + 2 => cases hj

theorem status_agrees_of_lab :
    Agrees .partialSuccess
      (jobResults 1 ((startAll labTwo labOperations).run [0, 0, 0, 0, 0, 0, 0, 0, 0]).store) := by
  obtain ⟨job, hjob, hstatus⟩ : ∃ job, ((startAll labTwo labOperations).run
      [0, 0, 0, 0, 0, 0, 0, 0, 0]).store.provisioningJobs.get? 1 = some job ∧
        job.status = .partialSuccess := ⟨_, rfl, rfl⟩
  rw [← hstatus]
  refine status_agrees labTwo rfl labOperations [0, 0, 0, 0, 0, 0, 0, 0, 0] 1 executedOnce_lab ?_
    job hjob (hstatus ▸ rfl) (by decide)
  decide

/-- Once the device that failed is deleted, a PARTIAL job has successes only. -/
theorem not_status_agrees :
    ¬ ∀ (store : Platform) (operations : List Operation) (schedule : List ℕ)
      (jobId : ProvisioningJobId) (job : ProvisioningJob),
      store.provisioningResults.rows = [] → ExecutedOnce operations jobId →
      ((startAll store operations).run schedule).store.provisioningJobs.get? jobId = some job →
      job.status.isTerminal = true →
      jobResults jobId ((startAll store operations).run schedule).store ≠ [] →
      Agrees job.status (jobResults jobId ((startAll store operations).run schedule).store) := by
  intro h
  obtain ⟨job, hjob, hstatus⟩ : ∃ job, ((startAll labTwo labOperations).run
      [0, 0, 0, 0, 0, 0, 0, 0, 0, 1, 1, 1]).store.provisioningJobs.get? 1 = some job ∧
        job.status = .partialSuccess := ⟨_, rfl, rfl⟩
  have hagrees := h labTwo labOperations [0, 0, 0, 0, 0, 0, 0, 0, 0, 1, 1, 1] 1 job rfl
    executedOnce_lab hjob (hstatus ▸ rfl) (by decide)
  obtain ⟨-, r, hr, hfailed⟩ := hagrees.partialSuccess.mp hstatus
  have hsuccess : ∀ r ∈ jobResults 1 ((startAll labTwo labOperations).run
      [0, 0, 0, 0, 0, 0, 0, 0, 0, 1, 1, 1]).store, r.2.success = true := by decide
  simp [hsuccess r hr] at hfailed

end DevSecOpsPlatform.JobAgreement
