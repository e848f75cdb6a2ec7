import DevSecOpsPlatform.JobMessages
import DevSecOpsPlatform.JobRedelivery

/-!
# Jobs that are executed once

The message of a job pays for what the execution of the job does. Where the broker delivers a
message once and nothing but its messages starts the executions of a job, the job therefore gets
at most one result for each device. It is PENDING, RUNNING and at last has one of the final
statuses, each for once, and what a finished job says about its execution stays as it is.
-/

namespace DevSecOpsPlatform.JobExecutions

open GuardedRuns KeyedTables StatementPrograms PlatformModels PlatformStore PythonValues
open ProvisioningTasks PlatformOperations PlatformChanges JobHandoffs OrphanJobs JobMessages

/-- The operation is not the execution of the job. -/
def Apart (jobId : ProvisioningJobId) (o : Operation) : Prop :=
  ∀ w, o ≠ .executeProvisioningJob w jobId

theorem apart_operation {jobId : ProvisioningJobId} {m : TaskMessage}
    (hm : m ≠ .executeProvisioningJob jobId) (w : Worker) : Apart jobId (operation w m) := by
  intro p h
  cases m with
  | executeProvisioningJob id =>
    injection h with _ hid
    exact hm (hid ▸ rfl)
  | _ => cases h

/-! ### Results -/

def resultCount (jobId : ProvisioningJobId) (deviceId : DeviceId) (db : Platform) : ℕ :=
  (db.provisioningResults.select fun _ r => r.job == jobId && r.device == deviceId).length

variable {jobId : ProvisioningJobId} {deviceId : DeviceId}

theorem resultCount_insert (db : Platform) (r : ProvisioningResult) :
    resultCount jobId deviceId
      { db with provisioningResults := db.provisioningResults.insert r } =
      resultCount jobId deviceId db + if r.job == jobId && r.device == deviceId then 1 else 0 := by
  rw [resultCount, Table.select_insert, List.length_append, resultCount]
  split <;> rfl

theorem resultCount_of_effect {o : Operation} (ho : Apart jobId o) {db db' : Platform}
    (h : Effect o db db') : resultCount jobId deviceId db' ≤ resultCount jobId deviceId db := by
  cases h with
  | common hchange =>
    cases hchange with
    | deleteDevice id =>
      have hsublist : (db.provisioningResults.deleteWhere fun _ r => r.device == id).rows.Sublist
          db.provisioningResults.rows := List.filter_sublist
      exact (hsublist.filter _).length_le
    | _ => exact Nat.le_refl _
  | createResult w id _ r hjob hdevice =>
    have hne : ¬ r.job = jobId := fun heq => ho w (by rw [← heq, hjob])
    rw [resultCount_insert]
    simp [hne]
  | _ => exact Nat.le_refl _

/-- The loop inserts one result for each of its devices. -/
theorem budgeted_pushDevices (w : PushWorld) (job : LoadedJob) (lines : List String) (n : ℕ)
    (devices : List (DeviceId × Device)) :
    (pushDevices w job lines n devices).Budgeted (resultCount jobId deviceId)
      ((devices.map Prod.fst).count deviceId) := by
  induction devices generalizing n with
  | nil => trivial
  | cons device devices ih =>
    have hpush : (pushDevice w job lines n device).Budgeted (resultCount jobId deviceId)
        (if device.1 == deviceId then 1 else 0) := by
      rw [pushDevice_eq]
      refine budgeted_insertRow_bind fun db => ⟨0, ?_, ?_⟩
      · rw [resultCount_insert]
        dsimp only [pushResult]
        by_cases hdevice : device.1 = deviceId
        · by_cases hjob : job.id = jobId <;> simp [hdevice, hjob]
        · simp [hdevice]
      · exact (writes_insertRow fun db => Nat.le_refl _).budgeted_bind fun _ => trivial
    rw [List.map_cons, List.count_cons, Nat.add_comm]
    exact hpush.bind fun success => (ih (n + 1)).bind (c := 0) fun _ => trivial

theorem nodup_jobDeviceRows (jobId : ProvisioningJobId) (db : Platform) :
    ((jobDeviceRows jobId db).map Prod.fst).Nodup :=
  ((List.perm_insertionSort _ _).map Prod.fst).nodup_iff.mpr (Table.select_nodup _ _)

/-- The devices of a job are no two the same, so its execution inserts one result for each. -/
theorem budgeted_execute (w : PushWorld) (id : ProvisioningJobId) :
    (executeProvisioningJob w id).Budgeted (resultCount jobId deviceId) 1 := by
  have hload : (loadJob id).Writes (Program.NotRaising (resultCount jobId deviceId)) := by
    refine Program.writes_statement fun db job db' h => ?_
    split at h
    · obtain ⟨-, rfl⟩ := Prod.mk.inj (Except.ok.inj h)
      exact Nat.le_refl _
    · cases h
  have hsave (k : ProvisioningJobId) (set : ProvisioningJob → ProvisioningJob) :
      (ProvisioningJob.save k set).Writes (Program.NotRaising (resultCount jobId deviceId)) :=
    writes_saveFields fun db => Nat.le_refl _
  refine hload.budgeted_bind fun job => Program.budgeted_query_bind fun db => ?_
  refine (hsave _ _).budgeted_bind fun _ => ?_
  refine (Program.writes_ofExcept _).budgeted_bind fun rendered => ?_
  refine (writes_saveRendered fun _ => Nat.le_refl _).budgeted_bind fun _ => ?_
  refine ((budgeted_pushDevices w job _ 0 _).bind (c := 0) fun results => ?_).mono ?_
  · exact (hsave _ _).budgeted_bind fun _ => trivial
  · exact List.nodup_iff_count_le_one.mp (nodup_jobDeviceRows id db) deviceId

theorem notRaising_results {o : Operation} (ho : Apart jobId o) :
    o.program.Writes (Program.NotRaising (resultCount jobId deviceId)) :=
  (writes_program o).mono fun _ _ h => resultCount_of_effect ho h

/-- The message of a job pays for the result of a device. -/
theorem provided_results (jobId : ProvisioningJobId) (deviceId : DeviceId) :
    Provided 1 (fun db => resultCount jobId deviceId db + stake (.executeProvisioningJob jobId) db)
      Program.AnyStep (fun _ => 0) (Apart jobId) where
  reply o ho db :=
    (((writes_reply (notRaising_results ho)).budgeted 0).add (budgeted_reply rfl o)).spends
      (Program.writes_anyStep _)
  dequeue _ _ := trivial
  task db n x _ hn := by
    refine ⟨[x.2].count (.executeProvisioningJob jobId), ?_, fun w db' => ?_⟩
    · have hstake := stake_dequeue (.executeProvisioningJob jobId) hn
      have hresults : resultCount jobId deviceId (dequeue n db) = resultCount jobId deviceId db :=
        rfl
      omega
    · refine Program.Budgeted.spends ?_ (Program.writes_anyStep _)
      have hstake := (notRaising_task (m := .executeProvisioningJob jobId) rfl w x.2).budgeted 0
      by_cases hm : x.2 = .executeProvisioningJob jobId
      · rw [hm] at hstake ⊢
        rw [List.count_singleton_self]
        exact (budgeted_execute w.push jobId).add hstake
      · rw [List.count_eq_zero.mpr (by simpa using Ne.symm hm)]
        rw [task_eq] at hstake ⊢
        exact ((notRaising_results (apart_operation hm w)).budgeted 0).add hstake

/-- With a broker that delivers the message of the job once, and with no other start of its
execution, no run gives a job two results for one device. -/
theorem one_result (store : Platform) (jobId : ProvisioningJobId) (deviceId : DeviceId)
    (hstore : resultCount jobId deviceId store + stake (.executeProvisioningJob jobId) store ≤ 1)
    (moves : List Move) (hmoves : ∀ w, .receive (.executeProvisioningJob w jobId) ∉ moves) :
    resultCount jobId deviceId (System.run { store := store } moves).store ≤ 1 := by
  have hrun := balanced_run (provided_results jobId deviceId) (balanced_start hstore) moves
    fun o ho w heq => hmoves w (heq ▸ ho)
  exact (Nat.le_add_right _ _).trans ((Nat.le_add_right _ _).trans hrun.le)

/-! ### Statuses -/

/-- The columns that the execution of a job sets are the same, and those that nothing sets. -/
def SameExecution (a b : ProvisioningJob) : Prop :=
  b = { a with template := b.template, celeryTaskId := b.celeryTaskId }

/-- What other operations do to the row of a job. -/
inductive Spared : Option ProvisioningJob → Option ProvisioningJob → Prop where
  | absent : Spared none none
  | created (job : ProvisioningJob) (hstatus : job.status = .pending)
    (hstarted : job.startedAt = none) (hcompleted : job.completedAt = none) : Spared none (some job)
  | kept (a b : ProvisioningJob) (h : SameExecution a b) : Spared (some a) (some b)

/-- The life of a job, one step of it. -/
inductive JobStep : Option ProvisioningJob → Option ProvisioningJob → Prop where
  | spared {a b : Option ProvisioningJob} (h : Spared a b) : JobStep a b
  | started (job : ProvisioningJob) (hpending : job.status = .pending) (time : DateTime) :
    JobStep (some job) (some { job with status := .running, startedAt := some time })
  | rendered (job : ProvisioningJob) (hrunning : job.status = .running) (text : String) :
    JobStep (some job) (some { job with renderedConfig := text })
  | finished (job : ProvisioningJob) (hrunning : job.status = .running) (status : JobStatus)
    (hfinal : status.isTerminal = true) (time : DateTime) :
    JobStep (some job) (some { job with status := status, completedAt := some time })

theorem SameExecution.trans {a b c : ProvisioningJob} (h : SameExecution a b)
    (h' : SameExecution b c) : SameExecution a c := by
  rw [SameExecution, h', h]

theorem SameExecution.status {a b : ProvisioningJob} (h : SameExecution a b) :
    b.status = a.status := by
  rw [h]

theorem spared_self (a : Option ProvisioningJob) : Spared a a := by
  cases a with
  | none => exact .absent
  | some job => exact .kept job job rfl

/-- How far the job is: not started, RUNNING or finished. -/
def phase : Option ProvisioningJob → ℕ
  | none => 0
  | some job => match job.status with
    | .pending => 0
    | .running => 1
    | _ => 2

theorem phase_of_spared {a b : Option ProvisioningJob} (h : Spared a b) : phase b = phase a := by
  cases h with
  | absent => rfl
  | created job hstatus => simp [phase, hstatus]
  | kept a b h => simp [phase, h.status]

theorem phase_mono {a b : Option ProvisioningJob} (h : JobStep a b) : phase a ≤ phase b := by
  cases h with
  | spared h => exact (phase_of_spared h).ge
  | started job hpending => simp [phase, hpending]
  | rendered job => exact Nat.le_refl _
  | finished job hrunning status hfinal => cases status <;> simp_all [phase, JobStatus.isTerminal]

theorem phase_of_isTerminal {job : ProvisioningJob} (h : job.status.isTerminal = true) :
    phase (some job) = 2 := by
  cases hstatus : job.status <;> simp_all [phase, JobStatus.isTerminal]

theorem pending_of_phase {job : ProvisioningJob} (h : phase (some job) = 0) :
    job.status = .pending := by
  cases hstatus : job.status <;> simp_all [phase]

theorem running_of_phase {job : ProvisioningJob} (h : phase (some job) = 1) :
    job.status = .running := by
  cases hstatus : job.status <;> simp_all [phase]

/-- A finished job is left as it is. -/
theorem kept_of_isTerminal {a : ProvisioningJob} {b : Option ProvisioningJob}
    (h : JobStep (some a) b) (ha : a.status.isTerminal = true) :
    ∃ b', b = some b' ∧ SameExecution a b' := by
  cases h with
  | spared h =>
    cases h with
    | kept _ b h => exact ⟨b, rfl, h⟩
  | started _ hpending => simp [hpending, JobStatus.isTerminal] at ha
  | rendered _ hrunning => simp [hrunning, JobStatus.isTerminal] at ha
  | finished _ hrunning => simp [hrunning, JobStatus.isTerminal] at ha

theorem spared_update {db : Platform} {id : ProvisioningJobId}
    {set : ProvisioningJob → ProvisioningJob}
    (h : id = jobId → ∀ job, SameExecution job (set job)) :
    Spared (db.provisioningJobs.get? jobId) ((db.provisioningJobs.update id set).get? jobId) := by
  rw [Table.get?_update]
  split
  · rename_i hid
    cases hjob : db.provisioningJobs.get? jobId with
    | none => exact .absent
    | some job => exact .kept job (set job) (h hid.symm job)
  · exact spared_self _

theorem spared_of_change {db db' : Platform} (h : Change db db') :
    Spared (db.provisioningJobs.get? jobId) (db'.provisioningJobs.get? jobId) := by
  cases h with
  | deleteTemplate id =>
    rw [Table.get?_updateWhere]
    cases hjob : db.provisioningJobs.get? jobId with
    | none => exact .absent
    | some job =>
      refine .kept job _ ?_
      dsimp only
      split <;> exact rfl
  | _ => exact spared_self _

theorem spared_of_effect {o : Operation} (ho : Apart jobId o) {db db' : Platform}
    (h : Effect o db db') :
    Spared (db.provisioningJobs.get? jobId) (db'.provisioningJobs.get? jobId) := by
  cases h with
  | common hchange => exact spared_of_change hchange
  | createJob caller now data taskId _ user =>
    rw [Table.get?_insert]
    split
    · rename_i hid
      rw [hid, Table.get?_nextId]
      exact .created _ rfl rfl rfl
    · exact spared_self _
  | setJobTask => exact spared_update fun _ _ => rfl
  | setRunning w id => exact spared_update fun hid => absurd (by rw [hid]) (ho w)
  | setRendered w id => exact spared_update fun hid => absurd (by rw [hid]) (ho w)
  | setFinished w id => exact spared_update fun hid => absurd (by rw [hid]) (ho w)
  | _ => exact spared_self _

/-- The row of the job takes a step of its life. -/
def Lives (jobId : ProvisioningJobId) (db db' : Platform) : Prop :=
  JobStep (db.provisioningJobs.get? jobId) (db'.provisioningJobs.get? jobId)

instance : Std.Refl (Lives jobId) := ⟨fun _ => .spared (spared_self _)⟩

def jobPhase (jobId : ProvisioningJobId) (db : Platform) : ℕ :=
  phase (db.provisioningJobs.get? jobId)

theorem apart_writes {o : Operation} (ho : Apart jobId o) :
    o.program.Writes fun db db' => jobPhase jobId db' = jobPhase jobId db ∧ Lives jobId db db' :=
  (writes_program o).mono fun _ _ h =>
    ⟨phase_of_spared (spared_of_effect ho h), .spared (spared_of_effect ho h)⟩

theorem lives_of_eq {db db' : Platform} (h : db'.provisioningJobs = db.provisioningJobs) :
    Lives jobId db db' := by
  rw [Lives, h]
  exact .spared (spared_self _)

theorem stake_update (db : Platform) (set : ProvisioningJob → ProvisioningJob) :
    stake (.executeProvisioningJob jobId)
        { db with provisioningJobs := db.provisioningJobs.update jobId set } =
      stake (.executeProvisioningJob jobId) db := by
  rw [stake, stake, hasRow, hasRow, refersTo_update]
  rfl

/-- A save of the job that moves its phase from `before` to `after`. -/
theorem spends_save_bind {α : Type} (before after left : ℕ) {b : ℕ}
    {set : ProvisioningJob → ProvisioningJob} {f : Unit → Statement α} {db : Platform}
    (hspent : after + left = before + b)
    (hsave : ∀ u job, Relation.ReflTransGen (Lives jobId) db u →
      lifeStake (.executeProvisioningJob jobId) (jobPhase jobId) u + b ≤ 2 →
      u.provisioningJobs.get? jobId = some job →
        phase (some job) = before ∧ phase (some (set job)) = after ∧
          JobStep (some job) (some (set job)))
    (hf : ∀ t, jobPhase jobId t = after → (f ()).Spends 2
      (lifeStake (.executeProvisioningJob jobId) (jobPhase jobId)) (Lives jobId) left t) :
    (ProvisioningJob.save jobId set >>= f).Spends 2
      (lifeStake (.executeProvisioningJob jobId) (jobPhase jobId)) (Lives jobId) b db := by
  refine spends_saveFields_bind before after left hspent (stake_update · set)
    (fun u job hu hN hjob => ?_) hf
  obtain ⟨hbefore, hafter, hstep⟩ := hsave u job hu hN hjob
  have hrow : (u.provisioningJobs.update jobId set).get? jobId = some (set job) := by
    rw [Table.get?_update_self, hjob, Option.map_some]
  rw [jobPhase, jobPhase, Lives, hjob, hrow]
  exact ⟨hbefore, hafter, hstep⟩

/-- Once it has started, a job does not go back. -/
theorem started_stable {db db' : Platform} (h : Lives jobId db db')
    (hstarted : 1 ≤ jobPhase jobId db) : 1 ≤ jobPhase jobId db' :=
  hstarted.trans (phase_mono h)

/-- What the message brings lets the job start, and finish. -/
theorem spends_execute (w : PushWorld) (db : Platform) :
    (executeProvisioningJob w jobId).Spends 2
      (lifeStake (.executeProvisioningJob jobId) (jobPhase jobId)) (Lives jobId) 2 db := by
  refine Program.spends_statement_bind fun u job t _ _ hload => ?_
  split at hload
  · obtain ⟨rfl, rfl⟩ := Prod.mk.inj (Except.ok.inj hload)
    refine ⟨refl u, 2, Nat.le_refl _, Program.spends_query_bind fun u' _ => ?_⟩
    -- nobody else has started the job, as this execution holds the whole total
    refine spends_save_bind 0 1 1 rfl (fun v a _ hN ha => ?_)
      fun t ht => Program.spends_ofExcept_bind fun rendered _ => ?_
    · have hphase : phase (some a) = 0 := by
        rw [lifeStake, jobPhase, ha] at hN
        omega
      exact ⟨hphase, rfl, .started a (pending_of_phase hphase) _⟩
    have hrunning {t v : Platform} {a : ProvisioningJob} (ht : 1 ≤ jobPhase jobId t)
        (hv : Relation.ReflTransGen (Lives jobId) t v)
        (hN : lifeStake (.executeProvisioningJob jobId) (jobPhase jobId) v + 1 ≤ 2)
        (ha : v.provisioningJobs.get? jobId = some a) : phase (some a) = 1 := by
      have hstarted := Program.keeps_steps (K := fun v => 1 ≤ jobPhase jobId v)
        (fun _ _ => started_stable) hv ht
      rw [lifeStake, jobPhase, ha] at hN
      rw [jobPhase, ha] at hstarted
      omega
    -- nor does anybody else finish it
    rw [ProvisioningJob.saveRendered, Program.bind_assoc]
    refine Program.spends_ofExcept_bind fun _ _ => ?_
    refine spends_save_bind 1 1 1 rfl (fun v a hv hN ha => ?_)
      fun t ht => ?_
    · have hphase := hrunning ht.ge hv hN ha
      exact ⟨hphase, hphase, .rendered a (running_of_phase hphase) rendered⟩
    refine Program.Writes.spends_bind (K := fun v => 1 ≤ jobPhase jobId v) ?_
      (fun _ _ => started_stable) ht.ge fun results v hv => ?_
    · exact writes_pushDevices
        (fun r _ => writes_insertRow fun _ => untouched rfl rfl rfl (lives_of_eq rfl))
        (fun a _ => writes_insertRow fun _ => untouched rfl rfl rfl (lives_of_eq rfl)) _ 0 _
    refine spends_save_bind 1 2 0 rfl (fun x a hx hN ha => ?_)
      fun _ _ => trivial
    have hphase := hrunning hv hx hN ha
    have hfinal := finalStatus_isTerminal (results.count true) results.length
    exact ⟨hphase, phase_of_isTerminal hfinal, .finished a (running_of_phase hphase) _ hfinal _⟩
  · cases hload

theorem provided_job (jobId : ProvisioningJobId) :
    Provided 2 (lifeStake (.executeProvisioningJob jobId) (jobPhase jobId)) (Lives jobId)
      (fun _ => 0) (Apart jobId) :=
  provided_life rfl (fun _ ho => apart_writes ho) (fun _ _ => ⟨rfl, lives_of_eq rfl⟩)
    (fun w db => spends_execute w.push db) fun w _ hm => apart_operation hm w

/-- With a broker that delivers the message of the job once, and with no other start of its
execution, every move of every run takes the job a step of its life or leaves it, and a finished
job is left as it is. -/
theorem job_life (store : Platform) (jobId : ProvisioningJobId)
    (hstore : lifeStake (.executeProvisioningJob jobId) (jobPhase jobId) store ≤ 2)
    (moves : List Move) (hmoves : ∀ w, .receive (.executeProvisioningJob w jobId) ∉ moves) :
    (∀ done move later, moves = done ++ move :: later →
      JobStep ((System.run { store := store } done).store.provisioningJobs.get? jobId)
        ((System.run { store := store } (done ++ [move])).store.provisioningJobs.get? jobId)) ∧
    ∀ done later job, moves = done ++ later →
      (System.run { store := store } done).store.provisioningJobs.get? jobId = some job →
      job.status.isTerminal = true →
      ∃ job', (System.run { store := store } moves).store.provisioningJobs.get? jobId =
        some job' ∧ SameExecution job job' := by
  have hapart (o : Operation) (ho : .receive o ∈ moves) : Apart jobId o :=
    fun w heq => hmoves w (heq ▸ ho)
  constructor
  · rintro done move later rfl
    exact life_step (provided_job jobId) hstore hapart
  · rintro done later job rfl hjob hfinal
    have hsteps := life_steps (provided_job jobId) hstore hapart
    refine Program.keeps_steps (K := fun db => ∃ job', db.provisioningJobs.get? jobId = some job' ∧
      SameExecution job job') (fun db db' hstep h => ?_) hsteps ⟨job, hjob, rfl⟩
    obtain ⟨job', hjob', hsame⟩ := h
    rw [Lives, hjob'] at hstep
    obtain ⟨job'', hjob'', hsame'⟩ := kept_of_isTerminal hstep (by rw [hsame.status, hfinal])
    exact ⟨job'', hjob'', hsame.trans hsame'⟩

/-! ### A job from its request to its end -/

def labMoves : List Move :=
  [.receive (.createProvisioningJob (some 1) 0
    { template := some 1, deviceIds := some [1] } "t")] ++
    List.replicate 7 (.request 0) ++ [.take 0 labWorker] ++ List.replicate 8 (.task 0)

theorem apart_labMoves (w : PushWorld) : .receive (.executeProvisioningJob w 2) ∉ labMoves := by
  simp [labMoves]

theorem one_result_of_lab :
    resultCount 2 1 (System.run { store := labJob } labMoves).store ≤ 1 :=
  one_result labJob 2 1 (by decide) labMoves apart_labMoves

theorem job_life_of_lab :
    (∀ done move later, labMoves = done ++ move :: later →
      JobStep ((System.run { store := labJob } done).store.provisioningJobs.get? 2)
        ((System.run { store := labJob } (done ++ [move])).store.provisioningJobs.get? 2)) ∧
    ∀ done later job, labMoves = done ++ later →
      (System.run { store := labJob } done).store.provisioningJobs.get? 2 = some job →
      job.status.isTerminal = true →
      ∃ job', (System.run { store := labJob } labMoves).store.provisioningJobs.get? 2 =
        some job' ∧ SameExecution job job' :=
  job_life labJob 2 (by decide) labMoves apart_labMoves

example : ((System.run { store := labJob } labMoves).store.provisioningJobs.get? 2).map
    ProvisioningJob.status = some .success := rfl

example : resultCount 2 1 (System.run { store := labJob } labMoves).store = 1 := rfl

end DevSecOpsPlatform.JobExecutions
