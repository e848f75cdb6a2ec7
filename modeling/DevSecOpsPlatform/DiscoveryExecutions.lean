import DevSecOpsPlatform.JobMessages

/-!
# Discoveries that are run once

As for provisioning jobs, the message of a discovery job pays for its start and for its end.
Where it is delivered once and nothing else runs the discovery, the job is PENDING, RUNNING and
then COMPLETED or FAILED, and what a finished discovery has found, added and logged stays.
-/

namespace DevSecOpsPlatform.DiscoveryExecutions

open KeyedTables StatementPrograms PlatformModels PlatformStore RolePermissions PythonValues
open InventoryTasks InventoryViews PlatformOperations OperationStatements PlatformChanges
open JobHandoffs OrphanJobs JobMessages

/-- Only the identifier that the broker gave the task may differ. -/
def SameFindings (a b : DiscoveryJob) : Prop := b = { a with celeryTaskId := b.celeryTaskId }

theorem SameFindings.trans {a b c : DiscoveryJob} (h : SameFindings a b)
    (h' : SameFindings b c) : SameFindings a c := by
  rw [SameFindings, h', h]

theorem SameFindings.status {a b : DiscoveryJob} (h : SameFindings a b) : b.status = a.status := by
  rw [h]

def Finished (status : DiscoveryStatus) : Prop := status = .completed ∨ status = .failed

/-- What other operations do to the row of a discovery job. -/
inductive Spared : Option DiscoveryJob → Option DiscoveryJob → Prop where
  | absent : Spared none none
  | created (job : DiscoveryJob) (hstatus : job.status = .pending)
    (hstarted : job.startedAt = none) (hcompleted : job.completedAt = none) : Spared none (some job)
  | kept (a b : DiscoveryJob) (h : SameFindings a b) : Spared (some a) (some b)

/-- The life of a discovery, one step of it. -/
inductive DiscoveryStep : Option DiscoveryJob → Option DiscoveryJob → Prop where
  | spared {a b : Option DiscoveryJob} (h : Spared a b) : DiscoveryStep a b
  | started (job : DiscoveryJob) (hpending : job.status = .pending) (time : DateTime) :
    DiscoveryStep (some job) (some { job with status := .running, startedAt := some time })
  | finished (job : DiscoveryJob) (hrunning : job.status = .running) (status : DiscoveryStatus)
    (hfinal : Finished status) (time : DateTime) (found added : ℕ) (log : String) :
    DiscoveryStep (some job) (some { job with
      status := status, completedAt := some time, devicesFound := found, devicesAdded := added
      log := log })

theorem spared_self (a : Option DiscoveryJob) : Spared a a := by
  cases a with
  | none => exact .absent
  | some job => exact .kept job job rfl

/-- How far the discovery is: not started, RUNNING or finished. -/
def phase : Option DiscoveryJob → ℕ
  | none => 0
  | some job => match job.status with
    | .pending => 0
    | .running => 1
    | _ => 2

theorem phase_of_spared {a b : Option DiscoveryJob} (h : Spared a b) : phase b = phase a := by
  cases h with
  | absent => rfl
  | created job hstatus => simp [phase, hstatus]
  | kept a b h => simp [phase, h.status]

theorem phase_of_finished (job : DiscoveryJob) (h : Finished job.status) :
    phase (some job) = 2 := by
  rcases h with h | h <;> simp [phase, h]

theorem phase_mono {a b : Option DiscoveryJob} (h : DiscoveryStep a b) : phase a ≤ phase b := by
  cases h with
  | spared h => exact (phase_of_spared h).ge
  | started job hpending => simp [phase, hpending]
  | finished job hrunning status hfinal time found added log =>
    have hafter := phase_of_finished { job with
      status := status, completedAt := some time, devicesFound := found, devicesAdded := added
      log := log } hfinal
    rw [hafter]
    simp [phase, hrunning]

theorem pending_of_phase {job : DiscoveryJob} (h : phase (some job) = 0) :
    job.status = .pending := by
  cases hstatus : job.status <;> simp_all [phase]

theorem running_of_phase {job : DiscoveryJob} (h : phase (some job) = 1) :
    job.status = .running := by
  cases hstatus : job.status <;> simp_all [phase]

/-- A finished discovery is left as it is. -/
theorem kept_of_finished {a : DiscoveryJob} {b : Option DiscoveryJob}
    (h : DiscoveryStep (some a) b) (ha : Finished a.status) :
    ∃ b', b = some b' ∧ SameFindings a b' := by
  cases h with
  | spared h =>
    cases h with
    | kept _ b h => exact ⟨b, rfl, h⟩
  | started _ hpending => simp [Finished, hpending] at ha
  | finished _ hrunning => simp [Finished, hrunning] at ha

/-! ### Other operations -/

variable {jobId : DiscoveryJobId}

/-- The operation is not the discovery of the job. -/
def Apart (jobId : DiscoveryJobId) (o : Operation) : Prop := ∀ net, o ≠ .runDiscovery net jobId

theorem apart_operation {m : TaskMessage} (hm : m ≠ .runDiscovery jobId) (w : Worker) :
    Apart jobId (operation w m) := by
  intro net h
  cases m with
  | runDiscovery id =>
    injection h with _ hid
    exact hm (hid ▸ rfl)
  | _ => cases h

/-- The row of the job is spared. -/
def Spares (jobId : DiscoveryJobId) (db db' : Platform) : Prop :=
  Spared (db.discoveryJobs.get? jobId) (db'.discoveryJobs.get? jobId)

theorem spares_of_eq {db db' : Platform} (h : db'.discoveryJobs = db.discoveryJobs) :
    Spares jobId db db' := by
  rw [Spares, h]
  exact spared_self _

instance : Std.Refl (Spares jobId) := ⟨fun _ => spares_of_eq rfl⟩

theorem spares_update {db : Platform} {id : DiscoveryJobId} {set : DiscoveryJob → DiscoveryJob}
    (h : id = jobId → ∀ job, SameFindings job (set job)) :
    Spares jobId db { db with discoveryJobs := db.discoveryJobs.update id set } := by
  rw [Spares, Table.get?_update]
  split
  · rename_i hid
    cases hjob : db.discoveryJobs.get? jobId with
    | none => exact .absent
    | some job => exact .kept job (set job) (h hid.symm job)
  · exact spared_self _

/-- An ordinary change inserts no discovery job. -/
theorem spares_of_ordinary {db db' : Platform} (h : Ordinary db db') : Spares jobId db db' := by
  obtain ⟨hchange, hquiet⟩ := h
  cases hchange with
  | createDiscoveryJob j =>
    have hstatus := hquiet.discoveryJobs db.discoveryJobs.nextId
    simp at hstatus
  | setDiscoveryTask id task => exact spares_update fun _ _ => rfl
  | _ => exact spares_of_eq rfl

theorem spares_of_does {s : Particular} {db db' : Platform} (hs : s ≠ .createDiscoveryJob)
    (h : Does s db db') : Spares jobId db db' := by
  cases h with
  | createDiscoveryJob => exact absurd rfl hs
  | _ => exact spares_of_eq rfl

theorem writes_createDiscoveryJob (caller : Option UserId) (now : DateTime)
    (subnet : Option String) (taskId : String) :
    (InventoryViews.createDiscoveryJob caller now subnet taskId).Writes (Spares jobId) := by
  refine (writes_permit _ caller).bind fun user => ?_
  split
  · trivial
  · split
    · trivial
    · refine (writes_insertRow fun db => ?_).bind fun id => ?_
      · rw [Spares, Table.get?_insert]
        split
        · rename_i hid
          rw [hid, Table.get?_nextId]
          exact .created _ rfl rfl rfl
        · exact spared_self _
      refine writes_delay_bind (fun _ => spares_of_eq rfl) ?_
      refine (writes_saveFields fun db => spares_update (by intro _ _; rfl)).bind fun _ => ?_
      exact (Program.writes_query _).bind fun _ => trivial

theorem writes_spares {o : Operation} (ho : Apart jobId o) : o.program.Writes (Spares jobId) := by
  have v : Vocabulary (fun _ p => p.Writes (Spares jobId)) (fun s => s ≠ .createDiscoveryJob)
      (fun _ => True) :=
    vocabulary_writes spares_of_ordinary spares_of_does
  by_cases hcreates : particular o = some .createDiscoveryJob
  · cases o with
    | createDiscoveryJob caller now subnet taskId =>
      exact (writes_createDiscoveryJob caller now subnet taskId).bind fun _ => trivial
    | _ => cases hcreates
  refine v.program o (fun s hs heq => hcreates (heq ▸ hs)) trivial fun hapart => ?_
  cases o with
  | get allows caller view => exact writes_get allows caller view
  | createProvisioningJob caller now data taskId =>
    refine Program.Writes.bind ?_ (fun _ => trivial)
    exact ProvisioningViews.writes_createProvisioningJob (fun _ _ _ => spares_of_eq rfl)
      (fun _ _ _ => spares_of_eq rfl) (fun _ _ => spares_of_eq rfl) fun _ _ => spares_of_eq rfl
  | executeProvisioningJob w id =>
    exact ProvisioningTasks.writes_executeProvisioningJob (fun _ => spares_of_eq rfl)
      (fun _ _ => spares_of_eq rfl) (fun _ _ _ _ => spares_of_eq rfl)
      (fun _ _ _ => spares_of_eq rfl) fun _ _ _ => spares_of_eq rfl
  | runDiscovery net id =>
    refine v.runDiscovery net id fun set _ => writes_saveFields fun db => spares_update ?_
    exact fun hid => absurd (by rw [hid]) (ho net)
  | updateUserProfile caller now id role =>
    exact writes_updateUserProfile caller now id role fun _ _ => spares_of_eq rfl
  | destroyUserProfile caller id =>
    exact writes_destroyUserProfile caller id fun _ => spares_of_eq rfl
  | _ => cases hapart

/-! ### The discovery -/

/-- The row of the job takes a step of its life. -/
def Lives (jobId : DiscoveryJobId) (db db' : Platform) : Prop :=
  DiscoveryStep (db.discoveryJobs.get? jobId) (db'.discoveryJobs.get? jobId)

theorem Spares.lives {db db' : Platform} (h : Spares jobId db db') : Lives jobId db db' := .spared h

instance : Std.Refl (Lives jobId) := ⟨fun db => (refl (r := Spares jobId) db).lives⟩

def jobPhase (jobId : DiscoveryJobId) (db : Platform) : ℕ := phase (db.discoveryJobs.get? jobId)

theorem stake_update (db : Platform) (set : DiscoveryJob → DiscoveryJob) :
    stake (.runDiscovery jobId)
        { db with discoveryJobs := db.discoveryJobs.update jobId set } =
      stake (.runDiscovery jobId) db := by
  rw [stake, stake, hasRow, hasRow, refersTo_update]
  rfl

/-- A save of the job that moves its phase from `before` to `after`. -/
theorem spends_save_bind {α : Type} (before after left : ℕ) {b : ℕ}
    {set : DiscoveryJob → DiscoveryJob} {f : Unit → Statement α} {db : Platform}
    (hspent : after + left = before + b)
    (hsave : ∀ u job, Relation.ReflTransGen (Lives jobId) db u →
      lifeStake (.runDiscovery jobId) (jobPhase jobId) u + b ≤ 2 →
      u.discoveryJobs.get? jobId = some job →
        phase (some job) = before ∧ phase (some (set job)) = after ∧
          DiscoveryStep (some job) (some (set job)))
    (hf : ∀ t, jobPhase jobId t = after → (f ()).Spends 2
      (lifeStake (.runDiscovery jobId) (jobPhase jobId)) (Lives jobId) left t) :
    (DiscoveryJob.save jobId set >>= f).Spends 2
      (lifeStake (.runDiscovery jobId) (jobPhase jobId)) (Lives jobId) b db := by
  refine spends_saveFields_bind before after left hspent (stake_update · set)
    (fun u job hu hN hjob => ?_) hf
  obtain ⟨hbefore, hafter, hstep⟩ := hsave u job hu hN hjob
  have hrow : (u.discoveryJobs.update jobId set).get? jobId = some (set job) := by
    rw [Table.get?_update_self, hjob, Option.map_some]
  rw [jobPhase, jobPhase, Lives, hjob, hrow]
  exact ⟨hbefore, hafter, hstep⟩

/-- Once it has started, a discovery does not go back. -/
theorem started_stable {db db' : Platform} (h : Lives jobId db db')
    (hstarted : 1 ≤ jobPhase jobId db) : 1 ≤ jobPhase jobId db' :=
  hstarted.trans (phase_mono h)

/-- What the message brings lets the discovery start, and finish. -/
theorem spends_runDiscovery (net : Network) (db : Platform) :
    (runDiscovery net jobId).Spends 2 (lifeStake (.runDiscovery jobId) (jobPhase jobId))
      (Lives jobId) 2 db := by
  refine Program.spends_statement_bind fun u job t _ _ hload => ?_
  split at hload
  · rename_i row hrow
    obtain ⟨rfl, rfl⟩ := Prod.mk.inj (Except.ok.inj hload)
    -- nobody else has started the job, as this discovery holds the whole total
    refine ⟨refl u, 2, Nat.le_refl _, ?_⟩
    refine spends_save_bind 0 1 1 rfl (fun v a _ hN ha => ?_)
      fun t ht => ?_
    · have hphase : phase (some a) = 0 := by
        rw [lifeStake, jobPhase, ha] at hN
        omega
      exact ⟨hphase, rfl, .started a (pending_of_phase hphase) _⟩
    refine Program.Writes.spends_bind (K := fun v => 1 ≤ jobPhase jobId v) ?_
      (fun _ _ => started_stable) ht.ge fun result v hv => ?_
    · refine writes_discoverSubnet net (fun d => writes_insertRow fun _ => ?_) row.subnet _
      exact untouched rfl rfl rfl (spares_of_eq rfl).lives
    -- nor does anybody else finish it
    have hrunning {x : Platform} {a : DiscoveryJob}
        (hx : Relation.ReflTransGen (Lives jobId) v x)
        (hN : lifeStake (.runDiscovery jobId) (jobPhase jobId) x + 1 ≤ 2)
        (ha : x.discoveryJobs.get? jobId = some a) : phase (some a) = 1 := by
      have hstarted := Program.keeps_steps (K := fun v => 1 ≤ jobPhase jobId v)
        (fun _ _ => started_stable) hx hv
      rw [lifeStake, jobPhase, ha] at hN
      rw [jobPhase, ha] at hstarted
      omega
    obtain ⟨found, failure⟩ := result
    cases failure with
    | none =>
      refine spends_save_bind 1 2 0 rfl (fun x a hx hN ha => ?_)
        fun _ _ => trivial
      have hphase := hrunning hx hN ha
      exact ⟨hphase, rfl, .finished a (running_of_phase hphase) _ (.inl rfl) _ _ _ _⟩
    | some exc =>
      refine spends_save_bind 1 2 0 rfl (fun x a hx hN ha => ?_)
        fun _ _ => trivial
      have hphase := hrunning hx hN ha
      exact ⟨hphase, rfl, .finished a (running_of_phase hphase) _ (.inr rfl) _ _ _ _⟩
  · cases hload

theorem provided_discovery (jobId : DiscoveryJobId) :
    Provided 2 (lifeStake (.runDiscovery jobId) (jobPhase jobId)) (Lives jobId) (fun _ => 0)
      (Apart jobId) :=
  provided_life rfl
    (fun _ ho => (writes_spares ho).mono fun _ _ h => ⟨phase_of_spared h, h.lives⟩)
    (fun _ _ => ⟨rfl, (spares_of_eq rfl).lives⟩) (fun w db => spends_runDiscovery w.network db)
    fun w _ hm => apart_operation hm w

/-- With a broker that delivers the message of the job once, and with no other start of its
discovery, every move of every run takes the job a step of its life or leaves it, and a finished
discovery is left as it is. -/
theorem discovery_life (store : Platform) (jobId : DiscoveryJobId)
    (hstore : lifeStake (.runDiscovery jobId) (jobPhase jobId) store ≤ 2)
    (moves : List Move) (hmoves : ∀ net, .receive (.runDiscovery net jobId) ∉ moves) :
    (∀ done move later, moves = done ++ move :: later →
      DiscoveryStep ((System.run { store := store } done).store.discoveryJobs.get? jobId)
        ((System.run { store := store } (done ++ [move])).store.discoveryJobs.get? jobId)) ∧
    ∀ done later job, moves = done ++ later →
      (System.run { store := store } done).store.discoveryJobs.get? jobId = some job →
      Finished job.status →
      ∃ job', (System.run { store := store } moves).store.discoveryJobs.get? jobId = some job' ∧
        SameFindings job job' := by
  have hapart (o : Operation) (ho : .receive o ∈ moves) : Apart jobId o :=
    fun net heq => hmoves net (heq ▸ ho)
  constructor
  · rintro done move later rfl
    exact life_step (provided_discovery jobId) hstore hapart
  · rintro done later job rfl hjob hfinal
    have hsteps := life_steps (provided_discovery jobId) hstore hapart
    refine Program.keeps_steps (K := fun db => ∃ job', db.discoveryJobs.get? jobId = some job' ∧
      SameFindings job job') (fun db db' hstep h => ?_) hsteps ⟨job, hjob, rfl⟩
    obtain ⟨job', hjob', hsame⟩ := h
    rw [Lives, hjob'] at hstep
    obtain ⟨job'', hjob'', hsame'⟩ := kept_of_finished hstep (by rw [hsame.status]; exact hfinal)
    exact ⟨job'', hjob'', hsame.trans hsame'⟩

/-! ### A discovery from its request to its end -/

def labMoves : List Move := labRequested ++ List.replicate 7 (.task 0)

theorem discovery_life_of_lab :
    (∀ done move later, labMoves = done ++ move :: later →
      DiscoveryStep ((System.run { store := lab } done).store.discoveryJobs.get? 1)
        ((System.run { store := lab } (done ++ [move])).store.discoveryJobs.get? 1)) ∧
    ∀ done later job, labMoves = done ++ later →
      (System.run { store := lab } done).store.discoveryJobs.get? 1 = some job →
      Finished job.status →
      ∃ job', (System.run { store := lab } labMoves).store.discoveryJobs.get? 1 = some job' ∧
        SameFindings job job' :=
  discovery_life lab 1 (by decide) labMoves fun net => by simp [labMoves, labRequested]

example : ((System.run { store := lab } labMoves).store.discoveryJobs.get? 1).map
    (fun j => (j.status, j.devicesFound, j.devicesAdded)) = some (.completed, 1, 0) := rfl

end DevSecOpsPlatform.DiscoveryExecutions
