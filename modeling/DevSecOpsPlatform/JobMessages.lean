import DevSecOpsPlatform.BudgetedPrograms
import DevSecOpsPlatform.OrphanJobs
import Mathlib.Algebra.GroupWithZero.Nat

/-!
# Messages of jobs

Only the request that creates a job sends the message of its task, once, after it has inserted
the row, and keys of rows are not used again. So with a broker that delivers a message once,
the message of a job is taken at most once in any run, and is not on the queue after that.
What is counted is the message on the queue, and once more while the job has no row: the
insertion of the row pays for the message that the request then sends.
-/

namespace DevSecOpsPlatform.JobMessages

open GuardedRuns KeyedTables StatementPrograms PlatformModels PlatformStore RolePermissions
open PythonValues InventoryTasks InventoryViews ProvisioningTasks ProvisioningViews
open PlatformOperations OperationStatements PlatformChanges JobHandoffs OrphanJobs

/-- The message starts the task of a job. -/
def isJob : TaskMessage → Bool
  | .runDiscovery _ | .executeProvisioningJob _ => true
  | _ => false

/-- The job of the message has a row. -/
def hasRow : TaskMessage → Platform → Bool
  | .runDiscovery id, db => refersTo db.discoveryJobs id
  | .executeProvisioningJob id, db => refersTo db.provisioningJobs id
  | _, _ => true

def queued (m : TaskMessage) (db : Platform) : ℕ := (db.queue.map Prod.snd).count m

/-- How often the message is on the queue, and once more while its job has no row. -/
def stake (m : TaskMessage) (db : Platform) : ℕ := queued m db + if hasRow m db then 0 else 1

theorem stake_of_row {m : TaskMessage} {db : Platform} (h : hasRow m db = true) :
    stake m db = queued m db := by
  simp [stake, h]

theorem stake_of_no_row {m : TaskMessage} {db : Platform} (h : hasRow m db = false) :
    stake m db = queued m db + 1 := by
  simp [stake, h]

/-- What the task of a message is as an operation. -/
def operation (w : Worker) : TaskMessage → Operation
  | .runDiscovery jobId => .runDiscovery w.network jobId
  | .checkDeviceReachability deviceId => .checkDeviceReachability w.network deviceId
  | .executeProvisioningJob jobId => .executeProvisioningJob w.push jobId
  | .runComplianceCheck deviceId ruleIds user =>
    .runComplianceCheck w.compliance deviceId ruleIds user
  | .runDriftDetection deviceId user => .runDriftDetection w.drift deviceId user
  | .takeConfigSnapshot deviceId golden user => .takeConfigSnapshot w.snapshot deviceId golden user

theorem task_eq (w : Worker) (m : TaskMessage) : w.task m = (operation w m).program := by
  cases m <;> rfl

theorem createsJob_operation (w : Worker) (m : TaskMessage) :
    createsJob (operation w m) = false := by
  cases m <;> rfl

/-! ### Statements that send no message of a job -/

/-- What is added to the queue are messages of no job. -/
def SendsNoJob (db db' : Platform) : Prop :=
  ∃ sent, db'.queue = db.queue ++ sent ∧ ∀ x ∈ sent, isJob x.2 = false

theorem SendsNoJob.of_eq {db db' : Platform} (h : db'.queue = db.queue) : SendsNoJob db db' :=
  ⟨[], by simpa using h, by simp⟩

instance : Std.Refl SendsNoJob := ⟨fun _ => .of_eq rfl⟩

theorem sendsNoJob_of_does {s : Particular} {db db' : Platform} (h : Does s db db') :
    SendsNoJob db db' := by
  cases h <;> exact .of_eq rfl

theorem vocabulary_sendsNoJob :
    Vocabulary (fun _ p => p.Writes SendsNoJob) (fun s => s ≠ .createDiscoveryJob)
      (fun _ => True) := by
  refine vocabulary_writes_of_delay trivial (fun h => .of_eq h.2) (fun db taskId m hm => ?_)
    fun _ h => sendsNoJob_of_does h
  refine ⟨[(taskId, m)], rfl, fun x hx => ?_⟩
  obtain rfl := List.mem_singleton.mp hx
  cases m with
  | runDiscovery => exact absurd rfl hm
  | executeProvisioningJob => exact hm.elim
  | _ => rfl

/-- Only the requests that create jobs send their messages. -/
theorem writes_sendsNoJob {o : Operation} (ho : createsJob o = false) :
    o.program.Writes SendsNoJob := by
  have v := vocabulary_sendsNoJob
  refine v.program o (fun s hs => ?_) trivial fun hapart => ?_
  · rintro rfl
    cases o with
    | createDiscoveryJob => cases ho
    | _ => cases hs
  · cases o with
    | get allows caller view => exact writes_get allows caller view
    | createProvisioningJob => cases ho
    | executeProvisioningJob w jobId =>
      exact writes_executeProvisioningJob (fun _ => .of_eq rfl) (fun _ _ => .of_eq rfl)
        (fun _ _ _ _ => .of_eq rfl) (fun _ _ _ => .of_eq rfl) fun _ _ _ => .of_eq rfl
    | runDiscovery net jobId =>
      exact v.runDiscovery net jobId fun set _ => writes_saveFields fun db => .of_eq rfl
    | updateUserProfile caller now id role =>
      exact writes_updateUserProfile caller now id role fun _ _ => .of_eq rfl
    | destroyUserProfile caller id =>
      exact writes_destroyUserProfile caller id fun _ => .of_eq rfl
    | _ => cases hapart

theorem queued_of_sendsNoJob {m : TaskMessage} (hm : isJob m = true) {db db' : Platform}
    (h : SendsNoJob db db') : queued m db' = queued m db := by
  obtain ⟨sent, hqueue, hsent⟩ := h
  have hnone : (sent.map Prod.snd).count m = 0 := by
    refine List.count_eq_zero.mpr fun hmem => ?_
    obtain ⟨x, hx, rfl⟩ := List.mem_map.mp hmem
    simp [hsent x hx] at hm
  rw [queued, hqueue, List.map_append, List.count_append, hnone, Nat.add_zero, queued]

/-! ### Rows of jobs -/

theorem refersTo_update {α : Type} (t : Table α) (id k : ℕ) (set : α → α) :
    refersTo (t.update id set) k = refersTo t k := by
  rw [refersTo, refersTo, Table.get?_update]
  split
  · exact Option.isSome_map
  · rfl

theorem refersTo_insert {α : Type} (t : Table α) (a : α) (k : ℕ) :
    refersTo (t.insert a) k = (refersTo t k || k == t.nextId) := by
  rw [refersTo, refersTo, Table.get?_insert]
  split
  · rename_i hk
    simp [hk]
  · rename_i hk
    simp [hk]

/-- No operation deletes a job. -/
theorem hasRow_of_effect {o : Operation} {db db' : Platform} (h : Effect o db db')
    {m : TaskMessage} (hm : hasRow m db = true) : hasRow m db' = true := by
  cases m with
  | executeProvisioningJob id =>
    obtain ⟨job, hjob⟩ := Option.isSome_iff_exists.mp hm
    obtain ⟨job', hjob', -⟩ := job_of_effect h hjob
    exact refersTo_of_get? hjob'
  | runDiscovery id =>
    cases h with
    | common hchange =>
      cases hchange with
      | createDiscoveryJob j =>
        rw [hasRow] at hm
        simp [hasRow, refersTo_insert, hm]
      | setDiscoveryTask k task => exact (refersTo_update ..).trans hm
      | _ => exact hm
    | saveDiscoveryJob net k _ set hsubnet => exact (refersTo_update ..).trans hm
    | _ => exact hm
  | _ => rfl

theorem stake_le {m : TaskMessage} {db db' : Platform} (hqueued : queued m db' = queued m db)
    (hrow : hasRow m db = true → hasRow m db' = true) : stake m db' ≤ stake m db := by
  cases h : hasRow m db with
  | true => rw [stake_of_row h, stake_of_row (hrow h), hqueued]
  | false =>
    rw [stake_of_no_row h, stake, hqueued]
    split <;> omega

/-- An operation that creates no job does not raise what is counted of a message. -/
theorem notRaising_program {m : TaskMessage} (hm : isJob m = true) {o : Operation}
    (ho : createsJob o = false) : o.program.Writes (Program.NotRaising (stake m)) :=
  ((writes_sendsNoJob ho).and (writes_program o)).mono fun _ _ h =>
    stake_le (queued_of_sendsNoJob hm h.1) (hasRow_of_effect h.2)

/-! ### Requests that create a job -/

theorem budgeted_insertRow_bind {φ : Platform → ℕ} {b : ℕ} {β : Type}
    {ok : Platform → Except Exn Unit} {next : Platform → ℕ} {set : Platform → Platform}
    {f : ℕ → Statement β}
    (h : ∀ db, ∃ left, φ (set db) + left ≤ φ db + b ∧ (f (next db)).Budgeted φ left) :
    (insertRow ok next set >>= f).Budgeted φ b := by
  refine Program.budgeted_statement_bind fun db id db' hrun => ?_
  obtain ⟨rfl, rfl⟩ := eq_of_insertRow hrun
  exact h db

/-- An insertion that goes through has met the constraints. -/
theorem spends_insertRow_bind {N b : ℕ} {φ : Platform → ℕ} {G : Platform → Platform → Prop}
    [Std.Refl G] {β : Type} {ok : Platform → Except Exn Unit} {next : Platform → ℕ}
    {set : Platform → Platform} {f : ℕ → Statement β} {db : Platform}
    (h : ∀ u v, Relation.ReflTransGen G db u → φ u + b ≤ N → ok u = .ok v →
      G u (set u) ∧ ∃ left, φ (set u) + left ≤ φ u + b ∧
        (f (next u)).Spends N φ G left (set u)) :
    (insertRow ok next set >>= f).Spends N φ G b db := by
  refine Program.spends_statement_bind fun u id t hu hN hrun => ?_
  cases hok : ok u with
  | error e => simp [hok] at hrun
  | ok v =>
    simp only [hok, Except.ok.injEq, Prod.mk.injEq] at hrun
    obtain ⟨rfl, rfl⟩ := hrun
    exact h u v hu hN hok

/-- Sending a message is paid for by the budget of the message. -/
theorem budgeted_delay_bind {β : Type} {m : TaskMessage} (taskId : String) (sent : TaskMessage)
    {f : String → Statement β} (hf : (f taskId).Budgeted (stake m) 0) :
    (delay taskId sent >>= f).Budgeted (stake m) ([sent].count m) := by
  refine Program.budgeted_statement_bind fun db given db' hrun => ?_
  obtain ⟨rfl, rfl⟩ := Prod.mk.inj (Except.ok.inj hrun)
  refine ⟨0, ?_, hf⟩
  have hrow : hasRow m { db with queue := db.queue ++ [(taskId, sent)] } = hasRow m db := by
    cases m <;> rfl
  have hqueued : queued m { db with queue := db.queue ++ [(taskId, sent)] } =
      queued m db + [sent].count m := by
    rw [queued, List.map_append, List.count_append]
    rfl
  rw [stake, hrow, hqueued, stake]
  omega

/-- The row that is inserted pays for its message. -/
theorem stake_insertDiscovery (m : TaskMessage) (db : Platform) (j : DiscoveryJob) :
    stake m { db with discoveryJobs := db.discoveryJobs.insert j } +
      [.runDiscovery db.discoveryJobs.nextId].count m = stake m db := by
  cases m with
  | runDiscovery id =>
    by_cases hid : id = db.discoveryJobs.nextId
    · simp [stake, queued, hasRow, hid, refersTo, Table.get?_insert]
    · have hrow : hasRow (.runDiscovery id)
          { db with discoveryJobs := db.discoveryJobs.insert j } =
            hasRow (.runDiscovery id) db := by
        simp [hasRow, refersTo_insert, hid]
      have hother : [TaskMessage.runDiscovery db.discoveryJobs.nextId].count (.runDiscovery id) =
          0 := List.count_eq_zero.mpr (by simp [hid])
      rw [stake, hrow, hother]
      rfl
  | _ => rfl

theorem stake_insertProvisioning (m : TaskMessage) (db : Platform) (j : ProvisioningJob) :
    stake m { db with provisioningJobs := db.provisioningJobs.insert j } +
      [.executeProvisioningJob db.provisioningJobs.nextId].count m = stake m db := by
  cases m with
  | executeProvisioningJob id =>
    by_cases hid : id = db.provisioningJobs.nextId
    · simp [stake, queued, hasRow, hid, refersTo, Table.get?_insert]
    · have hrow : hasRow (.executeProvisioningJob id)
          { db with provisioningJobs := db.provisioningJobs.insert j } =
            hasRow (.executeProvisioningJob id) db := by
        simp [hasRow, refersTo_insert, hid]
      have hother : [TaskMessage.executeProvisioningJob db.provisioningJobs.nextId].count
          (.executeProvisioningJob id) = 0 := List.count_eq_zero.mpr (by simp [hid])
      rw [stake, hrow, hother]
      rfl
  | _ => rfl

theorem budgeted_createDiscoveryJob (m : TaskMessage) (caller : Option UserId) (now : DateTime)
    (subnet : Option String) (taskId : String) :
    (InventoryViews.createDiscoveryJob caller now subnet taskId).Budgeted (stake m) 0 := by
  refine (writes_permit _ caller).budgeted_bind fun user => ?_
  split
  · trivial
  · split
    · trivial
    · refine budgeted_insertRow_bind fun db =>
        ⟨_, (stake_insertDiscovery m db _).le, budgeted_delay_bind taskId _ ?_⟩
      refine Program.Writes.budgeted_bind (writes_saveFields fun db => ?_) fun _ => ?_
      · refine stake_le rfl fun hrow => ?_
        cases m with
        | runDiscovery => exact (refersTo_update ..).trans hrow
        | _ => exact hrow
      · exact (Program.writes_query _).budgeted_bind fun data => trivial

theorem budgeted_createProvisioningJob (m : TaskMessage) (caller : Option UserId)
    (now : DateTime) (data : ProvisioningJobData) (taskId : String) :
    (ProvisioningViews.createProvisioningJob caller now data taskId).Budgeted (stake m) 0 := by
  refine (writes_permit _ caller).budgeted_bind fun user => ?_
  refine (writes_validateJob data).budgeted_bind fun deviceIds => ?_
  refine budgeted_insertRow_bind fun db => ⟨_, (stake_insertProvisioning m db _).le, ?_⟩
  refine Program.Writes.budgeted_bind (Program.writes_statement fun db u db' h => ?_) fun _ => ?_
  · split at h
    · obtain ⟨-, rfl⟩ := Prod.mk.inj (Except.ok.inj h)
      exact stake_le rfl fun h => by cases m <;> exact h
    · cases h
  · refine budgeted_delay_bind taskId _ ?_
    refine Program.Writes.budgeted_bind (writes_saveFields fun db => ?_) fun _ => ?_
    · refine stake_le rfl fun hrow => ?_
      cases m with
      | executeProvisioningJob => exact (refersTo_update ..).trans hrow
      | _ => exact hrow
    · exact (Program.writes_query _).budgeted_bind fun data => trivial

/-- No request starts with a message to send. -/
theorem budgeted_reply {m : TaskMessage} (hm : isJob m = true) (o : Operation) :
    o.reply.Budgeted (stake m) 0 := by
  cases ho : createsJob o with
  | false => exact (writes_reply (notRaising_program hm ho)).budgeted 0
  | true =>
    cases o with
    | createDiscoveryJob caller now subnet taskId =>
      exact budgeted_createDiscoveryJob m caller now subnet taskId
    | createProvisioningJob caller now data taskId =>
      exact budgeted_createProvisioningJob m caller now data taskId
    | _ => cases ho

theorem notRaising_task {m : TaskMessage} (hm : isJob m = true) (w : Worker)
    (taken : TaskMessage) : (w.task taken).Writes (Program.NotRaising (stake m)) := by
  rw [task_eq]
  exact notRaising_program hm (createsJob_operation w taken)

/-! ### Runs of a platform that keeps a total -/

/-- The message that a worker takes with the move. -/
def takes (c : System) : Move → Option TaskMessage
  | .take n _ => c.store.queue[n]?.map Prod.snd
  | _ => none

/-- The messages that workers take in the run, in their order. -/
def taken : System → List Move → List TaskMessage
  | _, [] => []
  | c, move :: moves => (takes c move).toList ++ taken (c.step move) moves

/-- The request has been answered. -/
def ended (r : RequestInProgress) : Bool := r.failed || !r.rest.isStmt

def dequeue (n : ℕ) (db : Platform) : Platform := { db with queue := db.queue.eraseIdx n }

/-- The request has failed, or keeps within the budget. -/
def KeepsTo (N : ℕ) (φ : Platform → ℕ) (G : Platform → Platform → Prop) (db : Platform) (b : ℕ)
    (r : RequestInProgress) : Prop :=
  r.failed = true ∨ r.rest.Spends N φ G b db

/-- Requests start without a budget. The message that a worker takes brings the budget of its
task, and is charged with `cost`. -/
structure Provided (N : ℕ) (φ : Platform → ℕ) (G : Platform → Platform → Prop)
    (cost : TaskMessage → ℕ) (received : Operation → Prop) : Prop where
  reply : ∀ o, received o → ∀ db, o.reply.Spends N φ G 0 db
  dequeue : ∀ (db : Platform) n, G db (dequeue n db)
  task : ∀ (db : Platform) n x, φ db ≤ N → db.queue[n]? = some x →
    ∃ b, φ (JobMessages.dequeue n db) + b + cost x.2 ≤ φ db ∧
      ∀ w db', (Worker.task w x.2).Spends N φ G b db'

/-- What is counted, what the requests and the tasks hold and what was charged are within the
total. -/
def Balanced (N : ℕ) (φ : Platform → ℕ) (G : Platform → Platform → Prop) (charged : ℕ)
    (c : System) : Prop :=
  ∃ k l, Holding (KeepsTo N φ G c.store) c.requests k ∧
    Holding (fun b p => p.Spends N φ G b c.store) c.tasks l ∧ φ c.store + k + l + charged ≤ N

section

variable {N : ℕ} {φ : Platform → ℕ} {G : Platform → Platform → Prop} {cost : TaskMessage → ℕ}
  {received : Operation → Prop} {charged : ℕ} {c : System}

theorem KeepsTo.stable {db db' : Platform} (hG : G db db') (b : ℕ) (r : RequestInProgress)
    (h : KeepsTo N φ G db b r) : KeepsTo N φ G db' b r :=
  h.imp_right fun hspends => hspends.stable hG

theorem keepsTo_advance [Std.Refl G] {db : Platform} {b : ℕ} {r : RequestInProgress}
    (h : KeepsTo N φ G db b r) (hrunning : r.failed = false) (hN : φ db + b ≤ N) :
    G db (r.rest.write db) ∧ ∃ left, φ (r.rest.write db) + left ≤ φ db + b ∧
      KeepsTo N φ G (r.rest.write db) left (r.advance db) := by
  rcases h with hfailed | hspends
  · simp [hrunning] at hfailed
  · obtain ⟨hG, left, hle, hnext⟩ := hspends.step hN
    refine ⟨hG, left, hle, ?_⟩
    unfold RequestInProgress.advance
    split
    · exact .inl rfl
    · exact .inr hnext

theorem balanced_receive (h : Balanced N φ G charged c) {o : Operation}
    (ho : ∀ db, o.reply.Spends N φ G 0 db) : Balanced N φ G charged (c.step (.receive o)) := by
  obtain ⟨k, l, hrequests, htasks, hle⟩ := h
  have hnew : KeepsTo N φ G c.store 0 { rest := o.reply } := .inr (ho c.store)
  exact ⟨0 + k, l, hrequests.concat hnew, htasks, by rw [Nat.zero_add]; exact hle⟩

theorem balanced_request [Std.Refl G] (h : Balanced N φ G charged c) (i : ℕ) :
    Balanced N φ G charged (c.step (.request i)) ∧ G c.store (c.step (.request i)).store := by
  dsimp only [System.step]
  split
  · rename_i r hi
    cases hfailed : r.failed with
    | true => exact ⟨h, refl c.store⟩
    | false =>
      obtain ⟨k, l, hrequests, htasks, hle⟩ := h
      obtain ⟨b, rest, rfl, hb, hset⟩ :=
        hrequests.set (KeepsTo N φ G (r.rest.write c.store)) hi
      obtain ⟨hG, left, hspent, hnext⟩ := keepsTo_advance hb hfailed (by omega)
      refine ⟨⟨left + rest, l, ?_, ?_, ?_⟩, hG⟩
      · exact hset left _ (KeepsTo.stable hG) hnext
      · exact htasks.mono fun b p hp => hp.stable hG
      · simp only [Bool.false_eq_true, if_false]
        omega
  · exact ⟨h, refl c.store⟩

theorem balanced_fail (h : Balanced N φ G charged c) (i : ℕ) :
    Balanced N φ G charged (c.step (.fail i)) := by
  dsimp only [System.step]
  split
  · rename_i r hi
    split
    · obtain ⟨k, l, hrequests, htasks, hle⟩ := h
      obtain ⟨b, rest, rfl, -, hset⟩ := hrequests.set _ hi
      exact ⟨b + rest, l, hset b _ (fun _ _ h => h) (.inl rfl), htasks, hle⟩
    · exact h
  · exact h

theorem balanced_take (hprovided : Provided N φ G cost received) [Std.Refl G]
    (h : Balanced N φ G charged c) (n : ℕ) (w : Worker) :
    Balanced N φ G (charged + ((takes c (.take n w)).map cost).getD 0) (c.step (.take n w)) ∧
      G c.store (c.step (.take n w)).store := by
  dsimp only [System.step, takes]
  cases hn : c.store.queue[n]? with
  | none => exact ⟨h, refl c.store⟩
  | some x =>
    obtain ⟨k, l, hrequests, htasks, hle⟩ := h
    obtain ⟨b, hcost, htask⟩ := hprovided.task c.store n x (by omega) hn
    have hG := hprovided.dequeue c.store n
    refine ⟨⟨k, b + l, hrequests.mono (KeepsTo.stable hG), ?_, ?_⟩, hG⟩
    · exact (htasks.mono fun b p hp => hp.stable hG).concat (htask w _)
    · simp only [Option.map_some, Option.getD_some]
      dsimp only [dequeue] at hcost
      omega

theorem balanced_task [Std.Refl G] (h : Balanced N φ G charged c) (i : ℕ) :
    Balanced N φ G charged (c.step (.task i)) ∧ G c.store (c.step (.task i)).store := by
  dsimp only [System.step]
  split
  · rename_i p hi
    obtain ⟨k, l, hrequests, htasks, hle⟩ := h
    obtain ⟨b, rest, rfl, hb, hset⟩ := htasks.set
      (fun b q => q.Spends N φ G b (p.write c.store)) hi
    obtain ⟨hG, left, hspent, hnext⟩ := hb.step (by omega)
    refine ⟨⟨k, left + rest, hrequests.mono (KeepsTo.stable hG), ?_, ?_⟩, hG⟩
    · exact hset left _ (fun b q hq => hq.stable hG) hnext
    · dsimp only
      omega
  · exact ⟨h, refl c.store⟩

/-- Each move keeps the balance and is a step of the relation. -/
theorem balanced_step (hprovided : Provided N φ G cost received) [Std.Refl G]
    (h : Balanced N φ G charged c) (move : Move) (hmove : ∀ o, move = .receive o → received o) :
    Balanced N φ G (charged + ((takes c move).map cost).getD 0) (c.step move) ∧
      G c.store (c.step move).store := by
  cases move with
  | receive o => exact ⟨balanced_receive h (hprovided.reply o (hmove o rfl)), refl c.store⟩
  | request i => exact balanced_request h i
  | fail i =>
    refine ⟨balanced_fail h i, ?_⟩
    dsimp only [System.step]
    split
    · split <;> exact refl c.store
    · exact refl c.store
  | take n w => exact balanced_take hprovided h n w
  | task i => exact balanced_task h i

theorem balanced_run (hprovided : Provided N φ G cost received) [Std.Refl G]
    (h : Balanced N φ G charged c) (moves : List Move)
    (hmoves : ∀ o, .receive o ∈ moves → received o) :
    Balanced N φ G (charged + ((taken c moves).map cost).sum) (c.run moves) := by
  induction moves generalizing c charged with
  | nil => exact h
  | cons move moves ih =>
    have hstep := balanced_step hprovided h move fun o ho => hmoves o (ho ▸ List.mem_cons_self)
    have hrest := ih hstep.1 fun o ho => hmoves o (List.mem_cons_of_mem _ ho)
    have hcost : ((taken c (move :: moves)).map cost).sum =
        ((takes c move).map cost).getD 0 + ((taken (c.step move) moves).map cost).sum := by
      rw [taken, List.map_append, List.sum_append]
      cases takes c move <;> rfl
    rw [hcost, ← Nat.add_assoc]
    exact hrest

/-- From any state to a later one of the run the store makes steps of the relation. -/
theorem steps_run (hprovided : Provided N φ G cost received) [Std.Refl G]
    (h : Balanced N φ G charged c) (moves : List Move)
    (hmoves : ∀ o, .receive o ∈ moves → received o) :
    Relation.ReflTransGen G c.store (c.run moves).store := by
  induction moves generalizing c charged with
  | nil => exact .refl
  | cons move moves ih =>
    have hstep := balanced_step hprovided h move fun o ho => hmoves o (ho ▸ List.mem_cons_self)
    exact .head hstep.2 (ih hstep.1 fun o ho => hmoves o (List.mem_cons_of_mem _ ho))

/-- What each step keeps while `P` holds after it is kept while `P` holds in the run. -/
theorem kept_while (hprovided : Provided N φ G cost received) [Std.Refl G]
    (h : Balanced N φ G charged c) {moves : List Move}
    (hmoves : ∀ o, .receive o ∈ moves → received o) {P K : Platform → Prop}
    (hK : ∀ db db', G db db' → P db' → K db → K db')
    (hP : ∀ done later, moves = done ++ later → P (c.run done).store) (hc : K c.store) :
    K (c.run moves).store := by
  induction moves generalizing c charged with
  | nil => exact hc
  | cons move moves ih =>
    have hstep := balanced_step hprovided h move fun o ho => hmoves o (ho ▸ List.mem_cons_self)
    refine ih hstep.1 (fun o ho => hmoves o (List.mem_cons_of_mem _ ho)) ?_ ?_
    · rintro done later rfl
      exact hP (move :: done) later rfl
    · exact hK _ _ hstep.2 (hP [move] moves rfl) hc

/-- A platform at rest holds no budget. -/
theorem balanced_start {store : Platform} (h : φ store ≤ N) :
    Balanced N φ G 0 { store := store } := ⟨0, 0, .nil, .nil, h⟩

theorem Balanced.le (h : Balanced N φ G charged c) : φ c.store + charged ≤ N := by
  obtain ⟨k, l, -, -, hle⟩ := h
  omega

end

/-- What an operation keeps, its answer keeps. -/
theorem keeps_reply {K : Platform → Prop} {o : Operation} (h : o.program.Keeps K) :
    o.reply.Keeps K := by
  cases htask : o.isTask with
  | false => exact (program_of_reply htask ▸ h).of_bind
  | true =>
    cases o with
    | runDiscovery => exact h.bind fun _ => trivial
    | checkDeviceReachability => exact h.bind fun _ => trivial
    | refreshAllDeviceStatus => exact h.bind fun _ => trivial
    | executeProvisioningJob => exact h.bind fun _ => trivial
    | runComplianceCheck => exact h.bind fun _ => trivial
    | runDriftDetection => exact h.bind fun _ => trivial
    | takeConfigSnapshot => exact h.bind fun _ => trivial
    | _ => cases htask

/-- An invariant that the requests and the tasks keep, those under way too, holds in every later
state. -/
theorem invariant_run_from {K : Platform → Prop} {received : Operation → Prop}
    (hreply : ∀ o, received o → o.program.Keeps K)
    (htask : ∀ db n x, K db → db.queue[n]? = some x →
      K (dequeue n db) ∧ ∀ w, (operation w x.2).program.Keeps K)
    {c : System} (hstore : K c.store)
    (hrequests : ∀ r ∈ c.requests, r.failed = true ∨ r.rest.Keeps K)
    (htasks : ∀ p ∈ c.tasks, p.Keeps K) (moves : List Move)
    (hmoves : ∀ o, .receive o ∈ moves → received o) : K (c.run moves).store := by
  have hprovided : Provided 0 (Program.breach K) Program.AnyStep (fun _ => 0) received := {
    reply := fun o ho _ => (keeps_reply (hreply o ho)).spends
    dequeue := fun _ _ => trivial
    task := fun db n x hdb hn => by
      obtain ⟨hafter, htasks⟩ := htask db n x (Program.breach_le_zero.mp hdb) hn
      have hle := Program.breach_le_zero.mpr hafter
      exact ⟨0, by omega, fun w _ => task_eq w x.2 ▸ (htasks w).spends⟩ }
  have hstart : Balanced 0 (Program.breach K) Program.AnyStep 0 c :=
    ⟨0, 0, holding_zero fun r hr => (hrequests r hr).imp_right Program.Keeps.spends,
      holding_zero fun p hp => (htasks p hp).spends, Program.breach_le_zero.mpr hstore⟩
  have hrun := balanced_run hprovided hstart moves hmoves
  exact Program.breach_le_zero.mp ((Nat.le_add_right _ _).trans hrun.le)

/-- An invariant that the requests and the tasks keep holds in every state of a run. -/
theorem invariant_run {K : Platform → Prop} {received : Operation → Prop}
    (hreply : ∀ o, received o → o.program.Keeps K)
    (htask : ∀ db n x, K db → db.queue[n]? = some x →
      K (dequeue n db) ∧ ∀ w, (operation w x.2).program.Keeps K)
    {store : Platform} (hstore : K store) (moves : List Move)
    (hmoves : ∀ o, .receive o ∈ moves → received o) :
    K (System.run { store := store } moves).store :=
  invariant_run_from (c := { store := store }) hreply htask hstore (by simp) (by simp) moves hmoves

/-- What a move does to the store: an effect of an operation, or a message is taken. -/
inductive StoreStep : Platform → Platform → Prop where
  | effect {o : Operation} {db db' : Platform} (h : Effect o db db') : StoreStep db db'
  | dequeue (db : Platform) (n : ℕ) : StoreStep db (dequeue n db)

instance : Std.Refl StoreStep := ⟨fun db => .effect (.common (o := .refreshAllDeviceStatus default)
  (.nothing db))⟩

/-- Whatever is received. -/
theorem provided_storeStep :
    Provided 0 (fun _ => 0) StoreStep (fun _ => 0) (fun _ => True) where
  reply o _ _ := ((writes_reply (writes_program o)).mono fun _ _ => .effect).spends
  dequeue db n := .dequeue db n
  task _ _ x _ _ := by
    refine ⟨0, Nat.le_refl _, fun w _ => ?_⟩
    rw [task_eq]
    exact ((writes_program _).mono fun _ _ => .effect).spends

/-! ### Delivery -/

/-- A worker takes one of the messages that are counted. -/
theorem stake_dequeue (m : TaskMessage) {db : Platform} {n : ℕ} {x : String × TaskMessage}
    (hn : db.queue[n]? = some x) : stake m (dequeue n db) + [x.2].count m = stake m db := by
  obtain ⟨hlt, hx⟩ := List.getElem?_eq_some_iff.mp hn
  have hperm : (db.queue[n] :: db.queue.eraseIdx n).Perm db.queue :=
    List.getElem_cons_eraseIdx_perm hlt
  have hcount := ((hperm.map Prod.snd).count_eq m).symm
  have hrow : hasRow m (dequeue n db) = hasRow m db := by
    cases m <;> rfl
  rw [List.map_cons, hx, List.count_cons] at hcount
  rw [stake, hrow, stake, queued, queued, hcount, List.count_singleton, dequeue]
  dsimp only
  omega

/-- The messages of a job are counted while they are on the queue, and charged when they are
taken. -/
theorem provided_stake {m : TaskMessage} (hm : isJob m = true) :
    Provided 1 (stake m) Program.AnyStep (fun sent => [sent].count m) (fun _ => True) where
  reply o _ db := (budgeted_reply hm o).spends (Program.writes_anyStep _)
  dequeue _ _ := trivial
  task db n x _ hn := by
    refine ⟨0, (stake_dequeue m hn).le, fun w db' => ?_⟩
    exact ((notRaising_task hm w x.2).budgeted 0).spends (Program.writes_anyStep _)

theorem sum_count (m : TaskMessage) (l : List TaskMessage) :
    (l.map fun sent => [sent].count m).sum = l.count m := by
  induction l with
  | nil => rfl
  | cons sent l ih =>
    rw [List.map_cons, List.sum_cons, ih, ← List.count_append, List.singleton_append]

/-- The message of a job is delivered at most once, and neither delivered again nor on the queue
after that, in every run of a platform whose queue has it at most once, for a job with a row. -/
theorem delivered_once (store : Platform) (m : TaskMessage) (hm : isJob m = true)
    (hstore : stake m store ≤ 1) (moves : List Move) :
    ((taken { store := store } moves) ++
      (System.run { store := store } moves).store.queue.map Prod.snd).count m ≤ 1 ∧
    (hasRow m (System.run { store := store } moves).store = false →
      m ∉ taken { store := store } moves ++
        (System.run { store := store } moves).store.queue.map Prod.snd) := by
  have hrun := balanced_run (provided_stake hm) (balanced_start hstore) moves fun _ _ => trivial
  have hcount := hrun.le
  rw [sum_count, Nat.zero_add] at hcount
  rw [← List.count_eq_zero, List.count_append]
  cases hrow : hasRow m (System.run { store := store } moves).store with
  | true =>
    rw [stake_of_row hrow, queued] at hcount
    exact ⟨by omega, fun h => by cases h⟩
  | false =>
    rw [stake_of_no_row hrow, queued] at hcount
    exact ⟨by omega, fun _ => by omega⟩

/-! ### Two steps for a message -/

/-- The message, which pays for two steps, and the steps that are done. -/
def lifeStake (m : TaskMessage) (phase : Platform → ℕ) (db : Platform) : ℕ :=
  stake m db + stake m db + phase db

section

variable {m : TaskMessage} {phase : Platform → ℕ} {G : Platform → Platform → Prop}

/-- A statement that does not touch the job's row and its message. -/
theorem untouched {db db' : Platform} (hrow : hasRow m db' = hasRow m db)
    (hqueue : db'.queue = db.queue) (hphase : phase db' = phase db) (hG : G db db') :
    Program.NotRaising (lifeStake m phase) db db' ∧ G db db' := by
  refine ⟨Nat.le_of_eq ?_, hG⟩
  rw [lifeStake, lifeStake, stake, stake, queued, queued, hrow, hqueue, hphase]

/-- A save that moves the phase from `before` to `after`. -/
theorem spends_saveFields_bind [Std.Refl G] {α β : Type} {rows : Platform → Table α}
    {setRows : Platform → Table α → Platform} {id : ℕ} {set : α → α} {f : Unit → Statement β}
    (before after left : ℕ) {b : ℕ} {db : Platform} (hspent : after + left = before + b)
    (hstake : ∀ u, stake m (setRows u ((rows u).update id set)) = stake m u)
    (hsave : ∀ u row, Relation.ReflTransGen G db u → lifeStake m phase u + b ≤ 2 →
      (rows u).get? id = some row → phase u = before ∧
        phase (setRows u ((rows u).update id set)) = after ∧
          G u (setRows u ((rows u).update id set)))
    (hf : ∀ t, phase t = after → (f ()).Spends 2 (lifeStake m phase) G left t) :
    (saveFields rows setRows id set >>= f).Spends 2 (lifeStake m phase) G b db := by
  refine Program.spends_statement_bind fun u _ t hu hN hsaved => ?_
  cases hrow : (rows u).get? id with
  | none => simp [hrow] at hsaved
  | some row =>
    simp only [hrow, Except.ok.injEq, Prod.mk.injEq, true_and] at hsaved
    subst hsaved
    obtain ⟨hbefore, hafter, hG⟩ := hsave u row hu hN hrow
    refine ⟨hG, left, ?_, hf _ hafter⟩
    rw [lifeStake, hafter, hstake, lifeStake, hbefore]
    omega

/-- When only the task of the message moves the phase, the message pays for that. -/
theorem provided_life (hm : isJob m = true) {apart : Operation → Prop}
    (hapart : ∀ o, apart o → o.program.Writes fun db db' => phase db' = phase db ∧ G db db')
    (hdequeue : ∀ db n, phase (dequeue n db) = phase db ∧ G db (dequeue n db))
    (htask : ∀ (w : Worker) db, (w.task m).Spends 2 (lifeStake m phase) G 2 db)
    (hother : ∀ w m', m' ≠ m → apart (operation w m')) :
    Provided 2 (lifeStake m phase) G (fun _ => 0) apart where
  reply o ho db := by
    have hstake := budgeted_reply hm o
    have hphase : o.reply.Writes (Program.NotRaising phase) :=
      writes_reply ((hapart o ho).mono fun _ _ h => h.1.le)
    refine ((hstake.add hstake).add (hphase.budgeted 0)).spends ?_
    exact writes_reply ((hapart o ho).mono fun _ _ h => h.2)
  dequeue db n := (hdequeue db n).2
  task db n x _ hn := by
    have hstake := stake_dequeue m hn
    have hphase := (hdequeue db n).1
    refine ⟨[x.2].count m + [x.2].count m, ?_, fun w db' => ?_⟩
    · rw [lifeStake, lifeStake]
      omega
    · by_cases hx : x.2 = m
      · rw [hx, List.count_singleton_self]
        exact htask w db'
      · rw [List.count_eq_zero.mpr (by simpa using Ne.symm hx), task_eq]
        have hwrites := hapart _ (hother w x.2 hx)
        have hcount := (notRaising_program hm (createsJob_operation w x.2)).budgeted 0
        have hkept : (operation w x.2).program.Writes (Program.NotRaising phase) :=
          hwrites.mono fun _ _ h => h.1.le
        refine ((hcount.add hcount).add (hkept.budgeted 0)).spends ?_
        exact hwrites.mono fun _ _ h => h.2

theorem life_step [Std.Refl G] {apart : Operation → Prop}
    (hprovided : Provided 2 (lifeStake m phase) G (fun _ => 0) apart) {store : Platform}
    (hstore : lifeStake m phase store ≤ 2) {done later : List Move} {move : Move}
    (hmoves : ∀ o, .receive o ∈ done ++ move :: later → apart o) :
    G (System.run { store := store } done).store
      (System.run { store := store } (done ++ [move])).store := by
  have hdone := balanced_run hprovided (balanced_start hstore) done
    fun o ho => hmoves o (List.mem_append_left _ ho)
  rw [System.run, System.run, runFrom_append]
  exact (balanced_step hprovided hdone move fun o ho => hmoves o (by simp [ho])).2

theorem life_steps [Std.Refl G] {apart : Operation → Prop}
    (hprovided : Provided 2 (lifeStake m phase) G (fun _ => 0) apart) {store : Platform}
    (hstore : lifeStake m phase store ≤ 2) {done later : List Move}
    (hmoves : ∀ o, .receive o ∈ done ++ later → apart o) :
    Relation.ReflTransGen G (System.run { store := store } done).store
      (System.run { store := store } (done ++ later)).store := by
  have hdone := balanced_run hprovided (balanced_start hstore) done
    fun o ho => hmoves o (List.mem_append_left _ ho)
  have hlater := steps_run hprovided hdone later
    fun o ho => hmoves o (List.mem_append_right _ ho)
  rw [System.run, System.run, runFrom_append]
  exact hlater

end

/-! ### A discovery that is requested and taken -/

def labRequested : List Move :=
  [.receive (.createDiscoveryJob (some 1) 0 (some "10.0.0.0/30") "t1"), .request 0, .request 0,
    .request 0, .request 0, .take 0 labWorker]

theorem delivered_once_of_lab :
    ((taken { store := lab } labRequested) ++
      (System.run { store := lab } labRequested).store.queue.map Prod.snd).count
        (.runDiscovery 1) ≤ 1 ∧
    (hasRow (.runDiscovery 1) (System.run { store := lab } labRequested).store = false →
      .runDiscovery 1 ∉ taken { store := lab } labRequested ++
        (System.run { store := lab } labRequested).store.queue.map Prod.snd) :=
  delivered_once lab (.runDiscovery 1) rfl (by decide) labRequested

example : taken { store := lab } labRequested = [.runDiscovery 1] := rfl

end DevSecOpsPlatform.JobMessages
