import DevSecOpsPlatform.JobHandoffs
import DevSecOpsPlatform.PlatformChanges

/-!
# Jobs that no message stands for

The views that create a job insert its row first and put the message of its task on the broker
afterwards. An exception between the two, for one the broker's when it cannot be reached,
leaves the row: the connection commits every statement, and nothing takes the insertion back.
Requests arrive, move statement by statement and may fail at any of them; workers take
messages off the queue and run their tasks. In every state a job with status PENDING has its
message queued, or a worker about to run it, or a request that has yet to send its message,
which may be one that has failed and never will.
-/

namespace DevSecOpsPlatform.OrphanJobs

open GuardedRuns KeyedTables StatementPrograms PlatformModels PlatformStore RolePermissions
open PythonValues InventoryTasks InventoryViews ProvisioningTasks ProvisioningViews SecurityTasks
open PlatformOperations OperationStatements PlatformChanges JobHandoffs

/-! ### Pending jobs -/

/-- The message is that of a job whose stored status is PENDING. -/
def Pending : TaskMessage → Platform → Prop
  | .runDiscovery id, db => (db.discoveryJobs.get? id).map DiscoveryJob.status = some .pending
  | .executeProvisioningJob id, db =>
    (db.provisioningJobs.get? id).map ProvisioningJob.status = some .pending
  | _, _ => False

/-- The message is on the queue. -/
def Queued (m : TaskMessage) (db : Platform) : Prop := ∃ taskId, (taskId, m) ∈ db.queue

/-- No job becomes PENDING, and the queue keeps its messages. -/
structure Settles (db db' : Platform) : Prop where
  pending : ∀ m, Pending m db' → Pending m db
  queue : ∀ x ∈ db.queue, x ∈ db'.queue

instance : Std.Refl Settles := ⟨fun _ => ⟨fun _ h => h, fun _ h => h⟩⟩

theorem pending_of_eq {db db' : Platform} (hdiscovery : db'.discoveryJobs = db.discoveryJobs)
    (hprovisioning : db'.provisioningJobs = db.provisioningJobs) (m : TaskMessage) :
    Pending m db' ↔ Pending m db := by
  cases m with
  | runDiscovery id => rw [Pending, Pending, hdiscovery]
  | executeProvisioningJob id => rw [Pending, Pending, hprovisioning]
  | _ => rfl

theorem Settles.of_eq {db db' : Platform} (hdiscovery : db'.discoveryJobs = db.discoveryJobs)
    (hprovisioning : db'.provisioningJobs = db.provisioningJobs)
    (hqueue : ∀ x ∈ db.queue, x ∈ db'.queue) : Settles db db' :=
  ⟨fun m h => (pending_of_eq hdiscovery hprovisioning m).mp h, hqueue⟩

/-- An update of the status that a job had before is one of its row. -/
theorem map_status_update {α β : Type} {t : Table α} {col : α → β} {id k : ℕ} {set : α → α}
    {b : β} (h : ((t.update id set).get? k).map col = some b)
    (hset : ∀ a, col (set a) = b → col a = b) : (t.get? k).map col = some b := by
  rw [Table.get?_update] at h
  split at h
  · obtain ⟨a, ha, hcol⟩ := Option.map_eq_some_iff.mp h
    obtain ⟨a', ha', rfl⟩ := Option.map_eq_some_iff.mp ha
    rw [ha', Option.map_some, hset a' hcol]
  · exact h

/-- The status of a job after an insertion, unless it is the inserted one. -/
theorem map_status_insert {α β : Type} {t : Table α} {col : α → β} {id : ℕ} {a : α} {b : β}
    (h : ((t.insert a).get? id).map col = some b) :
    (t.get? id).map col = some b ∨ id = t.nextId := by
  by_cases hid : id = t.nextId
  · exact .inr hid
  · rw [Table.get?_insert, if_neg hid] at h
    exact .inl h

theorem finalStatus_ne_pending (successes total : ℕ) :
    finalStatus successes total ≠ .pending := by
  intro h
  have hterminal := finalStatus_isTerminal successes total
  rw [h] at hterminal
  cases hterminal

theorem queue_of_change {db db' : Platform} (h : Change db db') :
    ∀ x ∈ db.queue, x ∈ db'.queue := by
  cases h with
  | enqueue => exact fun x hx => List.mem_append_left _ hx
  | _ => exact fun _ hx => hx

theorem pendingProvisioning_of_change {db db' : Platform} (h : Change db db')
    {id : ProvisioningJobId} (hpending : Pending (.executeProvisioningJob id) db') :
    Pending (.executeProvisioningJob id) db := by
  cases h with
  | deleteTemplate k =>
    rw [Pending, Table.get?_updateWhere, Option.map_map] at hpending
    obtain ⟨job, hjob, hstatus⟩ := Option.map_eq_some_iff.mp hpending
    rw [Pending, hjob, Option.map_some, ← hstatus, Function.comp_apply]
    split <;> rfl
  | _ => exact hpending

theorem queue_of_effect {o : Operation} {db db' : Platform} (h : Effect o db db') :
    ∀ x ∈ db.queue, x ∈ db'.queue := by
  cases h with
  | common hchange => exact queue_of_change hchange
  | _ => exact fun _ hx => hx

/-- The operations that insert jobs. -/
def createsJob : Operation → Bool
  | .createDiscoveryJob .. | .createProvisioningJob .. => true
  | _ => false

theorem pendingProvisioning_of_effect {o : Operation} (ho : createsJob o = false)
    {db db' : Platform} (h : Effect o db db') {id : ProvisioningJobId}
    (hpending : Pending (.executeProvisioningJob id) db') :
    Pending (.executeProvisioningJob id) db := by
  cases h with
  | common hchange => exact pendingProvisioning_of_change hchange hpending
  | createJob => cases ho
  | setJobTask => cases ho
  | setRunning => exact map_status_update hpending fun _ hstatus => by cases hstatus
  | setRendered => exact map_status_update hpending fun _ hstatus => hstatus
  | setFinished w jobId _ successes total =>
    exact map_status_update hpending fun _ hstatus =>
      absurd hstatus (finalStatus_ne_pending successes total)
  | _ => exact hpending

theorem pendingDiscovery_of_own {o : Operation} (ho : createsJob o = false)
    (hdiscovery : ∀ net jobId, o ≠ .runDiscovery net jobId) {db db' : Platform}
    (h : Own o db db') {id : DiscoveryJobId} (hpending : Pending (.runDiscovery id) db') :
    Pending (.runDiscovery id) db := by
  cases h with
  | quiet h => exact (h.discoveryJobs id).symm.trans hpending
  | particular s hs h =>
    cases h with
    | createDiscoveryJob =>
      cases o with
      | createDiscoveryJob => cases ho
      | _ => cases hs
    | _ => exact hpending
  | discovery net jobId hrun => exact absurd hrun (hdiscovery net jobId)

theorem settles_of_ordinary {db db' : Platform} (h : Ordinary db db') : Settles db db' where
  pending m hm := by
    cases m with
    | runDiscovery id => exact (h.2.discoveryJobs id).symm.trans hm
    | executeProvisioningJob id => exact pendingProvisioning_of_change h.1 hm
    | _ => cases hm
  queue := queue_of_change h.1

theorem vocabulary_settles :
    Vocabulary (fun _ p => p.Writes Settles) (fun _ => False) (fun _ => True) :=
  vocabulary_writes settles_of_ordinary fun hs => hs.elim

/-- The discovery sets its job RUNNING, and then COMPLETED or FAILED. -/
theorem settles_runDiscovery (net : Network) (jobId : DiscoveryJobId) :
    (runDiscovery net jobId).Writes Settles := by
  have hsave (set : DiscoveryJob → DiscoveryJob) (hset : ∀ j, (set j).status ≠ .pending) :
      (DiscoveryJob.save jobId set).Writes Settles := by
    refine writes_saveFields fun db => ⟨fun m hm => ?_, fun _ h => h⟩
    cases m with
    | runDiscovery id => exact map_status_update hm fun j hj => absurd hj (hset j)
    | _ => exact hm
  refine (vocabulary_settles.getDiscoveryJob jobId).bind fun job => ?_
  refine Program.Writes.bind (hsave _ fun j h => by cases h) fun _ => ?_
  refine Program.Writes.bind ?_ fun result => Program.Writes.bind (hsave _ fun j => ?_) fun _ => ?_
  · exact writes_discoverSubnet net (fun d => vocabulary_settles.createDevice d trivial)
      job.subnet _
  · obtain ⟨found, failure⟩ := result
    cases failure with
    | none => exact fun h => by cases h
    | some exc => exact fun h => by cases h
  · trivial

/-- Only the creation of a job makes one PENDING, and only workers take messages. -/
theorem writes_settles {o : Operation} (ho : createsJob o = false) :
    o.program.Writes Settles := by
  by_cases hdiscovery : ∀ net jobId, o ≠ .runDiscovery net jobId
  · refine ((writes_program o).and (writes_own o)).mono fun db db' h => ⟨fun m hm => ?_, ?_⟩
    · cases m with
      | runDiscovery id => exact pendingDiscovery_of_own ho hdiscovery h.2 hm
      | executeProvisioningJob id => exact pendingProvisioning_of_effect ho h.1 hm
      | _ => cases hm
    · exact queue_of_effect h.1
  · obtain ⟨net, jobId, rfl⟩ : ∃ net jobId, o = .runDiscovery net jobId := by
      simpa using hdiscovery
    exact settles_runDiscovery net jobId

theorem settles_task (w : Worker) (m : TaskMessage) : (w.task m).Writes Settles := by
  cases m with
  | runDiscovery id => exact settles_runDiscovery w.network id
  | checkDeviceReachability id =>
    exact writes_settles (o := .checkDeviceReachability w.network id) rfl
  | executeProvisioningJob id => exact writes_settles (o := .executeProvisioningJob w.push id) rfl
  | runComplianceCheck id ruleIds user =>
    exact writes_settles (o := .runComplianceCheck w.compliance id ruleIds user) rfl
  | runDriftDetection id user => exact writes_settles (o := .runDriftDetection w.drift id user) rfl
  | takeConfigSnapshot id golden user =>
    exact writes_settles (o := .takeConfigSnapshot w.snapshot id golden user) rfl

/-! ### A request that fails -/

/-- The statements of the request up to the insertion of its job. -/
def insertion : JobRequest → ℕ
  | .discovery _ _ _ => 2
  | .provisioning _ _ _ => 3

/-- The job tables are as before, with one job more, which is PENDING. -/
def LeavesPending (store db : Platform) : JobRequest → Prop
  | .discovery _ _ _ => db.provisioningJobs = store.provisioningJobs ∧
      ∃ job, job.status = .pending ∧ db.discoveryJobs = store.discoveryJobs.insert job
  | .provisioning _ _ _ => db.discoveryJobs = store.discoveryJobs ∧
      ∃ job, job.status = .pending ∧ db.provisioningJobs = store.provisioningJobs.insert job

/-- What the request has left after `k` statements, and thus when its next one raises. -/
structure Leaves (store : Platform) (r : JobRequest) (k : ℕ) (db : Platform) : Prop where
  before : k < insertion r → SameJobs store db
  after : insertion r ≤ k → LeavesPending store db r
  unsent : k < r.handoff → db.queue = store.queue

/-- The request is refused and changes nothing, or it is answered with 201 and after each of
its statements the store is as `P` says. -/
def Outcome (P : ℕ → Platform → Prop) (p : Statement Response) (store : Platform) : Prop :=
  p.Stages (fun x => ∃ e, x = .error e) (fun _ db => db = store) store ∨
    p.Stages (fun x => ∃ response, x = .ok response ∧ response.status = 201) P store

theorem outcome_raise {P : ℕ → Platform → Prop} (e : Exn) (store : Platform) :
    Outcome P (.raise e) store := .inl (Program.stages_raise ⟨e, rfl⟩ fun _ => rfl)

/-- A statement that raises refuses the request. -/
theorem outcome_statement_bind {α : Type} {P : ℕ → Platform → Prop}
    {f : Platform → Except Exn (α × Platform)} {g : α → Statement Response} {store : Platform}
    (hzero : P 0 store)
    (h : ∀ a db, f store = .ok (a, db) →
      db = store ∧ Outcome (fun k => P (k + 1)) (g a) store ∨
        (g a).Stages (fun x => ∃ response, x = .ok response ∧ response.status = 201)
          (fun k => P (k + 1)) db) :
    Outcome P (.statement f >>= g) store := by
  cases hf : f store with
  | error e => exact .inl (Program.stages_statement_error hf ⟨e, rfl⟩ fun _ => rfl)
  | ok result =>
    obtain ⟨a, db⟩ := result
    rcases h a db hf with ⟨rfl, hrefused | haccepted⟩ | haccepted
    · exact .inl (Program.stages_statement_bind hf rfl hrefused)
    · exact .inr (Program.stages_statement_bind hf hzero haccepted)
    · exact .inr (Program.stages_statement_bind hf hzero haccepted)

theorem leaves_before {store : Platform} {r : JobRequest} {k : ℕ} (hk : k < insertion r) :
    Leaves store r k store where
  before _ := refl store
  after h := absurd h (by omega)
  unsent _ := rfl

theorem leaves_after {store db : Platform} {r : JobRequest} {k : ℕ} (hk : insertion r ≤ k)
    (hjobs : LeavesPending store db r) (hqueue : k < r.handoff → db.queue = store.queue) :
    Leaves store r k db where
  before h := absurd h (by omega)
  after _ := hjobs
  unsent := hqueue

/-- The last save of the request, of the row that it has inserted. -/
theorem stages_saveFields_bind {α : Type} {Q : Except Exn Response → Prop}
    {P : ℕ → Platform → Prop} {rows : Platform → Table α}
    {setRows : Platform → Table α → Platform} {id : ℕ} {set : α → α}
    {g : Unit → Statement Response} {db : Platform} {a : α} (hget : (rows db).get? id = some a)
    (hzero : P 0 db)
    (hrest : (g ()).Stages Q (fun k => P (k + 1)) (setRows db ((rows db).update id set))) :
    (saveFields rows setRows id set >>= g).Stages Q P db :=
  Program.stages_statement_bind (by simp only [hget]) hzero hrest

theorem outcome_discovery (taskId : String) (store : Platform) (caller : Option UserId)
    (now : DateTime) (subnet : Option String) :
    Outcome (Leaves store (.discovery caller now subnet))
      (InventoryViews.createDiscoveryJob caller now subnet taskId) store := by
  refine outcome_statement_bind (leaves_before (by simp [insertion])) fun user db hpermit => .inl ?_
  refine ⟨eq_of_permit hpermit, ?_⟩
  cases hsubnet : subnet with
  | none => exact outcome_raise _ store
  | some subnet =>
    dsimp only
    split
    · exact outcome_raise _ store
    · refine outcome_statement_bind (leaves_before (by simp [insertion])) fun jobId db hcreate => ?_
      obtain ⟨rfl, rfl⟩ := eq_of_insertRow hcreate
      refine .inr (Program.stages_statement_bind rfl ?_ ?_)
      · exact leaves_after (by simp [insertion]) ⟨rfl, _, rfl, rfl⟩ fun _ => rfl
      refine stages_saveFields_bind (Table.get?_insert_nextId _ _) ?_ ?_
      · exact leaves_after (by simp [insertion]) ⟨rfl, _, rfl, rfl⟩ (by simp [JobRequest.handoff])
      -- the save sets the identifier of the row that was inserted
      have hupdate := Table.update_insert_nextId store.discoveryJobs
        { subnet, initiatedBy := some user.id, status := .pending, createdAt := now }
        fun j => { j with celeryTaskId := taskId }
      refine Program.stages_query_bind ?_ (Program.stages_ret ⟨_, rfl, rfl⟩ fun k => ?_)
      · exact leaves_after (by simp [insertion]) ⟨rfl, _, rfl, hupdate⟩
          (by simp [JobRequest.handoff])
      · exact leaves_after (by simp [insertion]) ⟨rfl, _, rfl, hupdate⟩
          (by simp [JobRequest.handoff])

theorem outcome_provisioning (taskId : String) (store : Platform) (caller : Option UserId)
    (now : DateTime) (data : ProvisioningJobData) :
    Outcome (Leaves store (.provisioning caller now data))
      (ProvisioningViews.createProvisioningJob caller now data taskId) store := by
  refine outcome_statement_bind (leaves_before (by simp [insertion])) fun user db hpermit => .inl ?_
  refine ⟨eq_of_permit hpermit, ?_⟩
  refine outcome_statement_bind (leaves_before (by simp [insertion])) fun deviceIds db hvalid => ?_
  obtain ⟨-, hdevices, rfl⟩ := eq_of_validateJob hvalid
  refine .inl ⟨rfl, ?_⟩
  refine outcome_statement_bind (leaves_before (by simp [insertion])) fun jobId db' hcreate => ?_
  obtain ⟨rfl, rfl⟩ := eq_of_insertRow hcreate
  -- the devices were there when the body was validated
  refine .inr (Program.stages_statement_bind (if_pos hdevices) ?_ ?_)
  · exact leaves_after (by simp [insertion]) ⟨rfl, _, rfl, rfl⟩ fun _ => rfl
  refine Program.stages_statement_bind rfl ?_ ?_
  · exact leaves_after (by simp [insertion]) ⟨rfl, _, rfl, rfl⟩ fun _ => rfl
  refine stages_saveFields_bind (Table.get?_insert_nextId _ _) ?_ ?_
  · exact leaves_after (by simp [insertion]) ⟨rfl, _, rfl, rfl⟩ (by simp [JobRequest.handoff])
  have hupdate := Table.update_insert_nextId db.provisioningJobs
    (ProvisioningJob.stored (data.row user.id now)) fun j => { j with celeryTaskId := taskId }
  refine Program.stages_query_bind ?_ (Program.stages_ret ⟨_, rfl, rfl⟩ fun k => ?_)
  · exact leaves_after (by simp [insertion]) ⟨rfl, _, rfl, hupdate⟩ (by simp [JobRequest.handoff])
  · exact leaves_after (by simp [insertion]) ⟨rfl, _, rfl, hupdate⟩ (by simp [JobRequest.handoff])

theorem outcome_view (taskId : String) (store : Platform) (r : JobRequest) :
    Outcome (Leaves store r) (r.view taskId) store := by
  cases r with
  | discovery caller now subnet => exact outcome_discovery taskId store caller now subnet
  | provisioning caller now data => exact outcome_provisioning taskId store caller now data

/-! ### Requests that have yet to send a message -/

/-- The request has inserted the job of the message and is yet to send it. -/
inductive Owes : TaskMessage → Statement Response → Prop where
  | delay (taskId : String) (m : TaskMessage) (rest : String → Statement Response) :
    Owes m (delay taskId m >>= rest)
  | setDevices (id : ProvisioningJobId) (deviceIds : List DeviceId)
    (rest : Unit → Statement Response) (h : Owes (.executeProvisioningJob id) (rest ())) :
    Owes (.executeProvisioningJob id) (ProvisioningJob.setDevices id deviceIds >>= rest)

/-- The next statement sends the message, or raises, or the request still owes it. -/
theorem Owes.step {m : TaskMessage} {p : Statement Response} (h : Owes m p) (db : Platform) :
    Queued m (p.write db) ∨ (∃ e, p.next db = .raise e) ∨ Owes m (p.next db) := by
  cases h with
  | delay taskId _ rest =>
    exact .inl ⟨taskId, List.mem_append_right db.queue (List.mem_singleton.mpr rfl)⟩
  | setDevices id deviceIds rest h =>
    rw [ProvisioningJob.setDevices, Program.next_statement_bind]
    split
    · exact .inr (.inr h)
    · exact .inr (.inl ⟨_, rfl⟩)

/-- Every statement that makes a job PENDING leaves a program that owes its message, and none
takes a message off the queue. -/
def Careful : Statement Response → Prop
  | .ret _ => True
  | .raise _ => True
  | .stmt write next => ∀ db,
    (∀ m, Pending m (write db) → Pending m db ∨ Owes m (next db)) ∧
      (∀ x ∈ db.queue, x ∈ (write db).queue) ∧ Careful (next db)

theorem Careful.next {p : Statement Response} (hp : Careful p) (db : Platform) :
    Careful (p.next db) := by
  cases p with
  | ret a => exact hp
  | raise e => exact hp
  | stmt write next => exact (hp db).2.2

theorem Careful.pending {p : Statement Response} (hp : Careful p) {m : TaskMessage}
    {db : Platform} (hm : Pending m (p.write db)) : Pending m db ∨ Owes m (p.next db) := by
  cases p with
  | ret a => exact .inl hm
  | raise e => exact .inl hm
  | stmt write next => exact (hp db).1 m hm

theorem Careful.queue {p : Statement Response} (hp : Careful p) {x : String × TaskMessage}
    {db : Platform} (hx : x ∈ db.queue) : x ∈ (p.write db).queue := by
  cases p with
  | ret a => exact hx
  | raise e => exact hx
  | stmt write next => exact (hp db).2.1 x hx

theorem careful_of_settles {p : Statement Response} (hp : p.Writes Settles) : Careful p := by
  induction p with
  | ret a => trivial
  | raise e => trivial
  | stmt write next ih =>
    exact fun db => ⟨fun m hm => .inl ((hp db).1.pending m hm), (hp db).1.queue, ih db (hp db).2⟩

theorem careful_bind {α : Type} {p : Statement α} {f : α → Statement Response}
    (hp : p.Writes Settles) (hf : ∀ a, Careful (f a)) : Careful (p >>= f) := by
  induction p with
  | ret a => exact hf a
  | raise e => trivial
  | stmt write next ih =>
    exact fun db => ⟨fun m hm => .inl ((hp db).1.pending m hm), (hp db).1.queue, ih db (hp db).2⟩

/-- The insertion of a job, when what follows owes its message. -/
theorem careful_insertRow_bind {ok : Platform → Except Exn Unit} {next : Platform → ℕ}
    {set : Platform → Platform} {f : ℕ → Statement Response}
    (hpending : ∀ db m, Pending m (set db) → Pending m db ∨ Owes m (f (next db)))
    (hqueue : ∀ db, (set db).queue = db.queue) (hf : ∀ id, Careful (f id)) :
    Careful (insertRow ok next set >>= f) := by
  intro db
  cases hok : ok db with
  | error e =>
    simp only [hok]
    exact ⟨fun m hm => .inl hm, fun x hx => hx, trivial⟩
  | ok u =>
    simp only [hok]
    exact ⟨hpending db, fun x hx => (hqueue db).symm ▸ hx, hf (next db)⟩

theorem settles_delay (taskId : String) (m : TaskMessage) : (delay taskId m).Writes Settles :=
  fun db => ⟨settles_of_ordinary ((Change.enqueue db taskId m).ordinary rfl rfl), trivial⟩

theorem pending_insertDiscovery {db : Platform} {j : DiscoveryJob} {m : TaskMessage}
    (hm : Pending m { db with discoveryJobs := db.discoveryJobs.insert j }) :
    Pending m db ∨ m = .runDiscovery db.discoveryJobs.nextId := by
  cases m with
  | runDiscovery id =>
    rcases map_status_insert hm with hm | rfl
    · exact .inl hm
    · exact .inr rfl
  | _ => exact .inl hm

theorem pending_insertProvisioning {db : Platform} {j : ProvisioningJob} {m : TaskMessage}
    (hm : Pending m { db with provisioningJobs := db.provisioningJobs.insert j }) :
    Pending m db ∨ m = .executeProvisioningJob db.provisioningJobs.nextId := by
  cases m with
  | executeProvisioningJob id =>
    rcases map_status_insert hm with hm | rfl
    · exact .inl hm
    · exact .inr rfl
  | _ => exact .inl hm

theorem careful_createDiscoveryJob (caller : Option UserId) (now : DateTime)
    (subnet : Option String) (taskId : String) :
    Careful (InventoryViews.createDiscoveryJob caller now subnet taskId) := by
  refine careful_bind (writes_permit _ caller) fun user => ?_
  split
  · trivial
  · split
    · trivial
    · refine careful_insertRow_bind (fun db m hm => ?_) (fun _ => rfl) fun jobId => ?_
      · rcases pending_insertDiscovery hm with hm | rfl
        · exact .inl hm
        · exact .inr (.delay taskId _ _)
      · refine careful_bind (settles_delay taskId _) fun taskId => careful_of_settles ?_
        refine (vocabulary_settles.setDiscoveryTask jobId taskId).bind fun _ => ?_
        exact (Program.writes_query _).bind fun data => trivial

theorem careful_createProvisioningJob (caller : Option UserId) (now : DateTime)
    (data : ProvisioningJobData) (taskId : String) :
    Careful (ProvisioningViews.createProvisioningJob caller now data taskId) := by
  refine careful_bind (writes_permit _ caller) fun user => ?_
  refine careful_bind (writes_validateJob data) fun deviceIds => ?_
  refine careful_insertRow_bind (fun db m hm => ?_) (fun _ => rfl) fun jobId => ?_
  · rcases pending_insertProvisioning hm with hm | rfl
    · exact .inl hm
    · exact .inr (.setDevices _ _ _ (.delay taskId _ _))
  · refine careful_bind (Program.writes_statement fun db u db' h => ?_) fun _ => ?_
    · split at h
      · obtain ⟨-, rfl⟩ := Prod.mk.inj (Except.ok.inj h)
        exact .of_eq rfl rfl fun _ hx => hx
      · cases h
    · refine careful_bind (settles_delay taskId _) fun taskId => careful_of_settles ?_
      refine Program.Writes.bind (writes_saveFields fun db => ⟨fun m hm => ?_, fun _ hx => hx⟩) ?_
      · cases m with
        | executeProvisioningJob id => exact map_status_update hm fun _ h => h
        | _ => exact hm
      · exact fun _ => (Program.writes_query _).bind fun data => trivial

/-- Every request and every task that the scheduler starts is careful. -/
theorem careful_reply (o : Operation) : Careful o.reply := by
  cases ho : createsJob o with
  | false => exact careful_of_settles (writes_reply (writes_settles ho))
  | true =>
    cases o with
    | createDiscoveryJob caller now subnet taskId =>
      exact careful_createDiscoveryJob caller now subnet taskId
    | createProvisioningJob caller now data taskId =>
      exact careful_createProvisioningJob caller now data taskId
    | _ => cases ho

/-! ### Workers about to run a job -/

/-- The task of the message, up to the statement that sets its job RUNNING. -/
inductive AboutToRun : TaskMessage → Statement Json → Prop where
  | taken (w : Worker) (m : TaskMessage) : AboutToRun m (w.task m)
  | read {α : Type} (m : TaskMessage) (look : Platform → α) (rest : α → Statement Json)
    (h : ∀ a, AboutToRun m (rest a)) : AboutToRun m (Program.query look >>= rest)
  | startDiscovery (id : DiscoveryJobId) (set : DiscoveryJob → DiscoveryJob)
    (hset : ∀ j, (set j).status = .running) (rest : Unit → Statement Json) :
    AboutToRun (.runDiscovery id) (DiscoveryJob.save id set >>= rest)
  | startProvisioning (id : ProvisioningJobId) (set : ProvisioningJob → ProvisioningJob)
    (hset : ∀ j, (set j).status = .running) (rest : Unit → Statement Json) :
    AboutToRun (.executeProvisioningJob id) (ProvisioningJob.save id set >>= rest)

/-- After the update the row has the status that it was set to. -/
theorem not_pending_update {α β : Type} {t : Table α} {col : α → β} {id : ℕ} {set : α → α}
    {b c : β} (hset : ∀ a, col (set a) = b) (hne : b ≠ c) :
    ((t.update id set).get? id).map col ≠ some c := by
  rw [Table.get?_update_self]
  intro h
  obtain ⟨a, ha, hcol⟩ := Option.map_eq_some_iff.mp h
  obtain ⟨a', -, rfl⟩ := Option.map_eq_some_iff.mp ha
  exact hne ((hset a').symm.trans hcol)

/-- The row of the job is there, so the task is not ended by an exception before it starts. -/
theorem AboutToRun.step {m : TaskMessage} {p : Statement Json} (h : AboutToRun m p)
    {db : Platform} (hpending : Pending m db) :
    AboutToRun m (p.next db) ∨ ¬ Pending m (p.write db) := by
  cases h with
  | taken w =>
    cases m with
    | runDiscovery id =>
      obtain ⟨job, hjob, -⟩ := Option.map_eq_some_iff.mp hpending
      refine .inl ?_
      rw [Worker.task, runDiscovery, DiscoveryJob.get, Program.next_statement_bind]
      simp only [hjob]
      exact .startDiscovery id _ (fun _ => rfl) _
    | executeProvisioningJob id =>
      obtain ⟨job, hjob, -⟩ := Option.map_eq_some_iff.mp hpending
      refine .inl ?_
      rw [Worker.task, executeProvisioningJob, loadJob, Program.next_statement_bind]
      simp only [hjob]
      exact .read _ _ _ fun devices => .startProvisioning id _ (fun _ => rfl) _
    | _ => cases hpending
  | read _ look rest h => exact .inl (h (look db))
  | startDiscovery id set hset rest =>
    obtain ⟨job, hjob, -⟩ := Option.map_eq_some_iff.mp hpending
    refine .inr ?_
    rw [DiscoveryJob.save, saveFields, Program.write_statement_bind]
    simp only [hjob]
    exact not_pending_update hset (fun h => by cases h)
  | startProvisioning id set hset rest =>
    obtain ⟨job, hjob, -⟩ := Option.map_eq_some_iff.mp hpending
    refine .inr ?_
    rw [ProvisioningJob.save, saveFields, Program.write_statement_bind]
    simp only [hjob]
    exact not_pending_update hset (fun h => by cases h)

/-! ### Requests, the queue and workers -/

/-- A request with what is left of it, and whether it has failed. -/
structure RequestInProgress where
  rest : Statement Response
  failed : Bool := false

structure System where
  store : Platform
  requests : List RequestInProgress := []
  tasks : List (Statement Json) := []

inductive Move where
  /-- A request arrives, or the scheduler starts a task of its own. -/
  | receive (o : Operation)
  | request (i : ℕ)
  /-- The next statement of the request raises instead of having its effect. -/
  | fail (i : ℕ)
  /-- A worker takes a message off the queue. -/
  | take (n : ℕ) (w : Worker)
  | task (i : ℕ)

/-- The store and the request after its next statement, which may raise by itself. -/
def RequestInProgress.advance (r : RequestInProgress) (db : Platform) : RequestInProgress :=
  match r.rest.next db with
  | .raise _ => { r with failed := true }
  | rest => { r with rest := rest }

def System.step (c : System) : Move → System
  | .receive o => { c with requests := c.requests ++ [{ rest := o.reply }] }
  | .request i => match c.requests[i]? with
    | some r =>
      if r.failed then c
      else { c with
        store := r.rest.write c.store
        requests := c.requests.set i (r.advance c.store) }
    | none => c
  | .fail i => match c.requests[i]? with
    | some r =>
      if r.rest.isStmt then { c with requests := c.requests.set i { r with failed := true } } else c
    | none => c
  | .take n w => match c.store.queue[n]? with
    | some m => { c with
      store := { c.store with queue := c.store.queue.eraseIdx n }
      tasks := c.tasks ++ [w.task m.2] }
    | none => c
  | .task i => match c.tasks[i]? with
    | some p => { c with store := p.write c.store, tasks := c.tasks.set i (p.next c.store) }
    | none => c

/-- What a move can do. -/
inductive Turn (c : System) : System → Prop where
  | nothing : Turn c c
  | receive (o : Operation) : Turn c { c with requests := c.requests ++ [{ rest := o.reply }] }
  | request (i : ℕ) (r : RequestInProgress) (hi : c.requests[i]? = some r) :
    Turn c { c with
      store := r.rest.write c.store
      requests := c.requests.set i (r.advance c.store) }
  | fail (i : ℕ) (r : RequestInProgress) (hi : c.requests[i]? = some r) :
    Turn c { c with requests := c.requests.set i { r with failed := true } }
  | take (n : ℕ) (w : Worker) (x : String × TaskMessage) (hn : c.store.queue[n]? = some x) :
    Turn c { c with
      store := { c.store with queue := c.store.queue.eraseIdx n }
      tasks := c.tasks ++ [w.task x.2] }
  | task (i : ℕ) (p : Statement Json) (hi : c.tasks[i]? = some p) :
    Turn c { c with store := p.write c.store, tasks := c.tasks.set i (p.next c.store) }

theorem turn_step (c : System) (move : Move) : Turn c (c.step move) := by
  cases move with
  | receive o => exact .receive o
  | request i =>
    dsimp only [System.step]
    split
    · rename_i r hi
      split
      · exact .nothing
      · exact .request i r hi
    · exact .nothing
  | fail i =>
    dsimp only [System.step]
    split
    · rename_i r hi
      split
      · exact .fail i r hi
      · exact .nothing
    · exact .nothing
  | take n w =>
    dsimp only [System.step]
    split
    · rename_i x hn
      exact .take n w x hn
    · exact .nothing
  | task i =>
    dsimp only [System.step]
    split
    · rename_i p hi
      exact .task i p hi
    · exact .nothing

/-- The message is queued, a worker is about to run its task, or a request owes it. -/
inductive Covered (m : TaskMessage) (c : System) : Prop where
  | queued (h : Queued m c.store)
  | taken (p : Statement Json) (hp : p ∈ c.tasks) (h : AboutToRun m p)
  | owed (r : RequestInProgress) (hr : r ∈ c.requests) (h : Owes m r.rest)

structure Accounted (c : System) : Prop where
  requests : ∀ r ∈ c.requests, Careful r.rest
  tasks : ∀ p ∈ c.tasks, p.Writes Settles
  jobs : ∀ m, Pending m c.store → Covered m c

/-! ### Steps -/

/-- What was in a list is in it after an update, or was what the update replaced. -/
theorem mem_set_of_mem {α : Type} {l : List α} {i : ℕ} {a x : α} (b : α) (hi : l[i]? = some a)
    (hx : x ∈ l) : x = a ∨ x ∈ l.set i b := by
  obtain ⟨k, hk⟩ := List.mem_iff_getElem?.mp hx
  by_cases hki : k = i
  · exact .inl (Option.some.inj ((hki ▸ hk).symm.trans hi))
  · refine .inr (List.mem_of_getElem? (i := k) ?_)
    rw [List.getElem?_set_ne (Ne.symm hki), hk]

theorem self_mem_set {α : Type} {l : List α} {i : ℕ} {a : α} (b : α) (hi : l[i]? = some a) :
    b ∈ l.set i b := List.mem_set (List.getElem?_eq_some_iff.mp hi).1 b

/-- A change of the store that settles keeps what covers a job. -/
theorem Covered.mono {m : TaskMessage} {c c' : System} (h : Covered m c)
    (hqueue : ∀ x ∈ c.store.queue, x ∈ c'.store.queue)
    (htasks : ∀ p ∈ c.tasks, AboutToRun m p → Covered m c')
    (hrequests : ∀ r ∈ c.requests, Owes m r.rest → Covered m c') : Covered m c' := by
  cases h with
  | queued h =>
    obtain ⟨taskId, hmem⟩ := h
    exact .queued ⟨taskId, hqueue _ hmem⟩
  | taken p hp h => exact htasks p hp h
  | owed r hr h => exact hrequests r hr h

theorem careful_advance {r : RequestInProgress} (hr : Careful r.rest) (db : Platform) :
    Careful (r.advance db).rest := by
  have hnext := hr.next db
  unfold RequestInProgress.advance
  split
  · exact hr
  · exact hnext

/-- A request that owed the message has sent it or still owes it. -/
theorem owes_advance {m : TaskMessage} {r : RequestInProgress} (h : Owes m r.rest)
    (db : Platform) : Queued m (r.rest.write db) ∨ Owes m (r.advance db).rest := by
  rcases h.step db with hqueued | ⟨e, he⟩ | hnext
  · exact .inl hqueued
  · refine .inr ?_
    rw [RequestInProgress.advance, he]
    exact h
  · refine .inr ?_
    unfold RequestInProgress.advance
    split
    · exact h
    · exact hnext

/-- A request that has made a job PENDING owes its message. -/
theorem owes_advance_of_next {m : TaskMessage} {r : RequestInProgress} {db : Platform}
    (h : Owes m (r.rest.next db)) : Owes m (r.advance db).rest := by
  unfold RequestInProgress.advance
  split
  · rename_i e he
    rw [he] at h
    cases h
  · exact h

theorem accounted_receive {c : System} (h : Accounted c) (o : Operation) :
    Accounted { c with requests := c.requests ++ [{ rest := o.reply }] } where
  requests r hr := by
    rcases List.mem_append.mp hr with hr | hr
    · exact h.requests r hr
    · obtain rfl := List.mem_singleton.mp hr
      exact careful_reply o
  tasks := h.tasks
  jobs m hm := (h.jobs m hm).mono (fun _ hx => hx) (fun p hp hrun => .taken p hp hrun)
    fun r hr howes => .owed r (List.mem_append_left _ hr) howes

theorem accounted_request {c : System} (h : Accounted c) {i : ℕ} {r : RequestInProgress}
    (hi : c.requests[i]? = some r) :
    Accounted { c with
      store := r.rest.write c.store
      requests := c.requests.set i (r.advance c.store) } := by
  have hcareful : Careful r.rest := h.requests r (List.mem_of_getElem? hi)
  have hmoved : r.advance c.store ∈ c.requests.set i (r.advance c.store) := self_mem_set _ hi
  refine ⟨fun r' hr' => ?_, h.tasks, fun m hm => ?_⟩
  · rcases List.mem_or_eq_of_mem_set hr' with hr' | rfl
    · exact h.requests r' hr'
    · exact careful_advance hcareful c.store
  · rcases hcareful.pending hm with hm | hnext
    · refine (h.jobs m hm).mono (fun x hx => hcareful.queue hx)
        (fun p hp hrun => .taken p hp hrun) fun r' hr' howes => ?_
      rcases mem_set_of_mem (r.advance c.store) hi hr' with rfl | hr'
      · rcases owes_advance howes c.store with hqueued | howes
        · exact .queued hqueued
        · exact .owed _ hmoved howes
      · exact .owed r' hr' howes
    · exact .owed _ hmoved (owes_advance_of_next hnext)

theorem accounted_fail {c : System} (h : Accounted c) {i : ℕ} {r : RequestInProgress}
    (hi : c.requests[i]? = some r) :
    Accounted { c with requests := c.requests.set i { r with failed := true } } := by
  refine ⟨fun r' hr' => ?_, h.tasks, fun m hm => ?_⟩
  · rcases List.mem_or_eq_of_mem_set hr' with hr' | rfl
    · exact h.requests r' hr'
    · exact h.requests r (List.mem_of_getElem? hi)
  · refine (h.jobs m hm).mono (fun _ hx => hx) (fun p hp hrun => .taken p hp hrun)
      fun r' hr' howes => ?_
    rcases mem_set_of_mem { r with failed := true } hi hr' with rfl | hr'
    · exact .owed _ (self_mem_set _ hi) howes
    · exact .owed r' hr' howes

theorem accounted_take {c : System} (h : Accounted c) {n : ℕ} {x : String × TaskMessage}
    (hn : c.store.queue[n]? = some x) (w : Worker) :
    Accounted { c with
      store := { c.store with queue := c.store.queue.eraseIdx n }
      tasks := c.tasks ++ [w.task x.2] } := by
  refine ⟨h.requests, fun p hp => ?_, fun m hm => ?_⟩
  · rcases List.mem_append.mp hp with hp | hp
    · exact h.tasks p hp
    · obtain rfl := List.mem_singleton.mp hp
      exact settles_task w x.2
  · have hsame : Pending m { c.store with queue := c.store.queue.eraseIdx n } ↔
        Pending m c.store := by
      apply pending_of_eq <;> rfl
    cases h.jobs m (hsame.mp hm) with
    | queued hqueued =>
      obtain ⟨taskId, hmem⟩ := hqueued
      obtain ⟨k, hk⟩ := List.mem_iff_getElem?.mp hmem
      by_cases hkn : k = n
      · -- it is this message that the worker takes
        obtain rfl := Option.some.inj ((hkn ▸ hk).symm.trans hn)
        refine .taken (w.task m) (List.mem_append_right _ ?_) (.taken w m)
        exact List.mem_singleton.mpr rfl
      · exact .queued ⟨taskId, List.mem_eraseIdx_iff_getElem?.mpr ⟨k, hkn, hk⟩⟩
    | taken p hp hrun => exact .taken p (List.mem_append_left _ hp) hrun
    | owed r hr howes => exact .owed r hr howes

theorem accounted_task {c : System} (h : Accounted c) {i : ℕ} {p : Statement Json}
    (hi : c.tasks[i]? = some p) :
    Accounted { c with store := p.write c.store, tasks := c.tasks.set i (p.next c.store) } := by
  have hwrites := h.tasks p (List.mem_of_getElem? hi)
  have hsettles : Settles c.store (p.write c.store) := hwrites.write_refl c.store
  refine ⟨h.requests, fun q hq => ?_, fun m hm => ?_⟩
  · rcases List.mem_or_eq_of_mem_set hq with hq | rfl
    · exact h.tasks q hq
    · exact hwrites.next c.store
  · have hbefore : Pending m c.store := hsettles.pending m hm
    refine (h.jobs m hbefore).mono hsettles.queue (fun q hq hrun => ?_)
      fun r hr howes => .owed r hr howes
    rcases mem_set_of_mem (p.next c.store) hi hq with rfl | hq
    · rcases hrun.step hbefore with hnext | hdone
      · exact .taken _ (self_mem_set _ hi) hnext
      · exact absurd hm hdone
    · exact .taken q hq hrun

theorem accounted_step (c : System) (move : Move) (h : Accounted c) : Accounted (c.step move) := by
  have hturn := turn_step c move
  generalize c.step move = c' at hturn ⊢
  cases hturn with
  | nothing => exact h
  | receive o => exact accounted_receive h o
  | request i r hi => exact accounted_request h hi
  | fail i r hi => exact accounted_fail h hi
  | take n w x hn => exact accounted_take h hn w
  | task i p hi => exact accounted_task h hi

/-! ### Runs -/

def System.run (c : System) (moves : List Move) : System := runFrom System.step c moves

theorem accounted_run {c : System} (h : Accounted c) (moves : List Move) :
    Accounted (c.run moves) := invariant_runFrom accounted_step h moves

/-- A platform at rest, each of whose pending jobs has its message on the queue. -/
theorem accounted_start {store : Platform} (h : ∀ m, Pending m store → Queued m store) :
    Accounted { store := store } where
  requests r hr := by cases hr
  tasks p hp := by cases hp
  jobs m hm := .queued (h m hm)

/-- A request that creates a job and fails up to the insertion changes no job, and afterwards
leaves the job PENDING; and in every state of every run a PENDING job has its message queued, a
worker about to run it, or a request, in progress or failed, that has yet to send its message. -/
theorem jobs_accounted :
    (∀ (taskId : String) (store : Platform) (r : JobRequest),
      Outcome (Leaves store r) (r.view taskId) store) ∧
    ∀ (store : Platform), (∀ m, Pending m store → Queued m store) → ∀ (moves : List Move)
      (m : TaskMessage), Pending m (System.run { store := store } moves).store →
        Covered m (System.run { store := store } moves) :=
  ⟨outcome_view, fun _ h moves m hm => (accounted_run (accounted_start h) moves).jobs m hm⟩

/-! ### A broker that cannot be reached -/

def labSubnet : JobRequest := .discovery (some 1) 0 (some "10.0.0.0/30")

/-- The request inserts the job, and `run_discovery.delay` raises. -/
def labMoves : List Move :=
  [.receive (.createDiscoveryJob (some 1) 0 (some "10.0.0.0/30") "t1"), .request 0, .request 0,
    .fail 0]

theorem pending_lab (m : TaskMessage) : ¬ Pending m lab := by
  cases m with
  | runDiscovery id => exact fun h => by simp [Pending, lab] at h
  | executeProvisioningJob id => exact fun h => by simp [Pending, lab] at h
  | _ => exact fun h => h

theorem pending_labMoves : Pending (.runDiscovery 1) (System.run { store := lab } labMoves).store :=
  rfl

/-- The request that failed is what stands for the job. -/
theorem jobs_accounted_of_lab :
    Covered (.runDiscovery 1) (System.run { store := lab } labMoves) :=
  jobs_accounted.2 lab (fun m hm => absurd hm (pending_lab m)) labMoves _ pending_labMoves

/-- The failed request leaves its job, for which there is neither a message nor a worker. -/
theorem orphan_of_failure :
    (¬ ∀ (taskId : String) (store : Platform) (r : JobRequest) (k : ℕ),
      ((r.view taskId).advance k store).1.isStmt = true →
        SameJobs store ((r.view taskId).advance k store).2) ∧
    ¬ ∀ (store : Platform), (∀ m, Pending m store → Queued m store) → ∀ (moves : List Move)
      (m : TaskMessage), Pending m (System.run { store := store } moves).store →
        Queued m (System.run { store := store } moves).store ∨
          ∃ p ∈ (System.run { store := store } moves).tasks, AboutToRun m p := by
  constructor
  · intro h
    have hsame := (h "t1" lab labSubnet 2 rfl).1
    have hinserted : ((labSubnet.view "t1").advance 2 lab).2.discoveryJobs.nextId = 2 := rfl
    rw [hsame] at hinserted
    cases hinserted
  · intro h
    rcases h lab (fun m hm => absurd hm (pending_lab m)) labMoves _ pending_labMoves with
      ⟨taskId, hqueued⟩ | ⟨p, hp, -⟩
    · cases hqueued
    · cases hp

end DevSecOpsPlatform.OrphanJobs
