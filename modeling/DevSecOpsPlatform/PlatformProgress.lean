import DevSecOpsPlatform.DiscoveryExecutions
import DevSecOpsPlatform.JobExecutions
import DevSecOpsPlatform.MirroredPrograms
import DevSecOpsPlatform.TerminatingPrograms

/-!
# A platform that comes to rest

Requests send messages, and the tasks that the messages start send none. So when no request
arrives any more, whatever moves next, there is an end to it: the requests end, the queue is
emptied and the tasks end. What is then left of a job is known. A discovery has COMPLETED or
FAILED, since `run_discovery` catches what is raised while its job is RUNNING, and a provisioning
job has a final status unless its task was ended by an exception. Only a request that failed
between the insertion of its job and the message leaves one PENDING.
-/

namespace DevSecOpsPlatform.PlatformProgress

open GuardedRuns KeyedTables StatementPrograms PlatformModels PlatformStore RolePermissions
open PythonValues InventoryTasks ProvisioningTasks SecurityTasks PlatformOperations
open OperationStatements PlatformChanges OrphanJobs JobMessages
open JobHandoffs (Worker)

/-! ### Tasks send no messages -/

/-- The queue is left as it is. -/
def LeavesQueue (db db' : Platform) : Prop := db'.queue = db.queue

instance : Std.Refl LeavesQueue := ⟨fun _ => rfl⟩

theorem leavesQueue_getDevice (id : DeviceId) : (Device.get id).Writes LeavesQueue := by
  refine Program.writes_statement fun db device db' hget => ?_
  split at hget
  · exact congrArg Platform.queue (Prod.mk.inj (Except.ok.inj hget)).2.symm
  · cases hget

theorem leavesQueue_createLog (a : AuditLog) : (AuditLog.create a).Writes LeavesQueue :=
  writes_insertRow fun _ => rfl

theorem leavesQueue_checkDeviceReachability (net : Network) (id : DeviceId) :
    (checkDeviceReachability net id).Writes LeavesQueue := by
  refine (leavesQueue_getDevice id).bind fun device => ?_
  refine (Program.writes_ofExcept _).bind fun reachable => ?_
  exact Program.Writes.bind (Program.writes_execute fun _ => rfl) fun _ => trivial

theorem leavesQueue_checkRules (w : ComplianceWorld) (id : DeviceId) (device : Device)
    (user : Option UserId) (n : ℕ) (rules : List (ComplianceRuleId × ComplianceRule)) :
    (checkRules w id device user n rules).Writes LeavesQueue := by
  induction rules generalizing n with
  | nil => trivial
  | cons rule rules ih =>
    refine Program.Writes.bind (writes_insertRow fun _ => rfl) fun _ => ?_
    exact (ih (n + 1)).bind fun _ => trivial

theorem leavesQueue_runComplianceCheck (w : ComplianceWorld) (id : DeviceId)
    (ruleIds : Option (List ComplianceRuleId)) (user : Option UserId) :
    (runComplianceCheck w id ruleIds user).Writes LeavesQueue := by
  refine (leavesQueue_getDevice id).bind fun device => ?_
  refine (Program.writes_query _).bind fun rules => ?_
  refine (leavesQueue_checkRules w id device user 0 rules).bind fun results => ?_
  exact (leavesQueue_createLog _).bind fun _ => trivial

theorem leavesQueue_runDriftDetection (w : DriftWorld) (id : DeviceId) (user : Option UserId) :
    (runDriftDetection w id user).Writes LeavesQueue := by
  have hreport (r : DriftReport) : (DriftReport.create r).Writes LeavesQueue :=
    writes_insertRow fun _ => rfl
  refine (leavesQueue_getDevice id).bind fun device => ?_
  split
  · split
    · trivial
    · exact (hreport _).bind fun _ => trivial
  · refine Program.Writes.bind (writes_insertRow fun _ => rfl) fun snap => ?_
    refine (Program.writes_query _).bind fun golden => ?_
    split
    · refine Program.Writes.bind (writes_saveFields fun _ => rfl) fun _ => ?_
      exact (hreport _).bind fun _ => trivial
    · exact (hreport _).bind fun _ => (leavesQueue_createLog _).bind fun _ => trivial

theorem leavesQueue_takeConfigSnapshot (w : SnapshotWorld) (id : DeviceId) (golden : Bool)
    (user : Option UserId) : (takeConfigSnapshot w id golden user).Writes LeavesQueue := by
  refine (leavesQueue_getDevice id).bind fun device => ?_
  split
  · split
    · trivial
    · trivial
  · refine Program.Writes.bind (writes_insertRow fun _ => rfl) fun snap => ?_
    exact (leavesQueue_createLog _).bind fun _ => trivial

theorem leavesQueue_task (w : Worker) (m : TaskMessage) : (w.task m).Writes LeavesQueue := by
  cases m with
  | runDiscovery id =>
    refine InventoryTasks.writes_runDiscovery w.network id (fun set => ?_) fun d => ?_
    · exact writes_saveFields fun _ => rfl
    · exact writes_insertRow fun _ => rfl
  | checkDeviceReachability id => exact leavesQueue_checkDeviceReachability w.network id
  | executeProvisioningJob id =>
    exact writes_executeProvisioningJob (fun _ => rfl) (fun _ _ => rfl) (fun _ _ _ _ => rfl)
      (fun _ _ _ => rfl) fun _ _ _ => rfl
  | runComplianceCheck id ruleIds user =>
    exact leavesQueue_runComplianceCheck w.compliance id ruleIds user
  | runDriftDetection id user => exact leavesQueue_runDriftDetection w.drift id user
  | takeConfigSnapshot id golden user =>
    exact leavesQueue_takeConfigSnapshot w.snapshot id golden user

/-! ### Moves that have something to do -/

/-- The move executes a statement that is left, lets a request fail that has not been answered, or
takes a message that is there. -/
def Active (c : System) : Move → Prop
  | .receive _ => False
  | .request i | .fail i => ∃ r, c.requests[i]? = some r ∧ ended r = false
  | .take n _ => ∃ x, c.store.queue[n]? = some x
  | .task i => ∃ p, c.tasks[i]? = some p ∧ p.isStmt = true

/-- Requests and tasks have ended, and no message is on the queue. -/
structure AtRest (c : System) : Prop where
  requests : ∀ r ∈ c.requests, ended r = true
  queue : c.store.queue = []
  tasks : ∀ p ∈ c.tasks, p.isStmt = false

theorem ended_eq_false {r : RequestInProgress} :
    ended r = false ↔ r.failed = false ∧ r.rest.isStmt = true := by
  simp [ended]

/-- A platform is at rest when no move has anything to do, whichever worker takes it. -/
theorem atRest_of_not_active {c : System} (w : Worker) (h : ∀ move, ¬ Active c move) :
    AtRest c where
  requests r hr := by
    obtain ⟨i, hi⟩ := List.mem_iff_getElem?.mp hr
    by_contra hended
    exact h (.request i) ⟨r, hi, Bool.eq_false_iff.mpr hended⟩
  queue := by
    rw [List.eq_nil_iff_forall_not_mem]
    intro x hx
    obtain ⟨n, hn⟩ := List.mem_iff_getElem?.mp hx
    exact h (.take n w) ⟨x, hn⟩
  tasks p hp := by
    obtain ⟨i, hi⟩ := List.mem_iff_getElem?.mp hp
    by_contra hstmt
    exact h (.task i) ⟨p, hi, by simpa using hstmt⟩

/-- The request has failed, or has executed a statement more. -/
def Nearer : RequestInProgress → RequestInProgress → Prop :=
  InvImage (Prod.Lex (fun b a => a < b) Program.Remainder) fun r => (r.failed, r.rest)

instance : IsWellFounded RequestInProgress Nearer :=
  inferInstanceAs (IsWellFounded _ (InvImage (Prod.Lex (· > ·) Program.Remainder) _))

/-- What is left to do: of the requests, of the queue and of the tasks, in this order. -/
def remaining (c : System) : Multiset RequestInProgress × ℕ × Multiset (Statement Json) :=
  (c.requests, c.store.queue.length, c.tasks)

def Less : Multiset RequestInProgress × ℕ × Multiset (Statement Json) →
    Multiset RequestInProgress × ℕ × Multiset (Statement Json) → Prop :=
  Prod.Lex (Relation.CutExpand Nearer)
    (Prod.Lex (· < ·) (Relation.CutExpand Program.Remainder))

instance : IsWellFounded (Multiset RequestInProgress × ℕ × Multiset (Statement Json)) Less :=
  inferInstanceAs (IsWellFounded _ (Prod.Lex _ (Prod.Lex (· < ·) _)))

theorem nearer_fail {r : RequestInProgress} (h : ended r = false) :
    Nearer { r with failed := true } r := by
  refine Prod.Lex.left _ _ ?_
  rw [(ended_eq_false.mp h).1]
  exact Bool.false_lt_true

theorem nearer_advance {r : RequestInProgress} (h : ended r = false) (db : Platform) :
    Nearer (r.advance db) r := by
  have hnext := Program.remainder_next (ended_eq_false.mp h).2 db
  unfold RequestInProgress.advance
  split
  · exact nearer_fail h
  · exact Prod.Lex.right _ hnext

/-- The queue is all that a task could make longer, and it does not. -/
theorem less_step {c : System} (htasks : ∀ p ∈ c.tasks, p.Writes LeavesQueue) {move : Move}
    (h : Active c move) : Less (remaining (c.step move)) (remaining c) := by
  cases move with
  | receive o => exact h.elim
  | request i =>
    obtain ⟨r, hi, hr⟩ := h
    have hfailed : r.failed ≠ true := by simp [(ended_eq_false.mp hr).1]
    dsimp only [System.step]
    simp only [hi, if_neg hfailed]
    exact Prod.Lex.left _ _ (cutExpand_set hi (nearer_advance hr c.store))
  | fail i =>
    obtain ⟨r, hi, hr⟩ := h
    dsimp only [System.step]
    simp only [hi, if_pos (ended_eq_false.mp hr).2]
    exact Prod.Lex.left _ _ (cutExpand_set hi (nearer_fail hr))
  | take n w =>
    obtain ⟨x, hn⟩ := h
    dsimp only [System.step]
    simp only [hn]
    refine Prod.Lex.right _ (Prod.Lex.left _ _ ?_)
    have hlt := (List.getElem?_eq_some_iff.mp hn).1
    dsimp only
    rw [List.length_eraseIdx_of_lt hlt]
    omega
  | task i =>
    obtain ⟨p, hi, hp⟩ := h
    have hqueue : (p.write c.store).queue = c.store.queue :=
      (htasks p (List.mem_of_getElem? hi)).write_refl c.store
    dsimp only [System.step]
    simp only [hi]
    refine Prod.Lex.right _ ?_
    dsimp only
    rw [hqueue]
    exact Prod.Lex.right _ (cutExpand_set hi (Program.remainder_next hp c.store))

theorem leavesQueue_step (c : System) (move : Move) (h : ∀ p ∈ c.tasks, p.Writes LeavesQueue) :
    ∀ p ∈ (c.step move).tasks, p.Writes LeavesQueue := by
  have hturn := turn_step c move
  generalize c.step move = c' at hturn ⊢
  cases hturn with
  | take n w x hn =>
    intro p hp
    rcases List.mem_append.mp hp with hp | hp
    · exact h p hp
    · rw [List.mem_singleton.mp hp]
      exact leavesQueue_task w x.2
  | task i p hi =>
    intro q hq
    rcases List.mem_or_eq_of_mem_set hq with hq | rfl
    · exact h q hq
    · exact (h p (List.mem_of_getElem? hi)).next c.store
  | _ => exact h

/-- The request or task is answered, or a worker takes its message. -/
def Forward : Move → Prop
  | .request _ | .take _ _ | .task _ => True
  | _ => False

/-- Where a request could fail it can also go on. -/
theorem forward_of_active {c : System} {move : Move} (h : Active c move) :
    ∃ move, Forward move ∧ Active c move := by
  cases move with
  | receive o => exact h.elim
  | request i => exact ⟨.request i, trivial, h⟩
  | fail i => exact ⟨.request i, trivial, h⟩
  | take n w => exact ⟨.take n w, trivial, h⟩
  | task i => exact ⟨.task i, trivial, h⟩

/-! ### What the task of a message sees to -/

section

variable {K : Platform → Prop} {E : Exn → Prop} {m : TaskMessage} {received : Operation → Prop}

/-- Only the task of the message ends `K`, and it then makes it true again, or raises an exception
in `E`. -/
structure SeesTo (K : Platform → Prop) (E : Exn → Prop) (m : TaskMessage)
    (received : Operation → Prop) : Prop where
  reply : ∀ o, received o → o.reply.Writes (Program.Preserving K)
  dequeue : ∀ db n, K db → K (dequeue n db)
  other : ∀ w m', m' ≠ m → (Worker.task w m').Writes (Program.Preserving K)
  task : ∀ w, (Worker.task w m).Restores K E

/-- What the task of a message is like, after some of its statements. -/
def Tends (K : Platform → Prop) (E : Exn → Prop) (m m' : TaskMessage) (p : Statement Json) : Prop :=
  p.Restores K E ∧ (m' ≠ m → p.Writes (Program.Preserving K))

theorem Tends.next {m' : TaskMessage} {p : Statement Json} (h : Tends K E m m' p) (db : Platform) :
    Tends K E m m' (p.next db) :=
  ⟨h.1.next db, fun hm => (h.2 hm).next db⟩

/-- A task of the message will make `K` true. -/
def SeenTo (K : Platform → Prop) (E : Exn → Prop) (m : TaskMessage) (messages : List TaskMessage)
    (tasks : List (Statement Json)) : Prop :=
  ∃ (i : ℕ) (p : Statement Json), messages[i]? = some m ∧ tasks[i]? = some p ∧
    p.Reaches K (fun _ => False) E

/-- The tasks are those of the messages that were taken, and if `K` has ended one of them will make
it true again. -/
structure Attended (K : Platform → Prop) (E : Exn → Prop) (m : TaskMessage)
    (messages : List TaskMessage) (c : System) : Prop where
  requests : ∀ r ∈ c.requests, r.rest.Writes (Program.Preserving K)
  tasks : messages.Forall₂ (Tends K E m) c.tasks
  holds : K c.store ∨ SeenTo K E m messages c.tasks

theorem seenTo_concat {messages : List TaskMessage} {tasks : List (Statement Json)}
    (h : SeenTo K E m messages tasks) (m' : TaskMessage) (p : Statement Json) :
    SeenTo K E m (messages ++ [m']) (tasks ++ [p]) := by
  obtain ⟨i, q, hm, hq, hreaches⟩ := h
  refine ⟨i, q, ?_, ?_, hreaches⟩
  · rw [List.getElem?_append_left (List.getElem?_eq_some_iff.mp hm).1, hm]
  · rw [List.getElem?_append_left (List.getElem?_eq_some_iff.mp hq).1, hq]

theorem attended_request {messages : List TaskMessage} {c : System}
    (h : Attended K E m messages c) {i : ℕ} {r : RequestInProgress}
    (hi : c.requests[i]? = some r) :
    Attended K E m messages { c with
      store := r.rest.write c.store
      requests := c.requests.set i (r.advance c.store) } := by
  have hr := h.requests r (List.mem_of_getElem? hi)
  refine ⟨fun r' hr' => ?_, h.tasks, h.holds.imp_left (hr.write_refl c.store)⟩
  rcases List.mem_or_eq_of_mem_set hr' with hr' | rfl
  · exact h.requests r' hr'
  · have hnext := hr.next c.store
    unfold RequestInProgress.advance
    split
    · exact hr
    · exact hnext

theorem attended_take (hsees : SeesTo K E m received) {messages : List TaskMessage} {c : System}
    (h : Attended K E m messages c) (n : ℕ) (w : Worker) (x : String × TaskMessage) :
    Attended K E m (messages ++ [x.2]) { c with
      store := { c.store with queue := c.store.queue.eraseIdx n }
      tasks := c.tasks ++ [w.task x.2] } := by
  refine ⟨h.requests, Program.rel_concat h.tasks ⟨?_, hsees.other w x.2⟩, ?_⟩
  · by_cases hm : x.2 = m
    · exact hm ▸ hsees.task w
    · exact (hsees.other w x.2 hm).restores
  · exact h.holds.imp (hsees.dequeue c.store n) fun hseen => seenTo_concat hseen x.2 _

/-- The task that has ended `K` makes it true or is yet to do so, and no other task ends it. -/
theorem attended_task {messages : List TaskMessage} {c : System}
    (h : Attended K E m messages c) {i : ℕ} {p : Statement Json} (hi : c.tasks[i]? = some p) :
    Attended K E m messages
      { c with store := p.write c.store, tasks := c.tasks.set i (p.next c.store) } := by
  have hlt := (List.getElem?_eq_some_iff.mp hi).1
  have hset : (c.tasks.set i (p.next c.store))[i]? = some (p.next c.store) := by
    rw [List.getElem?_set_self hlt]
  obtain ⟨m', hm', htends⟩ := Program.rel_of_right h.tasks hi
  refine ⟨h.requests, Program.rel_set_right h.tasks hi fun _ hq => hq.next c.store, ?_⟩
  rcases h.holds with hK | ⟨j, q, hm, hq, hreaches⟩
  · by_cases hmm : m' = m
    · exact (htends.1.write hK).imp_right fun hnext => ⟨i, _, hmm ▸ hm', hset, hnext⟩
    · exact .inl ((htends.2 hmm).write_refl c.store hK)
  · by_cases hij : i = j
    · obtain rfl := hij
      obtain rfl := Option.some.inj (hi.symm.trans hq)
      exact (hreaches.next c.store).imp_right fun hnext => ⟨i, _, hm, hset, hnext⟩
    · exact .inr ⟨j, q, hm, (List.getElem?_set_ne hij).trans hq, hreaches⟩

theorem attended_step (hsees : SeesTo K E m received) {messages : List TaskMessage} {c : System}
    (h : Attended K E m messages c) {move : Move} (hmove : ∀ o, move = .receive o → received o) :
    Attended K E m (messages ++ (takes c move).toList) (c.step move) := by
  cases move with
  | receive o =>
    rw [show (takes c (.receive o)).toList = [] from rfl, List.append_nil]
    refine ⟨fun r hr => ?_, h.tasks, h.holds⟩
    rcases List.mem_append.mp hr with hr | hr
    · exact h.requests r hr
    · rw [List.mem_singleton.mp hr]
      exact hsees.reply o (hmove o rfl)
  | request i =>
    rw [show (takes c (.request i)).toList = [] from rfl, List.append_nil]
    dsimp only [System.step]
    split
    · rename_i r hi
      split
      · exact h
      · exact attended_request h hi
    · exact h
  | fail i =>
    rw [show (takes c (.fail i)).toList = [] from rfl, List.append_nil]
    dsimp only [System.step]
    split
    · rename_i r hi
      split
      · refine ⟨fun r' hr' => ?_, h.tasks, h.holds⟩
        rcases List.mem_or_eq_of_mem_set hr' with hr' | rfl
        · exact h.requests r' hr'
        · exact h.requests r (List.mem_of_getElem? hi)
      · exact h
    · exact h
  | take n w =>
    dsimp only [System.step, takes]
    cases hn : c.store.queue[n]? with
    | none =>
      rw [Option.map_none, Option.toList_none, List.append_nil]
      exact h
    | some x => exact attended_take hsees h n w x
  | task i =>
    rw [show (takes c (.task i)).toList = [] from rfl, List.append_nil]
    dsimp only [System.step]
    split
    · rename_i p hi
      exact attended_task h hi
    · exact h

theorem attended_run (hsees : SeesTo K E m received) {messages : List TaskMessage} {c : System}
    (h : Attended K E m messages c) (moves : List Move)
    (hmoves : ∀ o, .receive o ∈ moves → received o) :
    Attended K E m (messages ++ taken c moves) (c.run moves) := by
  induction moves generalizing messages c with
  | nil =>
    rw [taken, List.append_nil]
    exact h
  | cons move moves ih =>
    have hstep := attended_step hsees h
      fun o (ho : move = .receive o) => hmoves o (ho ▸ List.mem_cons_self)
    rw [taken, ← List.append_assoc]
    exact ih hstep fun o ho => hmoves o (List.mem_cons_of_mem _ ho)

/-- At rest `K` holds, or a task of the message has ended with an exception in `E`. -/
theorem Attended.atRest {messages : List TaskMessage} {c : System}
    (h : Attended K E m messages c) (hrest : AtRest c) :
    K c.store ∨
      ∃ (i : ℕ) (e : Exn), messages[i]? = some m ∧ c.tasks[i]? = some (.raise e) ∧ E e := by
  refine h.holds.imp_right fun ⟨i, p, hm, hp, hreaches⟩ => ?_
  have hstmt := hrest.tasks p (List.mem_of_getElem? hp)
  cases p with
  | ret a => exact hreaches.elim
  | raise e => exact ⟨i, e, hm, hp, hreaches⟩
  | stmt write next => cases hstmt

end

/-! ### Jobs that are RUNNING -/

/-- The job of the message, if it is that of a job, is not RUNNING. -/
def NotRunning : TaskMessage → Platform → Prop
  | .runDiscovery id, db => DiscoveryExecutions.jobPhase id db ≠ 1
  | .executeProvisioningJob id, db => JobExecutions.jobPhase id db ≠ 1
  | _, _ => True

/-- Nothing is raised by `run_discovery` while its job is RUNNING. -/
def MayRaise : TaskMessage → Exn → Prop
  | .runDiscovery _, _ => False
  | _, _ => True

/-- The operation executes a job. -/
def startsJob : Operation → Bool
  | .runDiscovery .. | .executeProvisioningJob .. => true
  | _ => false

theorem phase_update_ne {α : Type} {t : Table α} {id : ℕ} {set : α → α} {phase : Option α → ℕ}
    (hnone : phase none ≠ 1) (hset : ∀ a, phase (some (set a)) ≠ 1) :
    phase ((t.update id set).get? id) ≠ 1 := by
  rw [Table.get?_update_self]
  cases t.get? id with
  | none => exact hnone
  | some a => exact hset a

/-- The save of a job that is not RUNNING after it, or has no row. -/
theorem reaches_saveFields_bind {α β : Type} {rows : Platform → Table α}
    {setRows : Platform → Table α → Platform} {id : ℕ} {set : α → α} {phase : Option α → ℕ}
    {f : Unit → Statement β} {W : β → Prop} {E : Exn → Prop}
    (hrows : ∀ db t, rows (setRows db t) = t) (hnone : phase none ≠ 1)
    (hset : ∀ a, phase (some (set a)) ≠ 1) :
    (saveFields rows setRows id set >>= f).Reaches (fun db => phase ((rows db).get? id) ≠ 1)
      W E := by
  refine Program.reaches_statement_bind (fun db u db' hsaved => .inl ?_) fun db e hsaved => .inl ?_
  · cases hget : (rows db).get? id with
    | none => simp [hget] at hsaved
    | some a =>
      simp only [hget, Except.ok.injEq, Prod.mk.injEq] at hsaved
      rw [← hsaved.2, hrows]
      exact phase_update_ne hnone hset
  · cases hget : (rows db).get? id with
    | none => exact hnone
    | some a => simp [hget] at hsaved

/-- A host that cannot be added ends the loop, with the exception as a value. -/
theorem reaches_discoverHosts {K : Platform → Prop} (net : Network) (n : ℕ)
    (hosts : List IpAddresses.IpAddress) (acc : Discovered) :
    (discoverHosts net n hosts acc).Reaches K (fun _ => True) (fun _ => False) := by
  induction hosts generalizing n acc with
  | nil => trivial
  | cons host hosts ih =>
    unfold discoverHosts
    dsimp only
    split
    · trivial
    · exact ih (n + 1) acc
    · refine Program.Reaches.bind (V := fun _ => True) (fun _ => .inr trivial) fun known _ => ?_
      split
      · exact ih (n + 1) _
      · split
        · trivial
        · refine (Program.reaches_true (Device.create _)).attempt.bind fun created _ => ?_
          split
          · trivial
          · exact ih (n + 1) _

theorem reaches_discoverSubnet {K : Platform → Prop} (net : Network) (subnet : String)
    (acc : Discovered) :
    (discoverSubnet net subnet acc).Reaches K (fun _ => True) (fun _ => False) := by
  unfold discoverSubnet
  split
  · trivial
  · exact reaches_discoverHosts net 0 _ acc

theorem phase_of_finished {job : DiscoveryJob} (h : DiscoveryExecutions.Finished job.status) :
    DiscoveryExecutions.phase (some job) ≠ 1 := by
  rw [DiscoveryExecutions.phase_of_finished job h]
  decide

theorem phase_of_isTerminal {job : ProvisioningJob} (h : job.status.isTerminal = true) :
    JobExecutions.phase (some job) ≠ 1 := by
  rw [JobExecutions.phase_of_isTerminal h]
  decide

/-- What is raised between the two saves is caught, and the job is then FAILED. -/
theorem restores_runDiscovery (net : Network) (id : DiscoveryJobId) :
    (runDiscovery net id).Restores (NotRunning (.runDiscovery id))
      (MayRaise (.runDiscovery id)) := by
  refine Program.restores_statement_bind fun db job db' hget => ?_
  split at hget
  · obtain ⟨-, rfl⟩ := Prod.mk.inj (Except.ok.inj hget)
    refine ⟨.inl, Program.restores_statement_bind fun _ _ _ _ => ⟨fun _ => .inr ?_, ?_⟩⟩
    · refine (reaches_discoverSubnet net job.subnet _).bind fun result _ => ?_
      obtain ⟨found, failure⟩ := result
      cases failure with
      | none =>
        exact reaches_saveFields_bind (fun _ _ => rfl) (by decide) fun _ =>
          phase_of_finished (.inl rfl)
      | some exc =>
        exact reaches_saveFields_bind (fun _ _ => rfl) (by decide) fun _ =>
          phase_of_finished (.inr rfl)
    · refine Program.Writes.restores ?_
      refine (writes_discoverSubnet net (fun d => ?_) job.subnet _).bind fun result => ?_
      · exact writes_insertRow fun _ h => h
      obtain ⟨found, failure⟩ := result
      refine Program.Writes.bind (writes_saveFields fun _ _ => ?_) fun _ => trivial
      refine phase_update_ne (by decide) fun _ => phase_of_finished ?_
      cases failure with
      | none => exact .inl rfl
      | some exc => exact .inr rfl
  · cases hget

/-- Whatever is raised before the last save ends the task. -/
theorem restores_executeProvisioningJob (w : PushWorld) (id : ProvisioningJobId) :
    (executeProvisioningJob w id).Restores (NotRunning (.executeProvisioningJob id))
      (MayRaise (.executeProvisioningJob id)) := by
  have hfinal (successes total : ℕ) (row : ProvisioningJob) : JobExecutions.phase (some { row with
      status := finalStatus successes total
      completedAt := some (w.clock (2 * total + 1)) }) ≠ 1 :=
    phase_of_isTerminal (finalStatus_isTerminal successes total)
  have hnone : JobExecutions.phase none ≠ 1 := by decide
  refine Program.restores_statement_bind fun db job db' hload => ?_
  split at hload
  · obtain ⟨rfl, rfl⟩ := Prod.mk.inj (Except.ok.inj hload)
    refine ⟨.inl, Program.Writes.restores_bind (Program.writes_query _) fun devices => ?_⟩
    refine Program.restores_statement_bind fun _ _ _ _ => ⟨fun _ => .inr ?_, ?_⟩
    · refine (Program.reaches_true (Program.ofExcept _)).bind fun rendered _ => ?_
      refine (Program.reaches_true (ProvisioningJob.saveRendered _ _)).bind fun _ _ => ?_
      refine (Program.reaches_true (pushDevices w _ _ 0 devices)).bind fun results _ => ?_
      exact reaches_saveFields_bind (fun _ _ => rfl) hnone (hfinal _ _)
    · refine Program.Writes.restores ?_
      refine (Program.writes_ofExcept _).bind fun rendered => ?_
      refine Program.Writes.bind (writes_saveRendered fun db hdb => ?_) fun _ => ?_
      · -- the row keeps its status
        rw [NotRunning, JobExecutions.jobPhase] at hdb ⊢
        rw [Table.get?_update_self]
        cases hrow : db.provisioningJobs.get? id with
        | none => exact hnone
        | some row => rwa [hrow] at hdb
      refine (writes_pushDevices (fun r _ => ?_) (fun a _ => ?_) _ 0 devices).bind fun results => ?_
      · exact writes_insertRow fun _ h => h
      · exact writes_insertRow fun _ h => h
      refine Program.Writes.bind (writes_saveFields fun _ _ => ?_) fun _ => trivial
      exact phase_update_ne hnone (hfinal _ _)
  · cases hload

theorem restores_task (w : Worker) (m : TaskMessage) :
    (w.task m).Restores (NotRunning m) (MayRaise m) := by
  cases m with
  | runDiscovery id => exact restores_runDiscovery w.network id
  | executeProvisioningJob id => exact restores_executeProvisioningJob w.push id
  | _ => exact Program.Writes.restores ((leavesQueue_task _ _).mono fun _ _ _ _ => trivial)

theorem apart_of_startsJob {o : Operation} (ho : startsJob o = false) :
    (∀ id, DiscoveryExecutions.Apart id o) ∧ ∀ id, JobExecutions.Apart id o := by
  constructor
  · rintro id net rfl
    cases ho
  · rintro id w rfl
    cases ho

/-- An operation that is not the execution of the job does not set it RUNNING. -/
theorem preserves_notRunning {o : Operation} {m : TaskMessage}
    (hdiscovery : ∀ id, m = .runDiscovery id → DiscoveryExecutions.Apart id o)
    (hprovisioning : ∀ id, m = .executeProvisioningJob id → JobExecutions.Apart id o) :
    o.program.Writes (Program.Preserving (NotRunning m)) := by
  cases m with
  | runDiscovery id =>
    refine (DiscoveryExecutions.writes_spares (hdiscovery id rfl)).mono fun db db' h hdb => ?_
    rw [NotRunning, DiscoveryExecutions.jobPhase, DiscoveryExecutions.phase_of_spared h]
    exact hdb
  | executeProvisioningJob id =>
    refine (JobExecutions.apart_writes (hprovisioning id rfl)).mono fun db db' h hdb => ?_
    rw [NotRunning, h.1]
    exact hdb
  | _ => exact (writes_program o).mono fun _ _ _ _ => trivial

/-- Only its own task sets a job RUNNING, and then sees to it that the job ends. -/
theorem seesTo_notRunning (m : TaskMessage) :
    SeesTo (NotRunning m) (MayRaise m) m fun o => startsJob o = false where
  reply o ho := by
    have hapart := apart_of_startsJob ho
    exact writes_reply (preserves_notRunning (fun id _ => hapart.1 id) fun id _ => hapart.2 id)
  dequeue db n h := by cases m <;> exact h
  other w m' hm := by
    rw [task_eq]
    refine preserves_notRunning (fun id heq => ?_) fun id heq => ?_
    · exact DiscoveryExecutions.apart_operation (heq ▸ hm) w
    · exact JobExecutions.apart_operation (heq ▸ hm) w
  task w := restores_task w m

/-! ### What is left at rest -/

/-- A request failed when it had inserted the job and was yet to send the message. -/
def Forgotten (m : TaskMessage) (c : System) : Prop :=
  ∃ r ∈ c.requests, r.failed = true ∧ Owes m r.rest

/-- The task of one of the messages was ended by an exception. -/
def Aborted (m : TaskMessage) (messages : List TaskMessage) (c : System) : Prop :=
  ∃ (i : ℕ) (e : Exn), messages[i]? = some m ∧ c.tasks[i]? = some (.raise e)

/-- Every job has ended, unless its request or, for a provisioning job, its task did not. -/
structure Settled (messages : List TaskMessage) (c : System) : Prop where
  discoveryJobs : ∀ id job, c.store.discoveryJobs.get? id = some job →
    DiscoveryExecutions.Finished job.status ∨
      job.status = .pending ∧ Forgotten (.runDiscovery id) c
  provisioningJobs : ∀ id job, c.store.provisioningJobs.get? id = some job →
    job.status.isTerminal = true ∨
      job.status = .pending ∧ Forgotten (.executeProvisioningJob id) c ∨
        job.status = .running ∧ Aborted (.executeProvisioningJob id) messages c

theorem Owes.isStmt {m : TaskMessage} {p : Statement Response} (h : Owes m p) :
    p.isStmt = true := by
  cases h with
  | delay => rfl
  | setDevices => rfl

theorem AboutToRun.isStmt {m : TaskMessage} {p : Statement Json} (h : AboutToRun m p)
    (hm : isJob m = true) : p.isStmt = true := by
  cases h with
  | taken w =>
    cases m with
    | runDiscovery id => rfl
    | executeProvisioningJob id => rfl
    | _ => cases hm
  | read => rfl
  | startDiscovery => rfl
  | startProvisioning => rfl

theorem forgotten_of_covered {m : TaskMessage} {c : System} (hm : isJob m = true)
    (h : Covered m c) (hrest : AtRest c) : Forgotten m c := by
  cases h with
  | queued h =>
    obtain ⟨taskId, hmem⟩ := h
    rw [hrest.queue] at hmem
    cases hmem
  | taken p hp h =>
    have hstmt := hrest.tasks p hp
    rw [AboutToRun.isStmt h hm] at hstmt
    cases hstmt
  | owed r hr h =>
    have hended := hrest.requests r hr
    rw [ended, Owes.isStmt h] at hended
    exact ⟨r, hr, by simpa using hended, h⟩

theorem notRunning_or_aborted {store : Platform} (hstore : ∀ m, NotRunning m store)
    {moves : List Move} (hmoves : ∀ o, .receive o ∈ moves → startsJob o = false)
    (hrest : AtRest (System.run { store := store } moves)) (m : TaskMessage) :
    NotRunning m (System.run { store := store } moves).store ∨
      ∃ (i : ℕ) (e : Exn), (taken { store := store } moves)[i]? = some m ∧
        (System.run { store := store } moves).tasks[i]? = some (.raise e) ∧ MayRaise m e := by
  have hstart : Attended (NotRunning m) (MayRaise m) m [] { store := store } :=
    ⟨by simp, .nil, .inl (hstore m)⟩
  exact (attended_run (seesTo_notRunning m) hstart moves hmoves).atRest hrest

theorem settled_of_atRest {store : Platform} (hpending : ∀ m, Pending m store → Queued m store)
    (hrunning : ∀ m, NotRunning m store) {moves : List Move}
    (hmoves : ∀ o, .receive o ∈ moves → startsJob o = false)
    (hrest : AtRest (System.run { store := store } moves)) :
    Settled (taken { store := store } moves) (System.run { store := store } moves) := by
  have hforgotten (m : TaskMessage) (hm : isJob m = true)
      (hpend : Pending m (System.run { store := store } moves).store) :
      Forgotten m (System.run { store := store } moves) :=
    forgotten_of_covered hm ((accounted_run (accounted_start hpending) moves).jobs m hpend) hrest
  have hrunning' := notRunning_or_aborted hrunning hmoves hrest
  constructor
  · intro id job hjob
    cases hstatus : job.status with
    | pending =>
      exact .inr ⟨rfl, hforgotten _ rfl (by rw [Pending, hjob, Option.map_some, hstatus])⟩
    | running =>
      rcases hrunning' (.runDiscovery id) with hphase | ⟨i, e, -, -, he⟩
      · rw [NotRunning, DiscoveryExecutions.jobPhase, hjob, DiscoveryExecutions.phase] at hphase
        simp [hstatus] at hphase
      · exact he.elim
    | completed => exact .inl (.inl rfl)
    | failed => exact .inl (.inr rfl)
  · intro id job hjob
    cases hstatus : job.status with
    | pending =>
      exact .inr (.inl ⟨rfl, hforgotten _ rfl (by rw [Pending, hjob, Option.map_some, hstatus])⟩)
    | running =>
      rcases hrunning' (.executeProvisioningJob id) with hphase | ⟨i, e, hm, he, -⟩
      · rw [NotRunning, JobExecutions.jobPhase, hjob, JobExecutions.phase] at hphase
        simp [hstatus] at hphase
      · exact .inr (.inr ⟨rfl, i, e, hm, he⟩)
    | _ => exact .inl rfl

/-- When no request arrives any more every order of moves comes to an end, the platform can be
brought to rest without a failure, and at rest every job has ended, or one of the two programs that
stand for it was ended by an exception: the request before its message, or the task. -/
theorem comes_to_rest (store : Platform) (hpending : ∀ m, Pending m store → Queued m store)
    (hrunning : ∀ m, NotRunning m store) (moves : List Move)
    (hmoves : ∀ o, .receive o ∈ moves → startsJob o = false) :
    (∀ schedule : ℕ → Move, ∃ n,
      ¬ Active (System.run { store := store } (moves ++ (List.range n).map schedule))
        (schedule n)) ∧
    (∃ later, (∀ move ∈ later, Forward move) ∧
      AtRest (System.run { store := store } (moves ++ later))) ∧
    (AtRest (System.run { store := store } moves) →
      Settled (taken { store := store } moves) (System.run { store := store } moves)) := by
  have htasks : ∀ p ∈ (System.run { store := store } moves).tasks, p.Writes LeavesQueue :=
    invariant_runFrom (I := fun c : System => ∀ p ∈ c.tasks, p.Writes LeavesQueue) leavesQueue_step
      (by simp) moves
  have hkeeps (c : System) (move : Move) (h : ∀ p ∈ c.tasks, p.Writes LeavesQueue)
      (_ : Active c move) : ∀ p ∈ (c.step move).tasks, p.Writes LeavesQueue :=
    leavesQueue_step c move h
  have happend (later : List Move) : System.run { store := store } (moves ++ later) =
      (System.run { store := store } moves).run later := runFrom_append _ _ _
  refine ⟨fun schedule => ?_, ?_, settled_of_atRest hpending hrunning hmoves⟩
  · obtain ⟨n, hn⟩ := exists_not_active hkeeps (fun _ _ h hactive => less_step h hactive) htasks
      schedule
    exact ⟨n, by rw [happend]; exact hn⟩
  · obtain ⟨later, hlater, hrest⟩ := exists_rest hkeeps
      (fun _ _ h hactive => less_step h hactive) (fun _ _ => forward_of_active) htasks
    exact ⟨later, hlater, by rw [happend]; exact atRest_of_not_active JobHandoffs.labWorker hrest⟩

/-- A discovery from its request to its end. -/
def labMoves : List Move := DiscoveryExecutions.labMoves ++ [.request 0]

theorem atRest_labMoves : AtRest (System.run { store := lab } labMoves) :=
  ⟨by decide, by decide, by decide⟩

theorem notRunning_lab (m : TaskMessage) : NotRunning m lab := by
  cases m with
  | runDiscovery id =>
    simp [NotRunning, DiscoveryExecutions.jobPhase, DiscoveryExecutions.phase, lab]
  | executeProvisioningJob id =>
    simp [NotRunning, JobExecutions.jobPhase, JobExecutions.phase, lab]
  | _ => trivial

theorem comes_to_rest_of_lab :
    (∀ schedule : ℕ → Move, ∃ n,
      ¬ Active (System.run { store := lab } (labMoves ++ (List.range n).map schedule))
        (schedule n)) ∧
    (∃ later, (∀ move ∈ later, Forward move) ∧
      AtRest (System.run { store := lab } (labMoves ++ later))) ∧
    Settled (taken { store := lab } labMoves) (System.run { store := lab } labMoves) := by
  obtain ⟨hends, hlater, hsettled⟩ := comes_to_rest lab (fun m hm => absurd hm (pending_lab m))
    notRunning_lab labMoves fun o ho => by
      have ho' : o = .createDiscoveryJob (some 1) 0 (some "10.0.0.0/30") "t1" := by
        simpa [labMoves, DiscoveryExecutions.labMoves, labRequested] using ho
      rw [ho']
      rfl
  exact ⟨hends, hlater, hsettled atRest_labMoves⟩

/-- The broker cannot be reached, and then nothing is left to do. -/
example : AtRest (System.run { store := lab } OrphanJobs.labMoves) :=
  ⟨by decide, by decide, by decide⟩

end DevSecOpsPlatform.PlatformProgress
