import DevSecOpsPlatform.DisguisedOperations
import DevSecOpsPlatform.OrphanJobs
import DevSecOpsPlatform.PlatformReads

/-!
# Where the SSH passwords go

The serializers leave `ssh_password` out, the audit entries and the errors do not name it, and
only the parameters of a connection hold it. So a password is known to its device only: when
every stored password is replaced by another, and the devices accept the new ones as they did
the old ones, no request and no task answers anything else, and no other column changes, in
any run.
-/

namespace DevSecOpsPlatform.PasswordSecrecy

open KeyedTables StatementPrograms PlatformModels PlatformStore RolePermissions PythonValues
open PlatformSerializers NetmikoSessions SecurityTasks PlatformOperations PlatformReads OrphanJobs
open DisguisedPasswords DisguisedOperations
open JobHandoffs (Worker labWorker)

variable {D : Disguise} {db : Platform}

/-! ### Reads -/

/-- The query selects its rows by columns that `f` leaves. -/
def Overlooks {α : Type} (q : Query α) (f : α → α) : Prop :=
  ∀ rows : List (ℕ × α), q.select (rows.map fun r => (r.1, f r.2)) =
    (q.select rows).map fun r => (r.1, f r.2)

/-- An audit row with the device that its search fields join. -/
def disguisedRow (D : Disguise) (a : AuditRow) : AuditRow :=
  { a with device := a.device.map D.device }

/-- No query is about the passwords: the filters, the search and the ordering of the devices
name other columns, and those of the audit log name the hostname. -/
def Discreet (D : Disguise) : Endpoint → Prop
  | .devices q | .device q _ | .statusDetail q _ => Overlooks q D.device
  | .auditLogs q | .auditLog q _ => Overlooks q (disguisedRow D)
  | _ => True

theorem listRows_map {α : Type} {q : Query α} {f : α → α} (hq : Overlooks q f)
    {data : ℕ → α → Json} (hdata : ∀ id a, data id (f a) = data id a) (rows : List (ℕ × α)) :
    listRows q data (rows.map fun r => (r.1, f r.2)) = listRows q data rows := by
  rw [listRows, listRows, hq, List.map_map]
  simp only [Function.comp_def, hdata]

theorem lookup_map {α : Type} (f : α → α) (rows : List (ℕ × α)) (id : ℕ) :
    (rows.map fun r => (r.1, f r.2)).lookup id = (rows.lookup id).map f := by
  induction rows with
  | nil => rfl
  | cons r rows ih =>
    rw [List.map_cons, List.lookup_cons, List.lookup_cons, ih]
    cases id == r.1 <;> rfl

theorem retrieveRow_map {α : Type} {q : Query α} {f : α → α} (hq : Overlooks q f)
    {data : ℕ → α → Json} (hdata : ∀ id a, data id (f a) = data id a) (id : ℕ)
    (rows : List (ℕ × α)) :
    retrieveRow q id data (rows.map fun r => (r.1, f r.2)) = retrieveRow q id data rows := by
  rw [retrieveRow, retrieveRow, hq, lookup_map]
  cases (q.select rows).lookup id with
  | none => rfl
  | some a => simp only [Option.map_some, hdata]

theorem auditRows_store :
    auditRows (D.store db) = (auditRows db).map fun r => (r.1, disguisedRow D r.2) := by
  rw [auditRows, auditRows, List.map_map]
  refine List.map_congr_left fun r _ => ?_
  simp only [AuditRow.joined, Function.comp_apply, disguisedRow]
  cases r.2.device with
  | none => rfl
  | some id => simp only [Option.bind_some, get?_devices]; rfl

theorem auditLogData_store (id : ℕ) (a : AuditLog) :
    auditLogData (D.store db) id a = auditLogData db id a := by
  simp only [auditLogData, hostnameJson_store]
  rfl

/-- No endpoint shows a password. -/
theorem view_store {e : Endpoint} (he : Discreet D e) : e.view (D.store db) = e.view db := by
  have hjob : provisioningJobData (D.store db) = provisioningJobData db :=
    funext₂ provisioningJobData_store
  have halert : alertData (D.store db) = alertData db := funext₂ alertData_store
  have hcheck : complianceCheckData (D.store db) = complianceCheckData db := by
    funext id c
    simp only [complianceCheckData, hostnameJson_store]
    rfl
  have hsnapshot : configSnapshotData (D.store db) = configSnapshotData db := by
    funext id s
    simp only [configSnapshotData, hostnameJson_store]
    rfl
  have hreport : driftReportData (D.store db) = driftReportData db := by
    funext id r
    simp only [driftReportData, hostnameJson_store]
  have hlog : (fun id (a : AuditRow) => auditLogData (D.store db) id a.log) =
      fun id a => auditLogData db id a.log := funext₂ fun id a => auditLogData_store id a.log
  cases e with
  | devices q => exact listRows_map he (fun _ _ => rfl) db.devices.rows
  | device q id => exact retrieveRow_map he (fun _ _ => rfl) id db.devices.rows
  | statusDetail q id => exact retrieveRow_map he (fun _ _ => rfl) id db.devices.rows
  | provisioningJobs q => exact congrArg (listRows q · db.provisioningJobs.rows) hjob
  | provisioningJob q id => exact congrArg (retrieveRow q id · db.provisioningJobs.rows) hjob
  | auditLogs q =>
    rw [Endpoint.view, Endpoint.view, auditRows_store, hlog]
    exact listRows_map he (fun _ _ => rfl) _
  | auditLog q id =>
    rw [Endpoint.view, Endpoint.view, auditRows_store, hlog]
    exact retrieveRow_map he (fun _ _ => rfl) id _
  | alerts q => exact congrArg (listRows q · db.alerts.rows) halert
  | alert q id => exact congrArg (retrieveRow q id · db.alerts.rows) halert
  | checks q => exact congrArg (listRows q · db.complianceChecks.rows) hcheck
  | check q id => exact congrArg (retrieveRow q id · db.complianceChecks.rows) hcheck
  | snapshots q => exact congrArg (listRows q · db.configSnapshots.rows) hsnapshot
  | snapshot q id => exact congrArg (retrieveRow q id · db.configSnapshots.rows) hsnapshot
  | reports q => exact congrArg (listRows q · db.driftReports.rows) hreport
  | report q id => exact congrArg (retrieveRow q id · db.driftReports.rows) hreport
  | _ => rfl
/-! ### Operations -/

/-- A GET request is one of an endpoint. -/
def Asks (D : Disguise) (o : Operation) : Prop :=
  ∀ allows caller view, o = .get allows caller view → ∃ e, Discreet D e ∧ view = e.view

theorem alike_task (w : Worker) (m : TaskMessage) : D.Alike ((D.worker w).task m) (w.task m) := by
  cases m with
  | runDiscovery jobId => exact alike_runDiscovery w.network jobId
  | checkDeviceReachability deviceId => exact alike_checkDeviceReachability w.network deviceId
  | executeProvisioningJob jobId => exact alike_executeProvisioningJob w.push jobId
  | runComplianceCheck deviceId ruleIds user =>
    exact alike_runComplianceCheck w.compliance deviceId ruleIds user
  | runDriftDetection deviceId user => exact alike_runDriftDetection w.drift deviceId user
  | takeConfigSnapshot deviceId golden user =>
    exact alike_takeConfigSnapshot w.snapshot deviceId golden user

theorem alike_reply {o : Operation} (ho : Asks D o) : D.Alike (D.operation o).reply o.reply := by
  cases o with
  | get allows caller view =>
    obtain ⟨e, he, rfl⟩ := ho allows caller view rfl
    exact alike_bind (alike_permit allows caller) fun _ => alike_query fun db => view_store he
  | createDevice caller now data => exact alike_createDeviceView caller now data
  | updateDevice caller method now id data => exact alike_updateDevice caller method now id data
  | destroyDevice caller id => exact alike_destroyDevice caller id
  | checkReachability caller id taskId => exact alike_checkReachability caller id taskId
  | createDiscoveryJob caller now subnet taskId =>
    exact alike_createDiscoveryJob caller now subnet taskId
  | createTemplate caller now data => exact alike_createTemplate caller now data
  | updateTemplate caller method now id data =>
    exact alike_updateTemplate caller method now id data
  | destroyTemplate caller id => exact alike_destroyTemplate caller id
  | preview jinja caller id vars => exact alike_preview jinja caller id vars
  | createProvisioningJob caller now data taskId =>
    exact alike_createProvisioningJob caller now data taskId
  | alertmanagerWebhook w body => exact alike_alertmanagerWebhook w body
  | acknowledge caller now id => exact alike_acknowledge caller now id
  | partialUpdateAlert caller id patch => exact alike_partialUpdateAlert caller id patch
  | createRule caller now data => exact alike_createRule caller now data
  | updateRule caller method now id data => exact alike_updateRule caller method now id data
  | destroyRule caller id => exact alike_destroyRule caller id
  | setGolden caller pk => exact alike_setGolden caller pk
  | runCompliance caller deviceId ruleIds taskId =>
    exact alike_deviceAction caller deviceId taskId fun device user =>
      .runComplianceCheck device ruleIds (some user)
  | runDrift caller deviceId taskId =>
    exact alike_deviceAction caller deviceId taskId fun device user =>
      .runDriftDetection device (some user)
  | takeSnapshot caller deviceId golden taskId =>
    exact alike_deviceAction caller deviceId taskId fun device user =>
      .takeConfigSnapshot device golden (some user)
  | createUserProfile caller =>
    exact alike_bind (alike_permit _ caller) fun _ => alike_raise _
  | updateUserProfile caller now id role => exact alike_updateUserProfile caller now id role
  | destroyUserProfile caller id => exact alike_destroyUserProfile caller id
  | runDiscovery net jobId => exact alike_bind (alike_runDiscovery net jobId) fun _ => alike_ret _
  | checkDeviceReachability net id =>
    exact alike_bind (alike_checkDeviceReachability net id) fun _ => alike_ret _
  | refreshAllDeviceStatus taskId =>
    exact alike_bind (alike_refreshAllDeviceStatus taskId) fun _ => alike_ret _
  | executeProvisioningJob w jobId =>
    exact alike_bind (alike_executeProvisioningJob w jobId) fun _ => alike_ret _
  | runComplianceCheck w deviceId ruleIds user =>
    exact alike_bind (alike_runComplianceCheck w deviceId ruleIds user) fun _ => alike_ret _
  | runDriftDetection w deviceId user =>
    exact alike_bind (alike_runDriftDetection w deviceId user) fun _ => alike_ret _
  | takeConfigSnapshot w deviceId golden user =>
    exact alike_bind (alike_takeConfigSnapshot w deviceId golden user) fun _ => alike_ret _

/-! ### Runs -/

/-- The move with the sessions of the devices before the disguise. -/
def disguisedMove (D : Disguise) : Move → Move
  | .receive o => .receive (D.operation o)
  | .take n w => .take n (D.worker w)
  | m => m

/-- The end of a request, or of a task. -/
inductive Heard where
  | response (answer : Except Exn Response)
  | result (answer : Except Exn Json)

/-- What is answered at a move, if the request or the task comes to its end. -/
def heard (c : System) : Move → Option Heard
  | .request i => c.requests[i]?.bind fun r =>
    if r.failed then none else (r.rest.next c.store).answer.map Heard.response
  | .task i => c.tasks[i]?.bind fun p => (p.next c.store).answer.map Heard.result
  | _ => none

/-- What is answered at each move of a run. -/
def transcript : System → List Move → List (Option Heard)
  | _, [] => []
  | c, m :: moves => heard c m :: transcript (c.step m) moves

/-- The stores differ in the passwords only, and everything in progress goes on alike. -/
structure Disguised (D : Disguise) (c c' : System) : Prop where
  store : c'.store = D.store c.store
  requests : c.requests.Forall₂ (fun r r' => r'.failed = r.failed ∧ D.Alike r.rest r'.rest)
    c'.requests
  tasks : c.tasks.Forall₂ D.Alike c'.tasks

variable {c c' : System}

theorem Disguised.heard_eq (h : Disguised D c c') (m : Move) :
    heard c' m = heard c (disguisedMove D m) := by
  cases m with
  | request i =>
    have hi := Program.rel_getElem? h.requests i
    simp only [heard, disguisedMove]
    generalize c.requests[i]? = x at hi ⊢
    generalize c'.requests[i]? = y at hi ⊢
    cases hi with
    | none => rfl
    | some hrel => simp only [Option.bind_some, hrel.1, (hrel.2.next h.store).answer_eq]
  | task i =>
    have hi := Program.rel_getElem? h.tasks i
    simp only [heard, disguisedMove]
    generalize c.tasks[i]? = x at hi ⊢
    generalize c'.tasks[i]? = y at hi ⊢
    cases hi with
    | none => rfl
    | some hrel => simp only [Option.bind_some, (hrel.next h.store).answer_eq]
  | _ => rfl

/-- A request that goes on, or raises, does so in both systems. -/
theorem alike_advance {r r' : RequestInProgress} (hfailed : r'.failed = r.failed)
    (hrest : D.Alike r.rest r'.rest) {db db' : Platform} (hdb : db' = D.store db) :
    (r'.advance db').failed = (r.advance db).failed ∧
      D.Alike (r.advance db).rest (r'.advance db').rest := by
  have hnext := hrest.next hdb
  rw [RequestInProgress.advance, RequestInProgress.advance]
  cases hp : r.rest.next db with
  | ret a =>
    cases hq : r'.rest.next db' with
    | ret b => exact ⟨hfailed, by rwa [hp, hq] at hnext⟩
    | raise e => rw [hp, hq] at hnext; exact hnext.elim
    | stmt w n => rw [hp, hq] at hnext; exact hnext.elim
  | raise e =>
    cases hq : r'.rest.next db' with
    | ret b => rw [hp, hq] at hnext; exact hnext.elim
    | raise e' => exact ⟨rfl, hrest⟩
    | stmt w n => rw [hp, hq] at hnext; exact hnext.elim
  | stmt w n =>
    cases hq : r'.rest.next db' with
    | ret b => rw [hp, hq] at hnext; exact hnext.elim
    | raise e => rw [hp, hq] at hnext; exact hnext.elim
    | stmt w' n' => exact ⟨hfailed, by rwa [hp, hq] at hnext⟩

theorem Disguised.step (h : Disguised D c c') {m : Move} (hm : ∀ o, m = .receive o → Asks D o) :
    Disguised D (c.step (disguisedMove D m)) (c'.step m) := by
  cases m with
  | receive o =>
    exact ⟨h.store, Program.rel_concat h.requests ⟨rfl, alike_reply (hm o rfl)⟩, h.tasks⟩
  | request i =>
    have hi := Program.rel_getElem? h.requests i
    simp only [System.step, disguisedMove]
    generalize c.requests[i]? = x at hi ⊢
    generalize c'.requests[i]? = y at hi ⊢
    cases hi with
    | none => exact h
    | some hrel =>
      obtain ⟨hfailed, hrest⟩ := hrel
      simp only [hfailed]
      split
      · exact h
      · exact ⟨hrest.write h.store,
          Program.rel_set h.requests (alike_advance hfailed hrest h.store) i, h.tasks⟩
  | fail i =>
    have hi := Program.rel_getElem? h.requests i
    simp only [System.step, disguisedMove]
    generalize c.requests[i]? = x at hi ⊢
    generalize c'.requests[i]? = y at hi ⊢
    cases hi with
    | none => exact h
    | @some r r' hrel =>
      simp only [hrel.2.isStmt_eq]
      split
      · exact ⟨h.store, Program.rel_set h.requests (a := { r with failed := true })
          (b := { r' with failed := true }) ⟨rfl, hrel.2⟩ i, h.tasks⟩
      · exact h
  | take n w =>
    have hqueue : c'.store.queue = c.store.queue := by rw [h.store]; rfl
    simp only [System.step, disguisedMove, hqueue]
    split
    · rename_i m hn
      refine ⟨?_, h.requests, Program.rel_concat h.tasks (alike_task w m.2)⟩
      rw [h.store]
      rfl
    · exact h
  | task i =>
    have hi := Program.rel_getElem? h.tasks i
    simp only [System.step, disguisedMove]
    generalize c.tasks[i]? = x at hi ⊢
    generalize c'.tasks[i]? = y at hi ⊢
    cases hi with
    | none => exact h
    | some hrel =>
      exact ⟨hrel.write h.store, h.requests, Program.rel_set h.tasks (hrel.next h.store) i⟩

/-- In every run the answers are those of the run with the passwords disguised, and the stores
differ in the passwords only. -/
theorem secret_run (D : Disguise) (db : Platform) (moves : List Move)
    (hmoves : ∀ o, .receive o ∈ moves → Asks D o) :
    transcript { store := D.store db } moves =
        transcript { store := db } (moves.map (disguisedMove D)) ∧
      (System.run { store := D.store db } moves).store =
        D.store (System.run { store := db } (moves.map (disguisedMove D))).store := by
  suffices hrun : ∀ c c', Disguised D c c' →
      transcript c' moves = transcript c (moves.map (disguisedMove D)) ∧
        Disguised D (c.run (moves.map (disguisedMove D))) (c'.run moves) by
    obtain ⟨hanswers, hend⟩ := hrun { store := db } { store := D.store db } ⟨rfl, .nil, .nil⟩
    exact ⟨hanswers, hend.store⟩
  induction moves with
  | nil => exact fun c c' h => ⟨rfl, h⟩
  | cons m moves ih =>
    intro c c' h
    have hstep := h.step (m := m) fun o ho => hmoves o (by rw [ho]; exact List.mem_cons_self)
    obtain ⟨hanswers, hend⟩ := ih (fun o ho => hmoves o (List.mem_cons_of_mem m ho)) _ _ hstep
    refine ⟨?_, hend⟩
    rw [transcript, List.map_cons, transcript, h.heard_eq, hanswers]

/-! ### A device with a password -/

def labDisguise : Disguise where
  password p := p ++ p
  empty := rfl

def labPassword : Platform :=
  { lab with devices := Table.empty.insert { labDevice with sshPassword := "secret" } }

/-- A session with the device once it has the other password. -/
def labSession : SshSession :=
  { SshSession.answering "hostname r1" with
    connectHandler := fun params =>
      if params.password = "secretsecret" then .ok () else .error (.authentication "denied") }

def everyDevice : Query Device where
  select rows := rows
  page items := ⟨200, .arr items⟩

/-- The administrator looks at the device and lets its configuration be read. -/
def labMoves : List Move :=
  [.receive (Endpoint.get (.device everyDevice 1) (some 1)), .request 0, .request 0,
    .receive (.takeSnapshot (some 1) (some 1) false "t"), .request 1, .request 1,
    .take 0 { labWorker with snapshot := ⟨labSession, fun _ => 0⟩ }, .task 0, .task 0, .task 0]

theorem secret_run_of_labPassword :
    transcript { store := labDisguise.store labPassword } labMoves =
        transcript { store := labPassword } (labMoves.map (disguisedMove labDisguise)) ∧
      (System.run { store := labDisguise.store labPassword } labMoves).store =
        labDisguise.store (System.run { store := labPassword }
          (labMoves.map (disguisedMove labDisguise))).store := by
  refine secret_run labDisguise labPassword labMoves fun o ho allows caller view heq => ?_
  subst heq
  simp only [labMoves, Endpoint.get, List.mem_cons, Move.receive.injEq, Operation.get.injEq,
    reduceCtorEq, List.not_mem_nil, or_false] at ho
  exact ⟨.device everyDevice 1, fun _ => rfl, ho.2.2⟩

example : (System.run { store := labDisguise.store labPassword } labMoves).store.configSnapshots =
    Table.empty.insert { device := 1, config := "hostname r1", takenAt := 0, takenBy := some 1 } :=
  rfl

end DevSecOpsPlatform.PasswordSecrecy
