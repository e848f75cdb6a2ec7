import DevSecOpsPlatform.HiddenTables
import DevSecOpsPlatform.PlatformReads
import DevSecOpsPlatform.ProvisioningTaskRuns
import DevSecOpsPlatform.RoleNoninterference

/-!
# What the variables of provisioning jobs reach

The variables of a job are in its row, in the text rendered from them, in what its pushes
answer and in the details of the audit log. No request or task reads these tables to write
another one, so every operation either does not see them or writes nothing else. A response
of another endpoint is the same whatever the variables are.
-/

namespace DevSecOpsPlatform.JobVariables

open KeyedTables StatementPrograms PlatformModels PlatformStore RolePermissions PythonValues
open PlatformSerializers TemplateRendering InventoryTasks ProvisioningTasks ProvisioningViews
open MonitoringViews SecurityTasks SecurityViews ProgramInterleaving PlatformOperations
open OperationStatements PlatformChanges RoleNoninterference PlatformReads HiddenTables

/-- What is computed from the store without the concealed tables is the same for stores that
differ in these only. -/
theorem eq_of_conceal {α : Type} {f : Platform → α} (h : ∀ db, f (conceal db) = f db)
    {s t : Platform} (hview : conceal t = conceal s) : f t = f s := eq_of_hide h hview

/-- The common statements do not see the concealed tables. -/
theorem vocabulary_blind :
    Vocabulary (fun _ p => p.Blind conceal) (fun _ => True) (fun _ => True) where
  ret _ := trivial
  raise _ := trivial
  bind hp hf := hp.bind hf
  attempt hp := hp.attempt
  nobody := trivial
  lookUp hf := hides_conceal.blind_lookUp hf
  gated _ _ _ hf := hides_conceal.blind_permit_bind hf
  query hf := blind_query hf
  getAlert id _ hf := hides_conceal.blind_getAlert id hf
  delay _ _ _ := blind_statement fun _ => ⟨rfl, rfl⟩
  createDevice _ _ := blind_insertRow (fun _ => rfl) (fun _ => rfl) fun _ => rfl
  saveDevice _ _ _ := blind_saveRow (fun _ => rfl) (fun _ => rfl) fun _ _ => rfl
  setDeviceStatus _ _ _ := blind_execute fun _ => rfl
  deleteDevice _ _ := blind_execute fun _ => rfl
  createDiscoveryJob _ _ _ := blind_insertRow (fun _ => rfl) (fun _ => rfl) fun _ => rfl
  setDiscoveryTask _ _ := blind_saveFields (fun _ => rfl) fun _ _ => rfl
  createTemplate _ _ := blind_insertRow (fun _ => rfl) (fun _ => rfl) fun _ => rfl
  saveTemplate _ _ := blind_saveRow (fun _ => rfl) (fun _ => rfl) fun _ _ => rfl
  deleteTemplate _ := blind_execute fun _ => rfl
  createLog a _ _ hq := hides_conceal.blind_createLog (fun _ _ => rfl) a hq
  updateOrCreateAlert w now f d :=
    hides_conceal.blind_updateOrCreate (fun _ _ => rfl) w now f d
  saveAcknowledged _ _ := blind_saveFields (fun _ => rfl) fun _ _ => rfl
  saveAlert _ _ := blind_saveRow (fun _ => rfl) (fun _ => rfl) fun _ _ => rfl
  createRule _ := blind_insertRow (fun _ => rfl) (fun _ => rfl) fun _ => rfl
  saveRule _ _ _ := blind_saveRow (fun _ => rfl) (fun _ => rfl) fun _ _ => rfl
  deleteRule _ := blind_execute fun _ => rfl
  createCheck _ _ := blind_insertRow (fun _ => rfl) (fun _ => rfl) fun _ => rfl
  createSnapshot _ _ := blind_insertRow (fun _ => rfl) (fun _ => rfl) fun _ => rfl
  saveSnapshot _ _ _ := blind_saveFields (fun _ => rfl) fun _ _ => rfl
  unsetGolden _ := blind_execute fun _ => rfl
  createReport _ := blind_insertRow (fun _ => rfl) (fun _ => rfl) fun _ => rfl

/-! ### Operations -/

instance : Std.Refl fun db db' : Platform => conceal db' = conceal db := ⟨fun _ => rfl⟩

/-- Creating a job writes concealed tables only. -/
theorem leaves_createProvisioningJob (caller : Option UserId) (now : DateTime)
    (data : ProvisioningJobData) (taskId : String) :
    (Operation.createProvisioningJob caller now data taskId).reply.Leaves conceal :=
  ProvisioningViews.writes_createProvisioningJob (fun _ _ _ => rfl) (fun _ _ _ => rfl)
    (fun _ _ => rfl) fun _ _ => rfl

theorem leaves_executeProvisioningJob (w : PushWorld) (jobId : ProvisioningJobId) :
    (Operation.executeProvisioningJob w jobId).reply.Leaves conceal := by
  refine Program.Writes.bind ?_ (fun _ => trivial)
  exact writes_executeProvisioningJob (fun _ => rfl) (fun _ _ => rfl) (fun _ _ _ _ => rfl)
    (fun _ _ _ => rfl) fun _ _ _ => rfl

theorem leaves_get (allows : Option RequestUser → Bool) (caller : Option UserId)
    (view : Platform → Response) : (Operation.get allows caller view).reply.Leaves conceal :=
  (writes_permit allows caller).bind fun _ => Program.writes_query view

theorem blind_updateUserProfile (caller : Option UserId) (now : DateTime) (id : ℕ)
    (role : Option Role) :
    (Operation.updateUserProfile caller now id role).reply.Blind conceal := by
  refine (vocabulary_blind.permit _ caller).bind fun _ =>
    (vocabulary_blind.getObject fun _ => rfl).bind fun profile => ?_
  refine Program.Blind.bind ?_ fun _ => (vocabulary_blind.query fun _ => rfl).bind fun _ => trivial
  exact blind_saveRow (fun _ => rfl) (fun _ => rfl) fun _ _ => rfl

theorem blind_destroyUserProfile (caller : Option UserId) (id : ℕ) :
    (Operation.destroyUserProfile caller id).reply.Blind conceal := by
  refine (vocabulary_blind.permit _ caller).bind fun _ =>
    (vocabulary_blind.getObject fun _ => rfl).bind fun _ => ?_
  exact Program.Blind.bind (blind_execute fun _ => rfl) fun _ => trivial

/-- An operation does not see the concealed tables, or writes no others. -/
theorem blind_or_leaves (o : Operation) : o.reply.Blind conceal ∨ o.reply.Leaves conceal := by
  have htask {p : Statement Json} (hp : p.Blind conceal) :
      (p >>= fun data => (return ⟨200, data⟩ : Statement Response)).Blind conceal :=
    hp.bind fun _ => trivial
  have v := vocabulary_blind
  cases o with
  | get allows caller view => exact .inr (leaves_get allows caller view)
  | createProvisioningJob caller now data taskId =>
    exact .inr (leaves_createProvisioningJob caller now data taskId)
  | executeProvisioningJob w jobId => exact .inr (leaves_executeProvisioningJob w jobId)
  | updateUserProfile caller now id role => exact .inl (blind_updateUserProfile caller now id role)
  | destroyUserProfile caller id => exact .inl (blind_destroyUserProfile caller id)
  | runDiscovery net jobId =>
    exact .inl (htask (v.runDiscovery net jobId fun _ _ =>
      blind_saveFields (fun _ => rfl) fun _ _ => rfl))
  | checkDeviceReachability net id =>
    exact .inl (htask (v.checkDeviceReachability net id trivial))
  | refreshAllDeviceStatus taskId => exact .inl (htask (v.refreshAllDeviceStatus taskId))
  | runComplianceCheck w deviceId ruleIds user =>
    exact .inl (htask (v.runComplianceCheck w deviceId ruleIds user trivial))
  | runDriftDetection w deviceId user =>
    exact .inl (htask (v.runDriftDetection w deviceId user trivial))
  | takeConfigSnapshot w deviceId golden user =>
    exact .inl (htask (v.takeConfigSnapshot w deviceId golden user trivial))
  | _ => exact .inl (v.reply rfl (fun _ _ => trivial) trivial fun h => by cases h)

/-- The endpoints that show jobs. -/
def showsJobs : Endpoint → Bool
  | .provisioningJobs _ | .provisioningJob _ _ => true
  | _ => false

theorem blind_endpoint {e : Endpoint} (haudit : e.isAudit = false) (hjobs : showsJobs e = false)
    (caller : Option UserId) : (e.get caller).reply.Blind conceal := by
  refine (vocabulary_blind.permit _ caller).bind fun _ => blind_query fun db => ?_
  cases e with
  | auditLogs => cases haudit
  | auditLog => cases haudit
  | provisioningJobs => cases hjobs
  | provisioningJob => cases hjobs
  | _ => rfl

/-! ### Requests -/

/-- A request that is answered with its response, where a GET request is one of an endpoint
other than those of the audit log. -/
def Answered : Operation → Prop
  | .get allows caller view =>
    ∃ e : Endpoint, e.isAudit = false ∧ Operation.get allows caller view = e.get caller
  | o => o.isTask = false

/-- Requests of engineers start with the check of their permission class. -/
def ForEngineers (o : Operation) (caller : Option UserId) : Prop :=
  callerOf o = some caller ∧ ∃ f, o.reply = permit isAdminOrNetworkEngineer caller >>= f

theorem isStmt_of_forEngineers {o : Operation} {caller : Option UserId}
    (h : ForEngineers o caller) : o.reply.isStmt = true := by
  obtain ⟨-, f, hf⟩ := h
  rw [hf]
  rfl

/-- What shows the variables of jobs, other than the audit log, is for engineers. -/
theorem blind_or_forEngineers {o : Operation} (h : Answered o) :
    o.reply.Blind conceal ∨ ∃ caller, ForEngineers o caller := by
  cases o with
  | get allows caller view =>
    obtain ⟨e, haudit, he⟩ := h
    rw [he]
    cases hjobs : showsJobs e with
    | false => exact .inl (blind_endpoint haudit hjobs caller)
    | true =>
      refine .inr ⟨caller, rfl, ?_⟩
      cases e with
      | provisioningJobs q => exact ⟨_, rfl⟩
      | provisioningJob q id => exact ⟨_, rfl⟩
      | _ => cases hjobs
  | createProvisioningJob caller now data taskId => exact .inr ⟨caller, rfl, _, rfl⟩
  | updateUserProfile caller now id role => exact .inl (blind_updateUserProfile caller now id role)
  | destroyUserProfile caller id => exact .inl (blind_destroyUserProfile caller id)
  | runDiscovery => cases h
  | checkDeviceReachability => cases h
  | refreshAllDeviceStatus => cases h
  | executeProvisioningJob => cases h
  | runComplianceCheck => cases h
  | runDriftDetection => cases h
  | takeConfigSnapshot => cases h
  | _ => exact .inl (vocabulary_blind.reply rfl (fun _ _ => trivial) trivial fun h => by cases h)

/-- What a caller who is turned away is told. -/
def denial (caller : Option UserId) (db : Platform) : Exn :=
  match authenticate caller db with
  | none => notAuthenticatedError
  | some _ => permissionDeniedError

theorem next_permit_of_unprivileged {β : Type} {caller : Option UserId} {db : Platform}
    (h : Unprivileged caller db) (f : RequestUser → Statement β) :
    (permit isAdminOrNetworkEngineer caller >>= f).next db = .raise (denial caller db) := by
  rw [permit, Program.next_statement_bind, denial]
  cases hu : authenticate caller db with
  | none => rfl
  | some u => simp [isAdminOrNetworkEngineer_eq_false h hu]

/-! ### Two histories -/

/-- Operations that differ in the variables of a job that is created, if at all. -/
inductive SameButVariables : Operation → Operation → Prop where
  | same (o : Operation) : SameButVariables o o
  | jobVariables (caller : Option UserId) (now : DateTime) (data : ProvisioningJobData)
    (taskId : String) (vars : Option Json) :
    SameButVariables (.createProvisioningJob caller now data taskId)
      (.createProvisioningJob caller now { data with jobVariables := vars } taskId)

/-- The operations, each about to execute its first statement and to answer its response. -/
abbrev replies (store : Platform) (operations : List Operation) :
    Pool Operation Platform Exn Response := Pool.start Operation.reply store operations

/-- An operation of both histories that does not see the concealed tables. -/
def Seen (operations operations' : List Operation) (i : ℕ) : Prop :=
  ∃ o, operations[i]? = some o ∧ operations'[i]? = some o ∧ o.reply.Blind conceal

section

variable {store store' : Platform} {operations operations' : List Operation} {i : ℕ}
  {o : Operation}

theorem threads_replies (h : operations[i]? = some o) :
    (replies store operations).threads[i]? = some ⟨o, 0, o.reply⟩ := by
  simp [replies, Pool.start, h]

theorem operation_of_replies {t : Thread Operation Platform Exn Response}
    (h : (replies store operations).threads[i]? = some t) :
    ∃ o, operations[i]? = some o ∧ t = ⟨o, 0, o.reply⟩ := by
  obtain ⟨o, ho, rfl⟩ := Option.map_eq_some_iff.mp ((List.getElem?_map ..).symm.trans h)
  exact ⟨o, ho, rfl⟩

/-- The other history has an operation at the same place. -/
theorem sameButVariables_getElem? (hsame : List.Forall₂ SameButVariables operations operations')
    (hi : operations[i]? = some o) : ∃ o', operations'[i]? = some o' ∧ SameButVariables o o' := by
  induction hsame generalizing i with
  | nil => cases hi
  | cons h _ ih =>
    cases i with
    | zero => exact ⟨_, rfl, Option.some.inj hi ▸ h⟩
    | succ i => exact ih hi

theorem leaves_of_not_seen (hsame : List.Forall₂ SameButVariables operations operations')
    (hseen : ¬ Seen operations operations' i) (hi : operations[i]? = some o) :
    o.reply.Leaves conceal ∧ ∃ o', operations'[i]? = some o' ∧ o'.reply.Leaves conceal := by
  obtain ⟨o', ho', hoo⟩ := sameButVariables_getElem? hsame hi
  cases hoo with
  | same =>
    have hleaves := (blind_or_leaves o).resolve_left fun hblind => hseen ⟨o, hi, ho', hblind⟩
    exact ⟨hleaves, o, ho', hleaves⟩
  | jobVariables caller now data taskId vars =>
    exact ⟨leaves_createProvisioningJob caller now data taskId, _, ho',
      leaves_createProvisioningJob caller now _ taskId⟩

/-- Two histories start with one view of the store. -/
theorem sameView_replies (hstore : conceal store = conceal store')
    (hsame : List.Forall₂ SameButVariables operations operations') :
    Pool.SameView conceal (Seen operations operations') (replies store operations)
      (replies store' operations') where
  store := hstore
  same := by
    rintro i ⟨o, hi, hi', -⟩
    rw [threads_replies hi, threads_replies hi']
  blind := by
    rintro i t ⟨o, hi, -, hblind⟩ ht
    obtain rfl := Option.some.inj ((threads_replies hi).symm.trans ht)
    exact hblind
  leaves := by
    intro i t hseen ht
    obtain ⟨o, hi, rfl⟩ := operation_of_replies ht
    exact (leaves_of_not_seen hsame hseen hi).1
  leaves' := by
    intro i t hseen ht
    obtain ⟨o', hi', rfl⟩ := operation_of_replies ht
    have hlt : i < operations.length := by
      rw [hsame.length_eq]
      exact (List.getElem?_eq_some_iff.mp hi').1
    obtain ⟨-, o, ho, hleaves⟩ := leaves_of_not_seen hsame hseen (List.getElem?_eq_getElem hlt)
    rw [hi'] at ho
    exact Option.some.inj ho ▸ hleaves

theorem forEngineers_of_sameButVariables {o' : Operation} {caller : Option UserId}
    (h : SameButVariables o o') (ho : ForEngineers o caller) : ForEngineers o' caller := by
  cases h with
  | same => exact ho
  | jobVariables caller' now data taskId vars =>
    obtain rfl : caller' = caller := Option.some.inj ho.1
    exact ⟨rfl, _, rfl⟩

/-- A request for engineers that an unprivileged caller makes is turned away. -/
theorem answer_of_unprivileged {caller : Option UserId} (hi : operations[i]? = some o)
    (ho : ForEngineers o caller) {done later : List ℕ} (hnot : i ∉ done)
    (h : Unprivileged caller ((replies store operations).run done).store) :
    ((replies store operations).run (done ++ i :: later)).answer i =
      some (.error (denial caller ((replies store operations).run done).store)) := by
  obtain ⟨f, hf⟩ := ho.2
  refine Pool.answer_of_raise (threads_replies hi) (isStmt_of_forEngineers ho) hnot ?_ later
  rw [hf]
  exact next_permit_of_unprivileged h f

/-- A response outside of the audit log that a caller without a role gets is the same
whatever the variables of the jobs are. -/
theorem responses_same (hstore : conceal store = conceal store')
    (hsame : List.Forall₂ SameButVariables operations operations') (schedule : List ℕ)
    (hi : operations[i]? = some o) (hanswered : Answered o)
    (hcaller : ∀ caller, callerOf o = some caller →
      ∀ p, ((replies store operations).history i schedule).head? = some p →
        Unprivileged caller p.1) :
    ((replies store operations).run schedule).answer i =
      ((replies store' operations').run schedule).answer i := by
  have hview := sameView_replies hstore hsame
  obtain ⟨o', hi', hoo⟩ := sameButVariables_getElem? hsame hi
  by_cases hseen : Seen operations operations' i
  · exact (hview.run schedule).answer_eq hseen
  obtain ⟨caller, hengineers⟩ : ∃ caller, ForEngineers o caller := by
    cases hoo with
    | same =>
      exact (blind_or_forEngineers hanswered).resolve_left fun hblind =>
        hseen ⟨o, hi, hi', hblind⟩
    | jobVariables caller now data taskId vars => exact ⟨caller, rfl, _, rfl⟩
  have hengineers' := forEngineers_of_sameButVariables hoo hengineers
  by_cases hmem : i ∈ schedule
  · obtain ⟨done, later, rfl, hnot, p, hp, hfound⟩ :=
      Pool.first_turn (threads_replies hi) (isStmt_of_forEngineers hengineers) hmem
    have hun := hfound ▸ hcaller caller hengineers.1 p hp
    have hstores := (hview.run done).store
    have hun' := eq_of_conceal (f := Unprivileged caller) (fun _ => rfl) hstores ▸ hun
    rw [answer_of_unprivileged hi hengineers hnot hun,
      answer_of_unprivileged hi' hengineers' hnot hun',
      eq_of_conceal (f := denial caller) (fun _ => rfl) hstores]
  · rw [Pool.answer_of_not_mem (threads_replies hi) (isStmt_of_forEngineers hengineers) hmem,
      Pool.answer_of_not_mem (threads_replies hi') (isStmt_of_forEngineers hengineers') hmem]

end

/-! ### A job with a password -/

/-- No search, no filter and one page. -/
def everyRow {α : Type} : Query α where
  select := id
  page := fun rows => ⟨200, .arr rows⟩

/-- A platform with an administrator, a read-only user, a device and a template. -/
def labTemplate : Platform := { viewerLab with configTemplates := labJob.configTemplates }

/-- The administrator pushes the template with a password, and then the read-only user asks for
the devices, the jobs and the audit log. -/
def labPush (password : String) : List Operation := [
  .createProvisioningJob (some 1) 1 {
    template := some 1, deviceIds := some [1]
    jobVariables := some (.obj [("auth_password", .str password)]) } "t",
  .executeProvisioningJob .calm 1,
  (Endpoint.devices everyRow).get (some 2),
  (Endpoint.provisioningJobs everyRow).get (some 2),
  (Endpoint.auditLogs everyRow).get (some 2)]

/-- One after the other. -/
def labTurns : List ℕ := [0, 0, 0, 0, 0, 0, 0, 1, 1, 1, 1, 1, 1, 1, 2, 2, 3, 4, 4]

theorem labPush_sameButVariables (password password' : String) :
    List.Forall₂ SameButVariables (labPush password) (labPush password') := by
  refine .cons (.jobVariables _ _ _ _ _) ?_
  exact .cons (.same _) (.cons (.same _) (.cons (.same _) (.cons (.same _) .nil)))

theorem responses_same_of_lab :
    ((replies labTemplate (labPush "alpha")).run labTurns).answer 3 =
      ((replies labTemplate (labPush "beta")).run labTurns).answer 3 := by
  refine responses_same rfl (labPush_sameButVariables "alpha" "beta") labTurns rfl
    ⟨.provisioningJobs everyRow, rfl, rfl⟩ fun caller hcaller p hp u hu => ?_
  obtain rfl := Option.some.inj hcaller
  obtain rfl := Option.some.inj hp
  obtain rfl := Option.some.inj hu
  exact ⟨rfl, .inr rfl⟩

/-- The password in the entry that an audit log of one entry shows. -/
def loggedPassword : Option (Except Exn Response) → Option String
  | some (.ok ⟨_, .arr [.obj entry]⟩) =>
    match entry.lookup "detail" with
    | some (.obj detail) =>
      match detail.lookup "variables" with
      | some (.obj [(_, .str password)]) => some password
      | _ => none
    | _ => none
  | _ => none

/-- The audit log shows the variables of the jobs to every user. -/
theorem not_responses_same_of_auditLogs :
    ¬ ∀ (store : Platform) (operations operations' : List Operation) (schedule : List ℕ) (i : ℕ)
      (e : Endpoint) (caller : Option UserId),
      List.Forall₂ SameButVariables operations operations' →
      operations[i]? = some (e.get caller) →
      (∀ p, ((replies store operations).history i schedule).head? = some p →
        ∃ u, authenticate caller p.1 = some u ∧ u.isSuperuser = false ∧
          u.role = some .readOnly) →
      ((replies store operations).run schedule).answer i =
        ((replies store operations').run schedule).answer i := by
  intro h
  have hsame := h labTemplate (labPush "alpha") (labPush "beta") labTurns 4
    (.auditLogs everyRow) (some 2) (labPush_sameButVariables "alpha" "beta") rfl fun p hp => by
      obtain rfl := Option.some.inj hp
      exact ⟨_, rfl, rfl, rfl⟩
  have halpha : loggedPassword (((replies labTemplate (labPush "alpha")).run labTurns).answer 4) =
    some "alpha" := by rfl
  have hbeta : loggedPassword (((replies labTemplate (labPush "beta")).run labTurns).answer 4) =
    some "beta" := by rfl
  rw [hsame, hbeta] at halpha
  exact absurd halpha (by decide)

end DevSecOpsPlatform.JobVariables
