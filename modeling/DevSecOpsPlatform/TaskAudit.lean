import DevSecOpsPlatform.ProvisioningTaskRuns
import DevSecOpsPlatform.SecurityTaskRuns

/-!
# What the tasks leave in the audit log

`AuditedTask.operations` says what a task is about to do to which devices and whether the
devices let it; the log is truthful when a completed run appends one entry for each. The
entries a task really appends are computed from its run, and the two agree exactly under
`AuditedTask.Recorded`.
-/

namespace DevSecOpsPlatform.TaskAudit

open KeyedTables StatementPrograms PlatformModels PlatformStore PythonValues NetmikoSessions
open SecurityTasks ProvisioningTasks

/-- What an audit row says: who did what to which device, and whether it worked. -/
structure Entry where
  action : AuditAction
  actor : Option UserId
  device : Option DeviceId
  success : Bool
  deriving DecidableEq, Repr

def entryOf (a : AuditLog) : Entry := ⟨a.action, a.actor, a.device, a.success⟩

/-- The log of `db'` is the log of `db` with rows that say `entries` appended. -/
def Appends (db db' : Platform) (entries : List Entry) : Prop :=
  ∃ rows, db'.auditLogs.rows = db.auditLogs.rows ++ rows ∧
    rows.map (fun r => entryOf r.2) = entries

theorem appends_nil {db db' : Platform} (h : db'.auditLogs = db.auditLogs) : Appends db db' [] :=
  ⟨[], by simp [h], rfl⟩

theorem Appends.trans {db db' db'' : Platform} {es es' : List Entry} (h : Appends db db' es)
    (h' : Appends db' db'' es') : Appends db db'' (es ++ es') := by
  obtain ⟨rows, hrows, rfl⟩ := h
  obtain ⟨rows', hrows', rfl⟩ := h'
  exact ⟨rows ++ rows', by rw [hrows', hrows, List.append_assoc], by simp⟩

/-- The entries that were appended are determined by the two stores. -/
theorem Appends.iff_eq {db db' : Platform} {es es' : List Entry} (h : Appends db db' es) :
    Appends db db' es' ↔ es = es' := by
  constructor
  · rintro ⟨rows', hrows', rfl⟩
    obtain ⟨rows, hrows, rfl⟩ := h
    rw [List.append_cancel_left (hrows.symm.trans hrows')]
  · rintro rfl
    exact h

theorem not_appends_cons {db db' : Platform} {e : Entry} {es : List Entry}
    (h : db'.auditLogs = db.auditLogs) : ¬ Appends db db' (e :: es) := by
  rw [(appends_nil h).iff_eq]
  simp

inductive AuditedTask where
  | runComplianceCheck (w : ComplianceWorld) (device : DeviceId)
      (ruleIds : Option (List ComplianceRuleId)) (initiatedBy : Option UserId)
  | runDriftDetection (w : DriftWorld) (device : DeviceId) (initiatedBy : Option UserId)
  | takeConfigSnapshot (w : SnapshotWorld) (device : DeviceId) (golden : Bool)
      (initiatedBy : Option UserId)
  | executeProvisioningJob (w : PushWorld) (job : ProvisioningJobId)

def AuditedTask.program : AuditedTask → Statement Json
  | .runComplianceCheck w d ruleIds user => SecurityTasks.runComplianceCheck w d ruleIds user
  | .runDriftDetection w d user => SecurityTasks.runDriftDetection w d user
  | .takeConfigSnapshot w d golden user => SecurityTasks.takeConfigSnapshot w d golden user
  | .executeProvisioningJob w job => ProvisioningTasks.executeProvisioningJob w job

/-- The device answers with its configuration. -/
def readsConfig (session : SshSession) (db : Platform) (d : DeviceId) : Bool :=
  (db.devices.get? d).any (fun device => (getRunningConfig session device).isOk)

/-- No rule of the run ends in ERROR. -/
def noRuleErrors (w : ComplianceWorld) (d : DeviceId) (ruleIds : Option (List ComplianceRuleId))
    (db : Platform) : Bool :=
  (db.devices.get? d).any (fun device =>
    (ruleResults w device 0 (selectedRules ruleIds db)).all (fun r => r.2 != .error))

/-- The pushes of a job, from the device numbered `n` on. -/
def pushEntries (w : PushWorld) (actor : Option UserId) (lines : List String) :
    ℕ → List (DeviceId × Device) → List Entry
  | _, [] => []
  | n, d :: ds => ⟨.pushConfig, actor, some d.1, (pushConfig (w.session n) d.2 lines).isOk⟩ ::
      pushEntries w actor lines (n + 1) ds

/-- The operations of a task on its devices, each with the user who initiated it and
whether it succeeds. -/
def AuditedTask.operations (db : Platform) : AuditedTask → List Entry
  | .runComplianceCheck w d ruleIds user =>
    [⟨.complianceCheck, user, some d, noRuleErrors w d ruleIds db⟩]
  | .runDriftDetection w d user => [⟨.driftCheck, user, some d, readsConfig w.session db d⟩]
  | .takeConfigSnapshot w d _ user => [⟨.snapshot, user, some d, readsConfig w.session db d⟩]
  | .executeProvisioningJob w jobId =>
    match db.provisioningJobs.get? jobId with
    | none => []
    | some row =>
      match renderJob w.jinja (loadedJob jobId row db) with
      | .ok text => pushEntries w (row.initiatedBy.filter (refersTo db.users)) (configLines text) 0
          (jobDeviceRows jobId db)
      | .error _ => []

/-- A run of the task appends one entry for each of its operations, and nothing else. -/
def Audited (db : Platform) (t : AuditedTask) : Prop :=
  Appends db (t.program.run db).2 (t.operations db)

/-- When the log is truthful: every command of a compliance run is answered and evaluated, a
drift run reads the configuration of a device with a golden snapshot, a snapshot run reads
the configuration. Nothing more is needed of the pushes of a job. -/
def AuditedTask.Recorded (db : Platform) : AuditedTask → Prop
  | .runComplianceCheck w d ruleIds _ => ∀ device, db.devices.get? d = some device →
      ∀ (n : ℕ) (rule : ComplianceRuleId × ComplianceRule),
        (selectedRules ruleIds db)[n]? = some rule →
        ∃ output b, sendCommand (w.session n) device rule.2.checkCommand = .ok output ∧
          w.reSearch rule.2.expectedPattern output = .ok b
  | .runDriftDetection w d _ => readsConfig w.session db d = true ∧ goldenSnapshots db d ≠ []
  | .takeConfigSnapshot w d _ _ => readsConfig w.session db d = true
  | .executeProvisioningJob _ _ => True

/-! ### The compliance task -/

theorem checkRule_ne_error_iff (w : ComplianceWorld) (device : Device) (n : ℕ)
    (rule : ComplianceRule) :
    (checkRule w device n rule).2.1 ≠ .error ↔
      ∃ output b, sendCommand (w.session n) device rule.checkCommand = .ok output ∧
        w.reSearch rule.expectedPattern output = .ok b := by
  have herr (exc : Exn) : (checkRule.onError exc).2.1 = .error := by
    unfold checkRule.onError
    split <;> rfl
  unfold checkRule
  cases sendCommand (w.session n) device rule.checkCommand with
  | error exc => simp [herr]
  | ok output =>
    simp only [evaluateRule_eq]
    cases hre : w.reSearch rule.expectedPattern output with
    | error exc => simp [hre, herr, Except.map]
    | ok b => cases b <;> cases rule.mustMatch <;> simp [hre, Except.map]

theorem ruleResults_all_iff (w : ComplianceWorld) (device : Device) (n : ℕ)
    (rules : List (ComplianceRuleId × ComplianceRule)) :
    (ruleResults w device n rules).all (fun r => r.2 != .error) = true ↔
      ∀ (k : ℕ) (rule : ComplianceRuleId × ComplianceRule), rules[k]? = some rule →
        (checkRule w device (n + k) rule.2).2.1 ≠ .error := by
  induction rules generalizing n with
  | nil => simp [ruleResults]
  | cons rule rules ih =>
    rw [ruleResults, List.all_cons, Bool.and_eq_true, ih]
    constructor
    · rintro ⟨hrule, hrules⟩ k r hk
      cases k with
      | zero =>
        obtain rfl : rule = r := by simpa using hk
        simpa using hrule
      | succ k =>
        have hindex : n + 1 + k = n + (k + 1) := by omega
        exact hindex ▸ hrules k r hk
    · intro h
      refine ⟨by simpa using h 0 rule rfl, fun k r hk => ?_⟩
      have hindex : n + 1 + k = n + (k + 1) := by omega
      exact hindex ▸ h (k + 1) r hk

theorem noRuleErrors_iff {w : ComplianceWorld} {d : DeviceId}
    {ruleIds : Option (List ComplianceRuleId)} (user : Option UserId) {db : Platform}
    {device : Device} (hd : db.devices.get? d = some device) :
    noRuleErrors w d ruleIds db = true ↔
      AuditedTask.Recorded db (.runComplianceCheck w d ruleIds user) := by
  simp only [noRuleErrors, hd, Option.any_some, ruleResults_all_iff, Nat.zero_add,
    checkRule_ne_error_iff, AuditedTask.Recorded, Option.some.injEq, forall_eq']

/-- A compliance run that returns has written one entry that says success. -/
theorem appends_runComplianceCheck {w : ComplianceWorld} {d : DeviceId}
    {ruleIds : Option (List ComplianceRuleId)} {user : Option UserId} {db : Platform} {v : Json}
    (hdone : ((runComplianceCheck w d ruleIds user).run db).1 = .ok v) :
    (∃ device, db.devices.get? d = some device) ∧
      Appends db ((runComplianceCheck w d ruleIds user).run db).2
        [⟨.complianceCheck, user, some d, true⟩] := by
  unfold runComplianceCheck Device.get at hdone ⊢
  rw [Program.run_statement_bind] at hdone ⊢
  cases hd : db.devices.get? d with
  | none => simp [hd] at hdone
  | some device =>
    refine ⟨⟨device, rfl⟩, ?_⟩
    simp only [hd, Program.query_bind, Program.run_stmt, id_eq] at hdone ⊢
    obtain ⟨results, db', hchecks, hrest, hdone'⟩ := Program.run_bind_ok hdone
    obtain ⟨checks, hstore, -⟩ := run_checkRules w d device user 0 (selectedRules ruleIds db) db
    rw [hrest]
    rw [hchecks] at hstore
    dsimp only at hstore
    subst hstore
    simp only [AuditLog.create] at hdone' ⊢
    rw [(run_insertRow_bind_ok hdone').1]
    exact ⟨[_], rfl, rfl⟩

/-! ### The pushes of a job -/

theorem pushOutcome_fst (session : SshSession) (device : Device) (lines : List String) :
    (pushOutcome session device lines).1 = (pushConfig session device lines).isOk := by
  unfold pushOutcome
  cases pushConfig session device lines with
  | ok output => rfl
  | error exc => by_cases h : exc.cls = .netmikoError <;> simp [h, Except.isOk, Except.toBool]

theorem appends_pushDevices {w : PushWorld} {job : LoadedJob} {lines : List String} {n : ℕ}
    {devices : List (DeviceId × Device)} {db : Platform} {flags : List Bool}
    (hdone : ((pushDevices w job lines n devices).run db).1 = .ok flags) :
    Appends db ((pushDevices w job lines n devices).run db).2
      (pushEntries w job.initiatedBy lines n devices) := by
  induction devices generalizing n db flags with
  | nil => exact appends_nil rfl
  | cons d ds ih =>
    simp only [pushDevices, pushDevice, bind_assoc, ProvisioningResult.create, AuditLog.create]
      at hdone ⊢
    obtain ⟨hresult, hdone⟩ := run_insertRow_bind_ok hdone
    rw [hresult]
    obtain ⟨haudit, hdone⟩ := run_insertRow_bind_ok hdone
    rw [haudit]
    rw [Program.pure_eq, Program.ret_bind] at hdone ⊢
    obtain ⟨flags', db', hloop, hrest, -⟩ := Program.run_bind_ok hdone
    have htail := ih (congrArg Prod.fst hloop)
    rw [hloop] at htail
    rw [hrest]
    rw [pushEntries, ← pushOutcome_fst]
    exact Appends.trans ⟨[_], rfl, rfl⟩ htail

/-- A branch that returned is not the one that raises. -/
theorem condition_of_ok {b : Bool} {x : Except Exn Json × Platform} {e : Exn} {db : Platform}
    {v : Json} (h : (if b = true then x else (.error e, db)).1 = .ok v) : b = true := by
  cases b with
  | true => rfl
  | false => cases h

theorem auditLogs_finishJob (w : PushWorld) (jobId : ProvisioningJobId) (results : List Bool)
    (db : Platform) : ((finishJob w jobId results).run db).2.auditLogs = db.auditLogs := by
  unfold finishJob ProvisioningJob.save saveFields
  rw [Program.run_statement_bind]
  cases db.provisioningJobs.get? jobId <;> rfl

theorem appends_executeProvisioningJob {w : PushWorld} {jobId : ProvisioningJobId} {db : Platform}
    {v : Json} (hdone : ((executeProvisioningJob w jobId).run db).1 = .ok v) :
    Appends db ((executeProvisioningJob w jobId).run db).2
      (AuditedTask.operations db (.executeProvisioningJob w jobId)) := by
  unfold executeProvisioningJob loadJob at hdone ⊢
  rw [Program.run_statement_bind] at hdone ⊢
  cases hrow : db.provisioningJobs.get? jobId with
  | none => simp [hrow] at hdone
  | some row =>
    simp only [hrow, Program.query_bind, Program.run_stmt, id_eq, AuditedTask.operations]
      at hdone ⊢
    rw [run_job_save_bind _ _ _ (refersTo_of_get? hrow)] at hdone ⊢
    change ((Program.ofExcept (renderJob w.jinja (loadedJob jobId row db)) >>= _).run _).1 = _
      at hdone
    change Appends db
      ((Program.ofExcept (renderJob w.jinja (loadedJob jobId row db)) >>= _).run _).2 _
    cases hrender : renderJob w.jinja (loadedJob jobId row db) with
    | error e => simp [hrender] at hdone
    | ok text =>
      rw [hrender] at hdone
      have hstill : refersTo (db.provisioningJobs.update jobId fun row =>
          { row with status := .running, startedAt := some (w.clock 0) }) jobId = true := by
        simp [refersTo, hrow]
      rw [Program.ofExcept_ok, Program.ret_bind, run_saveRendered_bind _ _ _ hstill] at hdone ⊢
      have htext := condition_of_ok hdone
      rw [if_pos htext] at hdone ⊢
      obtain ⟨flags, db', hloop, hrest, -⟩ := Program.run_bind_ok hdone
      have hpushes := appends_pushDevices (congrArg Prod.fst hloop)
      rw [hrest]
      rw [hloop] at hpushes
      obtain ⟨rows, hrows, hentries⟩ := hpushes
      refine ⟨rows, ?_, hentries⟩
      rw [← hrows]
      exact congrArg Table.rows (auditLogs_finishJob w jobId flags db')

/-! ### The four tasks -/

theorem pushEntries_nodup (w : PushWorld) (actor : Option UserId) (lines : List String) (n : ℕ)
    (devices : List (DeviceId × Device)) (h : (devices.map Prod.fst).Nodup) :
    ((pushEntries w actor lines n devices).map Entry.device).Nodup := by
  have hmap : (pushEntries w actor lines n devices).map Entry.device =
      (devices.map Prod.fst).map some := by
    clear h
    induction devices generalizing n with
    | nil => rfl
    | cons d ds ih => simp [pushEntries, ih]
  rw [hmap]
  exact h.map (Option.some_injective _)

/-- A task has one operation for each of its devices. -/
theorem operations_nodup (db : Platform) (t : AuditedTask) :
    ((t.operations db).map Entry.device).Nodup := by
  cases t with
  | runComplianceCheck w d ruleIds user => simp [AuditedTask.operations]
  | runDriftDetection w d user => simp [AuditedTask.operations]
  | takeConfigSnapshot w d golden user => simp [AuditedTask.operations]
  | executeProvisioningJob w jobId =>
    simp only [AuditedTask.operations]
    split
    · simp
    · split
      · refine pushEntries_nodup _ _ _ _ _ ?_
        exact ((List.perm_insertionSort _ _).map Prod.fst).nodup_iff.mpr (Table.select_nodup _ _)
      · simp

private theorem audited_takeConfigSnapshot {w : SnapshotWorld} {d : DeviceId} {golden : Bool}
    {user : Option UserId} {db : Platform} {v : Json}
    (hdone : ((takeConfigSnapshot w d golden user).run db).1 = .ok v) :
    Audited db (.takeConfigSnapshot w d golden user) ↔ readsConfig w.session db d = true := by
  unfold Audited AuditedTask.program AuditedTask.operations readsConfig
  rw [run_takeConfigSnapshot] at hdone
  simp only [run_takeConfigSnapshot]
  cases hd : db.devices.get? d with
  | none => simp [hd] at hdone
  | some device =>
    simp only [hd, Option.any_some] at hdone ⊢
    cases hc : getRunningConfig w.session device with
    | error exc =>
      exact iff_of_false (not_appends_cons rfl) (by simp [Except.isOk, Except.toBool])
    | ok config =>
      simp only [hc] at hdone ⊢
      have hconfig := condition_of_ok hdone
      rw [if_pos hconfig] at hdone ⊢
      have huser := condition_of_ok hdone
      rw [if_pos huser]
      exact iff_of_true ⟨[_], rfl, rfl⟩ rfl

private theorem audited_runDriftDetection {w : DriftWorld} {d : DeviceId} {user : Option UserId}
    {db : Platform} {v : Json} (hdone : ((runDriftDetection w d user).run db).1 = .ok v) :
    Audited db (.runDriftDetection w d user) ↔
      readsConfig w.session db d = true ∧ goldenSnapshots db d ≠ [] := by
  unfold Audited AuditedTask.program AuditedTask.operations readsConfig
  rw [run_runDriftDetection] at hdone
  simp only [run_runDriftDetection]
  cases hd : db.devices.get? d with
  | none => simp [hd] at hdone
  | some device =>
    simp only [hd, Option.any_some] at hdone ⊢
    cases hc : getRunningConfig w.session device with
    | error exc =>
      simp only [hc] at hdone ⊢
      have hmessage := condition_of_ok hdone
      rw [if_pos hmessage]
      exact iff_of_false (not_appends_cons rfl) (by simp [Except.isOk, Except.toBool])
    | ok config =>
      simp only [hc] at hdone ⊢
      have hconfig := condition_of_ok hdone
      rw [if_pos hconfig] at hdone ⊢
      have huser := condition_of_ok hdone
      rw [if_pos huser] at hdone ⊢
      have hsame := goldenSnapshots_captured db (currentSnapshot w d user config) rfl d
      cases hg : latestGolden d { db with
          configSnapshots := db.configSnapshots.insert (currentSnapshot w d user config) } with
      | none =>
        have hnone : goldenSnapshots db d = [] := hsame ▸ latestTaken_eq_none.mp hg
        exact iff_of_false (not_appends_cons rfl) (fun h => h.2 hnone)
      | some golden =>
        have hsome : goldenSnapshots db d ≠ [] := by
          intro hnone
          rw [← hsame] at hnone
          rw [latestGolden, latestTaken_eq_none.mpr hnone] at hg
          cases hg
        simp only [hg] at hdone ⊢
        have hdiff := condition_of_ok hdone
        rw [if_pos hdiff]
        exact iff_of_true ⟨[_], rfl, rfl⟩ ⟨rfl, hsome⟩

/-- A run of a task that returns has left one entry for each of its operations, with the
task's action, device, user and outcome, exactly when `Recorded` holds. -/
theorem audited_iff (db : Platform) (t : AuditedTask) (v : Json)
    (hdone : (t.program.run db).1 = .ok v) :
    ((t.operations db).map Entry.device).Nodup ∧ (Audited db t ↔ t.Recorded db) := by
  refine ⟨operations_nodup db t, ?_⟩
  cases t with
  | runComplianceCheck w d ruleIds user =>
    obtain ⟨⟨device, hd⟩, happends⟩ := appends_runComplianceCheck hdone
    rw [← noRuleErrors_iff user hd, Audited, AuditedTask.program, happends.iff_eq]
    cases h : noRuleErrors w d ruleIds db <;> simp [AuditedTask.operations, h]
  | runDriftDetection w d user => exact audited_runDriftDetection hdone
  | takeConfigSnapshot w d golden user => exact audited_takeConfigSnapshot hdone
  | executeProvisioningJob w jobId =>
    exact iff_of_true (appends_executeProvisioningJob hdone) trivial

theorem audited_snapshot_of_lab :
    Audited lab (.takeConfigSnapshot ⟨.answering "a", fun _ => 1⟩ 1 true (some 1)) :=
  (audited_iff lab (.takeConfigSnapshot ⟨.answering "a", fun _ => 1⟩ 1 true (some 1))
    (snapshotDetail 1 true) rfl).2.mpr rfl

/-- The first drift run on a device promotes its configuration and logs nothing. -/
theorem not_audited_first_drift_run :
    ¬ ∀ (db : Platform) (t : AuditedTask) (v : Json),
      (t.program.run db).1 = .ok v → Audited db t := by
  intro h
  have hlogged := h lab
    (.runDriftDetection ⟨.answering "a", fun _ => 1, fun _ _ _ _ _ => []⟩ 1 none)
    goldenInitialized rfl
  exact not_appends_cons rfl hlogged

end DevSecOpsPlatform.TaskAudit
