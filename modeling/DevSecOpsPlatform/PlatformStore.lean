import DevSecOpsPlatform.JsonbDocuments
import DevSecOpsPlatform.KeyedTables
import DevSecOpsPlatform.PlatformModels
import DevSecOpsPlatform.StatementPrograms

/-!
# The platform's store and its statements

The store is the database of the four apps together with the broker's queue. Each
statement below is one round trip to the database in autocommit mode: it succeeds or
raises as a whole. An insertion fails when a foreign key names no row or a unique
column repeats a value; `save(update_fields=...)` writes the named columns of one
row and fails when the row is gone. No text and no document with a NUL character is
stored: psycopg2 refuses the one, PostgreSQL the other. Deleting a row follows the
`on_delete` rules of the keys that refer to it, in one transaction.
-/

namespace DevSecOpsPlatform.PlatformStore

open KeyedTables StatementPrograms PlatformModels PythonValues JsonbDocuments

/-- A message on the broker, with the arguments of the task it starts. -/
inductive TaskMessage where
  | runDiscovery (jobId : DiscoveryJobId)
  | checkDeviceReachability (deviceId : DeviceId)
  | executeProvisioningJob (jobId : ProvisioningJobId)
  | runComplianceCheck (deviceId : DeviceId) (ruleIds : Option (List ComplianceRuleId))
      (initiatedBy : Option UserId)
  | runDriftDetection (deviceId : DeviceId) (initiatedBy : Option UserId)
  | takeConfigSnapshot (deviceId : DeviceId) (setGolden : Bool) (initiatedBy : Option UserId)
  deriving DecidableEq

structure Platform where
  users : Table User := .empty
  profiles : Table UserProfile := .empty
  devices : Table Device := .empty
  discoveryJobs : Table DiscoveryJob := .empty
  configTemplates : Table ConfigTemplate := .empty
  provisioningJobs : Table ProvisioningJob := .empty
  jobDevices : List (ProvisioningJobId × DeviceId) := []
  provisioningResults : Table ProvisioningResult := .empty
  auditLogs : Table AuditLog := .empty
  alerts : Table Alert := .empty
  grafanaDashboards : Table GrafanaDashboard := .empty
  complianceRules : Table ComplianceRule := .empty
  complianceChecks : Table ComplianceCheck := .empty
  configSnapshots : Table ConfigSnapshot := .empty
  driftReports : Table DriftReport := .empty
  queue : List (String × TaskMessage) := []

abbrev Statement (α : Type) := Program Platform Exn α

/-! ### Constraints -/

/-- A foreign key refers to a row of the table. -/
def refersTo {α : Type} (t : Table α) (id : ℕ) : Bool := (t.get? id).isSome

/-- A nullable foreign key is null or refers to a row of the table. -/
def refersToOrNull {α : Type} (t : Table α) : Option ℕ → Bool
  | none => true
  | some id => refersTo t id

def foreignKeyError : Exn := ⟨.integrityError, "insert or update violates foreign key constraint"⟩

def uniqueError : Exn := ⟨.integrityError, "duplicate key value violates unique constraint"⟩

def notNullError : Exn := ⟨.integrityError, "null value in column violates not-null constraint"⟩

def tooLongError : Exn := ⟨.dataError, "value too long for type character varying"⟩

def nulTextError : Exn := ⟨.valueError, "A string literal cannot contain NUL (0x00) characters."⟩

def nulJsonError : Exn := ⟨.dataError, "unsupported Unicode escape sequence"⟩

def noRowsUpdatedError : Exn :=
  ⟨.databaseError, "Save with update_fields did not affect any rows."⟩

def doesNotExistError (model : String) : Exn :=
  ⟨.doesNotExist, model ++ " matching query does not exist."⟩

/-- Insert a row through `set`, when the constraints of its table hold. -/
def insertRow (ok : Platform → Except Exn Unit) (next : Platform → ℕ)
    (set : Platform → Platform) : Statement ℕ :=
  .statement fun db => match ok db with
    | .ok _ => .ok (next db, set db)
    | .error e => .error e

/-- `instance.save(update_fields=...)`; `set` writes the named columns of the row. -/
def saveFields {α : Type} (rows : Platform → Table α) (setRows : Platform → Table α → Platform)
    (id : ℕ) (set : α → α) : Statement Unit :=
  .statement fun db => match (rows db).get? id with
    | some _ => .ok ((), setRows db ((rows db).update id set))
    | none => .error noRowsUpdatedError

/-- `instance.save()`, when the constraints of its table hold: every column of the row is
written, and a row that is gone is inserted again under its key, as `added`, where the times
of creation are new. The row is returned as it was saved. -/
def saveRow {α : Type} (rows : Platform → Table α) (setRows : Platform → Table α → Platform)
    (ok : Platform → Except Exn Unit) (id : ℕ) (a added : α) : Statement α :=
  .statement fun db => match ok db with
    | .error e => .error e
    | .ok _ => match (rows db).get? id with
      | some _ => .ok (a, setRows db ((rows db).update id (fun _ => a)))
      | none => .ok (added, setRows db ((rows db).put id added))

def require (b : Bool) (e : Exn) : Except Exn Unit := if b then .ok () else .error e

@[simp] theorem refersToOrNull_none {α : Type} (t : Table α) : refersToOrNull t none = true := rfl

@[simp] theorem refersToOrNull_some {α : Type} (t : Table α) (id : ℕ) :
    refersToOrNull t (some id) = refersTo t id := rfl

theorem refersTo_of_get? {α : Type} {t : Table α} {id : ℕ} {a : α} (h : t.get? id = some a) :
    refersTo t id = true := by
  simp [refersTo, h]

@[simp] theorem require_true (e : Exn) : require true e = .ok () := rfl

@[simp] theorem require_false (e : Exn) : require false e = .error e := rfl

/-- A checked computation succeeds when its first part and its rest do. -/
theorem ok_of_bind {α β : Type} {x : Except Exn α} {f : α → Except Exn β} {b : β}
    (h : (x >>= f) = .ok b) : ∃ a, x = .ok a ∧ f a = .ok b := by
  cases x with
  | ok a => exact ⟨a, rfl, h⟩
  | error e => cases h

@[simp] theorem ok_bind {α β : Type} (a : α) (f : α → Except Exn β) :
    ((Except.ok a : Except Exn α) >>= f) = f a := rfl

@[simp] theorem error_bind {α β : Type} (e : Exn) (f : α → Except Exn β) :
    ((Except.error e : Except Exn α) >>= f) = .error e := rfl

theorem require_eq_ok {b : Bool} {e : Exn} {u : Unit} (h : require b e = .ok u) : b = true := by
  cases b with
  | true => rfl
  | false => cases h

/-- Two constraints hold when both do. -/
theorem require_bind_eq_ok {b c : Bool} {e e' : Exn} {u : Unit}
    (h : (require b e >>= fun _ => require c e') = .ok u) : b = true ∧ c = true := by
  cases b with
  | true => exact ⟨rfl, require_eq_ok h⟩
  | false => cases h

/-- An insertion that went through. -/
theorem eq_of_insertRow {ok : Except Exn Unit} {next id : ℕ} {db db' : Platform}
    (h : (match ok with
      | .ok _ => Except.ok (next, db)
      | .error e => .error e) = .ok (id, db')) : id = next ∧ db' = db := by
  cases ok with
  | ok u => exact ⟨(Prod.mk.inj (Except.ok.inj h)).1.symm, (Prod.mk.inj (Except.ok.inj h)).2.symm⟩
  | error e => cases h

theorem run_insertRow_bind {β : Type} (ok : Platform → Except Exn Unit) (next : Platform → ℕ)
    (set : Platform → Platform) (f : ℕ → Statement β) (db : Platform) :
    (insertRow ok next set >>= f).run db = match ok db with
      | .ok _ => (f (next db)).run (set db)
      | .error e => (.error e, db) := by
  rw [insertRow, Program.run_statement_bind]
  cases ok db <;> rfl

/-- When what starts with an insertion returns, the insertion went through. -/
theorem run_insertRow_bind_ok {β : Type} {ok : Platform → Except Exn Unit} {next : Platform → ℕ}
    {set : Platform → Platform} {f : ℕ → Statement β} {db : Platform} {v : β}
    (h : ((insertRow ok next set >>= f).run db).1 = .ok v) :
    (insertRow ok next set >>= f).run db = (f (next db)).run (set db) ∧
      ((f (next db)).run (set db)).1 = .ok v := by
  rw [run_insertRow_bind] at h ⊢
  cases hok : ok db with
  | error e => simp [hok] at h
  | ok u => simpa [hok] using h

/-- When what starts with a save of a row that is there returns, the save went through. -/
theorem run_saveRow_bind_ok {α β : Type} {rows : Platform → Table α}
    {setRows : Platform → Table α → Platform} {ok : Platform → Except Exn Unit} {id : ℕ}
    {a added old : α} {f : α → Statement β} {db : Platform} {v : β}
    (hget : (rows db).get? id = some old)
    (h : ((saveRow rows setRows ok id a added >>= f).run db).1 = .ok v) :
    (saveRow rows setRows ok id a added >>= f).run db =
      (f a).run (setRows db ((rows db).update id (fun _ => a))) := by
  rw [saveRow, Program.run_statement_bind] at h ⊢
  cases hok : ok db with
  | error e => simp [hok] at h
  | ok u => simp [hget]

theorem write_insertRow_bind {β : Type} (ok : Platform → Except Exn Unit) (next : Platform → ℕ)
    (set : Platform → Platform) (f : ℕ → Statement β) (db : Platform) :
    (insertRow ok next set >>= f).write db = match ok db with
      | .ok _ => set db
      | .error _ => db := by
  rw [insertRow, Program.write_statement_bind]
  cases ok db <;> rfl

theorem next_insertRow_bind {β : Type} (ok : Platform → Except Exn Unit) (next : Platform → ℕ)
    (set : Platform → Platform) (f : ℕ → Statement β) (db : Platform) :
    (insertRow ok next set >>= f).next db = match ok db with
      | .ok _ => f (next db)
      | .error e => .raise e := by
  rw [insertRow, Program.next_statement_bind]
  cases ok db <;> rfl

theorem writes_insertRow {R : Platform → Platform → Prop} [Std.Refl R]
    {ok : Platform → Except Exn Unit} {next : Platform → ℕ} {set : Platform → Platform}
    (h : ∀ db, R db (set db)) : (insertRow ok next set).Writes R := by
  refine Program.writes_statement (fun db n db' hrun => ?_)
  cases hok : ok db with
  | error e => simp [hok] at hrun
  | ok u =>
    simp only [hok, Except.ok.injEq, Prod.mk.injEq] at hrun
    exact hrun.2 ▸ h db

/-- An insertion that goes through has met the constraints. -/
theorem writes_insertRow_of_ok {R : Platform → Platform → Prop} [Std.Refl R]
    {ok : Platform → Except Exn Unit} {next : Platform → ℕ} {set : Platform → Platform}
    (h : ∀ db u, ok db = .ok u → R db (set db)) : (insertRow ok next set).Writes R := by
  refine Program.writes_statement (fun db n db' hrun => ?_)
  cases hok : ok db with
  | error e => simp [hok] at hrun
  | ok u =>
    simp only [hok, Except.ok.injEq, Prod.mk.injEq] at hrun
    exact hrun.2 ▸ h db u hok

theorem runWith_insertRow_bind {β : Type} (env : ℕ → Platform → Platform)
    (ok : Platform → Except Exn Unit) (next : Platform → ℕ) (set : Platform → Platform)
    (f : ℕ → Statement β) (db : Platform) :
    (insertRow ok next set >>= f).runWith env db = match ok (env 0 db) with
      | .ok _ => (f (next (env 0 db))).runWith (fun i => env (i + 1)) (set (env 0 db))
      | .error e => (.error e, env 0 db) := by
  rw [insertRow, Program.runWith_statement_bind]
  cases ok (env 0 db) <;> rfl

theorem writes_saveFields {α : Type} {R : Platform → Platform → Prop}
    [Std.Refl R] {rows : Platform → Table α} {setRows : Platform → Table α → Platform} {id : ℕ}
    {set : α → α} (h : ∀ db, R db (setRows db ((rows db).update id set))) :
    (saveFields rows setRows id set).Writes R := by
  refine Program.writes_statement (fun db u db' hsaved => ?_)
  cases hget : (rows db).get? id with
  | some old =>
    simp only [hget, Except.ok.injEq, Prod.mk.injEq] at hsaved
    exact hsaved.2 ▸ h db
  | none => simp [hget] at hsaved

/-- A save that goes through has met the constraints and returns the row that it stored. -/
theorem run_saveRow_cases {α : Type} {rows : Platform → Table α}
    {setRows : Platform → Table α → Platform} {ok : Platform → Except Exn Unit} {id : ℕ}
    {a added b : α} {db db' : Platform}
    (h : (saveRow rows setRows ok id a added).run db = (.ok b, db')) :
    ok db = .ok () ∧ (b = a ∨ b = added) ∧ db' = setRows db ((rows db).store id b) := by
  rw [saveRow, Program.run_statement] at h
  cases hok : ok db with
  | error e => simp [hok] at h
  | ok u =>
    cases hget : (rows db).get? id with
    | some old =>
      simp only [hok, hget, Prod.mk.injEq, Except.ok.injEq] at h
      obtain ⟨rfl, rfl⟩ := h
      exact ⟨rfl, .inl rfl, by simp [Table.store, hget]⟩
    | none =>
      simp only [hok, hget, Prod.mk.injEq, Except.ok.injEq] at h
      obtain ⟨rfl, rfl⟩ := h
      exact ⟨rfl, .inr rfl, by simp [Table.store, hget]⟩

theorem writes_saveRow_of_ok {α : Type} {R : Platform → Platform → Prop}
    [Std.Refl R] {rows : Platform → Table α} {setRows : Platform → Table α → Platform}
    {ok : Platform → Except Exn Unit} {id : ℕ} {a added : α}
    (h : ∀ db b, ok db = .ok () → b = a ∨ b = added →
      R db (setRows db ((rows db).store id b))) :
    (saveRow rows setRows ok id a added).Writes R := by
  refine Program.writes_statement (fun db b db' hsaved => ?_)
  have hrun : (saveRow rows setRows ok id a added).run db = (.ok b, db') := by
    rw [saveRow, Program.run_statement, hsaved]
  obtain ⟨hok, hb, rfl⟩ := run_saveRow_cases hrun
  exact h db b hok hb

theorem commutes_insertRow {φ : Platform → Platform} {ok : Platform → Except Exn Unit}
    {next : Platform → ℕ} {set : Platform → Platform} (hok : ∀ db, ok (φ db) = ok db)
    (hnext : ∀ db, next (φ db) = next db) (hset : ∀ db, set (φ db) = φ (set db)) :
    (insertRow ok next set).Commutes φ := by
  refine Program.commutes_statement (fun db n db' h => ?_) (fun db e h => ?_)
  · simp only [hok, hnext, hset]
    split at h
    · obtain ⟨rfl, rfl⟩ := Prod.mk.inj (Except.ok.inj h)
      rfl
    · cases h
  · simp only [hok]
    split at h
    · cases h
    · exact h

/-- A save of other columns of the row commutes with the update `mark`. -/
theorem commutes_saveFields {α : Type} {φ : Platform → Platform} {rows : Platform → Table α}
    {setRows : Platform → Table α → Platform} {mark set : α → α} {id : ℕ}
    (hφ : ∀ db, φ db = setRows db ((rows db).update id mark))
    (hrows : ∀ db t, rows (setRows db t) = t)
    (hset : ∀ db t u, setRows (setRows db t) u = setRows db u)
    (hmark : ∀ a, set (mark a) = mark (set a)) :
    (saveFields rows setRows id set).Commutes φ := by
  refine Program.commutes_statement (fun db u db' h => ?_) (fun db e h => ?_)
  · cases hget : (rows db).get? id with
    | none => simp [hget] at h
    | some a =>
      simp only [hget, Except.ok.injEq, Prod.mk.injEq, true_and] at h
      subst h
      simp [hφ, hrows, hset, hget, Table.update_update, hmark]
  · cases hget : (rows db).get? id with
    | none => simpa [hφ, hrows, hget] using h
    | some a => simp [hget] at h

theorem traces_saveFields_bind {α β : Type} {R : Platform → Platform → Prop} [Std.Refl R]
    {P : β → Platform → Prop} {rows : Platform → Table α}
    {setRows : Platform → Table α → Platform} {id : ℕ} {set : α → α} {f : Unit → Statement β}
    {db : Platform}
    (h : ∀ a, (rows db).get? id = some a → R db (setRows db ((rows db).update id set)) ∧
      (f ()).Traces R P (setRows db ((rows db).update id set))) :
    (saveFields rows setRows id set >>= f).Traces R P db := by
  refine Program.traces_statement_bind (fun u db' hsaved => ?_)
  cases hget : (rows db).get? id with
  | none => simp [hget] at hsaved
  | some a =>
    simp only [hget, Except.ok.injEq, Prod.mk.injEq, true_and] at hsaved
    exact hsaved ▸ h a hget

/-- What a save writes, also where it writes nothing. -/
theorem write_saveFields_bind {α β : Type} {rows : Platform → Table α}
    {setRows : Platform → Table α → Platform} (hself : ∀ db, setRows db (rows db) = db) (id : ℕ)
    (set : α → α) (f : Unit → Statement β) (db : Platform) :
    (saveFields rows setRows id set >>= f).write db = setRows db ((rows db).update id set) := by
  rw [saveFields, Program.write_statement_bind]
  cases hget : (rows db).get? id with
  | none => simp [Table.update_of_get?_eq_none hget, hself]
  | some a => rfl

/-! ### Inventory -/

/-- The columns of another device that a device must not repeat. -/
def deviceUnique (db : Platform) (self : Option DeviceId) (d : Device) : Bool :=
  (db.devices.select (fun id e => decide (some id ≠ self) &&
    (e.hostname == d.hostname || decide (e.ipAddress = d.ipAddress)))).isEmpty

/-- `Device.objects.create(...)`. Discovery does not validate the name and the community. -/
def Device.create (d : Device) : Statement DeviceId :=
  insertRow
    (fun db => do
      require (!(d.hostname.toList.any Json.isNul || d.snmpCommunity.toList.any Json.isNul))
        nulTextError
      require (!d.tags.hasNul) nulJsonError
      require (decide (d.hostname.length ≤ 255 ∧ d.snmpCommunity.length ≤ 64)) tooLongError
      require (refersToOrNull db.users d.createdBy) foreignKeyError
      require (deviceUnique db none d) uniqueError)
    (fun db => db.devices.nextId)
    (fun db => { db with devices := db.devices.insert d })

/-- `Device.Meta.ordering`. -/
def byHostname (rows : List (DeviceId × Device)) : List (DeviceId × Device) :=
  rows.insertionSort (fun a b => a.2.hostname ≤ b.2.hostname)

/-- `Device.objects.get(pk=...)`. -/
def Device.get (id : DeviceId) : Statement Device :=
  .statement fun db => match db.devices.get? id with
    | some d => .ok (d, db)
    | none => .error (doesNotExistError "Device")

/-- Delete a device: its results, checks, snapshots, reports and job memberships go with
it, audit entries and alerts keep no device, reports keep no deleted snapshot. -/
def Device.cascade (id : DeviceId) (db : Platform) : Platform :=
  let gone (s : ConfigSnapshotId) : Bool := (db.configSnapshots.get? s).any (·.device = id)
  let keep (s : Option ConfigSnapshotId) : Option ConfigSnapshotId := s.filter (fun s => !gone s)
  { db with
    devices := db.devices.delete id
    jobDevices := db.jobDevices.filter (fun m => m.2 != id)
    provisioningResults := db.provisioningResults.deleteWhere (fun _ r => r.device == id)
    auditLogs := db.auditLogs.updateWhere (fun _ a => a.device == some id)
      (fun a => { a with device := none })
    alerts := db.alerts.updateWhere (fun _ a => a.device == some id)
      (fun a => { a with device := none })
    complianceChecks := db.complianceChecks.deleteWhere (fun _ c => c.device == id)
    configSnapshots := db.configSnapshots.deleteWhere (fun _ s => s.device == id)
    driftReports := (db.driftReports.deleteWhere (fun _ r => r.device == id)).mapRows
      (fun _ r => { r with
        goldenSnapshot := keep r.goldenSnapshot
        currentSnapshot := keep r.currentSnapshot }) }

def Device.delete (id : DeviceId) : Statement Unit := .execute (Device.cascade id)

def DiscoveryJob.create (j : DiscoveryJob) : Statement DiscoveryJobId :=
  insertRow (fun db => require (refersToOrNull db.users j.initiatedBy) foreignKeyError)
    (fun db => db.discoveryJobs.nextId)
    (fun db => { db with discoveryJobs := db.discoveryJobs.insert j })

def DiscoveryJob.get (id : DiscoveryJobId) : Statement DiscoveryJob :=
  .statement fun db => match db.discoveryJobs.get? id with
    | some j => .ok (j, db)
    | none => .error (doesNotExistError "DiscoveryJob")

def DiscoveryJob.save (id : DiscoveryJobId) (set : DiscoveryJob → DiscoveryJob) : Statement Unit :=
  saveFields (·.discoveryJobs) (fun db t => { db with discoveryJobs := t }) id set

/-! ### Provisioning -/

def ConfigTemplate.create (t : ConfigTemplate) : Statement ConfigTemplateId :=
  insertRow
    (fun db => do
      require (!t.variablesSchema.hasNul) nulJsonError
      require (refersToOrNull db.users t.createdBy) foreignKeyError
      require (db.configTemplates.select (fun _ u => u.name == t.name)).isEmpty uniqueError)
    (fun db => db.configTemplates.nextId)
    (fun db => { db with configTemplates := db.configTemplates.insert t })

/-- Delete a template: jobs keep no template. -/
def ConfigTemplate.delete (id : ConfigTemplateId) : Statement Unit :=
  .execute fun db => { db with
    configTemplates := db.configTemplates.delete id
    provisioningJobs := db.provisioningJobs.updateWhere (fun _ j => j.template == some id)
      (fun j => { j with template := none }) }

/-- The row that is read back of a job that was written. -/
def ProvisioningJob.stored (j : ProvisioningJob) : ProvisioningJob :=
  { j with jobVariables := jsonb j.jobVariables }

def ProvisioningJob.create (j : ProvisioningJob) : Statement ProvisioningJobId :=
  insertRow
    (fun db => do
      require (!j.jobVariables.hasNul) nulJsonError
      require (refersToOrNull db.configTemplates j.template) foreignKeyError
      require (refersToOrNull db.users j.initiatedBy) foreignKeyError)
    (fun db => db.provisioningJobs.nextId)
    (fun db => { db with provisioningJobs := db.provisioningJobs.insert (ProvisioningJob.stored j) })

/-- `job.devices.set(...)` on a job that has no devices yet. -/
def ProvisioningJob.setDevices (id : ProvisioningJobId) (devices : List DeviceId) :
    Statement Unit :=
  .statement fun db =>
    if devices.all (refersTo db.devices) then
      .ok ((), { db with jobDevices := db.jobDevices ++ devices.dedup.map (fun d => (id, d)) })
    else .error foreignKeyError

/-- `job.devices.all()`, in the order of the `Device` model. -/
def jobDeviceRows (id : ProvisioningJobId) (db : Platform) : List (DeviceId × Device) :=
  byHostname (db.devices.select (fun d _ => db.jobDevices.contains (id, d)))

def ProvisioningJob.save (id : ProvisioningJobId) (set : ProvisioningJob → ProvisioningJob) :
    Statement Unit :=
  saveFields (·.provisioningJobs) (fun db t => { db with provisioningJobs := t }) id set

/-- `job.save(update_fields=["rendered_config"])`. -/
def ProvisioningJob.saveRendered (id : ProvisioningJobId) (rendered : String) : Statement Unit := do
  Program.ofExcept (require (storable [rendered]) nulTextError)
  ProvisioningJob.save id (fun row => { row with renderedConfig := rendered })

def ProvisioningResult.create (r : ProvisioningResult) : Statement ℕ :=
  insertRow
    (fun db => do
      require (storable r.texts) nulTextError
      require (refersTo db.provisioningJobs r.job && refersTo db.devices r.device)
        foreignKeyError)
    (fun db => db.provisioningResults.nextId)
    (fun db => { db with provisioningResults := db.provisioningResults.insert r })

def AuditLog.create (a : AuditLog) : Statement ℕ :=
  insertRow
    (fun db => do
      require (!a.detail.hasNul) nulJsonError
      require (refersToOrNull db.users a.actor && refersToOrNull db.devices a.device)
        foreignKeyError)
    (fun db => db.auditLogs.nextId)
    (fun db => { db with auditLogs := db.auditLogs.insert a })

/-! ### Security -/

def ComplianceRule.create (r : ComplianceRule) : Statement ComplianceRuleId :=
  insertRow
    (fun db =>
      require (db.complianceRules.select (fun _ u => u.name == r.name)).isEmpty uniqueError)
    (fun db => db.complianceRules.nextId)
    (fun db => { db with complianceRules := db.complianceRules.insert r })

/-- Delete a rule with its checks. -/
def ComplianceRule.delete (id : ComplianceRuleId) : Statement Unit :=
  .execute fun db => { db with
    complianceRules := db.complianceRules.delete id
    complianceChecks := db.complianceChecks.deleteWhere (fun _ c => c.rule == id) }

def ComplianceCheck.create (c : ComplianceCheck) : Statement ℕ :=
  insertRow
    (fun db => do
      require (storable c.texts) nulTextError
      require (refersTo db.devices c.device && refersTo db.complianceRules c.rule &&
        refersToOrNull db.users c.initiatedBy) foreignKeyError)
    (fun db => db.complianceChecks.nextId)
    (fun db => { db with complianceChecks := db.complianceChecks.insert c })

def ConfigSnapshot.create (s : ConfigSnapshot) : Statement ConfigSnapshotId :=
  insertRow
    (fun db => do
      require (storable s.texts) nulTextError
      require (refersTo db.devices s.device && refersToOrNull db.users s.takenBy)
        foreignKeyError)
    (fun db => db.configSnapshots.nextId)
    (fun db => { db with configSnapshots := db.configSnapshots.insert s })

def ConfigSnapshot.save (id : ConfigSnapshotId) (set : ConfigSnapshot → ConfigSnapshot) :
    Statement Unit :=
  saveFields (·.configSnapshots) (fun db t => { db with configSnapshots := t }) id set

def DriftReport.create (r : DriftReport) : Statement ℕ :=
  insertRow
    (fun db => do
      require (storable r.texts) nulTextError
      require (refersTo db.devices r.device &&
        refersToOrNull db.configSnapshots r.goldenSnapshot &&
        refersToOrNull db.configSnapshots r.currentSnapshot) foreignKeyError)
    (fun db => db.driftReports.nextId)
    (fun db => { db with driftReports := db.driftReports.insert r })

def UserProfile.delete (id : ℕ) : Statement Unit :=
  .execute fun db => { db with profiles := db.profiles.delete id }

/-! ### Broker -/

/-- `task.delay(...)`: the message is on the queue under the identifier that is returned. -/
def delay (taskId : String) (m : TaskMessage) : Statement String :=
  .statement fun db => .ok (taskId, { db with queue := db.queue ++ [(taskId, m)] })

theorem writes_delay_bind {α : Type} {R : Platform → Platform → Prop} {taskId : String}
    {m : TaskMessage} {f : String → Statement α}
    (h : ∀ db : Platform, R db { db with queue := db.queue ++ [(taskId, m)] })
    (hf : (f taskId).Writes R) : (delay taskId m >>= f).Writes R :=
  fun db => ⟨h db, hf⟩

/-! ### A small platform -/

def labDevice : Device where
  hostname := "r1"
  ipAddress := .v4 ⟨[10, 0, 0, 1], rfl⟩
  createdAt := 0
  updatedAt := 0

/-- An address of the network of the small platform. -/
def labAddress (n : ℕ) : IpAddresses.IpAddress := .v4 ⟨[10, 0, 0, Fin.ofNat 256 n], rfl⟩

/-- The hosts of `10.0.0.4/30`, none of which is the device. -/
abbrev labHosts : List IpAddresses.IpAddress :=
  [.v4 ⟨[10, 0, 0, 5], rfl⟩, .v4 ⟨[10, 0, 0, 6], rfl⟩]

/-- A platform with one administrator and one device. -/
def lab : Platform where
  users := Table.empty.insert { username := "admin", isSuperuser := true }
  devices := Table.empty.insert labDevice

end DevSecOpsPlatform.PlatformStore
