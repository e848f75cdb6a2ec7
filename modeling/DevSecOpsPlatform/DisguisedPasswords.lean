import DevSecOpsPlatform.JobHandoffs
import DevSecOpsPlatform.MirroredPrograms
import DevSecOpsPlatform.PlatformOperations

/-!
# Disguised passwords

Every stored password is replaced by another one, and the devices accept the new ones as they
did the old ones. The statements that do not read the passwords answer for the disguised store
what they answer for the other, and leave it disguised in the same way; an object that is
loaded comes with its password, and what follows must go on alike with both.
-/

namespace DevSecOpsPlatform.DisguisedPasswords

open KeyedTables StatementPrograms PlatformModels PlatformStore RolePermissions PythonValues
open PlatformSerializers NetmikoSessions ProvisioningTasks SecurityTasks PlatformOperations
open JobHandoffs (Worker)

/-- Another password for each; no password stays none. -/
structure Disguise where
  password : String → String
  empty : password "" = ""

namespace Disguise

variable (D : Disguise)

def device (d : Device) : Device := { d with sshPassword := D.password d.sshPassword }

def store (db : Platform) : Platform :=
  { db with devices := db.devices.mapRows fun _ => D.device }

/-- A session with a device that takes a password for what `s` takes its disguise for. -/
def session (s : SshSession) : SshSession :=
  { s with connectHandler := fun params =>
      s.connectHandler { params with password := D.password params.password } }

def push (w : PushWorld) : PushWorld := { w with session := fun n => D.session (w.session n) }

def compliance (w : ComplianceWorld) : ComplianceWorld :=
  { w with session := fun n => D.session (w.session n) }

def drift (w : DriftWorld) : DriftWorld := { w with session := D.session w.session }

def snapshot (w : SnapshotWorld) : SnapshotWorld := { w with session := D.session w.session }

def worker (w : Worker) : Worker :=
  { w with
    push := D.push w.push
    compliance := D.compliance w.compliance
    drift := D.drift w.drift
    snapshot := D.snapshot w.snapshot }

/-- The operation with the sessions of the devices before the disguise. -/
def operation : Operation → Operation
  | .executeProvisioningJob w jobId => .executeProvisioningJob (D.push w) jobId
  | .runComplianceCheck w deviceId ruleIds user =>
    .runComplianceCheck (D.compliance w) deviceId ruleIds user
  | .runDriftDetection w deviceId user => .runDriftDetection (D.drift w) deviceId user
  | .takeConfigSnapshot w deviceId golden user =>
    .takeConfigSnapshot (D.snapshot w) deviceId golden user
  | o => o

/-- The programs go on alike, one on a store and the other on the disguised one. -/
def Alike {α : Type} (p q : Statement α) : Prop :=
  p.Mirrors (fun db db' => db' = D.store db) Eq q

end Disguise

variable {D : Disguise} {db : Platform}

/-! ### What does not show the passwords -/

theorem connect_device {α : Type} (s : SshSession) (d : Device) (body : Except SshExn α) :
    connect s (D.device d) body = connect (D.session s) d body := by
  have herror (e : SshExn) : netmikoError (D.device d) e = netmikoError d e := by cases e <;> rfl
  have hparams : s.connectHandler (buildParams (D.device d)) =
      (D.session s).connectHandler (buildParams d) := rfl
  unfold connect
  rw [hparams]
  simp only [herror]
  rfl

@[simp] theorem get?_devices (id : DeviceId) :
    (D.store db).devices.get? id = (db.devices.get? id).map D.device :=
  Table.get?_mapRows _ _ _

@[simp] theorem refersTo_devices (id : DeviceId) :
    refersTo (D.store db).devices id = refersTo db.devices id := by
  simp [refersTo]

theorem refersTo_store : refersTo (D.store db).devices = refersTo db.devices :=
  funext refersTo_devices

@[simp] theorem refersToOrNull_devices (id : Option DeviceId) :
    refersToOrNull (D.store db).devices id = refersToOrNull db.devices id := by
  cases id <;> simp

/-- A condition on the devices that does not look at the passwords. -/
theorem isEmpty_select_devices {p : DeviceId → Device → Bool}
    (hp : ∀ id d, p id (D.device d) = p id d) :
    ((D.store db).devices.select p).isEmpty = (db.devices.select p).isEmpty := by
  simp [Disguise.store, Table.select_mapRows, hp]

theorem hostnameJson_store (id : Option DeviceId) :
    hostnameJson (D.store db) id = hostnameJson db id := by
  cases id with
  | none => rfl
  | some id =>
    simp only [hostnameJson, Option.bind_some, get?_devices]
    cases db.devices.get? id <;> rfl

theorem provisioningResultData_store (id : ℕ) (r : ProvisioningResult) :
    provisioningResultData (D.store db) id r = provisioningResultData db id r := by
  simp only [provisioningResultData, hostnameJson_store, get?_devices]
  cases db.devices.get? r.device <;> rfl

/-- The disguise leaves the order of the names. -/
theorem byHostname_map (rows : List (DeviceId × Device)) :
    byHostname (rows.map fun r => (r.1, D.device r.2)) =
      (byHostname rows).map fun r => (r.1, D.device r.2) :=
  (List.map_insertionSort (fun a b : DeviceId × Device => a.2.hostname ≤ b.2.hostname) _
    (fun r : DeviceId × Device => (r.1, D.device r.2)) _ fun _ _ _ _ => Iff.rfl).symm

theorem jobDeviceRows_store (id : ProvisioningJobId) :
    jobDeviceRows id (D.store db) = (jobDeviceRows id db).map fun r => (r.1, D.device r.2) := by
  have hselect : (D.store db).devices.select (fun d _ => db.jobDevices.contains (id, d)) =
      (db.devices.select fun d _ => db.jobDevices.contains (id, d)).map
        fun r => (r.1, D.device r.2) :=
    Table.select_mapRows db.devices (fun d _ => db.jobDevices.contains (id, d)) fun _ => D.device
  exact (congrArg byHostname hselect).trans (byHostname_map _)

theorem provisioningJobData_store (id : ProvisioningJobId) (j : ProvisioningJob) :
    provisioningJobData (D.store db) id j = provisioningJobData db id j := by
  simp only [provisioningJobData, provisioningResultData_store, jobDeviceRows_store, List.map_map]
  rfl

theorem alertData_store (id : AlertId) (a : Alert) :
    alertData (D.store db) id a = alertData db id a := by
  simp only [alertData, hostnameJson_store]

theorem cascade_store (id : DeviceId) :
    Device.cascade id (D.store db) = D.store (Device.cascade id db) := by
  simp only [Device.cascade, Disguise.store]
  congr 1
  ext1
  · simp [Table.delete, Table.deleteWhere, Table.mapRows, List.filter_map, Function.comp_def]
  · rfl

/-! ### Statements -/

/-- The statement answers the same, and leaves the store disguised where it was. -/
def Respects (D : Disguise) {α : Type} (f : Platform → Except Exn (α × Platform)) : Prop :=
  ∀ db, f (D.store db) = (f db).map fun r => (r.1, D.store r.2)

theorem respects_ok {α : Type} (a : α) : Respects D fun db => .ok (a, db) := fun _ => rfl

theorem respects_error {α : Type} (e : Exn) :
    Respects D (fun _ => .error e : Platform → Except Exn (α × Platform)) := fun _ => rfl

/-- A check, and what follows it. -/
theorem respects_bind {α β : Type} {g : Platform → Except Exn α}
    {k : α → Platform → Except Exn (β × Platform)} (hg : ∀ db, g (D.store db) = g db)
    (hk : ∀ a, Respects D (k a)) : Respects D fun db => g db >>= fun a => k a db := by
  intro db
  dsimp only
  rw [hg]
  cases g db with
  | error e => rfl
  | ok a => exact hk a db

/-- A statement whose answer shows what it has loaded. -/
theorem mirrors_statement {α : Type} {f : Platform → Except Exn (α × Platform)} (view : α → α)
    (h : ∀ db, f (D.store db) = (f db).map fun r => (view r.1, D.store r.2)) :
    (Program.statement f).Mirrors (fun db db' => db' = D.store db) (fun a b => b = view a)
      (Program.statement f) := by
  refine Program.mirrors_statement fun db db' hdb => ?_
  rw [hdb, h]
  cases f db with
  | error e => rfl
  | ok r => exact ⟨rfl, rfl⟩

theorem alike_statement {α : Type} {f : Platform → Except Exn (α × Platform)}
    (h : Respects D f) : D.Alike (.statement f) (.statement f) := by
  refine Program.mirrors_statement fun db db' hdb => ?_
  rw [hdb, h]
  cases f db with
  | error e => rfl
  | ok r => exact ⟨rfl, rfl⟩

theorem alike_bind {α β : Type} {p q : Statement α} {f g : α → Statement β} (h : D.Alike p q)
    (hf : ∀ a, D.Alike (f a) (g a)) : D.Alike (p >>= f) (q >>= g) :=
  Program.Mirrors.bind_eq h hf

theorem alike_ret {α : Type} (a : α) : D.Alike (.ret a) (.ret a) := Program.mirrors_ret rfl

theorem alike_raise {α : Type} (e : Exn) : D.Alike (.raise e : Statement α) (.raise e) :=
  Program.mirrors_raise e

theorem alike_ofExcept {α : Type} (x : Except Exn α) :
    D.Alike (.ofExcept x) (.ofExcept x) := Program.mirrors_ofExcept x

theorem alike_query {α : Type} {f : Platform → α} (h : ∀ db, f (D.store db) = f db) :
    D.Alike (.query f) (.query f) :=
  Program.mirrors_query fun db db' hdb => by rw [hdb, h]

theorem alike_execute {w : Platform → Platform} (h : ∀ db, w (D.store db) = D.store (w db)) :
    D.Alike (.execute w) (.execute w) :=
  Program.mirrors_execute fun db db' hdb => by rw [hdb, h]

theorem alike_insertRow {ok : Platform → Except Exn Unit} {next : Platform → ℕ}
    {set : Platform → Platform} (hok : ∀ db, ok (D.store db) = ok db)
    (hnext : ∀ db, next (D.store db) = next db)
    (hset : ∀ db, set (D.store db) = D.store (set db)) :
    D.Alike (insertRow ok next set) (insertRow ok next set) := by
  refine alike_statement fun db => ?_
  rw [hok, hnext, hset]
  cases ok db <;> rfl

theorem alike_saveFields {α : Type} {rows : Platform → Table α}
    {setRows : Platform → Table α → Platform} (id : ℕ) (set : α → α)
    (hrows : ∀ db, rows (D.store db) = rows db)
    (hset : ∀ db t, setRows (D.store db) t = D.store (setRows db t)) :
    D.Alike (saveFields rows setRows id set) (saveFields rows setRows id set) := by
  refine alike_statement fun db => ?_
  rw [hrows, hset]
  cases (rows db).get? id <;> rfl

theorem alike_saveRow {α : Type} {rows : Platform → Table α}
    {setRows : Platform → Table α → Platform} {ok : Platform → Except Exn Unit} (id : ℕ)
    (a added : α) (hok : ∀ db, ok (D.store db) = ok db) (hrows : ∀ db, rows (D.store db) = rows db)
    (hset : ∀ db t, setRows (D.store db) t = D.store (setRows db t)) :
    D.Alike (saveRow rows setRows ok id a added) (saveRow rows setRows ok id a added) := by
  refine alike_statement fun db => ?_
  rw [hok, hrows]
  simp only [hset]
  cases ok db with
  | error e => rfl
  | ok u => cases (rows db).get? id <;> rfl

theorem alike_permit (allows : Option RequestUser → Bool) (caller : Option UserId) :
    D.Alike (permit allows caller) (permit allows caller) := by
  refine alike_statement fun db => ?_
  have hcaller : authenticate caller (D.store db) = authenticate caller db := rfl
  rw [hcaller]
  cases authenticate caller db with
  | none => rfl
  | some u => cases h : allows (some u) <;> simp [h, Except.map]

theorem alike_delay (taskId : String) (m : TaskMessage) :
    D.Alike (delay taskId m) (delay taskId m) := alike_statement fun _ => rfl

/-- What follows goes on with the object as the disguise has it. -/
theorem alike_getObject_bind {α β : Type} {find : Platform → Option α} (view : α → α)
    {f g : α → Statement β} (h : ∀ db, find (D.store db) = (find db).map view)
    (hf : ∀ a, D.Alike (f a) (g (view a))) :
    D.Alike (getObject find >>= f) (getObject find >>= g) := by
  refine Program.Mirrors.bind (mirrors_statement view fun db => ?_) fun a b hb => ?_
  · rw [h]
    cases find db <;> rfl
  · exact hb ▸ hf a

theorem alike_getObject {α : Type} {find : Platform → Option α}
    (h : ∀ db, find (D.store db) = find db) :
    D.Alike (getObject find) (getObject find) := by
  refine alike_statement fun db => ?_
  rw [h]
  cases find db <;> rfl

theorem alike_getDevice_bind {β : Type} {f g : Device → Statement β} (id : DeviceId)
    (hf : ∀ d, D.Alike (f d) (g (D.device d))) :
    D.Alike (Device.get id >>= f) (Device.get id >>= g) := by
  refine Program.Mirrors.bind (mirrors_statement D.device fun db => ?_) fun a b hb => ?_
  · rw [get?_devices]
    cases db.devices.get? id <;> rfl
  · exact hb ▸ hf a

theorem alike_createLog (a : AuditLog) : D.Alike (AuditLog.create a) (AuditLog.create a) :=
  alike_insertRow (fun db => by rw [refersToOrNull_devices]; rfl) (fun _ => rfl) fun _ => rfl

end DevSecOpsPlatform.DisguisedPasswords
