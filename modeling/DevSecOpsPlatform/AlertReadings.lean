import DevSecOpsPlatform.AlertIncidents
import DevSecOpsPlatform.AlertIngestion

/-!
# What the webhook reads from an alert

`readAlert` is all that a raw alert and the inventory contribute to a row: its fingerprint and
the columns of the upsert's `defaults`. The loop of the webhook is a sequence of upserts of
these columns, keyed by the fingerprint, and it gets through exactly when every alert can be
read and finds at most one row.
-/

namespace DevSecOpsPlatform.AlertReadings

open KeyedTables KeyedUpserts StatementPrograms PlatformModels PlatformStore RolePermissions
open PythonValues AlertManagerPayloads MonitoringViews AlertUpserts AlertIngestion AlertIncidents

/-! ### Reading an alert -/

/-- The columns that the webhook reads from a raw alert and the inventory. -/
def readAlert (w : WebhookWorld) (db : Platform) (raw : List (String × Json)) :
    Except Exn AlertFields := do
  let input ← alertInput raw
  let device ← ((firstDevice input.ip).run db).1
  let d ← alertDefaults w raw input device
  let fingerprint ← charColumn w.pyStr 64 input.fingerprint
  let row ← d.row w.pyStr 0 fingerprint
  return alertColumns.get row

/-- The text of the fingerprint, which may be missing or empty. -/
def fingerprintOf (w : WebhookWorld) (raw : List (String × Json)) : Except Exn String :=
  charColumn w.pyStr 64 (Json.dictGet raw "fingerprint" (.str ""))

/-- The labels of an alert, which may be missing. -/
def labelsOf (raw : List (String × Json)) : List (String × Json) :=
  match Json.dictGet raw "labels" (.obj []) with
  | .obj labels => labels
  | _ => []

/-- The text of the status. -/
def statusOf (w : WebhookWorld) (raw : List (String × Json)) : Except Exn String :=
  charColumn w.pyStr 16 (Json.dictGet raw "status" (.str "firing"))

variable {w : WebhookWorld} {db : Platform} {raw : List (String × Json)} {f : AlertFields}

theorem row_of_alertDefaults {pyStr : Json → String} {fingerprint : String}
    (d : AlertDefaults) (now : DateTime) :
    d.row pyStr now fingerprint =
      (fun a => (alertColumns.get a).row now) <$> d.row pyStr 0 fingerprint := by
  unfold AlertDefaults.row
  cases charColumn pyStr 255 d.alertName with
  | error e => rfl
  | ok alertName =>
    cases charColumn pyStr 16 d.status with
    | error e => rfl
    | ok status =>
      cases charColumn pyStr 255 d.instanceLabel with
      | error e => rfl
      | ok instanceLabel =>
        cases jsonColumn d.labels with
        | error e => rfl
        | ok labels =>
          cases jsonColumn d.annotations with
          | error e => rfl
          | ok annotations => cases charColumn pyStr 200 d.generatorUrl <;> rfl

theorem device_of_alertDefaults {input : AlertInput} {device : Option DeviceId}
    {d : AlertDefaults} (h : alertDefaults w raw input device = .ok d) : d.device = device := by
  obtain ⟨_, -, h⟩ := ok_of_bind h
  obtain ⟨_, -, h⟩ := ok_of_bind h
  obtain rfl := Except.ok.inj h
  rfl

/-- A row refers to the device that was found for it. -/
theorem device_of_row {pyStr : Json → String} {now : DateTime} {fingerprint : String}
    {d : AlertDefaults} {row : Alert} (h : d.row pyStr now fingerprint = .ok row) :
    row.device = d.device := by
  obtain ⟨_, -, h⟩ := ok_of_bind h
  obtain ⟨_, -, h⟩ := ok_of_bind h
  obtain ⟨_, -, h⟩ := ok_of_bind h
  obtain ⟨_, -, h⟩ := ok_of_bind h
  obtain ⟨_, -, h⟩ := ok_of_bind h
  obtain ⟨_, -, h⟩ := ok_of_bind h
  obtain rfl := Except.ok.inj h
  rfl

theorem refersTo_firstDevice {ip : String} {device : Option DeviceId}
    (h : ((firstDevice ip).run db).1 = .ok device) :
    refersToOrNull db.devices device = true := by
  rw [run_firstDevice] at h
  split at h
  · obtain rfl := Except.ok.inj h
    exact refersTo_foundDevice db.devices ip
  · cases h

/-- An alert makes a row when it can be read and its fingerprint has at most one row. -/
theorem alertRow_eq_ok_iff {k : ℕ} {row : Alert} :
    alertRow w k raw db = .ok row ↔ ∃ f, readAlert w db raw = .ok f ∧
      (rowsWith db.alerts f.fingerprint).length ≤ 1 ∧ row = f.row (w.clock k) := by
  unfold alertRow readAlert
  cases alertInput raw with
  | error e => simp
  | ok input =>
    rw [ok_bind, ok_bind]
    cases hdevice : ((firstDevice input.ip).run db).1 with
    | error e => simp
    | ok device =>
      rw [ok_bind, ok_bind]
      cases hd : alertDefaults w raw input device with
      | error e => simp
      | ok d =>
        rw [ok_bind, ok_bind]
        cases charColumn w.pyStr 64 input.fingerprint with
        | error e => simp
        | ok fingerprint =>
          rw [ok_bind, ok_bind, row_of_alertDefaults d (w.clock k)]
          cases hrow : d.row w.pyStr 0 fingerprint with
          | error e => by_cases hone : (rowsWith db.alerts fingerprint).length ≤ 1 <;> simp [hone]
          | ok a =>
            have hfingerprint := (row_columns hrow).1
            have hrefers : refersToOrNull db.devices a.device = true := by
              rw [device_of_row hrow, device_of_alertDefaults hd]
              exact refersTo_firstDevice hdevice
            have hget : (alertColumns.get a).fingerprint = fingerprint := hfingerprint
            have hdev : ((alertColumns.get a).row (w.clock k)).device = a.device := rfl
            by_cases hone : (rowsWith db.alerts fingerprint).length ≤ 1
            · simp [hone, hget, hdev, hrefers, eq_comm]
            · simp [hone, hget]

theorem readAlert_congr {db' : Platform} (h : db'.devices = db.devices)
    (raw : List (String × Json)) : readAlert w db' raw = readAlert w db raw := by
  have hdevice (ip : String) : ((firstDevice ip).run db').1 = ((firstDevice ip).run db).1 := by
    rw [run_firstDevice, run_firstDevice, h]
    split <;> rfl
  simp only [readAlert, hdevice]

/-- The columns that a row takes from the defaults. -/
theorem columns_of_row {pyStr : Json → String} {now : DateTime} {fingerprint : String}
    {d : AlertDefaults} {row : Alert} (h : d.row pyStr now fingerprint = .ok row) :
    charColumn pyStr 16 d.status = .ok row.status ∧ jsonColumn d.labels = .ok row.labels ∧
      row.startsAt = d.startsAt ∧ row.endsAt = d.endsAt := by
  obtain ⟨_, -, h⟩ := ok_of_bind h
  obtain ⟨_, hstatus, h⟩ := ok_of_bind h
  obtain ⟨_, -, h⟩ := ok_of_bind h
  obtain ⟨_, hlabels, h⟩ := ok_of_bind h
  obtain ⟨_, -, h⟩ := ok_of_bind h
  obtain ⟨_, -, h⟩ := ok_of_bind h
  obtain rfl := Except.ok.inj h
  exact ⟨hstatus, hlabels, rfl, rfl⟩

/-- What the loop reads from a raw alert. -/
theorem columns_of_alertInput {input : AlertInput} (h : alertInput raw = .ok input) :
    input.fingerprint = Json.dictGet raw "fingerprint" (.str "") ∧
      input.alertStatus = Json.dictGet raw "status" (.str "firing") ∧
      input.labels = labelsOf raw ∧
      instanceIp (Json.dictGet (labelsOf raw) "instance" (.str "")) = .ok input.ip := by
  unfold alertInput at h
  split at h
  · rename_i labels hget
    have hlabels : labelsOf raw = labels := by rw [labelsOf, hget]
    split at h
    · obtain ⟨ip, hip, h⟩ := ok_of_bind h
      obtain rfl := Except.ok.inj h
      exact ⟨rfl, rfl, hlabels.symm, hlabels ▸ hip⟩
    · cases h
  · cases h

/-- The status, the labels and the two times are stored as they are read. -/
theorem columns_of_readAlert (h : readAlert w db raw = .ok f) :
    statusOf w raw = .ok f.status ∧ f.labels = .obj (labelsOf raw) ∧
      timestamp w (Json.dictGet raw "startsAt" .null) = .ok f.startsAt ∧
      timestamp w (Json.dictGet raw "endsAt" .null) = .ok f.endsAt := by
  obtain ⟨input, hinput, h⟩ := ok_of_bind h
  obtain ⟨device, -, h⟩ := ok_of_bind h
  obtain ⟨d, hd, h⟩ := ok_of_bind h
  obtain ⟨fingerprint, -, h⟩ := ok_of_bind h
  obtain ⟨row, hrow, h⟩ := ok_of_bind h
  obtain rfl := Except.ok.inj h
  obtain ⟨hstatus, hlabels, hstarts, hends⟩ := columns_of_row hrow
  obtain ⟨-, hstatus', hlabels', -⟩ := columns_of_alertInput hinput
  obtain ⟨startsAt, hstartsAt, hd⟩ := ok_of_bind hd
  obtain ⟨endsAt, hendsAt, hd⟩ := ok_of_bind hd
  obtain rfl := Except.ok.inj hd
  have hobj : row.labels = .obj (labelsOf raw) := by
    rw [hlabels', jsonColumn] at hlabels
    · split at hlabels
      · cases hlabels
      · exact (Except.ok.inj hlabels).symm
    · rintro ⟨⟩
  refine ⟨(congrArg _ hstatus'.symm).trans hstatus, hobj, ?_, ?_⟩
  · exact hstartsAt.trans (congrArg _ hstarts.symm)
  · exact hendsAt.trans (congrArg _ hends.symm)

/-- What is read is stored under the fingerprint of the alert. -/
theorem fingerprint_of_readAlert (h : readAlert w db raw = .ok f) :
    fingerprintOf w raw = .ok f.fingerprint := by
  obtain ⟨input, hinput, h⟩ := ok_of_bind h
  obtain ⟨device, -, h⟩ := ok_of_bind h
  obtain ⟨d, -, h⟩ := ok_of_bind h
  obtain ⟨fingerprint, hfingerprint, h⟩ := ok_of_bind h
  obtain ⟨row, hrow, h⟩ := ok_of_bind h
  obtain rfl := Except.ok.inj h
  have hkey : (alertColumns.get row).fingerprint = fingerprint := (row_columns hrow).1
  rw [fingerprintOf, ← (columns_of_alertInput hinput).1, hfingerprint, hkey]

/-! ### The loop -/

/-- The rows of alerts that are new, from the alert numbered `k` on. -/
def newRows (clock : ℕ → DateTime) : ℕ → List AlertFields → List Alert
  | _, [] => []
  | k, f :: fs => f.row (clock k) :: newRows clock (k + 1) fs

@[simp] theorem get_newRows (clock : ℕ → DateTime) (k : ℕ) (fs : List AlertFields) :
    (newRows clock k fs).map alertColumns.get = fs := by
  induction fs generalizing k with
  | nil => rfl
  | cons f fs ih => rw [newRows, List.map_cons, ih, get_row]

/-- What the webhook reads from the alerts of a payload. -/
def Reads (w : WebhookWorld) (db : Platform) (raws : List (List (String × Json)))
    (fields : List AlertFields) : Prop :=
  List.Forall₂ (fun raw f => readAlert w db raw = .ok f) raws fields

theorem reads_congr {db' : Platform} (h : db'.devices = db.devices)
    {raws : List (List (String × Json))} {fields : List AlertFields} :
    Reads w db' raws fields ↔ Reads w db raws fields := by
  simp only [Reads, readAlert_congr h]

/-- The loop gets through its first alert when that one can be read and finds at most one row,
and goes on with the row stored. -/
theorem run_processAlerts_cons_iff {k : ℕ} {raws : List (List (String × Json))} {created : ℕ}
    {db' : Platform} :
    (processAlerts w k (raw :: raws)).run db = (.ok created, db') ↔
      ∃ f count, readAlert w db raw = .ok f ∧ (rowsWith db.alerts f.fingerprint).length ≤ 1 ∧
        (processAlerts w (k + 1) raws).run { db with
          alerts := (upsert db.alerts (f.row (w.clock k))).2 } = (.ok count, db') ∧
        created = count + (upsert db.alerts (f.row (w.clock k))).1.toNat := by
  rw [processAlerts, Program.run_bind, run_processAlert]
  constructor
  · intro h
    cases hrow : alertRow w k raw db with
    | error e => simp [hrow] at h
    | ok row =>
      obtain ⟨f, hread, hone, rfl⟩ := alertRow_eq_ok_iff.mp hrow
      simp only [hrow, Program.run_bind] at h
      refine ⟨f, ?_⟩
      rcases hrest : (processAlerts w (k + 1) raws).run { db with
        alerts := (upsert db.alerts (f.row (w.clock k))).2 } with ⟨o, t⟩
      rw [hrest] at h
      cases o with
      | error e => simp at h
      | ok count =>
        obtain ⟨hcreated, rfl⟩ := Prod.mk.inj h
        exact ⟨count, hread, hone, rfl, (Except.ok.inj hcreated).symm⟩
  · rintro ⟨f, count, hread, hone, hrest, rfl⟩
    have hrow : alertRow w k raw db = .ok (f.row (w.clock k)) :=
      alertRow_eq_ok_iff.mpr ⟨f, hread, hone, rfl⟩
    simp only [hrow, Program.run_bind, hrest]
    rfl

/-- The loop gets through exactly when every alert can be read and finds at most one row, and
is then a sequence of upserts. -/
theorem run_processAlerts_iff {k : ℕ} {raws : List (List (String × Json))} {created : ℕ}
    {db' : Platform} :
    (processAlerts w k raws).run db = (.ok created, db') ↔
      ∃ fields, Reads w db raws fields ∧
        alertUpserts.UniqueFor db.alerts (newRows w.clock k fields) ∧
        created = (alertUpserts.upsertAll db.alerts (newRows w.clock k fields)).1 ∧
        db' = { db with
          alerts := (alertUpserts.upsertAll db.alerts (newRows w.clock k fields)).2 } := by
  induction raws generalizing k created db db' with
  | nil =>
    constructor
    · intro h
      obtain ⟨hcreated, rfl⟩ := Prod.mk.inj h
      exact ⟨[], .nil, fun _ hb => (by cases hb), (Except.ok.inj hcreated).symm, rfl⟩
    · rintro ⟨fields, hreads, -, hcreated, hdb⟩
      cases hreads
      rw [hcreated, hdb]
      rfl
  | cons raw raws ih =>
    rw [run_processAlerts_cons_iff]
    constructor
    · rintro ⟨f, count, hread, hone, hrest, rfl⟩
      obtain ⟨fields, hreads, hunique, rfl, rfl⟩ := ih.mp hrest
      refine ⟨f :: fields, .cons hread ((reads_congr (by rfl)).mp hreads), ?_, ?_, ?_⟩
      · exact Upserts.uniqueFor_cons.mpr ⟨hone, (upsert_alertUpserts _ _).symm ▸ hunique⟩
      · rw [newRows, Upserts.upsertAll, upsert_alertUpserts]
      · rw [newRows, Upserts.upsertAll, upsert_alertUpserts]
    · rintro ⟨fields, hreads, hunique, rfl, rfl⟩
      cases hreads with
      | @cons _ f _ fields hread hreads =>
        obtain ⟨hone, hunique⟩ := Upserts.uniqueFor_cons.mp hunique
        rw [upsert_alertUpserts] at hunique
        rw [newRows, Upserts.upsertAll, upsert_alertUpserts]
        exact ⟨f, _, hread, hone,
          ih.mpr ⟨fields, (reads_congr (by rfl)).mpr hreads, hunique, rfl, rfl⟩, rfl⟩

end DevSecOpsPlatform.AlertReadings
