import DevSecOpsPlatform.AlertUpserts
import DevSecOpsPlatform.GuardedRuns
import DevSecOpsPlatform.Rfc3339Timestamps

/-!
# Acknowledgements and the incidents they belong to

One row serves every incident of a fingerprint. An acknowledgement is current when it is not
older than the start of the incident that the row shows. The webhook commits one alert of a
notification after the other, and replaces the start while it keeps the acknowledgement, so
the rows stay current exactly when no later start meets an acknowledged row.
-/

namespace DevSecOpsPlatform.AlertIncidents

open KeyedTables StatementPrograms PlatformModels PlatformStore RolePermissions PythonValues
open AlertManagerPayloads MonitoringViews AlertUpserts GuardedRuns Rfc3339Timestamps

/-- The time is not before the start. -/
def NotBefore (startsAt acknowledgedAt : Option DateTime) : Prop :=
  ∀ s, startsAt = some s → ∃ t, acknowledgedAt = some t ∧ s ≤ t

/-- Every acknowledged alert was acknowledged when its incident had started. -/
def Current (alerts : Table Alert) : Prop :=
  ∀ id a, alerts.get? id = some a → a.acknowledged = true → NotBefore a.startsAt a.acknowledgedAt

/-! ### The writes of an operation -/

/-- The requests that write alerts on their own: a notification, and an acknowledgement. -/
inductive IncidentOp where
  | webhook (w : WebhookWorld) (body : Json)
  | acknowledge (caller : Option UserId) (now : DateTime) (id : AlertId)

def IncidentOp.program : IncidentOp → Statement Response
  | webhook w body => alertmanagerWebhook w body
  | acknowledge caller now id => MonitoringViews.acknowledge caller now id

def IncidentOp.apply (db : Platform) (op : IncidentOp) : Platform := (op.program.run db).2

/-- What is committed at a time: one alert of a notification, or an acknowledgement. -/
inductive AlertWrite where
  | alert (w : WebhookWorld) (k : ℕ) (raw : List (String × Json))
  | acknowledge (caller : Option UserId) (now : DateTime) (id : AlertId)

def AlertWrite.apply (db : Platform) : AlertWrite → Platform
  | alert w k raw => ((processAlert w k raw).run db).2
  | acknowledge caller now id => ((MonitoringViews.acknowledge caller now id).run db).2

/-- The alerts that the loop works off, up to one that raises. -/
def loopWrites (w : WebhookWorld) : ℕ → List (List (String × Json)) → Platform → List AlertWrite
  | _, [], _ => []
  | k, raw :: raws, db => .alert w k raw ::
    match (processAlert w k raw).run db with
    | (.ok _, db') => loopWrites w (k + 1) raws db'
    | (.error _, _) => []

def IncidentOp.writes (db : Platform) : IncidentOp → List AlertWrite
  | webhook w body => match validatePayload body with
    | .error _ => []
    | .ok alerts => loopWrites w 0 alerts db
  | acknowledge caller now id => [.acknowledge caller now id]

/-- The writes of operations that are carried out one after the other. -/
def allWrites : Platform → List IncidentOp → List AlertWrite
  | _, [] => []
  | db, op :: ops => op.writes db ++ allWrites (op.apply db) ops

theorem runFrom_loopWrites (w : WebhookWorld) (k : ℕ) (raws : List (List (String × Json)))
    (db : Platform) :
    runFrom AlertWrite.apply db (loopWrites w k raws db) = ((processAlerts w k raws).run db).2 := by
  induction raws generalizing k db with
  | nil => rfl
  | cons raw raws ih =>
    rw [loopWrites, runFrom_cons, AlertWrite.apply, processAlerts, Program.run_bind]
    rcases hrun : (processAlert w k raw).run db with ⟨o, db'⟩
    cases o with
    | error e => rfl
    | ok created =>
      dsimp only
      rw [ih, Program.run_bind]
      rcases (processAlerts w (k + 1) raws).run db' with ⟨o, db''⟩
      cases o <;> rfl

theorem runFrom_writes (op : IncidentOp) (db : Platform) :
    runFrom AlertWrite.apply db (op.writes db) = op.apply db := by
  cases op with
  | acknowledge caller now id => rfl
  | webhook w body =>
    cases hpayload : validatePayload body with
    | error errors =>
      simp [IncidentOp.writes, IncidentOp.apply, IncidentOp.program, alertmanagerWebhook, hpayload]
    | ok alerts =>
      simp only [IncidentOp.writes, IncidentOp.apply, IncidentOp.program, alertmanagerWebhook,
        hpayload]
      rw [runFrom_loopWrites, Program.run_bind]
      rcases (processAlerts w 0 alerts).run db with ⟨o, db'⟩
      cases o <;> rfl

/-- The operations lead where their writes lead. -/
theorem runFrom_allWrites (db : Platform) (ops : List IncidentOp) :
    runFrom AlertWrite.apply db (allWrites db ops) = runFrom IncidentOp.apply db ops := by
  induction ops generalizing db with
  | nil => rfl
  | cons op ops ih => rw [allWrites, runFrom_append, runFrom_writes, ih, runFrom_cons]

/-! ### One alert of a notification -/

/-- The row that an alert of a notification makes, when nothing is wrong with it. -/
def alertRow (w : WebhookWorld) (k : ℕ) (raw : List (String × Json)) (db : Platform) :
    Except Exn Alert := do
  let input ← alertInput raw
  let device ← ((firstDevice input.ip).run db).1
  let d ← alertDefaults w raw input device
  let fingerprint ← charColumn w.pyStr 64 input.fingerprint
  let rows := rowsWith db.alerts fingerprint
  require (decide (rows.length ≤ 1)) (multipleAlertsError rows.length)
  let row ← d.row w.pyStr (w.clock k) fingerprint
  require (refersToOrNull db.devices row.device) foreignKeyError
  return row

/-- A round of the loop upserts its row, or changes nothing. -/
theorem run_processAlert (w : WebhookWorld) (k : ℕ) (raw : List (String × Json)) (db : Platform) :
    (processAlert w k raw).run db = match alertRow w k raw db with
      | .ok row => (.ok (upsert db.alerts row).1, { db with alerts := (upsert db.alerts row).2 })
      | .error e => (.error e, db) := by
  unfold processAlert alertRow
  cases alertInput raw with
  | error e => rfl
  | ok input =>
    rw [Program.ofExcept_ok, Program.ret_bind, Program.run_bind, run_firstDevice_store, ok_bind]
    cases ((firstDevice input.ip).run db).1 with
    | error e => rfl
    | ok device =>
      dsimp only
      rw [ok_bind]
      cases alertDefaults w raw input device with
      | error e => rfl
      | ok d =>
        rw [Program.ofExcept_ok, Program.ret_bind, ok_bind]
        rw [Alert.updateOrCreate, Program.run_statement]
        cases charColumn w.pyStr 64 input.fingerprint with
        | error e => rfl
        | ok f =>
          simp only [ok_bind]
          cases require (decide ((rowsWith db.alerts f).length ≤ 1))
              (multipleAlertsError (rowsWith db.alerts f).length) with
          | error e => rfl
          | ok u =>
            simp only [ok_bind]
            cases d.row w.pyStr (w.clock k) f with
            | error e => rfl
            | ok row =>
              simp only [ok_bind]
              cases require (refersToOrNull db.devices row.device) foreignKeyError <;> rfl

theorem store_processAlert (w : WebhookWorld) (k : ℕ) (raw : List (String × Json))
    (db : Platform) :
    ((processAlert w k raw).run db).2 = match alertRow w k raw db with
      | .ok row => { db with alerts := (upsert db.alerts row).2 }
      | .error _ => db := by
  rw [run_processAlert]
  cases alertRow w k raw db <;> rfl

/-- The alert is refused, or no acknowledged row of its fingerprint was acknowledged before
the start that it brings. An acknowledgement may be written at any time. -/
def AlertWrite.Keeps (db : Platform) : AlertWrite → Prop
  | alert w k raw => ∀ row, alertRow w k raw db = .ok row →
      ∀ id old, (id, old) ∈ rowsWith db.alerts row.fingerprint → old.acknowledged = true →
        NotBefore row.startsAt old.acknowledgedAt
  | acknowledge _ _ _ => True

/-- An alert is acknowledged when it has started, by the start that is stored then. -/
def AlertWrite.Timely (db : Platform) : AlertWrite → Prop
  | alert _ _ _ => True
  | acknowledge _ now id => ∀ a, db.alerts.get? id = some a → NotBefore a.startsAt (some now)

theorem alertRow_ok {w : WebhookWorld} {k : ℕ} {raw : List (String × Json)} {db : Platform}
    {row : Alert} (h : alertRow w k raw db = .ok row) :
    (rowsWith db.alerts row.fingerprint).length ≤ 1 ∧ row.acknowledged = false := by
  obtain ⟨input, -, h⟩ := ok_of_bind h
  obtain ⟨device, -, h⟩ := ok_of_bind h
  obtain ⟨d, -, h⟩ := ok_of_bind h
  obtain ⟨f, -, h⟩ := ok_of_bind h
  obtain ⟨_, hone, h⟩ := ok_of_bind h
  obtain ⟨row', hrow, h⟩ := ok_of_bind h
  obtain ⟨_, -, h⟩ := ok_of_bind h
  obtain rfl := Except.ok.inj h
  obtain ⟨hf, hack, -⟩ := row_columns hrow
  exact ⟨hf ▸ of_decide_eq_true (require_eq_ok hone), hack⟩

/-- Rewriting one row keeps the other rows current. -/
theorem current_update_iff {alerts : Table Alert} (h : Current alerts) {id : AlertId} {a : Alert}
    {g : Alert → Alert} (hget : alerts.get? id = some a) :
    Current (alerts.update id g) ↔
      ((g a).acknowledged = true → NotBefore (g a).startsAt (g a).acknowledgedAt) := by
  constructor
  · intro hupdated
    refine hupdated id (g a) ?_
    rw [Table.get?_update_self, hget]
    rfl
  · intro hrow id' a' hget'
    rw [Table.get?_update] at hget'
    split at hget'
    · rename_i hid
      subst hid
      rw [hget] at hget'
      exact Option.some.inj hget' ▸ hrow
    · exact h id' a' hget'

theorem current_upsert_iff {alerts : Table Alert} (h : Current alerts) {row : Alert}
    (hone : (rowsWith alerts row.fingerprint).length ≤ 1) (hack : row.acknowledged = false) :
    Current (upsert alerts row).2 ↔ ∀ id old, (id, old) ∈ rowsWith alerts row.fingerprint →
      old.acknowledged = true → NotBefore row.startsAt old.acknowledgedAt := by
  rcases rows_cases hone with hnil | ⟨id, old, hrow⟩
  · rw [upsert_nil hnil]
    refine iff_of_true (fun id a hget => ?_) (by simp [hnil])
    rw [Table.get?_insert] at hget
    split at hget
    · obtain rfl := Option.some.inj hget
      simp [hack]
    · exact h id a hget
  · have hmem : (id, old) ∈ rowsWith alerts row.fingerprint := by simp [hrow]
    rw [upsert_cons hrow, current_update_iff h (mem_rowsWith.mp hmem).1, hrow]
    simp [overwrite]

theorem alerts_acknowledge (caller : Option UserId) (now : DateTime) (id : AlertId)
    (db : Platform) :
    ((MonitoringViews.acknowledge caller now id).run db).2.alerts = db.alerts ∨
      ∃ a, db.alerts.get? id = some a ∧
        ((MonitoringViews.acknowledge caller now id).run db).2.alerts =
          db.alerts.update id (acknowledgedRow now) := by
  unfold MonitoringViews.acknowledge getAlert
  rw [run_permit_bind]
  cases authenticate caller db with
  | none => exact .inl rfl
  | some u =>
    dsimp only
    cases readOnlyOrAbove .patch (some u) with
    | false => exact .inl rfl
    | true =>
      rw [if_pos rfl, run_getObject_bind]
      cases hget : db.alerts.get? id with
      | none => exact .inl rfl
      | some a =>
        refine .inr ⟨a, rfl, ?_⟩
        dsimp only [Option.map_some]
        rw [saveAcknowledged, saveFields, Program.run_statement_bind]
        simp only [hget]
        rfl

/-- What a timely write does to current rows. -/
theorem current_apply_iff (db : Platform) (x : AlertWrite) (h : Current db.alerts)
    (htimely : x.Timely db) : Current (x.apply db).alerts ↔ x.Keeps db := by
  cases x with
  | alert w k raw =>
    rw [AlertWrite.apply, store_processAlert, AlertWrite.Keeps]
    cases hrow : alertRow w k raw db with
    | error e => exact iff_of_true h fun row hok => nomatch hok
    | ok row =>
      obtain ⟨hone, hack⟩ := alertRow_ok hrow
      dsimp only
      rw [current_upsert_iff h hone hack]
      simp
  | acknowledge caller now id =>
    refine iff_of_true ?_ trivial
    rcases alerts_acknowledge caller now id db with hsame | ⟨a, hget, hupdate⟩
    · rw [AlertWrite.apply, hsame]
      exact h
    · rw [AlertWrite.apply, hupdate, current_update_iff h hget]
      exact fun _ => htimely a hget

/-! ### Runs -/

/-- When alerts are acknowledged at times not before the start that is stored then, the rows
are current in every state of a run exactly when no alert of it brings an acknowledged row a
start after its acknowledgement. -/
theorem current_runs_iff (db : Platform) (h : Current db.alerts) (ops : List IncidentOp)
    (htimely : Meets AlertWrite.apply AlertWrite.Timely db (allWrites db ops)) :
    (∀ done, done <+: allWrites db ops → Current (runFrom AlertWrite.apply db done).alerts) ↔
      Meets AlertWrite.apply AlertWrite.Keeps db (allWrites db ops) :=
  (meets_iff_prefixes_of_meets current_apply_iff h _ htimely).symm

def labWorld : WebhookWorld where
  parseDatetime := fun text => .ok (rfc3339 text)
  pyStr := Json.typeName
  clock := fun k => k

/-- The notification of an interface that went down. -/
def labIncident (status startsAt : String) : IncidentOp :=
  .webhook labWorld (notification [[("status", .str status), ("fingerprint", .str "f1"),
    ("labels", .obj [("alertname", .str "InterfaceDown")]), ("startsAt", .str startsAt)]])

/-- An incident that is acknowledged a second after its start, and resolved. -/
def labResolved : List IncidentOp :=
  [labIncident "firing" "1970-01-01T00:00:01Z", .acknowledge (some 1) 2000000 1,
    labIncident "resolved" "1970-01-01T00:00:01Z"]

/-- The same, and an hour later the interface goes down again. -/
def labRefired : List IncidentOp :=
  labResolved ++ [labIncident "firing" "1970-01-01T01:00:00Z"]

theorem current_lab : Current lab.alerts := fun _ _ h => nomatch h

theorem timely_labRefired :
    Meets AlertWrite.apply AlertWrite.Timely lab (allWrites lab labRefired) := by
  refine ⟨trivial, fun a ha => ?_, trivial, trivial, trivial⟩
  obtain rfl := Option.some.inj ha
  exact fun s hs => ⟨_, rfl, Option.some.inj hs ▸ by decide⟩

theorem timely_labResolved :
    Meets AlertWrite.apply AlertWrite.Timely lab (allWrites lab labResolved) := by
  refine ⟨trivial, fun a ha => ?_, trivial, trivial⟩
  obtain rfl := Option.some.inj ha
  exact fun s hs => ⟨_, rfl, Option.some.inj hs ▸ by decide⟩

theorem current_runs_of_lab :
    Meets AlertWrite.apply AlertWrite.Keeps lab (allWrites lab labResolved) ∧
      ∀ done, done <+: allWrites lab labResolved →
        Current (runFrom AlertWrite.apply lab done).alerts := by
  have hkeeps : Meets AlertWrite.apply AlertWrite.Keeps lab (allWrites lab labResolved) := by
    refine ⟨fun row _ id old hmem => ?_, trivial, fun row hrow id old hmem _ s hs => ?_, trivial⟩
    · cases hmem
    · obtain rfl := Except.ok.inj hrow
      obtain ⟨-, rfl⟩ := Prod.mk.inj (List.mem_singleton.mp hmem)
      exact ⟨_, rfl, Option.some.inj hs ▸ by decide⟩
  exact ⟨hkeeps, (current_runs_iff lab current_lab labResolved timely_labResolved).mpr hkeeps⟩

/-- The alert that fires again is stored with the old acknowledgement. -/
theorem not_current_of_refired :
    Meets AlertWrite.apply AlertWrite.Timely lab (allWrites lab labRefired) ∧
      ¬ Current (runFrom AlertWrite.apply lab (allWrites lab labRefired)).alerts := by
  refine ⟨timely_labRefired, fun h => ?_⟩
  obtain ⟨t, ht, hle⟩ := h 1 _ rfl rfl _ rfl
  obtain rfl := Option.some.inj ht
  exact absurd hle (by decide)

end DevSecOpsPlatform.AlertIncidents
