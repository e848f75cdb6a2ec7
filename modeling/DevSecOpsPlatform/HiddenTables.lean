import DevSecOpsPlatform.BlindPrograms
import DevSecOpsPlatform.OperationStatements

/-!
# Statements that do not see a part of the store

`hide` takes a part of the store away. A statement whose checks, whose keys and whose rows
are those of the store without that part does not see it, and neither does what is made of
such statements.
-/

namespace DevSecOpsPlatform.HiddenTables

open KeyedTables StatementPrograms PlatformModels PlatformStore RolePermissions PythonValues
open PlatformSerializers MonitoringViews PlatformOperations OperationStatements

/-- `hide` takes away some of the concealed tables. -/
structure Hides (hide : Platform → Platform) : Prop where
  again : ∀ db, hide (hide db) = hide db
  concealed : ∀ db, conceal (hide db) = conceal db

theorem hides_conceal : Hides conceal := ⟨fun _ => rfl, fun _ => rfl⟩

variable {hide : Platform → Platform}

theorem Hides.users (hh : Hides hide) (db : Platform) : (hide db).users = db.users := by
  have h := congrArg Platform.users (hh.concealed db)
  exact h

theorem Hides.devices (hh : Hides hide) (db : Platform) : (hide db).devices = db.devices := by
  have h := congrArg Platform.devices (hh.concealed db)
  exact h

theorem Hides.alerts (hh : Hides hide) (db : Platform) : (hide db).alerts = db.alerts := by
  have h := congrArg Platform.alerts (hh.concealed db)
  exact h

/-- What is computed from the store without the hidden part is the same for stores that
differ in that only. -/
theorem eq_of_hide {α : Type} {f : Platform → α} (h : ∀ db, f (hide db) = f db)
    {s t : Platform} (hview : hide t = hide s) : f t = f s := by
  rw [← h t, hview, h s]

theorem sameResult_of_hide {α : Type} {f : Platform → Except Exn (α × Platform)}
    (h : ∀ db, Program.SameResult hide (f (hide db)) (f db)) {s t : Platform}
    (hview : hide t = hide s) : Program.SameResult hide (f t) (f s) := by
  have ht := (h t).symm
  rw [hview] at ht
  exact ht.trans (h s)

theorem blind_statement {α : Type} {f : Platform → Except Exn (α × Platform)}
    (h : ∀ db, Program.SameResult hide (f (hide db)) (f db)) :
    (Program.statement f).Blind hide :=
  Program.blind_statement fun _ _ hview => sameResult_of_hide h hview

theorem blind_statement_bind {α β γ : Type} {f : Platform → Except Exn (α × Platform)}
    {g : α → γ} {q : γ → Statement β} (hq : ∀ c, (q c).Blind hide)
    (h : ∀ db, Program.SameResult hide ((f (hide db)).map fun r => (g r.1, r.2))
      ((f db).map fun r => (g r.1, r.2))) :
    (Program.statement f >>= fun a => q (g a)).Blind hide :=
  Program.blind_statement_bind hq fun _ _ hview =>
    sameResult_of_hide (f := fun db => (f db).map fun r => (g r.1, r.2)) h hview

theorem blind_execute {w : Platform → Platform} (h : ∀ db, hide (w (hide db)) = hide (w db)) :
    (Program.execute w : Statement Unit).Blind hide :=
  Program.blind_execute fun _ _ hview => eq_of_hide (f := fun db => hide (w db)) h hview

theorem blind_query {α : Type} {f : Platform → α} (h : ∀ db, f (hide db) = f db) :
    (Program.query f : Statement α).Blind hide :=
  Program.blind_query fun _ _ hview => eq_of_hide h hview

/-- What looks up without the concealed tables answers the same when some of these are
hidden. -/
theorem Hides.sameResult (hh : Hides hide) {α : Type} {f : Platform → Except Exn (α × Platform)}
    (h : LooksUp f) (db : Platform) : Program.SameResult hide (f (hide db)) (f db) := by
  have hanswers : (f (hide db)).map Prod.fst = (f db).map Prod.fst := by
    rw [← h.answers (hide db), hh.concealed, h.answers]
  cases hc : f (hide db) with
  | error e =>
    cases hdb : f db with
    | error e' =>
      rw [hc, hdb] at hanswers
      exact Except.error.inj hanswers
    | ok r =>
      rw [hc, hdb] at hanswers
      cases hanswers
  | ok r =>
    cases hdb : f db with
    | error e' =>
      rw [hc, hdb] at hanswers
      cases hanswers
    | ok r' =>
      rw [hc, hdb] at hanswers
      refine ⟨Except.ok.inj hanswers, ?_⟩
      rw [h.keeps _ _ hc, h.keeps _ _ hdb, hh.again]

theorem Hides.blind_lookUp (hh : Hides hide) {α : Type}
    {f : Platform → Except Exn (α × Platform)} (h : LooksUp f) :
    (Program.statement f).Blind hide := blind_statement (hh.sameResult h)

/-- What is behind a gate goes on for the caller. -/
theorem Hides.blind_permit_bind (hh : Hides hide) {β : Type} {allows : Option RequestUser → Bool}
    {caller : Option UserId} {f : RequestUser → Statement β}
    (h : ∀ u, caller = some u.id → (f u).Blind hide) :
    (permit allows caller >>= f).Blind hide := by
  refine Program.blind_statement_bind_of_ok (fun db u db' hrun => ?_) fun s t hview => ?_
  · refine h u ?_
    cases ha : authenticate caller db with
    | none => simp [ha] at hrun
    | some u' =>
      cases hallows : allows (some u') with
      | false => simp [ha, hallows] at hrun
      | true =>
        simp only [ha, hallows, if_true, Except.ok.injEq, Prod.mk.injEq] at hrun
        exact hrun.1 ▸ caller_of_authenticate ha
  · exact sameResult_of_hide (hh.sameResult (looksUp_permit allows caller)) hview

theorem blind_insertRow {ok : Platform → Except Exn Unit} {next : Platform → ℕ}
    {set : Platform → Platform} (hok : ∀ db, ok (hide db) = ok db)
    (hnext : ∀ db, next (hide db) = next db)
    (hset : ∀ db, hide (set (hide db)) = hide (set db)) :
    (insertRow ok next set).Blind hide := by
  refine blind_statement fun db => ?_
  rw [hok]
  cases ok db with
  | error e => exact rfl
  | ok u => exact ⟨hnext db, hset db⟩

theorem blind_saveFields {α : Type} {rows : Platform → Table α}
    {setRows : Platform → Table α → Platform} {id : ℕ} {set : α → α}
    (hrows : ∀ db, rows (hide db) = rows db)
    (hset : ∀ db t, hide (setRows (hide db) t) = hide (setRows db t)) :
    (saveFields rows setRows id set).Blind hide := by
  refine blind_statement fun db => ?_
  rw [hrows]
  cases (rows db).get? id with
  | none => exact rfl
  | some a => exact ⟨rfl, hset db _⟩

theorem blind_saveRow {α : Type} {rows : Platform → Table α}
    {setRows : Platform → Table α → Platform} {ok : Platform → Except Exn Unit} {id : ℕ}
    {a added : α} (hok : ∀ db, ok (hide db) = ok db) (hrows : ∀ db, rows (hide db) = rows db)
    (hset : ∀ db t, hide (setRows (hide db) t) = hide (setRows db t)) :
    (saveRow rows setRows ok id a added).Blind hide := by
  refine blind_statement fun db => ?_
  rw [hok, hrows]
  cases ok db with
  | error e => exact rfl
  | ok u =>
    cases (rows db).get? id with
    | none => exact ⟨rfl, hset db _⟩
    | some old => exact ⟨rfl, hset db _⟩

/-- An alert is answered with the hostname of its device and with nothing else of the store. -/
theorem Hides.blind_getAlert (hh : Hides hide) {β : Type} (id : AlertId)
    {f : Alert → (Alert → Json) → Statement β} (hf : ∀ a data, (f a data).Blind hide) :
    (MonitoringViews.getAlert id >>= fun r => f r.1 (alertData r.2 id)).Blind hide := by
  refine blind_statement_bind (g := fun r : Alert × Platform => (r.1, alertData r.2 id))
    (q := fun r => f r.1 r.2) (fun r => hf r.1 r.2) fun db => ?_
  have hdata : alertData (hide db) id = alertData db id := by
    funext a
    rw [alertData, hostnameJson, hh.devices, alertData, hostnameJson]
  dsimp only
  rw [hh.alerts]
  cases db.alerts.get? id with
  | none => exact rfl
  | some a => exact ⟨Prod.ext rfl hdata, hh.again db⟩

theorem Hides.blind_updateOrCreate (hh : Hides hide)
    (hset : ∀ db t, hide { hide db with alerts := t } = hide { db with alerts := t })
    (w : WebhookWorld) (now : DateTime) (fingerprint : Json) (d : AlertDefaults) :
    (Alert.updateOrCreate w now fingerprint d).Blind hide := by
  refine blind_statement fun db => ?_
  rw [hh.alerts]
  cases charColumn w.pyStr 64 fingerprint with
  | error e => exact rfl
  | ok f =>
    simp only [ok_bind]
    cases require (decide ((rowsWith db.alerts f).length ≤ 1))
        (multipleAlertsError (rowsWith db.alerts f).length) with
    | error e => exact rfl
    | ok u =>
      simp only [ok_bind]
      cases d.row w.pyStr now f with
      | error e => exact rfl
      | ok row =>
        have hok : refersToOrNull (hide db).devices row.device =
            refersToOrNull db.devices row.device := by rw [hh.devices]
        simp only [ok_bind]
        rw [hok]
        cases require (refersToOrNull db.devices row.device) foreignKeyError with
        | error e => exact rfl
        | ok u => exact ⟨rfl, hset db _⟩

/-- A new audit entry whose key nothing uses. -/
theorem Hides.blind_createLog (hh : Hides hide)
    (hset : ∀ db a, hide { hide db with auditLogs := (hide db).auditLogs.insert a } =
      hide { db with auditLogs := db.auditLogs.insert a }) {β : Type} (a : AuditLog)
    {q : Statement β} (hq : q.Blind hide) : (AuditLog.create a >>= fun _ => q).Blind hide := by
  refine blind_statement_bind (g := fun _ => ()) (q := fun _ => q) (fun _ => hq) fun db => ?_
  have hok : (refersToOrNull (hide db).users a.actor && refersToOrNull (hide db).devices a.device) =
      (refersToOrNull db.users a.actor && refersToOrNull db.devices a.device) := by
    rw [hh.users, hh.devices]
  dsimp only
  rw [hok]
  cases (do
      require (!a.detail.hasNul) nulJsonError
      require (refersToOrNull db.users a.actor && refersToOrNull db.devices a.device)
        foreignKeyError : Except Exn Unit) with
  | error e => exact rfl
  | ok u => exact ⟨rfl, hset db a⟩

end DevSecOpsPlatform.HiddenTables
