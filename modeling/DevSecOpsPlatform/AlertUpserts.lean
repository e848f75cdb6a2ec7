import DevSecOpsPlatform.KeyedUpserts
import DevSecOpsPlatform.MonitoringViews

/-!
# What the alert writers do to the rows of a fingerprint

The webhook's upsert is one of the columns that it writes, keyed by the fingerprint. It leaves
exactly one row under its fingerprint and the rows of every other fingerprint as they are. One
round of the webhook's loop either changes nothing or upserts one row.
-/

namespace DevSecOpsPlatform.AlertUpserts

open KeyedTables KeyedUpserts StatementPrograms PlatformModels PlatformStore PythonValues
open MonitoringViews

/-! ### The columns that the webhook writes -/

structure AlertFields where
  fingerprint : String
  alertName : String
  severity : AlertSeverity
  status : String
  device : Option DeviceId
  instanceLabel : String
  labels : Json
  annotations : Json
  startsAt : Option DateTime
  endsAt : Option DateTime
  generatorUrl : String

/-- The row of an alert that is new. -/
def AlertFields.row (f : AlertFields) (now : DateTime) : Alert where
  alertName := f.alertName
  severity := f.severity
  status := f.status
  device := f.device
  instanceLabel := f.instanceLabel
  labels := f.labels
  annotations := f.annotations
  startsAt := f.startsAt
  endsAt := f.endsAt
  generatorUrl := f.generatorUrl
  fingerprint := f.fingerprint
  receivedAt := now

/-- The webhook keeps the time of arrival and the acknowledgement of a row. -/
def alertColumns : Columns Alert AlertFields String where
  get a := {
    fingerprint := a.fingerprint
    alertName := a.alertName
    severity := a.severity
    status := a.status
    device := a.device
    instanceLabel := a.instanceLabel
    labels := a.labels
    annotations := a.annotations
    startsAt := a.startsAt
    endsAt := a.endsAt
    generatorUrl := a.generatorUrl }
  put f a := overwrite (f.row a.receivedAt) a
  key := AlertFields.fingerprint
  get_put _ _ := rfl
  put_get _ := rfl
  put_put _ _ _ := rfl

abbrev alertUpserts : Upserts Alert Alert String := alertColumns.upserts

theorem rowsOf_alertUpserts (alerts : Table Alert) (f : String) :
    alertUpserts.rowsOf alerts f = rowsWith alerts f := rfl

theorem upsert_alertUpserts (alerts : Table Alert) (row : Alert) :
    alertUpserts.upsert alerts row = upsert alerts row := by
  rw [Upserts.upsert, upsert]
  have hrows : alertUpserts.rowsOf alerts (alertUpserts.keyOf row) =
      rowsWith alerts row.fingerprint := rfl
  rw [hrows]
  cases rowsWith alerts row.fingerprint <;> rfl

@[simp] theorem get_row (f : AlertFields) (now : DateTime) : alertColumns.get (f.row now) = f := rfl

/-! ### The rows of a fingerprint -/

theorem mem_rowsWith {alerts : Table Alert} {f : String} {id : AlertId} {a : Alert} :
    (id, a) ∈ rowsWith alerts f ↔ alerts.get? id = some a ∧ a.fingerprint = f := by
  simp [rowsWith, Table.mem_select]

/-- The row that an upsert leaves: the new one, or the old one overwritten. -/
def IsUpsertOf (row result : Alert) : Prop := result = row ∨ ∃ old, result = overwrite row old

/-- The update an upsert makes when its fingerprint has a row. -/
theorem upsert_cons {alerts : Table Alert} {row old : Alert} {id : AlertId}
    (h : rowsWith alerts row.fingerprint = [(id, old)]) :
    (upsert alerts row).2 = alerts.update id (overwrite row) := by
  simp [upsert, h]

theorem upsert_nil {alerts : Table Alert} {row : Alert}
    (h : rowsWith alerts row.fingerprint = []) : (upsert alerts row).2 = alerts.insert row := by
  simp [upsert, h]

theorem eq_singleton_of_mem {alerts : Table Alert} {f : String} {id : AlertId} {a : Alert}
    (h : (rowsWith alerts f).length ≤ 1) (ha : (id, a) ∈ rowsWith alerts f) :
    rowsWith alerts f = [(id, a)] :=
  Upserts.rowsOf_eq_singleton (u := alertUpserts) h ha

theorem rows_cases {alerts : Table Alert} {f : String} (h : (rowsWith alerts f).length ≤ 1) :
    rowsWith alerts f = [] ∨ ∃ id old, rowsWith alerts f = [(id, old)] := by
  by_cases hnil : rowsWith alerts f = []
  · exact .inl hnil
  · obtain ⟨⟨id, old⟩, hold⟩ := List.exists_mem_of_ne_nil _ hnil
    exact .inr ⟨id, old, eq_singleton_of_mem h hold⟩

theorem eq_of_mem_rowsWith {alerts : Table Alert} {f : String}
    (h : (rowsWith alerts f).length ≤ 1) {r r' : AlertId × Alert} (hr : r ∈ rowsWith alerts f)
    (hr' : r' ∈ rowsWith alerts f) : r = r' := by
  rw [eq_singleton_of_mem h hr', List.mem_singleton] at hr
  exact hr

theorem upsert_of_mem {alerts : Table Alert} {row a : Alert} {id : AlertId}
    (h : (rowsWith alerts row.fingerprint).length ≤ 1)
    (ha : (id, a) ∈ rowsWith alerts row.fingerprint) :
    (upsert alerts row).2 = alerts.update id (overwrite row) :=
  upsert_cons (eq_singleton_of_mem h ha)

/-- An upsert leaves the row of its fingerprint under its key. -/
theorem mem_rowsWith_upsert {alerts : Table Alert} {row a : Alert} {id : AlertId}
    (h : (rowsWith alerts row.fingerprint).length ≤ 1)
    (ha : (id, a) ∈ rowsWith alerts row.fingerprint) :
    ∃ b, (id, b) ∈ rowsWith (upsert alerts row).2 row.fingerprint := by
  obtain ⟨hget, hfingerprint⟩ := mem_rowsWith.mp ha
  have hrow := Upserts.get?_upsert_of_some (u := alertUpserts) (b := row) h hget
  rw [upsert_alertUpserts] at hrow
  exact ⟨_, mem_rowsWith.mpr ⟨hrow, (Upserts.key_touch alertUpserts a row).trans hfingerprint⟩⟩

/-- Rewriting the one row of a fingerprint, under that fingerprint. -/
theorem rowsWith_update_self {alerts : Table Alert} {f : String} {id : AlertId} {a : Alert}
    {g : Alert → Alert} (h : rowsWith alerts f = [(id, a)]) (hg : (g a).fingerprint = f) :
    rowsWith (alerts.update id g) f = [(id, g a)] := by
  have hmem : (id, a) ∈ rowsWith alerts f := by simp [h]
  obtain ⟨hget, -⟩ := mem_rowsWith.mp hmem
  rw [rowsWith, Table.update, Table.select_mapRows_key hget, if_pos rfl]
  intro k b hb
  by_cases hk : k = id
  · subst hk
    obtain rfl := Option.some.inj (hget.symm.trans hb)
    simp [hg]
  · have hne : b.fingerprint ≠ f := by
      intro hf
      have hother := mem_rowsWith.mpr ⟨hb, hf⟩
      rw [h, List.mem_singleton] at hother
      exact hk (Prod.mk.inj hother).1
    simp [hk, hne]

/-- Rewriting a row of other fingerprints. -/
theorem rowsWith_update_of_ne {alerts : Table Alert} {f : String} {id : AlertId} {a : Alert}
    {g : Alert → Alert} (hget : alerts.get? id = some a) (ha : a.fingerprint ≠ f)
    (hg : (g a).fingerprint ≠ f) : rowsWith (alerts.update id g) f = rowsWith alerts f := by
  rw [rowsWith, Table.update, Table.select_mapRows_eq_self]
  · rfl
  · intro k b hb
    by_cases hk : k = id
    · subst hk
      obtain rfl := Option.some.inj (hget.symm.trans hb)
      simp [ha, hg]
    · simp [hk]
  · intro k b hb hsel
    by_cases hk : k = id
    · subst hk
      obtain rfl := Option.some.inj (hget.symm.trans hb)
      exact absurd (by simpa using hsel) ha
    · simp [hk]

theorem rowsWith_insert_of_ne {alerts : Table Alert} {f : String} {row : Alert}
    (hf : row.fingerprint ≠ f) : rowsWith (alerts.insert row) f = rowsWith alerts f := by
  rw [rowsWith, Table.select_insert]
  simp [rowsWith, hf]

/-- After an upsert its fingerprint has one row. -/
theorem rowsWith_upsert {alerts : Table Alert} {row : Alert}
    (h : (rowsWith alerts row.fingerprint).length ≤ 1) :
    ∃ id result, rowsWith (upsert alerts row).2 row.fingerprint = [(id, result)] ∧
      IsUpsertOf row result := by
  rw [← upsert_alertUpserts]
  exact Upserts.rowsOf_upsert_self (u := alertUpserts) h

/-- An upsert leaves the rows of every other fingerprint. -/
theorem rowsWith_upsert_of_ne {alerts : Table Alert} {row : Alert} {f : String}
    (h : (rowsWith alerts row.fingerprint).length ≤ 1) (hf : f ≠ row.fingerprint) :
    rowsWith (upsert alerts row).2 f = rowsWith alerts f := by
  rw [← upsert_alertUpserts]
  exact Upserts.rowsOf_upsert_of_ne (u := alertUpserts) h hf

/-- An upsert leaves the rows that it does not put under its fingerprint. -/
theorem get?_upsert_of_not_mem {alerts : Table Alert} {row : Alert} {id : AlertId}
    (h : ∀ b, (id, b) ∉ rowsWith (upsert alerts row).2 row.fingerprint) :
    (upsert alerts row).2.get? id = alerts.get? id := by
  unfold upsert at h ⊢
  split
  · rename_i hrows
    rw [hrows] at h
    rw [Table.get?_insert, if_neg]
    rintro rfl
    exact h row (mem_rowsWith.mpr ⟨Table.get?_insert_nextId _ _, rfl⟩)
  · rename_i id' old rest hrows
    rw [hrows] at h
    rw [Table.get?_update, if_neg]
    rintro rfl
    have hold := (mem_rowsWith.mp (hrows ▸ List.mem_cons_self : (id, old) ∈ _)).1
    refine h (overwrite row old) (mem_rowsWith.mpr ⟨?_, rfl⟩)
    rw [Table.get?_update_self, hold]
    rfl

/-! ### The statement -/

/-- The row of an upsert has its fingerprint and is not acknowledged. -/
theorem row_columns {pyStr : Json → String} {now : DateTime} {f : String}
    {d : AlertDefaults} {row : Alert} (h : d.row pyStr now f = .ok row) :
    row.fingerprint = f ∧ row.acknowledged = false ∧ row.acknowledgedAt = none := by
  obtain ⟨_, -, h⟩ := ok_of_bind h
  obtain ⟨_, -, h⟩ := ok_of_bind h
  obtain ⟨_, -, h⟩ := ok_of_bind h
  obtain ⟨_, -, h⟩ := ok_of_bind h
  obtain ⟨_, -, h⟩ := ok_of_bind h
  obtain ⟨_, -, h⟩ := ok_of_bind h
  obtain rfl := Except.ok.inj h
  exact ⟨rfl, rfl, rfl⟩

/-- The upsert goes through when its columns take their values, at most one row has the
fingerprint, and the device is there. -/
theorem run_updateOrCreate {w : WebhookWorld} {now : DateTime} {fingerprint : Json}
    {d : AlertDefaults} {db : Platform} {f : String} {row : Alert}
    (hf : charColumn w.pyStr 64 fingerprint = .ok f) (hone : (rowsWith db.alerts f).length ≤ 1)
    (hrow : d.row w.pyStr now f = .ok row) (hdevice : refersToOrNull db.devices row.device = true) :
    (Alert.updateOrCreate w now fingerprint d).run db =
      (.ok (upsert db.alerts row).1, { db with alerts := (upsert db.alerts row).2 }) := by
  rw [Alert.updateOrCreate, Program.run_statement]
  simp only [hf, ok_bind, decide_eq_true hone, require_true, hrow, hdevice]
  rfl

/-- The upsert raises and changes nothing, or it went through. -/
theorem updateOrCreate_cases (w : WebhookWorld) (now : DateTime) (fingerprint : Json)
    (d : AlertDefaults) (db : Platform) :
    (∃ e, (Alert.updateOrCreate w now fingerprint d).run db = (.error e, db)) ∨
      ∃ f row, charColumn w.pyStr 64 fingerprint = .ok f ∧ (rowsWith db.alerts f).length ≤ 1 ∧
        d.row w.pyStr now f = .ok row ∧
        (Alert.updateOrCreate w now fingerprint d).run db =
          (.ok (upsert db.alerts row).1, { db with alerts := (upsert db.alerts row).2 }) := by
  rw [Alert.updateOrCreate, Program.run_statement]
  split
  · rename_i created db' hok
    obtain ⟨f, hf, hok⟩ := ok_of_bind hok
    obtain ⟨_, hone, hok⟩ := ok_of_bind hok
    obtain ⟨row, hrow, hok⟩ := ok_of_bind hok
    obtain ⟨_, -, hok⟩ := ok_of_bind hok
    obtain ⟨rfl, rfl⟩ := Prod.mk.inj (Except.ok.inj hok)
    exact .inr ⟨f, row, hf, of_decide_eq_true (require_eq_ok hone), hrow, rfl⟩
  · rename_i e _
    exact .inl ⟨e, rfl⟩

theorem writes_firstDevice {R : Platform → Platform → Prop} [Std.Refl R] (ip : String) :
    (firstDevice ip).Writes R := by
  refine Program.writes_statement (fun db d db' h => ?_)
  split at h
  · exact (Prod.mk.inj (Except.ok.inj h)).2 ▸ refl db
  · split at h
    · exact (Prod.mk.inj (Except.ok.inj h)).2 ▸ refl db
    · cases h

theorem run_firstDevice_store (ip : String) (db : Platform) :
    (firstDevice ip).run db = (((firstDevice ip).run db).1, db) := by
  have hstore : db = ((firstDevice ip).run db).2 := (writes_firstDevice (R := Eq) ip).run db
  exact Prod.ext rfl hstore.symm

/-- The statements by which the webhook writes are upserts. -/
theorem writes_alertmanagerWebhook {R : Platform → Platform → Prop} [Std.Refl R]
    (hupsert : ∀ (w : WebhookWorld) (now : DateTime) (f : Json) (d : AlertDefaults),
      (Alert.updateOrCreate w now f d).Writes R) (w : WebhookWorld) (body : Json) :
    (alertmanagerWebhook w body).Writes R := by
  have hloop (k : ℕ) (raws : List (List (String × Json))) : (processAlerts w k raws).Writes R := by
    induction raws generalizing k with
    | nil => trivial
    | cons raw raws ih =>
      refine Program.Writes.bind ?_ (fun _ => Program.Writes.bind (ih (k + 1)) fun _ => trivial)
      refine (Program.writes_ofExcept _).bind fun input => ?_
      refine (writes_firstDevice input.ip).bind fun device => ?_
      exact (Program.writes_ofExcept _).bind fun d => hupsert w _ _ d
  unfold alertmanagerWebhook
  split
  · trivial
  · exact (hloop 0 _).bind fun _ => trivial

end DevSecOpsPlatform.AlertUpserts
