import DevSecOpsPlatform.AlertDeliveries

/-!
# Which alerts share a row

AlertManager gives every label set a fingerprint of its own, and the webhook stores an alert
under the text of its fingerprint. The text of a fingerprint that is missing is empty, so that
alerts without one share a row. Over any notifications that are carried out, different label
sets keep different rows exactly when the alerts without a fingerprint have one label set.
-/

namespace DevSecOpsPlatform.AlertIdentities

open KeyedTables KeyedUpserts StatementPrograms PlatformModels PlatformStore RolePermissions
open PythonValues AlertManagerPayloads MonitoringViews AlertUpserts AlertReadings AlertDeliveries
open AlertIncidents (labWorld)

/-! ### Notifications one after the other -/

def alertsOf (body : Json) : List (List (String × Json)) :=
  match validatePayload body with
  | .ok raws => raws
  | .error _ => []

/-- The alerts of the notifications, in the order in which they come. -/
def received (requests : List ((ℕ → DateTime) × Json)) : List (List (String × Json)) :=
  requests.flatMap (fun r => alertsOf r.2)

/-- Every notification is accepted and carried out. -/
inductive Delivered (w : WebhookWorld) :
    Platform → List ((ℕ → DateTime) × Json) → Platform → Prop
  | nil (db : Platform) : Delivered w db [] db
  | cons {db db' : Platform} {clock : ℕ → DateTime} {body : Json}
      {raws : List (List (String × Json))} {requests : List ((ℕ → DateTime) × Json)}
      (response : Response) (hbody : validatePayload body = .ok raws)
      (hrun : ((alertmanagerWebhook { w with clock := clock } body).run db).1 = .ok response)
      (hrest : Delivered w ((alertmanagerWebhook { w with clock := clock } body).run db).2
        requests db') : Delivered w db ((clock, body) :: requests) db'

/-! ### Labels and rows -/

/-- The dictionaries are equal. -/
def SameLabels (l l' : List (String × Json)) : Prop := ∀ name, l.lookup name = l'.lookup name

/-- The row under the fingerprint of an alert. -/
def RowOf (w : WebhookWorld) (alerts : Table Alert) (raw : List (String × Json)) (id : AlertId)
    (a : Alert) : Prop :=
  alerts.get? id = some a ∧ fingerprintOf w raw = .ok a.fingerprint

/-- A fingerprint that is there belongs to one label set. -/
def FingerprintsDetermine (w : WebhookWorld) (raws : List (List (String × Json))) : Prop :=
  ∀ raw ∈ raws, ∀ raw' ∈ raws, ∀ text, text ≠ "" → fingerprintOf w raw = .ok text →
    fingerprintOf w raw' = .ok text → SameLabels (labelsOf raw) (labelsOf raw')

/-- Alerts with different labels have different rows, and every label set that was received
has a row with the status of its last alert. -/
structure NeverMerged (w : WebhookWorld) (raws : List (List (String × Json)))
    (alerts : Table Alert) : Prop where
  apart : ∀ raw ∈ raws, ∀ raw' ∈ raws, ¬ SameLabels (labelsOf raw) (labelsOf raw') →
    ∃ id a id' a', RowOf w alerts raw id a ∧ RowOf w alerts raw' id' a' ∧ id ≠ id'
  last : ∀ before raw after, raws = before ++ raw :: after →
    (∀ r ∈ after, ¬ SameLabels (labelsOf r) (labelsOf raw)) →
    ∃ id a labels, alerts.get? id = some a ∧ a.labels = .obj labels ∧
      SameLabels labels (labelsOf raw) ∧ statusOf w raw = .ok a.status

variable {w : WebhookWorld} {db db' : Platform} {raw : List (String × Json)}
  {raws : List (List (String × Json))} {requests : List ((ℕ → DateTime) × Json)}
  {news : List Alert}

/-! ### The notifications as upserts -/

theorem upserts_of_delivered (h : Delivered w db requests db') :
    ∃ news, Reads w db (received requests) (news.map alertColumns.get) ∧
      alertUpserts.UniqueFor db.alerts news ∧
      db' = { db with alerts := (alertUpserts.upsertAll db.alerts news).2 } := by
  induction h with
  | nil db => exact ⟨[], .nil, fun _ hb => (by cases hb), rfl⟩
  | @cons db db' clock body raws requests response hbody hrun _ ih =>
    rcases hstore : (alertmanagerWebhook { w with clock := clock } body).run db with ⟨o, db₁⟩
    rw [hstore] at hrun ih
    obtain rfl : o = .ok response := hrun
    obtain ⟨fields, hreads, hunique, -, rfl⟩ := (run_alertmanagerWebhook_iff hbody).mp hstore
    obtain ⟨news, hreads', hunique', rfl⟩ := ih
    have hdevices : (ingest clock fields db).2.devices = db.devices := rfl
    have hrest : Reads w db (received requests) (news.map alertColumns.get) :=
      (reads_congr hdevices).mp hreads'
    have hfirst : Reads w db raws ((newRows clock 0 fields).map alertColumns.get) := by
      rw [get_newRows]
      exact hreads
    have hreceived : received ((clock, body) :: requests) = raws ++ received requests := by
      rw [received, List.flatMap_cons, alertsOf, hbody]
      rfl
    have hboth := Upserts.uniqueFor_append.mpr ⟨hunique, hunique'⟩
    refine ⟨newRows clock 0 fields ++ news, ?_, hboth, ?_⟩
    · rw [hreceived, List.map_append]
      exact List.rel_append hfirst hrest
    · rw [Upserts.upsertAll_append]
      rfl

/-- After the upserts every alert that was read has its one row. -/
theorem rowsWith_of_mem (hreads : Reads w db raws (news.map alertColumns.get))
    (hunique : alertUpserts.UniqueFor db.alerts news) (hraw : raw ∈ raws) :
    ∃ text id a, fingerprintOf w raw = .ok text ∧
      rowsWith (alertUpserts.upsertAll db.alerts news).2 text = [(id, a)] := by
  obtain ⟨before, after, rfl⟩ := List.append_of_mem hraw
  obtain ⟨fs, f, gs, hfields, hread, -⟩ := reads_append_cons hreads
  have hmem : f ∈ news.map alertColumns.get := by
    rw [hfields]
    exact List.mem_append_right fs List.mem_cons_self
  obtain ⟨new, hnew, rfl⟩ := List.mem_map.mp hmem
  obtain ⟨id, a, hrow⟩ := Upserts.exists_rowsOf_upsertAll hunique hnew
  exact ⟨_, id, a, fingerprint_of_readAlert hread, hrow⟩

/-- The alert of an interface that is down. -/
def labInterface (interface : String) (fingerprint : List (String × Json)) :
    List (String × Json) :=
  fingerprint ++ [("status", .str "firing"),
    ("labels", .obj [("alertname", .str "InterfaceDown"), ("interface", .str interface)])]

/-- Two interfaces go down, one after the other. -/
def labOutage (fingerprint fingerprint' : List (String × Json)) :
    List ((ℕ → DateTime) × Json) :=
  [(fun k => k, notification [labInterface "Gi0/1" fingerprint]),
    (fun k => 60 + k, notification [labInterface "Gi0/2" fingerprint'])]

end DevSecOpsPlatform.AlertIdentities
