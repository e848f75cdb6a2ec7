import DevSecOpsPlatform.AlertReadings

/-!
# What a delivery of a notification leaves

A notification that the webhook carries out is a sequence of upserts. The last alert of a
fingerprint stands in its row, the rows keep their times of arrival and their
acknowledgements, and a second delivery of the same notification changes nothing.
Notifications about other fingerprints may come in any order.
-/

namespace DevSecOpsPlatform.AlertDeliveries

open KeyedTables KeyedUpserts StatementPrograms PlatformModels PlatformStore RolePermissions
open PythonValues AlertManagerPayloads MonitoringViews AlertUpserts AlertReadings
open AlertIncidents (labWorld)

/-- The answer to a notification that was carried out. -/
def ingested (received created : ℕ) : Response :=
  ⟨200, .obj [("received", .nat received), ("created", .nat created)]⟩

/-- The upserts of a payload. -/
def ingest (clock : ℕ → DateTime) (fields : List AlertFields) (db : Platform) : ℕ × Platform :=
  let (created, alerts) := alertUpserts.upsertAll db.alerts (newRows clock 0 fields)
  (created, { db with alerts := alerts })

/-- The columns that the webhook wrote in the rows of a fingerprint. -/
def fieldsAt (db : Platform) (fingerprint : String) : List AlertFields :=
  (rowsWith db.alerts fingerprint).map (fun r => alertColumns.get r.2)

/-- The fingerprints of a payload. -/
def fingerprints (w : WebhookWorld) (raws : List (List (String × Json))) : List String :=
  raws.filterMap (fun raw => (fingerprintOf w raw).toOption)

/-- The rows after the alerts of a payload, of which `created` rows are new. -/
structure LastWriteWins (w : WebhookWorld) (raws : List (List (String × Json)))
    (db db' : Platform) (created : ℕ) : Prop where
  last : ∀ before raw after, raws = before ++ raw :: after →
    (∀ r ∈ after, fingerprintOf w r ≠ fingerprintOf w raw) →
    ∃ f id a, readAlert w db raw = .ok f ∧ rowsWith db'.alerts f.fingerprint = [(id, a)] ∧
      alertColumns.get a = f
  other : ∀ fingerprint, fingerprint ∉ fingerprints w raws →
    rowsWith db'.alerts fingerprint = rowsWith db.alerts fingerprint
  kept : ∀ id a, db.alerts.get? id = some a → ∃ a', db'.alerts.get? id = some a' ∧
    a'.fingerprint = a.fingerprint ∧ a'.receivedAt = a.receivedAt ∧
    a'.acknowledged = a.acknowledged ∧ a'.acknowledgedAt = a.acknowledgedAt
  growth : db'.alerts.rows.length = db.alerts.rows.length + created
  created : created = ((fingerprints w raws).toFinset.filter
    (fun fingerprint => rowsWith db.alerts fingerprint = [])).card
  rest : db' = { db with alerts := db'.alerts }

variable {w : WebhookWorld} {db db' : Platform} {raws : List (List (String × Json))}
  {fields : List AlertFields}

/-! ### A webhook request as upserts -/

/-- The webhook carries out a valid payload exactly when every alert can be read and finds at
most one row. -/
theorem run_alertmanagerWebhook_iff {body : Json} (hbody : validatePayload body = .ok raws)
    {response : Response} :
    (alertmanagerWebhook w body).run db = (.ok response, db') ↔
      ∃ fields, Reads w db raws fields ∧
        alertUpserts.UniqueFor db.alerts (newRows w.clock 0 fields) ∧
        response = ingested raws.length (ingest w.clock fields db).1 ∧
        db' = (ingest w.clock fields db).2 := by
  simp only [alertmanagerWebhook, hbody, Program.run_bind]
  constructor
  · intro h
    rcases hrun : (processAlerts w 0 raws).run db with ⟨o, t⟩
    rw [hrun] at h
    cases o with
    | error e => simp at h
    | ok created =>
      obtain ⟨hresponse, rfl⟩ := Prod.mk.inj h
      obtain ⟨fields, hreads, hunique, rfl, rfl⟩ := run_processAlerts_iff.mp hrun
      exact ⟨fields, hreads, hunique, (Except.ok.inj hresponse).symm, rfl⟩
  · rintro ⟨fields, hreads, hunique, rfl, rfl⟩
    rw [run_processAlerts_iff.mpr ⟨fields, hreads, hunique, rfl, rfl⟩]
    rfl

theorem fingerprints_of_reads (h : Reads w db raws fields) :
    fingerprints w raws = fields.map (·.fingerprint) := by
  induction h with
  | nil => rfl
  | @cons raw f raws fields hread _ ih =>
    have hfingerprint : (fingerprintOf w raw).toOption = some f.fingerprint := by
      rw [fingerprint_of_readAlert hread]
      rfl
    have hcons : fingerprints w (raw :: raws) = f.fingerprint :: fingerprints w raws :=
      List.filterMap_cons_some hfingerprint
    rw [hcons, ih, List.map_cons]

/-- What is read from the alerts before, at and after one. -/
theorem reads_append_cons {before after : List (List (String × Json))}
    {raw : List (String × Json)} (h : Reads w db (before ++ raw :: after) fields) :
    ∃ fs f gs, fields = fs ++ f :: gs ∧ readAlert w db raw = .ok f ∧ Reads w db after gs := by
  induction before generalizing fields with
  | nil =>
    cases h with
    | @cons _ f _ gs hread hafter => exact ⟨[], f, gs, rfl, hread, hafter⟩
  | cons b before ih =>
    cases h with
    | @cons _ g _ fields _ hrest =>
      obtain ⟨fs, f, gs, rfl, hread, hafter⟩ := ih hrest
      exact ⟨g :: fs, f, gs, rfl, hread, hafter⟩

theorem keyOf_newRows (clock : ℕ → DateTime) (k : ℕ) (fields : List AlertFields) :
    (newRows clock k fields).map alertUpserts.keyOf = fields.map (·.fingerprint) := by
  have hget := congrArg (List.map (·.fingerprint)) (get_newRows clock k fields)
  rw [List.map_map] at hget
  exact hget

theorem rest_rewrite (news : List Alert) (a : Alert) :
    (alertUpserts.rewrite news a).fingerprint = a.fingerprint ∧
      (alertUpserts.rewrite news a).receivedAt = a.receivedAt ∧
      (alertUpserts.rewrite news a).acknowledged = a.acknowledged ∧
      (alertUpserts.rewrite news a).acknowledgedAt = a.acknowledgedAt := by
  refine ⟨Upserts.key_rewrite (u := alertUpserts) news a, ?_⟩
  rw [Columns.rewrite_eq]
  cases last alertColumns.key (news.map alertColumns.get) (alertColumns.key (alertColumns.get a))
  · exact ⟨rfl, rfl, rfl⟩
  · exact ⟨rfl, rfl, rfl⟩

/-- The last alert of a fingerprint stands in its row. -/
theorem row_of_last {news : List Alert} (hreads : Reads w db raws (news.map alertColumns.get))
    (hunique : alertUpserts.UniqueFor db.alerts news)
    {before after : List (List (String × Json))} {raw : List (String × Json)}
    (hsplit : raws = before ++ raw :: after)
    (hafter : ∀ r ∈ after, fingerprintOf w r ≠ fingerprintOf w raw) :
    ∃ f id a, readAlert w db raw = .ok f ∧
      rowsWith (alertUpserts.upsertAll db.alerts news).2 f.fingerprint = [(id, a)] ∧
      alertColumns.get a = f := by
  obtain ⟨fs, f, gs, hfields, hread, hgs⟩ := reads_append_cons (hsplit ▸ hreads)
  have hne : ∀ g ∈ gs, alertColumns.key g ≠ alertColumns.key f := by
    intro g hg hkey
    have hmem : g.fingerprint ∈ fingerprints w after := by
      rw [fingerprints_of_reads hgs]
      exact List.mem_map_of_mem hg
    obtain ⟨r, hr, hfingerprint⟩ := List.mem_filterMap.mp hmem
    refine hafter r hr ?_
    rw [fingerprint_of_readAlert hread]
    cases hf : fingerprintOf w r with
    | error e => simp [hf, Except.toOption] at hfingerprint
    | ok text =>
      have htext : text = g.fingerprint := by simpa [hf, Except.toOption] using hfingerprint
      exact congrArg _ (htext.trans hkey)
  have hlast : last alertColumns.key (news.map alertColumns.get) f.fingerprint = some f := by
    rw [hfields]
    exact last_append_cons hne
  obtain ⟨id, a, hrow, hget⟩ := Columns.rowsOf_upsertAll_of_last hunique hlast
  exact ⟨f, id, a, hread, hrow, hget⟩

/-- The upserts of a payload: the last alert of a fingerprint stands. -/
theorem lastWriteWins_upsertAll (hreads : Reads w db raws fields)
    (hunique : alertUpserts.UniqueFor db.alerts (newRows w.clock 0 fields)) :
    LastWriteWins w raws db (ingest w.clock fields db).2 (ingest w.clock fields db).1 where
  last := by
    intro before raw after hsplit hafter
    have hread : Reads w db raws ((newRows w.clock 0 fields).map alertColumns.get) := by
      rw [get_newRows]
      exact hreads
    exact row_of_last hread hunique hsplit hafter
  other := by
    intro fingerprint hnot
    refine Upserts.rowsOf_upsertAll_of_absent (u := alertUpserts) hunique fun new hnew heq => ?_
    rw [fingerprints_of_reads hreads, ← keyOf_newRows w.clock 0 fields] at hnot
    exact hnot (heq ▸ List.mem_map_of_mem hnew)
  kept := by
    intro id a ha
    exact ⟨_, Upserts.get?_upsertAll_of_some (u := alertUpserts) hunique ha, rest_rewrite _ a⟩
  growth := Upserts.length_upsertAll _ _
  created := by
    have hcreated := Upserts.fst_upsertAll hunique
    rw [keyOf_newRows, ← fingerprints_of_reads hreads] at hcreated
    exact hcreated
  rest := rfl

/-- What is read depends on neither the time nor the alerts that are there. -/
theorem reads_ingest {clock clock' : ℕ → DateTime} {fs : List AlertFields} :
    Reads { w with clock := clock } (ingest clock' fs db).2 raws fields ↔
      Reads w db raws fields := by
  have hdevices : (ingest clock' fs db).2.devices = db.devices := rfl
  exact reads_congr (w := w) hdevices

theorem uniqueFor_clock {clock clock' : ℕ → DateTime} {alerts : Table Alert} :
    alertUpserts.UniqueFor alerts (newRows clock 0 fields) ↔
      alertUpserts.UniqueFor alerts (newRows clock' 0 fields) := by
  have hiff (clock : ℕ → DateTime) : alertUpserts.UniqueFor alerts (newRows clock 0 fields) ↔
      ∀ k ∈ fields.map (·.fingerprint), (alertUpserts.rowsOf alerts k).length ≤ 1 := by
    rw [← keyOf_newRows clock 0 fields, List.forall_mem_map]
    rfl
  rw [hiff clock, hiff clock']

/-! ### A second delivery -/

/-- The same payload once more, at other times, changes nothing. -/
theorem run_again {body : Json} (hbody : validatePayload body = .ok raws) {response : Response}
    (hrun : (alertmanagerWebhook w body).run db = (.ok response, db'))
    (clock : ℕ → DateTime) :
    (alertmanagerWebhook { w with clock := clock } body).run db' =
      (.ok (ingested raws.length 0), db') := by
  obtain ⟨fields, hreads, hunique, -, rfl⟩ := (run_alertmanagerWebhook_iff hbody).mp hrun
  have hsame : (newRows clock 0 fields).map alertColumns.get =
      (newRows w.clock 0 fields).map alertColumns.get := by
    rw [get_newRows, get_newRows]
  have hunique' : alertUpserts.UniqueFor (ingest w.clock fields db).2.alerts
      (newRows clock 0 fields) :=
    Upserts.uniqueFor_again hunique (Columns.keys_of_same hsame)
  have hagain : ingest clock fields (ingest w.clock fields db).2 =
      (0, (ingest w.clock fields db).2) := by
    have hupserts := Columns.upsertAll_same hunique hsame
    simp only [ingest]
    rw [hupserts]
  refine (run_alertmanagerWebhook_iff hbody).mpr
    ⟨fields, reads_ingest.mpr hreads, hunique', ?_, ?_⟩
  · rw [hagain]
  · rw [hagain]

/-! ### Two payloads -/

theorem fieldsAt_eq_view {fingerprint : String} (h : (rowsWith db.alerts fingerprint).length ≤ 1) :
    fieldsAt db fingerprint = (alertColumns.view db.alerts fingerprint).toList := by
  rcases rows_cases h with hnil | ⟨id, a, hrow⟩
  · have hview : alertColumns.view db.alerts fingerprint = none := by
      rw [Columns.view, rowsOf_alertUpserts, hnil]
      rfl
    rw [fieldsAt, hnil, hview]
    rfl
  · have hview : alertColumns.view db.alerts fingerprint = some (alertColumns.get a) :=
      Columns.view_of_singleton hrow
    rw [fieldsAt, hrow, hview]
    rfl

/-- Upserts of different fingerprints may come in any order. -/
theorem fieldsAt_ingest_comm {fields₂ : List AlertFields}
    (hkeys : ∀ f ∈ fields, ∀ g ∈ fields₂, f.fingerprint ≠ g.fingerprint)
    {clock clock₂ clock₃ clock₄ : ℕ → DateTime}
    (h : alertUpserts.UniqueFor db.alerts (newRows clock 0 fields))
    (h₂ : alertUpserts.UniqueFor (ingest clock fields db).2.alerts (newRows clock₂ 0 fields₂))
    (h₃ : alertUpserts.UniqueFor db.alerts (newRows clock₃ 0 fields₂))
    (h₄ : alertUpserts.UniqueFor (ingest clock₃ fields₂ db).2.alerts (newRows clock₄ 0 fields))
    (fingerprint : String) :
    fieldsAt (ingest clock₄ fields (ingest clock₃ fields₂ db).2).2 fingerprint =
      fieldsAt (ingest clock₂ fields₂ (ingest clock fields db).2).2 fingerprint := by
  by_cases hone : (rowsWith db.alerts fingerprint).length ≤ 1
  · have hview : alertColumns.view (ingest clock₄ fields (ingest clock₃ fields₂ db).2).2.alerts =
        alertColumns.view (ingest clock₂ fields₂ (ingest clock fields db).2).2.alerts := by
      have hleft := Columns.view_upsertAll h₄
      have hright := Columns.view_upsertAll h₂
      rw [get_newRows] at hleft hright
      refine hleft.trans (Eq.trans ?_ hright.symm)
      have hfirst := Columns.view_upsertAll h
      have hother := Columns.view_upsertAll h₃
      rw [get_newRows] at hfirst hother
      simp only [ingest]
      rw [hfirst, hother]
      exact (writeAll_comm _ hkeys).symm
    rw [fieldsAt_eq_view, fieldsAt_eq_view, hview]
    · exact Upserts.length_rowsOf_upsertAll h₂ (Upserts.length_rowsOf_upsertAll h hone)
    · exact Upserts.length_rowsOf_upsertAll h₄ (Upserts.length_rowsOf_upsertAll h₃ hone)
  · -- a fingerprint with several rows is in neither payload
    have habsent {news : List Alert} (h : alertUpserts.UniqueFor db.alerts news) :
        ∀ b ∈ news, alertUpserts.keyOf b ≠ fingerprint := by
      intro b hb heq
      exact hone (heq ▸ h b hb)
    have hleft := Upserts.rowsOf_upsertAll_of_absent h₄ (habsent (uniqueFor_clock.mp h))
    have hleft' := Upserts.rowsOf_upsertAll_of_absent h₃ (habsent h₃)
    have hright := Upserts.rowsOf_upsertAll_of_absent h₂ (habsent (uniqueFor_clock.mp h₃))
    have hright' := Upserts.rowsOf_upsertAll_of_absent h (habsent h)
    exact congrArg (List.map _) ((hleft.trans hleft').trans (hright.trans hright').symm)

/-- What is read from an alert has its fingerprint. -/
theorem exists_raw_of_reads (h : Reads w db raws fields) {f : AlertFields} (hf : f ∈ fields) :
    ∃ raw ∈ raws, fingerprintOf w raw = .ok f.fingerprint := by
  induction h with
  | nil => cases hf
  | @cons raw g raws fields hread _ ih =>
    rcases List.mem_cons.mp hf with rfl | hf
    · exact ⟨raw, List.mem_cons_self, fingerprint_of_readAlert hread⟩
    · obtain ⟨r, hr, hfingerprint⟩ := ih hf
      exact ⟨r, List.mem_cons_of_mem _ hr, hfingerprint⟩

/-- Two payloads about different fingerprints may come in any order. -/
theorem run_swapped {body body₂ : Json} {raws₂ : List (List (String × Json))}
    (hbody : validatePayload body = .ok raws) (hbody₂ : validatePayload body₂ = .ok raws₂)
    (hdisjoint : ∀ raw ∈ raws, ∀ raw₂ ∈ raws₂, fingerprintOf w raw ≠ fingerprintOf w raw₂)
    {response response₂ : Response} {clock₂ : ℕ → DateTime} {db₁₂ : Platform}
    (hrun : (alertmanagerWebhook w body).run db = (.ok response, db'))
    (hrun₂ : (alertmanagerWebhook { w with clock := clock₂ } body₂).run db' =
      (.ok response₂, db₁₂)) (clock₃ clock₄ : ℕ → DateTime) :
    ∃ response₃ db₂ response₄ db₂₁,
      (alertmanagerWebhook { w with clock := clock₃ } body₂).run db = (.ok response₃, db₂) ∧
      (alertmanagerWebhook { w with clock := clock₄ } body).run db₂ = (.ok response₄, db₂₁) ∧
      ∀ fingerprint, fieldsAt db₂₁ fingerprint = fieldsAt db₁₂ fingerprint := by
  obtain ⟨fields, hreads, hunique, -, rfl⟩ := (run_alertmanagerWebhook_iff hbody).mp hrun
  obtain ⟨fields₂, hreads₂, hunique₂, -, rfl⟩ := (run_alertmanagerWebhook_iff hbody₂).mp hrun₂
  have hread : Reads w db raws₂ fields₂ := reads_ingest.mp hreads₂
  have hkeys (f : AlertFields) (hf : f ∈ fields) (g : AlertFields) (hg : g ∈ fields₂) :
      f.fingerprint ≠ g.fingerprint := by
    obtain ⟨raw, hraw, hleft⟩ := exists_raw_of_reads hreads hf
    obtain ⟨raw₂, hraw₂, hright⟩ := exists_raw_of_reads hread hg
    intro heq
    exact hdisjoint raw hraw raw₂ hraw₂ (by rw [hleft, hright, heq])
  have hne (clock clock' : ℕ → DateTime) (b : Alert) (hb : b ∈ newRows clock 0 fields)
      (c : Alert) (hc : c ∈ newRows clock' 0 fields₂) :
      alertUpserts.keyOf b ≠ alertUpserts.keyOf c := by
    refine hkeys (alertColumns.get b) ?_ (alertColumns.get c) ?_
    · exact get_newRows clock 0 fields ▸ List.mem_map_of_mem hb
    · exact get_newRows clock' 0 fields₂ ▸ List.mem_map_of_mem hc
  have hunique₃ : alertUpserts.UniqueFor db.alerts (newRows clock₃ 0 fields₂) :=
    uniqueFor_clock.mp ((Upserts.uniqueFor_upsertAll_iff hunique (hne _ clock₂)).mp hunique₂)
  have hunique₄ : alertUpserts.UniqueFor (ingest clock₃ fields₂ db).2.alerts
      (newRows clock₄ 0 fields) := by
    refine (Upserts.uniqueFor_upsertAll_iff hunique₃ fun b hb c hc => ?_).mpr
      (uniqueFor_clock.mp hunique)
    exact (hne clock₄ clock₃ c hc b hb).symm
  have hfirst : (alertmanagerWebhook { w with clock := clock₃ } body₂).run db =
      (.ok (ingested raws₂.length (ingest clock₃ fields₂ db).1), (ingest clock₃ fields₂ db).2) :=
    (run_alertmanagerWebhook_iff hbody₂).mpr ⟨fields₂, hread, hunique₃, rfl, rfl⟩
  have hthen := (run_alertmanagerWebhook_iff (w := { w with clock := clock₄ }) hbody).mpr
    ⟨fields, reads_ingest.mpr hreads, hunique₄, rfl, rfl⟩
  exact ⟨_, _, _, _, hfirst, hthen,
    fieldsAt_ingest_comm hkeys hunique hunique₂ hunique₃ hunique₄⟩

/-! ### Deliveries -/

/-- A notification that is carried out is an upsert of its alerts: the last alert of a
fingerprint stands, the same notification again changes nothing, and one about other
fingerprints may as well have come first. -/
theorem alertmanagerWebhook_delivery (w : WebhookWorld) {body : Json}
    (hbody : validatePayload body = .ok raws) {response : Response}
    (hrun : (alertmanagerWebhook w body).run db = (.ok response, db')) :
    (∃ created, response = ingested raws.length created ∧
      LastWriteWins w raws db db' created) ∧
    (∀ clock, (alertmanagerWebhook { w with clock := clock } body).run db' =
      (.ok (ingested raws.length 0), db')) ∧
    (∀ body₂ raws₂ clock₂ response₂ db₁₂, validatePayload body₂ = .ok raws₂ →
      (∀ raw ∈ raws, ∀ raw₂ ∈ raws₂, fingerprintOf w raw ≠ fingerprintOf w raw₂) →
      (alertmanagerWebhook { w with clock := clock₂ } body₂).run db' = (.ok response₂, db₁₂) →
      ∀ clock₃ clock₄, ∃ response₃ db₂ response₄ db₂₁,
        (alertmanagerWebhook { w with clock := clock₃ } body₂).run db = (.ok response₃, db₂) ∧
        (alertmanagerWebhook { w with clock := clock₄ } body).run db₂ = (.ok response₄, db₂₁) ∧
        ∀ fingerprint, fieldsAt db₂₁ fingerprint = fieldsAt db₁₂ fingerprint) := by
  refine ⟨?_, fun clock => run_again hbody hrun clock, ?_⟩
  · obtain ⟨fields, hreads, hunique, hresponse, rfl⟩ := (run_alertmanagerWebhook_iff hbody).mp hrun
    exact ⟨_, hresponse, lastWriteWins_upsertAll hreads hunique⟩
  · intro body₂ raws₂ clock₂ response₂ db₁₂ hbody₂ hdisjoint hrun₂ clock₃ clock₄
    exact run_swapped hbody hbody₂ hdisjoint hrun hrun₂ clock₃ clock₄

/-- An alert of an interface. -/
def labAlert (fingerprint status : String) : List (String × Json) :=
  [("status", .str status), ("fingerprint", .str fingerprint),
    ("labels", .obj [("alertname", .str "InterfaceDown")])]

/-- An alert that is resolved in the notification that reported it, next to another one. -/
def labAlerts : List (List (String × Json)) :=
  [labAlert "f1" "firing", labAlert "f2" "firing", labAlert "f1" "resolved"]

theorem delivery_of_labAlerts :
    LastWriteWins labWorld labAlerts lab
        ((alertmanagerWebhook labWorld (notification labAlerts)).run lab).2 2 ∧
      (alertmanagerWebhook { labWorld with clock := fun k => 60 + k } (notification labAlerts)).run
          ((alertmanagerWebhook labWorld (notification labAlerts)).run lab).2 =
        (.ok (ingested 3 0),
          ((alertmanagerWebhook labWorld (notification labAlerts)).run lab).2) := by
  have hbody : validatePayload (notification labAlerts) = .ok labAlerts := rfl
  have hrun : (alertmanagerWebhook labWorld (notification labAlerts)).run lab =
      (.ok (ingested 3 2), ((alertmanagerWebhook labWorld (notification labAlerts)).run lab).2) :=
    rfl
  obtain ⟨⟨created, hresponse, hwins⟩, hagain, -⟩ :=
    alertmanagerWebhook_delivery labWorld hbody hrun
  have hcreated : created = 2 := by
    have hgrowth : _ = lab.alerts.rows.length + created := hwins.growth
    exact (Nat.zero_add created ▸ hgrowth).symm
  exact ⟨hcreated ▸ hwins, hagain _⟩

end DevSecOpsPlatform.AlertDeliveries
