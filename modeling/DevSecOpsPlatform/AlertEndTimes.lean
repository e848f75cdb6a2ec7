import DevSecOpsPlatform.AlertReadings

/-!
# The end time of an alert and its status

AlertManager sends the zero time as the end of an alert that is firing. The webhook parses
and stores it like any other, so that the end times agree with the statuses exactly as long
as no firing alert is stored.
-/

namespace DevSecOpsPlatform.AlertEndTimes

open KeyedTables KeyedUpserts StatementPrograms PlatformModels PlatformStore RolePermissions
open PythonValues AlertManagerPayloads MonitoringViews AlertUpserts AlertIncidents AlertIngestion
open GuardedRuns Rfc3339Timestamps AlertReadings

/-- A firing alert has no end, and a resolved one an end that is not before its start. -/
structure EndsWithStatus (status : String) (startsAt endsAt : Option DateTime) : Prop where
  firing : status = "firing" → endsAt = none
  resolved : status = "resolved" → ∃ e, endsAt = some e ∧ ∀ s, startsAt = some s → s ≤ e

def EndTimes (alerts : Table Alert) : Prop :=
  ∀ id a, alerts.get? id = some a → EndsWithStatus a.status a.startsAt a.endsAt

/-! ### Alerts as AlertManager sends them -/

def zeroTime : String := "0001-01-01T00:00:00Z"

/-- An alert that is firing, with the zero time as its end, or one that is resolved, with an
end not before its start. -/
inductive FromAlertManager (raw : List (String × Json)) : Prop
  | firing (hstatus : raw.lookup "status" = some (.str "firing"))
      (hends : raw.lookup "endsAt" = some (.str zeroTime))
  | resolved {startsAt endsAt : String} {s e : DateTime}
      (hstatus : raw.lookup "status" = some (.str "resolved"))
      (hstarts : raw.lookup "startsAt" = some (.str startsAt)) (hs : rfc3339 startsAt = some s)
      (hends : raw.lookup "endsAt" = some (.str endsAt)) (he : rfc3339 endsAt = some e)
      (hle : s ≤ e)

/-- The alerts of a notification are in AlertManager's format, and its timestamps are read. -/
def InFormat : IncidentOp → Prop
  | .webhook w body => ReadsTimestamps w ∧
      ∀ raws, validatePayload body = .ok raws → ∀ raw ∈ raws, FromAlertManager raw
  | .acknowledge _ _ _ => True

def WriteInFormat : AlertWrite → Prop
  | .alert w _ raw => ReadsTimestamps w ∧ FromAlertManager raw
  | .acknowledge _ _ _ => True

/-- A firing alert cannot be read, or its fingerprint has several rows: it is refused. -/
def StoresNoFiring (db : Platform) : AlertWrite → Prop
  | .alert w _ raw => raw.lookup "status" = some (.str "firing") →
      ∀ f, readAlert w db raw = .ok f → 1 < (rowsWith db.alerts f.fingerprint).length
  | .acknowledge _ _ _ => True

variable {w : WebhookWorld} {db : Platform} {raw : List (String × Json)}

theorem writeInFormat_of_mem_loopWrites {k : ℕ} {raws : List (List (String × Json))}
    (hw : ReadsTimestamps w) (hraws : ∀ raw ∈ raws, FromAlertManager raw) {x : AlertWrite}
    (hx : x ∈ loopWrites w k raws db) : WriteInFormat x := by
  induction raws generalizing k db with
  | nil => cases hx
  | cons raw raws ih =>
    obtain ⟨hraw, hraws⟩ := List.forall_mem_cons.mp hraws
    rcases List.mem_cons.mp hx with rfl | hx
    · exact ⟨hw, hraw⟩
    · split at hx
      · exact ih hraws hx
      · cases hx

theorem writeInFormat_of_mem_allWrites {ops : List IncidentOp} (h : ∀ op ∈ ops, InFormat op)
    {x : AlertWrite} (hx : x ∈ allWrites db ops) : WriteInFormat x := by
  induction ops generalizing db with
  | nil => cases hx
  | cons op ops ih =>
    obtain ⟨hop, hops⟩ := List.forall_mem_cons.mp h
    rcases List.mem_append.mp hx with hx | hx
    · cases op with
      | acknowledge caller now id =>
        obtain rfl := List.mem_singleton.mp hx
        trivial
      | webhook w body =>
        unfold IncidentOp.writes at hx
        cases hbody : validatePayload body with
        | error errors => simp [hbody] at hx
        | ok raws =>
          simp only [hbody] at hx
          exact writeInFormat_of_mem_loopWrites hop.1 (hop.2 raws hbody) hx
    · exact ih hops hx

/-! ### One write -/

theorem timestamp_of_rfc3339 (hw : ReadsTimestamps w) {name text : String} {t : DateTime}
    (hlookup : raw.lookup name = some (.str text)) (ht : rfc3339 text = some t) :
    timestamp w (Json.dictGet raw name .null) = .ok (some t) := by
  have hget : Json.dictGet raw name .null = .str text := by rw [Json.dictGet, hlookup]; rfl
  rw [hget, V4Alert.timestamp_eq hw (by simp [ht]), ht]

/-- What is read from an alert in AlertManager's format: a firing one has an end. -/
theorem fields_of_format (hw : ReadsTimestamps w) (hraw : FromAlertManager raw) {f : AlertFields}
    (hread : readAlert w db raw = .ok f) :
    (raw.lookup "status" = some (.str "firing") ∧ f.status = "firing" ∧ f.endsAt ≠ none) ∨
      (raw.lookup "status" = some (.str "resolved") ∧
        EndsWithStatus f.status f.startsAt f.endsAt) := by
  obtain ⟨hstatus, -, hstarts, hends⟩ := columns_of_readAlert hread
  cases hraw with
  | firing hlookup hend =>
    left
    have hget : statusOf w raw = .ok "firing" := by
      rw [statusOf, Json.dictGet, hlookup]
      rfl
    have hzero := timestamp_of_rfc3339 hw hend (show rfc3339 zeroTime = some _ from rfl)
    refine ⟨hlookup, Except.ok.inj (hstatus.symm.trans hget), ?_⟩
    rw [← Except.ok.inj (hzero.symm.trans hends)]
    exact Option.some_ne_none _
  | @resolved startsAt endsAt s e hlookup hstart hs hend he hle =>
    right
    have hget : statusOf w raw = .ok "resolved" := by
      rw [statusOf, Json.dictGet, hlookup]
      rfl
    have hf : f.status = "resolved" := Except.ok.inj (hstatus.symm.trans hget)
    have hfs : f.startsAt = some s :=
      Except.ok.inj (hstarts.symm.trans (timestamp_of_rfc3339 hw hstart hs))
    have hfe : f.endsAt = some e :=
      Except.ok.inj (hends.symm.trans (timestamp_of_rfc3339 hw hend he))
    refine ⟨hlookup, fun h => absurd (hf.symm.trans h) (by decide), fun _ => ⟨e, hfe, ?_⟩⟩
    intro s' hs'
    exact Option.some.inj (hfs.symm.trans hs') ▸ hle

/-- An acknowledgement writes neither the status nor the times. -/
theorem endTimes_acknowledge (h : EndTimes db.alerts) (caller : Option UserId) (now : DateTime)
    (id : AlertId) : EndTimes ((MonitoringViews.acknowledge caller now id).run db).2.alerts := by
  rcases alerts_acknowledge caller now id db with hsame | ⟨a, hget, hupdate⟩
  · rw [hsame]
    exact h
  · rw [hupdate]
    intro id' a' hget'
    rw [Table.get?_update] at hget'
    split at hget'
    · obtain ⟨old, hold, rfl⟩ := Option.map_eq_some_iff.mp hget'
      exact h id' old hold
    · exact h id' a' hget'

theorem endTimes_apply_iff (db : Platform) (x : AlertWrite) (h : EndTimes db.alerts)
    (hformat : WriteInFormat x) : EndTimes (x.apply db).alerts ↔ StoresNoFiring db x := by
  cases x with
  | acknowledge caller now id =>
    exact iff_of_true (endTimes_acknowledge h caller now id) trivial
  | alert w k raw =>
    obtain ⟨hw, hraw⟩ := hformat
    rw [AlertWrite.apply, store_processAlert]
    cases hrow : alertRow w k raw db with
    | error e =>
      refine iff_of_true h fun _ f hread => ?_
      by_contra hone
      have hok : alertRow w k raw db = .ok (f.row (w.clock k)) :=
        alertRow_eq_ok_iff.mpr ⟨f, hread, Nat.le_of_not_lt hone, rfl⟩
      rw [hrow] at hok
      cases hok
    | ok row =>
      obtain ⟨f, hread, hone, rfl⟩ := alertRow_eq_ok_iff.mp hrow
      have hupsert : EndTimes (upsert db.alerts (f.row (w.clock k))).2 ↔
          EndsWithStatus f.status f.startsAt f.endsAt := by
        rw [← upsert_alertUpserts]
        exact Columns.forall_upsert_iff (c := alertColumns)
          (P := fun g => EndsWithStatus g.status g.startsAt g.endsAt) hone h
      dsimp only
      rw [hupsert]
      rcases fields_of_format hw hraw hread with ⟨hlookup, hstatus, hend⟩ | ⟨hlookup, hends⟩
      · refine iff_of_false (fun hends => hend (hends.firing hstatus)) fun hno => ?_
        exact absurd (hno hlookup f hread) (Nat.not_lt.mpr hone)
      · refine iff_of_true hends fun hfiring => ?_
        exact absurd (Option.some.inj (hlookup.symm.trans hfiring)) (by simp)

/-! ### Runs -/

/-- Over notifications in AlertManager's format, the end times agree with the statuses in
every state exactly when no firing alert is ever stored. -/
theorem endTimes_runs_iff (db : Platform) (h : EndTimes db.alerts) (ops : List IncidentOp)
    (hformat : ∀ op ∈ ops, InFormat op) :
    (∀ done, done <+: allWrites db ops → EndTimes (runFrom AlertWrite.apply db done).alerts) ↔
      Meets AlertWrite.apply StoresNoFiring db (allWrites db ops) := by
  have hwrites : Meets AlertWrite.apply (fun _ x => WriteInFormat x) db (allWrites db ops) :=
    meets_of_forall_mem (fun x hx => writeInFormat_of_mem_allWrites hformat hx)
  exact (meets_iff_prefixes_of_meets endTimes_apply_iff h _ hwrites).symm

/-- An interface that goes down at a time, or that is up again at a later one. -/
def labNotice (status endsAt : String) : IncidentOp :=
  .webhook labWorld (notification [[("status", .str status), ("fingerprint", .str "f1"),
    ("labels", .obj [("alertname", .str "InterfaceDown")]),
    ("startsAt", .str "2024-01-01T00:00:00Z"), ("endsAt", .str endsAt)]])

theorem labWorld_readsTimestamps : ReadsTimestamps labWorld := fun _ _ h => congrArg Except.ok h

theorem endTimes_lab : EndTimes lab.alerts := by
  intro id a h
  cases h

/-- The end of an alert whose start was never received, and the end of it once more after it was
acknowledged. -/
def labEnds : List IncidentOp :=
  [labNotice "resolved" "2024-01-01T00:05:00Z", .acknowledge (some 1) 7 1,
    labNotice "resolved" "2024-01-01T00:20:00Z"]

theorem inFormat_resolved {s e : DateTime} {endsAt : String}
    (hs : rfc3339 "2024-01-01T00:00:00Z" = some s) (he : rfc3339 endsAt = some e) (hle : s ≤ e) :
    InFormat (labNotice "resolved" endsAt) := by
  refine ⟨labWorld_readsTimestamps, fun raws hraws raw hraw => ?_⟩
  obtain rfl := Except.ok.inj hraws
  obtain rfl := List.mem_singleton.mp hraw
  exact .resolved rfl rfl hs rfl he hle

theorem endTimes_of_resolved :
    Meets AlertWrite.apply StoresNoFiring lab (allWrites lab labEnds) ∧
      ∀ done, done <+: allWrites lab labEnds →
        EndTimes (runFrom AlertWrite.apply lab done).alerts := by
  have hformat : ∀ op ∈ labEnds, InFormat op := by
    intro op hop
    simp only [labEnds, List.mem_cons, List.not_mem_nil, or_false] at hop
    rcases hop with rfl | rfl | rfl
    · exact inFormat_resolved rfl rfl (by decide)
    · trivial
    · exact inFormat_resolved rfl rfl (by decide)
  have hresolved : some (Json.str "resolved") ≠ some (Json.str "firing") := by simp
  have hstores : Meets AlertWrite.apply StoresNoFiring lab (allWrites lab labEnds) :=
    ⟨fun hfiring => absurd hfiring hresolved, trivial,
      fun hfiring => absurd hfiring hresolved, trivial⟩
  exact ⟨hstores, (endTimes_runs_iff lab endTimes_lab _ hformat).mpr hstores⟩

example : (runFrom AlertWrite.apply lab (allWrites lab labEnds)).alerts.rows.map
    (fun r => (r.2.status, r.2.acknowledged, r.2.endsAt)) =
      [("resolved", true, rfc3339 "2024-01-01T00:20:00Z")] := by
  decide +kernel

/-- A firing alert is stored with the year 1 as its end. -/
theorem ends_of_firing :
    InFormat (labNotice "firing" zeroTime) ∧
      ¬ EndTimes (runFrom AlertWrite.apply lab
        (allWrites lab [labNotice "firing" zeroTime])).alerts := by
  constructor
  · refine ⟨labWorld_readsTimestamps, fun raws hraws raw hraw => ?_⟩
    obtain rfl := Except.ok.inj hraws
    obtain rfl := List.mem_singleton.mp hraw
    exact .firing rfl rfl
  · intro h
    exact absurd ((h 1 _ rfl).firing rfl) (by decide)

end DevSecOpsPlatform.AlertEndTimes
