import DevSecOpsPlatform.AlertDeliveries

/-!
# What a notification leaves when it fails

The webhook stores one alert after the other and nothing takes that back. A payload that the
serializer refuses leaves the table alone. An alert that raises ends the loop: the alerts
before it stay, and neither it nor those after it leave anything.
-/

namespace DevSecOpsPlatform.AlertFailures

open KeyedTables KeyedUpserts StatementPrograms PlatformModels PlatformStore RolePermissions
open PythonValues AlertManagerPayloads MonitoringViews AlertUpserts AlertIncidents AlertReadings
open AlertDeliveries

/-- The loop came to an alert that raised, past the alerts before it. -/
structure StoppedAt (w : WebhookWorld) (before : List (List (String × Json)))
    (raw : List (String × Json)) (db db' : Platform) (e : Exn) : Prop where
  stored : ∃ fields, Reads w db before fields ∧
    alertUpserts.UniqueFor db.alerts (newRows w.clock 0 fields) ∧
    db' = (ingest w.clock fields db).2
  raised : (processAlert w before.length raw).run db' = (.error e, db')

variable {w : WebhookWorld} {db db' : Platform} {e : Exn}

/-- A round of the loop that raises leaves the store as it is. -/
theorem store_of_raised {k : ℕ} {raw : List (String × Json)}
    (h : (processAlert w k raw).run db = (.error e, db')) : db' = db := by
  rw [run_processAlert] at h
  cases hrow : alertRow w k raw db with
  | ok row => simp [hrow] at h
  | error e' =>
    rw [hrow] at h
    exact (Prod.mk.inj h).2.symm

theorem run_processAlerts_of_raised {k : ℕ} {raw : List (String × Json)}
    (raws : List (List (String × Json)))
    (h : (processAlert w k raw).run db = (.error e, db')) :
    (processAlerts w k (raw :: raws)).run db = (.error e, db') := by
  rw [processAlerts, Program.run_bind, h]

theorem run_processAlerts_of_ok {k : ℕ} {raw : List (String × Json)}
    (raws : List (List (String × Json))) {new : Bool}
    (h : (processAlert w k raw).run db = (.ok new, db')) :
    (processAlerts w k (raw :: raws)).run db =
      ((((processAlerts w (k + 1) raws).run db').1.map (· + new.toNat)),
        ((processAlerts w (k + 1) raws).run db').2) := by
  rw [processAlerts, Program.run_bind, h]
  dsimp only
  rw [Program.run_bind]
  rcases (processAlerts w (k + 1) raws).run db' with ⟨o, t⟩
  cases o <;> rfl

/-- After a round that goes through, the loop raises where the rest of it does. -/
theorem run_processAlerts_error_of_ok {k : ℕ} {raw : List (String × Json)}
    {raws : List (List (String × Json))} {new : Bool} {db₁ : Platform}
    (h : (processAlert w k raw).run db = (.ok new, db₁)) :
    (processAlerts w k (raw :: raws)).run db = (.error e, db') ↔
      (processAlerts w (k + 1) raws).run db₁ = (.error e, db') := by
  rw [run_processAlerts_of_ok raws h]
  rcases (processAlerts w (k + 1) raws).run db₁ with ⟨o, t⟩
  cases o with
  | error e' => rfl
  | ok count => exact iff_of_false (fun h => (by cases h)) (fun h => (by cases h))

/-- After a round that goes through, the loop goes through when the rest of it does. -/
theorem run_processAlerts_ok_of_ok {k : ℕ} {raw : List (String × Json)}
    {raws : List (List (String × Json))} {new : Bool} {db₁ : Platform}
    (h : (processAlert w k raw).run db = (.ok new, db₁)) :
    (∃ created, (processAlerts w k (raw :: raws)).run db = (.ok created, db')) ↔
      ∃ created, (processAlerts w (k + 1) raws).run db₁ = (.ok created, db') := by
  rw [run_processAlerts_of_ok raws h]
  rcases (processAlerts w (k + 1) raws).run db₁ with ⟨o, t⟩
  constructor
  · rintro ⟨created, hrun⟩
    obtain ⟨hcreated, rfl⟩ := Prod.mk.inj hrun
    cases o with
    | error e' => cases hcreated
    | ok count => exact ⟨count, rfl⟩
  · rintro ⟨created, hrun⟩
    obtain ⟨rfl, rfl⟩ := Prod.mk.inj hrun
    exact ⟨_, rfl⟩

/-- The loop raises at the first alert that does, with what the alerts before it left. -/
theorem run_processAlerts_error_iff {k : ℕ} {raws : List (List (String × Json))} :
    (processAlerts w k raws).run db = (.error e, db') ↔
      ∃ before raw after created, raws = before ++ raw :: after ∧
        (processAlerts w k before).run db = (.ok created, db') ∧
        (processAlert w (k + before.length) raw).run db' = (.error e, db') := by
  have hnext (before : List (List (String × Json))) (b : List (String × Json)) (k : ℕ) :
      k + (b :: before).length = k + 1 + before.length := by
    rw [List.length_cons, Nat.add_comm before.length, ← Nat.add_assoc]
  induction raws generalizing k db with
  | nil =>
    refine ⟨fun h => (by cases h), ?_⟩
    rintro ⟨before, raw, after, created, hsplit, -⟩
    simp at hsplit
  | cons raw raws ih =>
    rcases hround : (processAlert w k raw).run db with ⟨o, db₁⟩
    cases o with
    | error e' =>
      have hstore := store_of_raised hround
      subst hstore
      rw [run_processAlerts_of_raised raws hround]
      constructor
      · intro h
        obtain ⟨he, rfl⟩ := Prod.mk.inj h
        obtain rfl := Except.error.inj he
        exact ⟨[], raw, raws, 0, rfl, rfl, hround⟩
      · rintro ⟨before, raw', after, created, hsplit, hbefore, hraised⟩
        cases before with
        | nil =>
          obtain ⟨rfl, -⟩ := List.cons.inj hsplit
          obtain ⟨-, rfl⟩ := Prod.mk.inj hbefore
          obtain ⟨he, -⟩ := Prod.mk.inj (hround.symm.trans hraised)
          rw [Except.error.inj he]
        | cons b before =>
          obtain ⟨rfl, -⟩ := List.cons.inj hsplit
          rw [run_processAlerts_of_raised before hround] at hbefore
          cases hbefore
    | ok new =>
      refine (run_processAlerts_error_of_ok hround).trans (ih.trans ?_)
      constructor
      · rintro ⟨before, raw', after, created, rfl, hbefore, hraised⟩
        obtain ⟨created', hbefore⟩ := (run_processAlerts_ok_of_ok hround).mpr ⟨created, hbefore⟩
        refine ⟨raw :: before, raw', after, created', rfl, hbefore, ?_⟩
        rw [hnext before raw k]
        exact hraised
      · rintro ⟨before, raw', after, created, hsplit, hbefore, hraised⟩
        cases before with
        | nil =>
          obtain ⟨rfl, -⟩ := List.cons.inj hsplit
          obtain ⟨-, rfl⟩ := Prod.mk.inj hbefore
          cases hround.symm.trans hraised
        | cons b before =>
          obtain ⟨rfl, hrest⟩ := List.cons.inj hsplit
          obtain ⟨created', hbefore⟩ := (run_processAlerts_ok_of_ok hround).mp ⟨created, hbefore⟩
          rw [hnext before raw k] at hraised
          exact ⟨before, raw', after, created', hrest, hbefore, hraised⟩

/-- A payload raises at an alert of it, and keeps what the alerts before it stored. -/
theorem run_alertmanagerWebhook_error_iff {body : Json} :
    (alertmanagerWebhook w body).run db = (.error e, db') ↔
      ∃ before raw after, validatePayload body = .ok (before ++ raw :: after) ∧
        StoppedAt w before raw db db' e := by
  have hstopped (before : List (List (String × Json))) (raw : List (String × Json)) :
      StoppedAt w before raw db db' e ↔ ∃ created,
        (processAlerts w 0 before).run db = (.ok created, db') ∧
        (processAlert w (0 + before.length) raw).run db' = (.error e, db') := by
    rw [Nat.zero_add]
    constructor
    · rintro ⟨⟨fields, hreads, hunique, hstore⟩, hraised⟩
      exact ⟨_, run_processAlerts_iff.mpr ⟨fields, hreads, hunique, rfl, hstore⟩, hraised⟩
    · rintro ⟨created, hrun, hraised⟩
      obtain ⟨fields, hreads, hunique, -, hstore⟩ := run_processAlerts_iff.mp hrun
      exact ⟨⟨fields, hreads, hunique, hstore⟩, hraised⟩
  unfold alertmanagerWebhook
  cases hbody : validatePayload body with
  | error errors =>
    refine ⟨fun h => (by cases h), ?_⟩
    rintro ⟨before, raw, after, hvalid, -⟩
    cases hvalid
  | ok raws =>
    have hloop : (processAlerts w 0 raws).run db = (.error e, db') ↔
        ∃ before raw after, raws = before ++ raw :: after ∧ StoppedAt w before raw db db' e := by
      rw [run_processAlerts_error_iff]
      constructor
      · rintro ⟨before, raw, after, created, hsplit, hrun⟩
        exact ⟨before, raw, after, hsplit, (hstopped before raw).mpr ⟨created, hrun⟩⟩
      · rintro ⟨before, raw, after, hsplit, hstop⟩
        obtain ⟨created, hrun⟩ := (hstopped before raw).mp hstop
        exact ⟨before, raw, after, created, hsplit, hrun⟩
    simp only [Except.ok.injEq]
    rw [← hloop, Program.run_bind]
    rcases (processAlerts w 0 raws).run db with ⟨o, t⟩
    cases o with
    | error e' => simp
    | ok created => simp

theorem run_alertmanagerWebhook_refused {body : Json} {response : Response}
    (h : (alertmanagerWebhook w body).run db = (.ok response, db'))
    (hstatus : response.status ≠ 200) :
    response.status = 400 ∧ db' = db := by
  cases hbody : validatePayload body with
  | error errors =>
    simp only [alertmanagerWebhook, hbody] at h
    obtain ⟨hresponse, rfl⟩ := Prod.mk.inj h
    obtain rfl := Except.ok.inj hresponse
    exact ⟨rfl, rfl⟩
  | ok raws =>
    obtain ⟨_, -, -, rfl, -⟩ := (run_alertmanagerWebhook_iff hbody).mp h
    exact absurd rfl hstatus

/-- A request that is not answered with 200 was refused with 400 and left the store alone, or
raised at an alert and left what the alerts before that one stored: nothing when it was the
first. -/
theorem alertmanagerWebhook_failure (w : WebhookWorld) (body : Json) (db : Platform) :
    (∀ response db', (alertmanagerWebhook w body).run db = (.ok response, db') →
      response.status ≠ 200 → response.status = 400 ∧ db' = db) ∧
    (∀ e db', (alertmanagerWebhook w body).run db = (.error e, db') ↔
      ∃ before raw after, validatePayload body = .ok (before ++ raw :: after) ∧
        StoppedAt w before raw db db' e) ∧
    (∀ raw db' e, StoppedAt w [] raw db db' e → db' = db) := by
  refine ⟨fun _ _ h hstatus => run_alertmanagerWebhook_refused h hstatus,
    fun _ _ => run_alertmanagerWebhook_error_iff, ?_⟩
  rintro raw db' e ⟨⟨fields, hreads, -, rfl⟩, -⟩
  cases hreads
  rfl

/-- The second of two alerts has a list for its labels: the first one is stored. -/
theorem stored_before_failure :
    ((alertmanagerWebhook labWorld
        (notification [labAlert "f1" "firing", [("labels", .arr [])]])).run lab).1 =
      .error (attributeError (.arr []) "get") ∧
    ((alertmanagerWebhook labWorld
        (notification [labAlert "f1" "firing", [("labels", .arr [])]])).run lab).2.alerts ≠
      lab.alerts := by
  refine ⟨rfl, fun h => ?_⟩
  have hlength := congrArg (fun alerts => alerts.rows.length) h
  exact absurd hlength (by decide)

end DevSecOpsPlatform.AlertFailures
