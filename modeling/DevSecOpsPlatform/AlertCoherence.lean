import DevSecOpsPlatform.AlertUpserts
import DevSecOpsPlatform.GuardedRuns

/-!
# Coherence of the alert table over sequential runs

A table of alerts is coherent when no two rows share a fingerprint and a row has an
acknowledgement time exactly when it is acknowledged. The webhook and the acknowledge action
keep it so. A PATCH is a full write of the fields it gets, and keeps it exactly when
`AlertOp.Keeps` says so; the runs that stay coherent are those whose steps all do.
-/

namespace DevSecOpsPlatform.AlertCoherence

open KeyedTables KeyedUpserts StatementPrograms PlatformModels PlatformStore RolePermissions
open PythonValues MonitoringViews AlertUpserts GuardedRuns

structure Coherent (alerts : Table Alert) : Prop where
  unique : ∀ id id' a a', alerts.get? id = some a → alerts.get? id' = some a' →
    a.fingerprint = a'.fingerprint → id = id'
  acknowledged : ∀ id a, alerts.get? id = some a →
    (a.acknowledged = true ↔ a.acknowledgedAt.isSome = true)

/-- The requests that write alerts. -/
inductive AlertOp where
  | webhook (w : WebhookWorld) (body : Json)
  | acknowledge (caller : Option UserId) (now : DateTime) (id : AlertId)
  | patch (caller : Option UserId) (id : AlertId) (patch : AlertPatch)

def AlertOp.apply (db : Platform) : AlertOp → Platform
  | .webhook w body => ((alertmanagerWebhook w body).run db).2
  | .acknowledge caller now id => ((MonitoringViews.acknowledge caller now id).run db).2
  | .patch caller id p => ((partialUpdateAlert caller id p).run db).2

/-- The caller may patch, the patch is valid, and the database takes its columns. -/
def carriedOut (db : Platform) (caller : Option UserId) (p : AlertPatch) (a : Alert) : Bool :=
  readOnlyOrAbove .patch (authenticate caller db) && p.isValid &&
    !((p.apply a).labels.hasNul || (p.apply a).annotations.hasNul) &&
    refersToOrNull db.devices a.device

/-- No other row has the fingerprint that the patch gives, and the patch leaves a time with
the acknowledgement and none without. -/
structure KeepsCoherent (alerts : Table Alert) (id : AlertId) (p : AlertPatch) (a : Alert) :
    Prop where
  fingerprint : ∀ f, p.fingerprint = some f → ∀ id' a', alerts.get? id' = some a' →
    a'.fingerprint = f → id' = id
  acknowledged : p.acknowledged.getD a.acknowledged = true ↔
    (p.acknowledgedAt.getD a.acknowledgedAt).isSome = true

/-- A patch that is carried out on a row keeps the table coherent. -/
def AlertOp.Keeps (db : Platform) : AlertOp → Prop
  | .webhook _ _ | .acknowledge _ _ _ => True
  | .patch caller id p => ∀ a, db.alerts.get? id = some a → carriedOut db caller p a = true →
      KeepsCoherent db.alerts id p a

theorem length_rowsWith {alerts : Table Alert} (h : Coherent alerts) (f : String) :
    (rowsWith alerts f).length ≤ 1 :=
  Upserts.length_rowsOf_of_unique (u := alertUpserts) h.unique f

/-! ### The webhook -/

/-- What a row of the table after an upsert is: an old row, or the upserted one. -/
theorem get?_upsert {alerts : Table Alert} {row : Alert} {id : AlertId} {a : Alert}
    (h : (upsert alerts row).2.get? id = some a) :
    alerts.get? id = some a ∨ a = row ∨
      ∃ old, alerts.get? id = some old ∧ a = overwrite row old := by
  unfold upsert at h
  split at h
  · rw [Table.get?_insert] at h
    split at h
    · exact .inr (.inl (Option.some.inj h).symm)
    · exact .inl h
  · rw [Table.get?_update] at h
    split at h
    · obtain ⟨old, hold, rfl⟩ := Option.map_eq_some_iff.mp h
      exact .inr (.inr ⟨old, hold, rfl⟩)
    · exact .inl h

theorem coherent_upsert {alerts : Table Alert} {row : Alert} (h : Coherent alerts)
    (hack : row.acknowledged = false) (hat : row.acknowledgedAt = none) :
    Coherent (upsert alerts row).2 where
  unique := by
    have hlength (f : String) : (rowsWith (upsert alerts row).2 f).length ≤ 1 := by
      rw [← upsert_alertUpserts]
      exact Upserts.length_rowsOf_upsert (u := alertUpserts)
        (length_rowsWith h row.fingerprint) (length_rowsWith h f)
    intro id id' a a' hget hget' hf
    have hmem := mem_rowsWith.mpr ⟨hget, rfl⟩
    have hmem' := mem_rowsWith.mpr ⟨hget', hf.symm⟩
    exact (Prod.mk.inj (eq_of_mem_rowsWith (hlength _) hmem hmem')).1
  acknowledged := by
    intro id a hget
    rcases get?_upsert hget with hold | rfl | ⟨old, hold, rfl⟩
    · exact h.acknowledged id a hold
    · simp [hack, hat]
    · exact h.acknowledged id old hold

/-- The statement may leave the table incoherent only if it was. -/
abbrev KeepsTable (db db' : Platform) : Prop := Coherent db.alerts → Coherent db'.alerts

instance : Std.Refl KeepsTable := ⟨fun _ h => h⟩

theorem coherent_webhook {db : Platform} (h : Coherent db.alerts) (w : WebhookWorld) (body : Json) :
    Coherent ((alertmanagerWebhook w body).run db).2.alerts := by
  refine Program.Writes.run_invariant (writes_alertmanagerWebhook (R := KeepsTable) ?_ w body) h
  intro w now f d
  refine Program.writes_statement_of_run (fun db hdb => ?_)
  rcases updateOrCreate_cases w now f d db with ⟨e, he⟩ | ⟨f, row, -, -, hrow, hrun⟩
  · rw [Alert.updateOrCreate] at he
    rw [he]
    exact hdb
  · obtain ⟨-, hack, hat⟩ := row_columns hrow
    rw [Alert.updateOrCreate] at hrun
    rw [hrun]
    exact coherent_upsert hdb hack hat

/-! ### The acknowledge action -/

/-- Rewriting one row keeps the table coherent when it keeps the fingerprint among the other
rows and the agreement of the acknowledgement with its time. -/
theorem coherent_update {alerts : Table Alert} {id : AlertId} {a : Alert} {g : Alert → Alert}
    (h : Coherent alerts) (hget : alerts.get? id = some a)
    (hunique : ∀ id' a', alerts.get? id' = some a' → a'.fingerprint = (g a).fingerprint → id' = id)
    (hack : (g a).acknowledged = true ↔ (g a).acknowledgedAt.isSome = true) :
    Coherent (alerts.update id g) := by
  have hcases (k : AlertId) (b : Alert) (hb : (alerts.update id g).get? k = some b) :
      (k = id ∧ b = g a) ∨ (k ≠ id ∧ alerts.get? k = some b) := by
    rw [Table.get?_update] at hb
    split at hb
    · rename_i hk
      subst hk
      rw [hget] at hb
      exact .inl ⟨rfl, (Option.some.inj hb).symm⟩
    · rename_i hk
      exact .inr ⟨hk, hb⟩
  constructor
  · intro k k' b b' hb hb' hf
    rcases hcases k b hb with ⟨rfl, rfl⟩ | ⟨hk, hold⟩ <;>
      rcases hcases k' b' hb' with ⟨rfl, rfl⟩ | ⟨hk', hold'⟩
    · rfl
    · exact (hunique k' b' hold' hf.symm).symm
    · exact hunique k b hold hf
    · exact h.unique k k' b b' hold hold' hf
  · intro k b hb
    rcases hcases k b hb with ⟨rfl, rfl⟩ | ⟨-, hold⟩
    · exact hack
    · exact h.acknowledged k b hold

theorem coherent_acknowledge {db : Platform} (h : Coherent db.alerts) (caller : Option UserId)
    (now : DateTime) (id : AlertId) :
    Coherent ((MonitoringViews.acknowledge caller now id).run db).2.alerts := by
  have hsave : (saveAcknowledged id now).Writes KeepsTable := by
    refine Program.writes_statement (fun db u db' hsaved hdb => ?_)
    cases hget : db.alerts.get? id with
    | none => simp [hget] at hsaved
    | some a =>
      have hkeeps : Coherent (db.alerts.update id (acknowledgedRow now)) := by
        refine coherent_update hdb hget (fun id' a' hget' hf => ?_) (iff_of_true rfl rfl)
        exact hdb.unique id' id a' a hget' hget hf
      simp only [hget, Except.ok.injEq, Prod.mk.injEq] at hsaved
      exact hsaved.2 ▸ hkeeps
  have hwrites : (MonitoringViews.acknowledge caller now id).Writes KeepsTable := by
    refine (writes_permit _ _).bind fun _ => (writes_getObject _).bind fun r => ?_
    exact hsave.bind fun _ => trivial
  exact hwrites.run_invariant h

/-! ### PATCH -/

theorem alerts_saveAlert {db : Platform} {id : AlertId} {a : Alert} (new : Alert)
    (hget : db.alerts.get? id = some a) :
    ((saveAlert id new).run db).2.alerts =
      if !(new.labels.hasNul || new.annotations.hasNul) && refersToOrNull db.devices new.device then
        db.alerts.update id (fun _ => new)
      else db.alerts := by
  rw [saveAlert, saveRow, Program.run_statement]
  cases new.labels.hasNul || new.annotations.hasNul with
  | true => rfl
  | false =>
    cases refersToOrNull db.devices new.device with
    | false => rfl
    | true => simp only [hget]; rfl

/-- The table after a PATCH. -/
theorem alerts_partialUpdateAlert (caller : Option UserId) (id : AlertId) (p : AlertPatch)
    (db : Platform) :
    ((partialUpdateAlert caller id p).run db).2.alerts =
      match db.alerts.get? id with
      | none => db.alerts
      | some a =>
        if carriedOut db caller p a then db.alerts.update id (fun _ => p.apply a)
        else db.alerts := by
  unfold partialUpdateAlert getAlert
  rw [run_permit_bind]
  cases huser : authenticate caller db with
  | none =>
    cases db.alerts.get? id <;> simp [carriedOut, huser, readOnlyOrAbove]
  | some u =>
    dsimp only
    cases hallow : readOnlyOrAbove .patch (some u) with
    | false =>
      cases db.alerts.get? id <;> simp [carriedOut, huser, hallow]
    | true =>
      rw [if_pos rfl, run_getObject_bind]
      cases hget : db.alerts.get? id with
      | none => rfl
      | some a =>
        dsimp only [Option.map_some]
        cases hvalid : p.isValid with
        | false => simp [carriedOut, hvalid]
        | true =>
          have hsave := alerts_saveAlert (p.apply a) hget
          rw [if_neg (by simp), Program.run_bind]
          have hdevice : (p.apply a).device = a.device := rfl
          rw [hdevice] at hsave
          have hout : carriedOut db caller p a =
              (!((p.apply a).labels.hasNul || (p.apply a).annotations.hasNul) &&
                refersToOrNull db.devices a.device) := by
            simp [carriedOut, huser, hallow, hvalid]
          rw [hout, ← hsave]
          rcases (saveAlert id (p.apply a)).run db with ⟨o, t⟩
          cases o <;> rfl

/-- A PATCH keeps a coherent table coherent exactly when it says so. -/
theorem coherent_patch_iff {db : Platform} (h : Coherent db.alerts) (caller : Option UserId)
    (id : AlertId) (p : AlertPatch) :
    Coherent ((partialUpdateAlert caller id p).run db).2.alerts ↔
      (AlertOp.patch caller id p).Keeps db := by
  rw [alerts_partialUpdateAlert]
  cases hget : db.alerts.get? id with
  | none => simp [AlertOp.Keeps, hget, h]
  | some a =>
    cases hout : carriedOut db caller p a with
    | false => simp [AlertOp.Keeps, hget, hout, h]
    | true =>
      have hself : (db.alerts.update id (fun _ => p.apply a)).get? id = some (p.apply a) := by
        simp [hget]
      simp only [AlertOp.Keeps, hget, Option.some.injEq, forall_eq', hout, if_true, forall_const]
      constructor
      · intro hpatched
        refine ⟨fun f hf id' a' hget' hf' => ?_, hpatched.acknowledged id _ hself⟩
        by_contra hne
        have hother : (db.alerts.update id (fun _ => p.apply a)).get? id' = some a' := by
          rw [Table.get?_update, if_neg hne, hget']
        have hsame : a'.fingerprint = (p.apply a).fingerprint := by
          simp [AlertPatch.apply, hf, hf']
        exact hne (hpatched.unique id' id a' _ hother hself hsame)
      · intro hkeeps
        refine coherent_update h hget (fun id' a' hget' hf' => ?_) hkeeps.acknowledged
        cases hf : p.fingerprint with
        | some f =>
          exact hkeeps.fingerprint f hf id' a' hget' (by simpa [AlertPatch.apply, hf] using hf')
        | none =>
          exact h.unique id' id a' a hget' hget (by simpa [AlertPatch.apply, hf] using hf')

/-! ### Runs -/

theorem coherent_apply_iff (db : Platform) (op : AlertOp) (h : Coherent db.alerts) :
    Coherent (op.apply db).alerts ↔ op.Keeps db := by
  cases op with
  | webhook w body => exact iff_of_true (coherent_webhook h w body) trivial
  | acknowledge caller now id => exact iff_of_true (coherent_acknowledge h caller now id) trivial
  | patch caller id p => exact coherent_patch_iff h caller id p

def labWorld : WebhookWorld where
  parseDatetime := fun _ => .ok none
  pyStr := Json.typeName
  clock := fun k => k

/-- A notification of two alerts. -/
def labNotification : AlertOp :=
  .webhook labWorld (notification [
    [("labels", .obj [("alertname", .str "InterfaceDown")]), ("fingerprint", .str "f1")],
    [("labels", .obj [("alertname", .str "BgpPeerDown")]), ("fingerprint", .str "f2")]])

/-- Both alerts are stored, the first is acknowledged, and a PATCH takes that back. -/
def labRun : List AlertOp := [labNotification, .acknowledge (some 1) 5 1,
  .patch (some 1) 1 { acknowledged := some false, acknowledgedAt := some none }]

end DevSecOpsPlatform.AlertCoherence
