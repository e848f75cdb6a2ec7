import DevSecOpsPlatform.ComplianceRuns
import DevSecOpsPlatform.JobMessages

/-!
# Evidence stays as it was written

Results of pushes, compliance checks, readings of configurations and drift verdicts are written
once. Requests and tasks in any order, also requests that fail half way, leave them as they are
while their device is in the inventory, and a check while its rule is there too; of a report only
the keys of snapshots that are deleted are lost.
-/

namespace DevSecOpsPlatform.EvidenceTrail

open KeyedTables StatementPrograms PlatformModels PlatformStore RolePermissions PythonValues
open ProvisioningTasks MonitoringViews SecurityTasks PlatformOperations OperationStatements
open PlatformChanges JobHandoffs OrphanJobs JobMessages

/-- The verdict of a report on its device, whatever became of the snapshots. -/
structure SameVerdict (r r' : DriftReport) : Prop where
  device : r'.device = r.device
  status : r'.status = r.status
  diff : r'.diff = r.diff
  checkedAt : r'.checkedAt = r.checkedAt
  golden : r'.goldenSnapshot = r.goldenSnapshot ∨ r'.goldenSnapshot = none
  current : r'.currentSnapshot = r.currentSnapshot ∨ r'.currentSnapshot = none

theorem SameVerdict.trans {a b c : DriftReport} (h : SameVerdict a b) (h' : SameVerdict b c) :
    SameVerdict a c where
  device := h'.device.trans h.device
  status := h'.status.trans h.status
  diff := h'.diff.trans h.diff
  checkedAt := h'.checkedAt.trans h.checkedAt
  golden := h'.golden.elim (fun heq => heq ▸ h.golden) .inr
  current := h'.current.elim (fun heq => heq ▸ h.current) .inr

theorem sameVerdict_self (r : DriftReport) : SameVerdict r r :=
  ⟨rfl, rfl, rfl, rfl, .inl rfl, .inl rfl⟩

/-- What is written about the device, of its checks those of the rule, is in the store. -/
structure Holds (d : DeviceId) (k : ComplianceRuleId) (was db : Platform) : Prop where
  results : ∀ id r, was.provisioningResults.get? id = some r → r.device = d →
    db.provisioningResults.get? id = some r
  checks : ∀ id c, was.complianceChecks.get? id = some c → c.device = d → c.rule = k →
    db.complianceChecks.get? id = some c
  snapshots : ∀ id s, was.configSnapshots.get? id = some s → s.device = d →
    ∃ s', db.configSnapshots.get? id = some s' ∧ SameReading s s'
  reports : ∀ id r, was.driftReports.get? id = some r → r.device = d →
    ∃ r', db.driftReports.get? id = some r' ∧ SameVerdict r r'

/-- The device is in the inventory and the rule in the rule table. -/
def Present (d : DeviceId) (k : ComplianceRuleId) (db : Platform) : Prop :=
  refersTo db.devices d = true ∧ refersTo db.complianceRules k = true

instance (d : DeviceId) (k : ComplianceRuleId) (db : Platform) : Decidable (Present d k db) :=
  inferInstanceAs (Decidable (_ ∧ _))

variable {d : DeviceId} {k : ComplianceRuleId} {was db db' : Platform}

theorem holds_self (db : Platform) : Holds d k db db where
  results _ _ h _ := h
  checks _ _ h _ _ := h
  snapshots _ s h _ := ⟨s, h, sameReading_self s⟩
  reports _ r h _ := ⟨r, h, sameVerdict_self r⟩

theorem Holds.trans (h : Holds d k was db) (h' : Holds d k db db') : Holds d k was db' where
  results id r hr hd := h'.results id r (h.results id r hr hd) hd
  checks id c hc hd hk := h'.checks id c (h.checks id c hc hd hk) hd hk
  snapshots id s hs hd := by
    obtain ⟨s', hs', hsame⟩ := h.snapshots id s hs hd
    obtain ⟨s'', hs'', hsame'⟩ := h'.snapshots id s' hs' (hsame.device.trans hd)
    exact ⟨s'', hs'', hsame.trans hsame'⟩
  reports id r hr hd := by
    obtain ⟨r', hr', hsame⟩ := h.reports id r hr hd
    obtain ⟨r'', hr'', hsame'⟩ := h'.reports id r' hr' (hsame.device.trans hd)
    exact ⟨r'', hr'', hsame.trans hsame'⟩

/-! ### One step -/

theorem filter_eq_or_none {α : Type} (p : α → Bool) (o : Option α) :
    o.filter p = o ∨ o.filter p = none := by
  cases o with
  | none => exact .inr rfl
  | some a =>
    rw [Option.filter_some]
    split
    · exact .inl rfl
    · exact .inr rfl

theorem get?_deleteWhere_of_kept {α : Type} {t : Table α} {p : ℕ → α → Bool} {id : ℕ} {a : α}
    (h : t.get? id = some a) (hp : p id a = false) : (t.deleteWhere p).get? id = some a := by
  rw [Table.get?_deleteWhere, h, Option.filter_some, hp]
  rfl

/-- The device whose rows a deletion takes with it is gone. -/
theorem ne_of_present {α : Type} {t : Table α} {id k : ℕ}
    (h : refersTo (t.delete id) k = true) : k ≠ id := by
  rintro rfl
  rw [refersTo, Table.delete, Table.get?_deleteWhere] at h
  cases hrow : t.get? k with
  | none => simp [hrow] at h
  | some a => simp [hrow] at h

theorem holds_cascade {id : DeviceId} (hpresent : d ≠ id) :
    Holds d k db (Device.cascade id db) where
  results _ r hr hd := get?_deleteWhere_of_kept hr (by simpa [hd] using hpresent)
  checks _ c hc hd _ := get?_deleteWhere_of_kept hc (by simpa [hd] using hpresent)
  snapshots _ s hs hd :=
    ⟨s, get?_deleteWhere_of_kept hs (by simpa [hd] using hpresent), sameReading_self s⟩
  reports key r hr hd := by
    have hkept := get?_deleteWhere_of_kept (p := fun _ r => r.device == id) hr
      (by simpa [hd] using hpresent)
    refine ⟨_, (Table.get?_mapRows _ _ key).trans (congrArg _ hkept), rfl, rfl, rfl, rfl, ?_, ?_⟩
    · exact filter_eq_or_none ..
    · exact filter_eq_or_none ..

theorem holds_mapSnapshots {f : ℕ → ConfigSnapshot → ConfigSnapshot}
    (hf : ∀ id s, SameReading s (f id s)) :
    Holds d k db { db with configSnapshots := db.configSnapshots.mapRows f } :=
  { holds_self db with
    snapshots := fun id s hs _ =>
      ⟨f id s, (Table.get?_mapRows _ _ id).trans (congrArg _ hs), hf id s⟩ }

theorem holds_of_change (h : Change db db') (hpresent : Present d k db') : Holds d k db db' := by
  cases h with
  | deleteDevice id => exact holds_cascade (ne_of_present hpresent.1)
  | deleteRule id =>
    have hne := ne_of_present hpresent.2
    exact { holds_self (k := k) db with
      checks := fun _ c hc _ hk => get?_deleteWhere_of_kept hc (by simpa [hk] using hne) }
  | createCheck c =>
    exact { holds_self (k := k) db with checks := fun _ _ hc _ _ => Table.get?_insert_of_some hc }
  | createSnapshot s =>
    exact { holds_self db with
      snapshots := fun _ s hs _ => ⟨s, Table.get?_insert_of_some hs, sameReading_self s⟩ }
  | saveSnapshot id set hset =>
    refine holds_mapSnapshots fun key s => ?_
    split
    · exact hset s
    · exact sameReading_self s
  | unsetGolden deviceId =>
    refine holds_mapSnapshots fun key s => ?_
    split <;> exact ⟨rfl, rfl, rfl, rfl⟩
  | createReport r =>
    exact { holds_self db with
      reports := fun _ r hr _ => ⟨r, Table.get?_insert_of_some hr, sameVerdict_self r⟩ }
  | _ => exact { holds_self db with }

theorem holds_of_step (h : StoreStep db db') (hpresent : Present d k db') : Holds d k db db' := by
  cases h with
  | dequeue => exact { holds_self db with }
  | effect heffect =>
    cases heffect with
    | common hchange => exact holds_of_change hchange hpresent
    | createResult =>
      exact { holds_self db with results := fun _ _ hr _ => Table.get?_insert_of_some hr }
    | _ => exact { holds_self db with }

/-! ### Runs -/

/-- While the device is in the inventory and the rule in the rule table, what is written about
the device stays in the store as it was written. -/
theorem evidence_kept (store : Platform) (d : DeviceId) (k : ComplianceRuleId)
    (done later : List Move)
    (hpresent : ∀ between rest, later = between ++ rest →
      Present d k (System.run { store := store } (done ++ between)).store) :
    Holds d k (System.run { store := store } done).store
      (System.run { store := store } (done ++ later)).store := by
  have hdone := balanced_run (c := { store := store }) provided_storeStep
    (balanced_start (Nat.le_refl 0)) done fun _ _ => trivial
  rw [System.run, System.run, GuardedRuns.runFrom_append]
  refine kept_while provided_storeStep hdone (fun _ _ => trivial) (P := Present d k)
    (K := Holds d k (System.run { store := store } done).store) ?_ ?_ (holds_self _)
  · exact fun _ _ hstep hafter hbefore => hbefore.trans (holds_of_step hstep hafter)
  · rintro between rest rfl
    have hafter := hpresent between rest rfl
    rw [System.run, GuardedRuns.runFrom_append] at hafter
    exact hafter

/-! ### A check, and a snapshot after it -/

def labCheck : List Move :=
  .receive (.runComplianceCheck labWorker.compliance 1 (some [1]) none) :: List.replicate 5 (.request 0)

def labSnapshot : List Move :=
  .receive (.takeConfigSnapshot labWorker.snapshot 1 true none) :: List.replicate 3 (.request 1)

theorem present_lab (between rest : List Move) (hsplit : labSnapshot = between ++ rest) :
    Present 1 1 (System.run { store := ComplianceRuns.labRules } (labCheck ++ between)).store := by
  have hlength : between.length ≤ 4 := by
    have hle := congrArg List.length hsplit
    simp [labSnapshot] at hle
    omega
  have htake : between = labSnapshot.take between.length := by rw [hsplit, List.take_left]
  have hall : ∀ n ≤ 4, Present 1 1
      (System.run { store := ComplianceRuns.labRules } (labCheck ++ labSnapshot.take n)).store := by
    decide
  rw [htake]
  exact hall _ hlength

theorem evidence_kept_of_lab :
    Holds 1 1 (System.run { store := ComplianceRuns.labRules } labCheck).store
      (System.run { store := ComplianceRuns.labRules } (labCheck ++ labSnapshot)).store :=
  evidence_kept ComplianceRuns.labRules 1 1 labCheck labSnapshot present_lab

example : ((System.run { store := ComplianceRuns.labRules }
    (labCheck ++ labSnapshot)).store.complianceChecks.rows.length,
    (System.run { store := ComplianceRuns.labRules }
      (labCheck ++ labSnapshot)).store.configSnapshots.rows.length) = (1, 1) := rfl

end DevSecOpsPlatform.EvidenceTrail
