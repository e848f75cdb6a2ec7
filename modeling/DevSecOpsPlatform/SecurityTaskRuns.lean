import DevSecOpsPlatform.SecurityTasks

/-!
# What the security tasks do when they run alone

For each task and for `setGolden`, its outcome and its final store in terms of the store
it starts from. Every later fact about an atomic run of them starts here.
-/

namespace DevSecOpsPlatform.SecurityTasks

open KeyedTables StatementPrograms PlatformModels PlatformStore RolePermissions PythonValues
open NetmikoSessions Program

theorem getRunningConfig_error {session : SshSession} {device : Device} {e : Exn}
    (h : getRunningConfig session device = .error e) : e.cls = .netmikoError :=
  connect_error_cls h

theorem refersTo_insert {α : Type} (t : Table α) (a : α) : refersTo (t.insert a) t.nextId = true :=
  refersTo_of_get? (t.get?_insert_nextId a)

/-- The row that `takeConfigSnapshot` inserts. -/
def takenSnapshot (w : SnapshotWorld) (deviceId : DeviceId) (golden : Bool)
    (initiatedBy : Option UserId) (config : String) : ConfigSnapshot where
  device := deviceId
  config := config
  isGolden := golden
  takenAt := w.clock 0
  takenBy := initiatedBy

def snapshotDetail (snap : ConfigSnapshotId) (golden : Bool) : Json :=
  .obj [("snapshot_id", .nat snap), ("is_golden", .bool golden)]

theorem hasNul_snapshotDetail (snap : ConfigSnapshotId) (golden : Bool) :
    (snapshotDetail snap golden).hasNul = false := by
  rfl

theorem storable_takenSnapshot (w : SnapshotWorld) (deviceId : DeviceId) (golden : Bool)
    (initiatedBy : Option UserId) (config : String) :
    storable (takenSnapshot w deviceId golden initiatedBy config).texts = storable [config] := by
  rw [ConfigSnapshot.texts, storable_cons]
  exact Bool.and_true _

theorem run_createSnapshot_bind {β : Type} (s : ConfigSnapshot) (f : ConfigSnapshotId → Statement β)
    {db : Platform} (hd : refersTo db.devices s.device = true) :
    (ConfigSnapshot.create s >>= f).run db =
      if storable s.texts then
        if refersToOrNull db.users s.takenBy then
          (f db.configSnapshots.nextId).run { db with
            configSnapshots := db.configSnapshots.insert s }
        else (.error foreignKeyError, db)
      else (.error nulTextError, db) := by
  rw [ConfigSnapshot.create, run_insertRow_bind, hd]
  cases storable s.texts with
  | false => rfl
  | true => cases refersToOrNull db.users s.takenBy <;> rfl

theorem run_createLog_bind {β : Type} {a : AuditLog} (f : ℕ → Statement β) {db : Platform}
    (hdetail : a.detail.hasNul = false) (hactor : refersToOrNull db.users a.actor = true)
    (hdevice : refersToOrNull db.devices a.device = true) :
    (AuditLog.create a >>= f).run db =
      (f db.auditLogs.nextId).run { db with auditLogs := db.auditLogs.insert a } := by
  rw [AuditLog.create, run_insertRow_bind, hdetail, hactor, hdevice]
  rfl

theorem run_createReport_bind {β : Type} (r : DriftReport) (f : ℕ → Statement β) {db : Platform}
    (hd : refersTo db.devices r.device = true)
    (hgolden : refersToOrNull db.configSnapshots r.goldenSnapshot = true)
    (hcurrent : refersToOrNull db.configSnapshots r.currentSnapshot = true) :
    (DriftReport.create r >>= f).run db =
      if storable [r.diff] then
        (f db.driftReports.nextId).run { db with driftReports := db.driftReports.insert r }
      else (.error nulTextError, db) := by
  rw [DriftReport.create, run_insertRow_bind, hd, hgolden, hcurrent, DriftReport.texts]
  cases storable [r.diff] <;> rfl

theorem run_takeConfigSnapshot (w : SnapshotWorld) (deviceId : DeviceId) (golden : Bool)
    (initiatedBy : Option UserId) (db : Platform) :
    (takeConfigSnapshot w deviceId golden initiatedBy).run db =
      match db.devices.get? deviceId with
      | none => (.error (doesNotExistError "Device"), db)
      | some device => match getRunningConfig w.session device with
        | .error exc => (.ok (errorJson exc), db)
        | .ok config =>
          if storable [config] then
            if refersToOrNull db.users initiatedBy then
              (.ok (snapshotDetail db.configSnapshots.nextId golden), { db with
                configSnapshots := db.configSnapshots.insert
                  (takenSnapshot w deviceId golden initiatedBy config)
                auditLogs := db.auditLogs.insert {
                  action := .snapshot, actor := initiatedBy, device := some deviceId
                  success := true, detail := snapshotDetail db.configSnapshots.nextId golden
                  timestamp := w.clock 1 } })
            else (.error foreignKeyError, db)
          else (.error nulTextError, db) := by
  unfold takeConfigSnapshot Device.get
  rw [run_statement_bind]
  cases hd : db.devices.get? deviceId with
  | none => rfl
  | some device =>
    dsimp only
    cases hc : getRunningConfig w.session device with
    | error exc => simp [getRunningConfig_error hc]
    | ok config =>
      have hdevice := refersTo_of_get? hd
      have htexts := storable_takenSnapshot w deviceId golden initiatedBy config
      dsimp only
      rw [run_createSnapshot_bind _ _ hdevice]
      change (if storable (takenSnapshot w deviceId golden initiatedBy config).texts then _
        else _) = _
      rw [htexts]
      cases storable [config] with
      | false => rfl
      | true =>
        cases hu : refersToOrNull db.users initiatedBy with
        | false => rfl
        | true =>
          simp only [if_true]
          exact run_createLog_bind _ (hasNul_snapshotDetail _ golden) hu hdevice

/-- The row that `runDriftDetection` inserts. -/
def currentSnapshot (w : DriftWorld) (deviceId : DeviceId) (initiatedBy : Option UserId)
    (config : String) : ConfigSnapshot where
  device := deviceId
  config := config
  takenAt := w.clock 0
  takenBy := initiatedBy

theorem storable_currentSnapshot (w : DriftWorld) (deviceId : DeviceId)
    (initiatedBy : Option UserId) (config : String) :
    storable (currentSnapshot w deviceId initiatedBy config).texts = storable [config] := by
  rw [ConfigSnapshot.texts, storable_cons]
  exact Bool.and_true _

/-- The store after the promotion of the snapshot `snap`. -/
def promoted (w : DriftWorld) (deviceId : DeviceId) (snap : ConfigSnapshotId) (db : Platform) :
    Platform :=
  { db with
    configSnapshots := db.configSnapshots.update snap (fun s =>
      { s with isGolden := true, comment := "Auto-set as initial golden" })
    driftReports := db.driftReports.insert {
      device := deviceId, goldenSnapshot := some snap, currentSnapshot := some snap
      status := .clean, diff := "", checkedAt := w.clock 1 } }

/-- What the task returns after a comparison. -/
def driftJson (lines : List String) : Json :=
  .obj [("status", .str (driftStatus !lines.isEmpty).value), ("drift", .bool !lines.isEmpty)]

/-- The text of the report. -/
def storedDiff (lines : List String) : String := textTake 10000 (String.join lines)

/-- The store after the comparison with the golden snapshot. -/
def compared (w : DriftWorld) (deviceId : DeviceId) (initiatedBy : Option UserId)
    (snap golden : ConfigSnapshotId) (lines : List String) (db : Platform) : Platform :=
  { db with
    driftReports := db.driftReports.insert {
      device := deviceId, goldenSnapshot := some golden, currentSnapshot := some snap
      status := driftStatus !lines.isEmpty, diff := storedDiff lines
      checkedAt := w.clock 1 }
    auditLogs := db.auditLogs.insert {
      action := .driftCheck, actor := initiatedBy, device := some deviceId, success := true
      detail := .obj [("drift", .bool !lines.isEmpty), ("report_id", .nat db.driftReports.nextId)]
      timestamp := w.clock 2 } }

theorem run_promoteCurrent {w : DriftWorld} {deviceId : DeviceId} {snap : ConfigSnapshotId}
    {db : Platform} (hd : refersTo db.devices deviceId = true)
    (hs : refersTo db.configSnapshots snap = true) :
    (promoteCurrent w deviceId snap).run db =
      (.ok goldenInitialized, promoted w deviceId snap db) := by
  obtain ⟨s, hget⟩ := Option.isSome_iff_exists.mp hs
  have hup : refersTo (db.configSnapshots.update snap (fun s =>
      { s with isGolden := true, comment := "Auto-set as initial golden" })) snap = true := by
    simp [refersTo, hget]
  rw [promoteCurrent, ConfigSnapshot.save, saveFields, run_statement_bind, hget]
  dsimp only
  rw [run_createReport_bind _ _ (by exact hd) (by exact hup) (by exact hup)]
  rfl

theorem run_compareWithGolden {w : DriftWorld} {deviceId : DeviceId} {initiatedBy : Option UserId}
    {snap : ConfigSnapshotId} {config : String} {golden : ConfigSnapshotId × ConfigSnapshot}
    {db : Platform} (hd : refersTo db.devices deviceId = true)
    (hu : refersToOrNull db.users initiatedBy = true)
    (hs : refersTo db.configSnapshots snap = true)
    (hg : refersTo db.configSnapshots golden.1 = true) :
    (compareWithGolden w deviceId initiatedBy snap config golden).run db =
      if storable [storedDiff (driftLines w golden.2 config)] then
        (.ok (driftJson (driftLines w golden.2 config)),
          compared w deviceId initiatedBy snap golden.1 (driftLines w golden.2 config) db)
      else (.error nulTextError, db) := by
  unfold compareWithGolden
  rw [run_createReport_bind _ _ (by exact hd) (by exact hg) (by exact hs)]
  change (if storable [storedDiff (driftLines w golden.2 config)] then _ else _) = _
  cases storable [storedDiff (driftLines w golden.2 config)] with
  | false => rfl
  | true =>
    simp only [if_true]
    exact run_createLog_bind _ rfl hu hd

theorem get?_of_latestTaken {rows : List (ConfigSnapshotId × ConfigSnapshot)}
    {s : ConfigSnapshotId × ConfigSnapshot} (h : latestTaken rows = some s) : s ∈ rows := by
  induction rows with
  | nil => simp [latestTaken] at h
  | cons r rows ih =>
    simp only [latestTaken] at h
    split at h
    · simp_all
    · rename_i t ht
      split at h
      · exact List.mem_cons_of_mem _ (ih (ht.trans h))
      · simp_all

theorem latestGolden_mem {deviceId : DeviceId} {db : Platform}
    {g : ConfigSnapshotId × ConfigSnapshot} (h : latestGolden deviceId db = some g) :
    db.configSnapshots.get? g.1 = some g.2 ∧ g.2.device = deviceId ∧ g.2.isGolden = true := by
  have hm := (db.configSnapshots.mem_select _ g.1 g.2).mp (get?_of_latestTaken h)
  simpa using hm

theorem latestTaken_eq_none {rows : List (ConfigSnapshotId × ConfigSnapshot)} :
    latestTaken rows = none ↔ rows = [] := by
  cases rows with
  | nil => simp [latestTaken]
  | cons r rows =>
    simp only [latestTaken, reduceCtorEq, iff_false]
    cases latestTaken rows with
    | none => simp
    | some t => by_cases h : r.2.takenAt < t.2.takenAt <;> simp [h]

theorem goldenSnapshots_captured (db : Platform) (s : ConfigSnapshot)
    (hs : s.isGolden = false) (d : DeviceId) :
    goldenSnapshots { db with configSnapshots := db.configSnapshots.insert s } d =
      goldenSnapshots db d := by
  simp [goldenSnapshots, Table.select_insert, hs]

theorem run_runDriftDetection (w : DriftWorld) (deviceId : DeviceId)
    (initiatedBy : Option UserId) (db : Platform) :
    (runDriftDetection w deviceId initiatedBy).run db =
      match db.devices.get? deviceId with
      | none => (.error (doesNotExistError "Device"), db)
      | some device => match getRunningConfig w.session device with
        | .error exc =>
          if storable [exc.message] then
            (.ok (errorJson exc), { db with
              driftReports := db.driftReports.insert {
                device := deviceId, status := .error, diff := exc.message, checkedAt := w.clock 0 } })
          else (.error nulTextError, db)
        | .ok config =>
          if storable [config] then
            if refersToOrNull db.users initiatedBy then
              let snap := db.configSnapshots.nextId
              let db' : Platform := { db with
                configSnapshots := db.configSnapshots.insert
                  (currentSnapshot w deviceId initiatedBy config) }
              match latestGolden deviceId db' with
              | none => (.ok goldenInitialized, promoted w deviceId snap db')
              | some golden =>
                let lines := driftLines w golden.2 config
                if storable [storedDiff lines] then
                  (.ok (driftJson lines), compared w deviceId initiatedBy snap golden.1 lines db')
                else (.error nulTextError, db')
            else (.error foreignKeyError, db)
          else (.error nulTextError, db) := by
  unfold runDriftDetection Device.get
  rw [run_statement_bind]
  cases hd : db.devices.get? deviceId with
  | none => rfl
  | some device =>
    dsimp only
    cases hc : getRunningConfig w.session device with
    | error exc =>
      have hclass := getRunningConfig_error hc
      have hreport := run_createReport_bind (β := Json)
        { device := deviceId, status := .error, diff := exc.message, checkedAt := w.clock 0 }
        (fun _ => .ret (errorJson exc)) (refersTo_of_get? hd) rfl rfl
      simp only [hclass, ne_eq, not_true_eq_false, if_false]
      exact hreport
    | ok config =>
      have hdev := refersTo_of_get? hd
      have htexts := storable_currentSnapshot w deviceId initiatedBy config
      dsimp only
      rw [run_createSnapshot_bind _ _ hdev]
      change (if storable (currentSnapshot w deviceId initiatedBy config).texts then _ else _) = _
      rw [htexts]
      cases storable [config] with
      | false => rfl
      | true =>
        cases hu : refersToOrNull db.users initiatedBy with
        | false => rfl
        | true =>
          have hsnap := refersTo_insert db.configSnapshots
            (currentSnapshot w deviceId initiatedBy config)
          simp only [if_true, query_bind, run_stmt, id_eq]
          change ((match latestGolden deviceId { db with
              configSnapshots := db.configSnapshots.insert
                (currentSnapshot w deviceId initiatedBy config) } with
            | none => promoteCurrent w deviceId db.configSnapshots.nextId
            | some golden => compareWithGolden w deviceId initiatedBy db.configSnapshots.nextId
                config golden).run _) = _
          split
          · exact run_promoteCurrent hdev hsnap
          · rename_i golden hg
            have hgold := refersTo_of_get? (latestGolden_mem hg).1
            exact run_compareWithGolden hdev hu hsnap hgold

/-- What `setGolden` answers. -/
def goldenResponse (pk : ConfigSnapshotId) (device : Device) : Response :=
  ⟨200, .obj [("detail", .str ("Snapshot " ++ toString pk ++
    " is now the golden config for " ++ device.hostname))]⟩

/-- The store after `setGolden` of the snapshot `pk` of a device. -/
def redesignated (deviceId : DeviceId) (pk : ConfigSnapshotId) (db : Platform) : Platform :=
  { db with
    configSnapshots := (unsetGolden deviceId db).configSnapshots.update pk
      (fun s => { s with isGolden := true }) }

theorem get?_unsetGolden (deviceId : DeviceId) (db : Platform) (pk : ConfigSnapshotId) :
    (unsetGolden deviceId db).configSnapshots.get? pk = (db.configSnapshots.get? pk).map
      (fun s => if s.device == deviceId && s.isGolden then { s with isGolden := false } else s) :=
  Table.get?_updateWhere _ _ _ _

theorem snapshotWithDevice_eq_some {pk : ConfigSnapshotId} {db : Platform} {snap : ConfigSnapshot}
    {device : Device} : snapshotWithDevice pk db = some (snap, device) ↔
      db.configSnapshots.get? pk = some snap ∧ db.devices.get? snap.device = some device := by
  simp only [snapshotWithDevice, Option.bind_eq_bind, Option.bind_eq_some_iff, Option.pure_def,
    Option.some.injEq, Prod.mk.injEq]
  constructor
  · rintro ⟨s, hs, d, hd, rfl, rfl⟩
    exact ⟨hs, hd⟩
  · rintro ⟨hs, hd⟩
    exact ⟨snap, hs, device, hd, rfl, rfl⟩

theorem run_setGolden (caller : Option UserId) (pk : ConfigSnapshotId) (db : Platform) :
    (setGolden caller pk).run db =
      match authenticate caller db with
      | none => (.error notAuthenticatedError, db)
      | some u =>
        if isAdminOrNetworkEngineer (some u) then
          match snapshotWithDevice pk db with
          | none => (.error ⟨.http404, "Not found."⟩, db)
          | some (snap, device) => (.ok (goldenResponse pk device), redesignated snap.device pk db)
        else (.error permissionDeniedError, db) := by
  unfold setGolden permit getObject
  rw [run_statement_bind]
  cases ha : authenticate caller db with
  | none => rfl
  | some u =>
    dsimp only
    cases hp : isAdminOrNetworkEngineer (some u) with
    | false => rfl
    | true =>
      simp only [if_true]
      rw [run_statement_bind]
      cases hs : snapshotWithDevice pk db with
      | none => rfl
      | some r =>
        have hget : db.configSnapshots.get? pk = some r.1 ∧ _ := snapshotWithDevice_eq_some.mp hs
        have hstill : ((unsetGolden r.1.device db).configSnapshots.get? pk).isSome := by
          simp [get?_unsetGolden, hget.1]
        obtain ⟨s, hs'⟩ := Option.isSome_iff_exists.mp hstill
        simp only [execute_bind, run_stmt, ConfigSnapshot.save, saveFields, run_statement_bind, hs']
        rfl

/-! ### The compliance task -/

/-- What the rule loop reports, from the rule numbered `n` on. -/
def ruleResults (w : ComplianceWorld) (device : Device) :
    ℕ → List (ComplianceRuleId × ComplianceRule) → List (String × ComplianceStatus)
  | _, [] => []
  | n, rule :: rules =>
    (rule.2.name, (checkRule w device n rule.2).2.1) :: ruleResults w device (n + 1) rules

/-- The rule loop writes no table but the one of the checks, and when it ends normally it
reports every rule. -/
theorem run_checkRules (w : ComplianceWorld) (deviceId : DeviceId) (device : Device)
    (initiatedBy : Option UserId) (n : ℕ) (rules : List (ComplianceRuleId × ComplianceRule))
    (db : Platform) :
    ∃ checks, ((checkRules w deviceId device initiatedBy n rules).run db).2 =
        { db with complianceChecks := checks } ∧
      ∀ results, ((checkRules w deviceId device initiatedBy n rules).run db).1 = .ok results →
        results = ruleResults w device n rules := by
  induction rules generalizing n db with
  | nil =>
    refine ⟨db.complianceChecks, rfl, fun results h => ?_⟩
    simpa [checkRules, ruleResults] using h.symm
  | cons rule rules ih =>
    simp only [checkRules, ComplianceCheck.create, run_insertRow_bind]
    split
    · rw [run_bind]
      obtain ⟨checks, hstore, hres⟩ := ih (n + 1) _
      revert hstore hres
      generalize (checkRules w deviceId device initiatedBy (n + 1) rules).run _ = r
      intro hstore hres
      obtain ⟨o, db'⟩ := r
      dsimp only at hstore hres
      cases o with
      | error e => exact ⟨checks, hstore, fun results h => by simp at h⟩
      | ok results =>
        refine ⟨checks, hstore, fun results' h => ?_⟩
        have hr := hres results rfl
        simpa [ruleResults, hr] using h.symm
    · exact ⟨db.complianceChecks, rfl, fun results h => by simp at h⟩

end DevSecOpsPlatform.SecurityTasks
