import DevSecOpsPlatform.NetmikoSessions
import DevSecOpsPlatform.PlatformSerializers
import Mathlib.Data.List.Sort

/-!
# The security tasks and the golden snapshot action

`apps/security/tasks.py` and `set_golden` of `apps/security/views.py`. The tasks take the
SSH sessions they open, their clock, and the two library functions whose results they
only look at: `re.search` and `difflib.unified_diff`.
-/

namespace DevSecOpsPlatform.SecurityTasks

open KeyedTables StatementPrograms PlatformModels PlatformStore RolePermissions PythonValues
open NetmikoSessions

/-! ### Compliance checks -/

/-- `session n` is the connection opened for the rule numbered `n`; `reSearch pattern text`
is `bool(re.search(pattern, text, re.MULTILINE | re.IGNORECASE))`. -/
structure ComplianceWorld where
  session : ℕ → SshSession
  clock : ℕ → DateTime
  reSearch : String → String → Except Exn Bool

def evaluateRule (reSearch : String → String → Except Exn Bool) (output pattern : String)
    (mustMatch : Bool) : Except Exn Bool := do
  let matched ← reSearch pattern output
  return if mustMatch then matched else !matched

theorem evaluateRule_eq (reSearch : String → String → Except Exn Bool) (output pattern : String)
    (mustMatch : Bool) : evaluateRule reSearch output pattern mustMatch =
      (reSearch pattern output).map (fun matched => if mustMatch then matched else !matched) := by
  cases h : reSearch pattern output <;> simp only [evaluateRule, h] <;> rfl

/-- `ComplianceRule.objects.filter(is_active=True)`, with `pk__in=rule_ids` when the list
is not empty, in the order of the model. -/
def selectedRules (ruleIds : Option (List ComplianceRuleId)) (db : Platform) :
    List (ComplianceRuleId × ComplianceRule) :=
  (db.complianceRules.select (fun id r => r.isActive && match ruleIds with
    | none | some [] => true
    | some ids => ids.contains id)).insertionSort
      (fun a b => a.2.severity.value < b.2.severity.value ∨
        (a.2.severity.value = b.2.severity.value ∧ a.2.name ≤ b.2.name))

/-- Output, status and detail of one rule. -/
def checkRule (w : ComplianceWorld) (device : Device) (n : ℕ) (rule : ComplianceRule) :
    String × ComplianceStatus × String :=
  match sendCommand (w.session n) device rule.checkCommand with
  | .ok output =>
    match evaluateRule w.reSearch output rule.expectedPattern rule.mustMatch with
    | .ok true => (output, .compliant, "")
    | .ok false => (output, .nonCompliant, "Pattern '" ++ rule.expectedPattern ++ "' " ++
        if rule.mustMatch then "not found" else "found (should be absent)")
    | .error exc => onError exc
  | .error exc => onError exc
where
  onError (exc : Exn) : String × ComplianceStatus × String :=
    if exc.cls = .netmikoError then ("", .error, exc.message)
    else ("", .error, "Unexpected error: " ++ exc.message)

/-- The rule loop from the rule numbered `n` on, with the names and statuses it reports. -/
def checkRules (w : ComplianceWorld) (deviceId : DeviceId) (device : Device)
    (initiatedBy : Option UserId) :
    ℕ → List (ComplianceRuleId × ComplianceRule) → Statement (List (String × ComplianceStatus))
  | _, [] => return []
  | n, rule :: rules => do
    let (output, status, detail) := checkRule w device n rule.2
    let _ ← ComplianceCheck.create {
      device := deviceId, rule := rule.1, status, output := textTake 4000 output, detail
      checkedAt := w.clock n, initiatedBy }
    let results ← checkRules w deviceId device initiatedBy (n + 1) rules
    return (rule.2.name, status) :: results

def resultsJson (results : List (String × ComplianceStatus)) : Json :=
  .arr (results.map (fun r => .obj [("rule", .str r.1), ("status", .str r.2.value)]))

def runComplianceCheck (w : ComplianceWorld) (deviceId : DeviceId)
    (ruleIds : Option (List ComplianceRuleId)) (initiatedBy : Option UserId) : Statement Json := do
  let device ← Device.get deviceId
  let rules ← Program.query (selectedRules ruleIds)
  let results ← checkRules w deviceId device initiatedBy 0 rules
  let _ ← AuditLog.create {
    action := .complianceCheck, actor := initiatedBy, device := some deviceId, success := true
    detail := .obj [("results", resultsJson results)], timestamp := w.clock results.length }
  return resultsJson results

/-! ### Configuration drift -/

/-- `unifiedDiff a b fromfile tofile n` lists `difflib.unified_diff`. -/
structure DriftWorld where
  session : SshSession
  clock : ℕ → DateTime
  unifiedDiff : List String → List String → String → String → ℕ → List String

def goldenSnapshots (db : Platform) (deviceId : DeviceId) :
    List (ConfigSnapshotId × ConfigSnapshot) :=
  db.configSnapshots.select (fun _ s => s.device == deviceId && s.isGolden)

/-- The first of the rows with the latest `taken_at`. -/
def latestTaken :
    List (ConfigSnapshotId × ConfigSnapshot) → Option (ConfigSnapshotId × ConfigSnapshot)
  | [] => none
  | s :: rest => match latestTaken rest with
    | none => some s
    | some t => if s.2.takenAt < t.2.takenAt then some t else some s

/-- `filter(device=device, is_golden=True).order_by("-taken_at").first()`. -/
def latestGolden (deviceId : DeviceId) (db : Platform) :
    Option (ConfigSnapshotId × ConfigSnapshot) :=
  latestTaken (goldenSnapshots db deviceId)

def errorJson (exc : Exn) : Json := .obj [("error", .str exc.message)]

def goldenInitialized : Json :=
  .obj [("status", .str "clean"), ("note", .str "golden config initialized")]

/-- The branch without a golden snapshot: the configuration just read becomes it. -/
def promoteCurrent (w : DriftWorld) (deviceId : DeviceId) (currentSnap : ConfigSnapshotId) :
    Statement Json := do
  ConfigSnapshot.save currentSnap (fun s =>
    { s with isGolden := true, comment := "Auto-set as initial golden" })
  let _ ← DriftReport.create {
    device := deviceId, goldenSnapshot := some currentSnap, currentSnapshot := some currentSnap
    status := .clean, diff := "", checkedAt := w.clock 1 }
  return goldenInitialized

/-- The unified diff, with three lines of context, from the golden snapshot to the
configuration just read. -/
def driftLines (w : DriftWorld) (golden : ConfigSnapshot) (currentConfig : String) : List String :=
  w.unifiedDiff (splitlinesKeepends golden.config) (splitlinesKeepends currentConfig)
    ("golden (" ++ dateText golden.takenAt ++ ")") ("current (" ++ dateText (w.clock 0) ++ ")") 3

def driftStatus (hasDrift : Bool) : DriftStatus := if hasDrift then .drifted else .clean

/-- The branch that compares the configuration just read with the golden snapshot. -/
def compareWithGolden (w : DriftWorld) (deviceId : DeviceId) (initiatedBy : Option UserId)
    (currentSnap : ConfigSnapshotId) (currentConfig : String)
    (golden : ConfigSnapshotId × ConfigSnapshot) : Statement Json := do
  let diffLines := driftLines w golden.2 currentConfig
  let hasDrift := !diffLines.isEmpty
  let report ← DriftReport.create {
    device := deviceId, goldenSnapshot := some golden.1, currentSnapshot := some currentSnap
    status := driftStatus hasDrift, diff := textTake 10000 (String.join diffLines)
    checkedAt := w.clock 1 }
  let _ ← AuditLog.create {
    action := .driftCheck, actor := initiatedBy, device := some deviceId, success := true
    detail := .obj [("drift", .bool hasDrift), ("report_id", .nat report)], timestamp := w.clock 2 }
  return .obj [("status", .str (driftStatus hasDrift).value), ("drift", .bool hasDrift)]

def runDriftDetection (w : DriftWorld) (deviceId : DeviceId) (initiatedBy : Option UserId) :
    Statement Json := do
  let device ← Device.get deviceId
  match getRunningConfig w.session device with
  | .error exc =>
    if exc.cls ≠ .netmikoError then throw exc
    let _ ← DriftReport.create {
      device := deviceId, status := .error, diff := exc.message, checkedAt := w.clock 0 }
    return errorJson exc
  | .ok currentConfig =>
    let currentSnap ← ConfigSnapshot.create {
      device := deviceId, config := currentConfig, takenAt := w.clock 0, takenBy := initiatedBy }
    match ← Program.query (latestGolden deviceId) with
    | none => promoteCurrent w deviceId currentSnap
    | some golden => compareWithGolden w deviceId initiatedBy currentSnap currentConfig golden

/-! ### Snapshots -/

structure SnapshotWorld where
  session : SshSession
  clock : ℕ → DateTime

def takeConfigSnapshot (w : SnapshotWorld) (deviceId : DeviceId) (setGolden : Bool)
    (initiatedBy : Option UserId) : Statement Json := do
  let device ← Device.get deviceId
  match getRunningConfig w.session device with
  | .error exc =>
    if exc.cls ≠ .netmikoError then throw exc
    return errorJson exc
  | .ok config =>
    let snap ← ConfigSnapshot.create {
      device := deviceId, config := config, isGolden := setGolden
      takenAt := w.clock 0, takenBy := initiatedBy }
    let _ ← AuditLog.create {
      action := .snapshot, actor := initiatedBy, device := some deviceId, success := true
      detail := .obj [("snapshot_id", .nat snap), ("is_golden", .bool setGolden)]
      timestamp := w.clock 1 }
    return .obj [("snapshot_id", .nat snap), ("is_golden", .bool setGolden)]

/-- `filter(device=snap.device, is_golden=True).update(is_golden=False)`. -/
def unsetGolden (deviceId : DeviceId) (db : Platform) : Platform :=
  { db with
    configSnapshots := db.configSnapshots.updateWhere
      (fun _ s => s.device == deviceId && s.isGolden) (fun s => { s with isGolden := false }) }

/-- A snapshot with the device that is loaded with it. -/
def snapshotWithDevice (pk : ConfigSnapshotId) (db : Platform) :
    Option (ConfigSnapshot × Device) := do
  let snap ← db.configSnapshots.get? pk
  let device ← db.devices.get? snap.device
  return (snap, device)

/-- `ConfigSnapshotViewSet.set_golden`. -/
def setGolden (caller : Option UserId) (pk : ConfigSnapshotId) : Statement Response := do
  let _ ← permit isAdminOrNetworkEngineer caller
  let (snap, device) ← getObject (snapshotWithDevice pk)
  Program.execute (unsetGolden snap.device)
  ConfigSnapshot.save pk (fun s => { s with isGolden := true })
  return ⟨200, .obj [("detail", .str ("Snapshot " ++ toString pk ++
    " is now the golden config for " ++ device.hostname))]⟩

end DevSecOpsPlatform.SecurityTasks
