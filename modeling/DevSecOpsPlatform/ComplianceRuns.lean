import DevSecOpsPlatform.SecurityTaskRuns
import DevSecOpsPlatform.SecurityViews
import Mathlib.Data.List.Infix

/-!
# What a compliance run does when it runs alone

The rule loop inserts one row per rule. The row depends on what the device answers to the
rule's command and on the rule alone, whatever happened to the rules before it. Which rules
the loop goes over depends on the request.
-/

namespace DevSecOpsPlatform.ComplianceRuns

open KeyedTables StatementPrograms PlatformModels PlatformStore RolePermissions PythonValues
open NetmikoSessions SecurityTasks SecurityViews

/-! ### The rule loop -/

/-- The row of the rule numbered `n`. -/
def checkRow (w : ComplianceWorld) (d : DeviceId) (device : Device) (user : Option UserId) (n : ℕ)
    (rule : ComplianceRuleId × ComplianceRule) : ComplianceCheck where
  device := d
  rule := rule.1
  status := (checkRule w device n rule.2).2.1
  output := textTake 4000 (checkRule w device n rule.2).1
  detail := (checkRule w device n rule.2).2.2
  checkedAt := w.clock n
  initiatedBy := user

/-- The rows of the rules, numbered from `n` on. -/
def checkRows (w : ComplianceWorld) (d : DeviceId) (device : Device) (user : Option UserId) (n : ℕ)
    (rules : List (ComplianceRuleId × ComplianceRule)) : List ComplianceCheck :=
  (rules.zipIdx n).map fun rule => checkRow w d device user rule.2 rule.1

/-- The names of the rules with the statuses of their rows. -/
def ruleStatuses (rules : List (ComplianceRuleId × ComplianceRule)) (rows : List ComplianceCheck) :
    List (String × ComplianceStatus) :=
  List.zipWith (fun rule row => (rule.2.name, row.status)) rules rows

theorem ruleResults_eq (w : ComplianceWorld) (d : DeviceId) (device : Device)
    (user : Option UserId) (n : ℕ) (rules : List (ComplianceRuleId × ComplianceRule)) :
    ruleResults w device n rules = ruleStatuses rules (checkRows w d device user n rules) := by
  induction rules generalizing n with
  | nil => rfl
  | cons rule rules ih => exact congrArg (_ :: ·) (ih (n + 1))

theorem checkRules_cons (w : ComplianceWorld) (d : DeviceId) (device : Device)
    (user : Option UserId) (n : ℕ) (rule : ComplianceRuleId × ComplianceRule)
    (rules : List (ComplianceRuleId × ComplianceRule)) :
    checkRules w d device user n (rule :: rules) =
      ComplianceCheck.create (checkRow w d device user n rule) >>= fun _ =>
        checkRules w d device user (n + 1) rules >>= fun results =>
          .ret ((rule.2.name, (checkRule w device n rule.2).2.1) :: results) := rfl

/-- When its references hold and its texts can be stored, the loop inserts one row after the
other. -/
theorem run_checkRules_rows (w : ComplianceWorld) {d : DeviceId} (device : Device)
    {user : Option UserId} (n : ℕ) {rules : List (ComplianceRuleId × ComplianceRule)}
    {db : Platform} (hdevice : refersTo db.devices d = true)
    (huser : refersToOrNull db.users user = true)
    (hrules : ∀ rule ∈ rules, refersTo db.complianceRules rule.1 = true)
    (htexts : ∀ row ∈ checkRows w d device user n rules, storable row.texts = true) :
    (checkRules w d device user n rules).run db = (.ok (ruleResults w device n rules), { db with
      complianceChecks :=
        db.complianceChecks.insertAll (checkRows w d device user n rules) }) := by
  induction rules generalizing n db with
  | nil => rfl
  | cons rule rules ih =>
    obtain ⟨hrule, hrest⟩ := List.forall_mem_cons.mp hrules
    obtain ⟨hrow, hrows⟩ := List.forall_mem_cons.mp htexts
    have hok : (refersTo db.devices d && refersTo db.complianceRules rule.1 &&
        refersToOrNull db.users user) = true := by
      rw [hdevice, hrule, huser]
      rfl
    have hinsert : (ComplianceCheck.create (checkRow w d device user n rule)).run db =
        (.ok db.complianceChecks.nextId, { db with
          complianceChecks := db.complianceChecks.insert (checkRow w d device user n rule) }) := by
      rw [ComplianceCheck.create, ← Program.bind_ret (insertRow _ _ _), run_insertRow_bind, hrow]
      simp only [checkRow, hok, require_true]
      rfl
    rw [checkRules_cons, Program.run_bind, hinsert]
    dsimp only
    rw [Program.run_bind, ih (n + 1) (by exact hdevice) (by exact huser) (by exact hrest) hrows]
    rfl

/-- In any case the rows that the loop has inserted are those of its first rules. -/
theorem run_checkRules_prefix (w : ComplianceWorld) (d : DeviceId) (device : Device)
    (user : Option UserId) (n : ℕ) (rules : List (ComplianceRuleId × ComplianceRule))
    (db : Platform) : ∃ outcome rows, (checkRules w d device user n rules).run db =
      (outcome, { db with complianceChecks := db.complianceChecks.insertAll rows }) ∧
      rows <+: checkRows w d device user n rules := by
  induction rules generalizing n db with
  | nil => exact ⟨_, [], rfl, List.prefix_rfl⟩
  | cons rule rules ih =>
    rw [checkRules_cons, ComplianceCheck.create, run_insertRow_bind]
    split
    · obtain ⟨outcome, rows, hrun, hprefix⟩ := ih (n + 1) { db with
        complianceChecks := db.complianceChecks.insert (checkRow w d device user n rule) }
      rw [Program.run_bind, hrun]
      have hrows : checkRow w d device user n rule :: rows <+:
          checkRows w d device user n (rule :: rules) := List.cons_prefix_cons.mpr ⟨rfl, hprefix⟩
      cases outcome with
      | error e => exact ⟨_, _, rfl, hrows⟩
      | ok results => exact ⟨_, _, rfl, hrows⟩
    · exact ⟨_, [], rfl, List.nil_prefix⟩

theorem refersTo_selectedRules {ruleIds : Option (List ComplianceRuleId)} {db : Platform}
    {rule : ComplianceRuleId × ComplianceRule} (h : rule ∈ selectedRules ruleIds db) :
    refersTo db.complianceRules rule.1 = true := by
  have hmem := (List.perm_insertionSort _ _).mem_iff.mp h
  exact refersTo_of_get? ((Table.mem_select _ _ rule.1 rule.2).mp hmem).1

/-- The audit entry of the run. -/
def complianceEntry (w : ComplianceWorld) (d : DeviceId) (user : Option UserId)
    (results : List (String × ComplianceStatus)) : AuditLog where
  action := .complianceCheck
  actor := user
  device := some d
  success := true
  detail := .obj [("results", resultsJson results)]
  timestamp := w.clock results.length

/-- The database takes the rows of the run and its audit entry: none of their texts has a NUL
character. -/
structure WritesSucceed (w : ComplianceWorld) (d : DeviceId) (device : Device)
    (user : Option UserId) (rules : List (ComplianceRuleId × ComplianceRule)) : Prop where
  rows : ∀ row ∈ checkRows w d device user 0 rules, storable row.texts = true
  names : storable (rules.map (·.2.name)) = true

theorem hasNul_resultsJson (results : List (String × ComplianceStatus)) :
    (resultsJson results).hasNul = !storable (results.map Prod.fst) := by
  rw [resultsJson, Json.hasNul]
  induction results with
  | nil => rfl
  | cons result results ih =>
    have hvalue : (result.2.value.toList.any Json.isNul) = false := by cases result.2 <;> rfl
    rw [List.map_cons, Json.hasNulItems, ih, List.map_cons, storable_cons, Bool.not_and]
    simp [Json.hasNul, Json.hasNulEntries, hvalue, storable, Json.isNul]

theorem map_fst_ruleResults (w : ComplianceWorld) (device : Device) (n : ℕ)
    (rules : List (ComplianceRuleId × ComplianceRule)) :
    (ruleResults w device n rules).map Prod.fst = rules.map (·.2.name) := by
  induction rules generalizing n with
  | nil => rfl
  | cons rule rules ih => exact congrArg (rule.2.name :: ·) (ih (n + 1))

theorem hasNul_complianceEntry {w : ComplianceWorld} {d : DeviceId} {device : Device}
    {user : Option UserId} {rules : List (ComplianceRuleId × ComplianceRule)}
    (h : WritesSucceed w d device user rules) :
    (complianceEntry w d user (ruleResults w device 0 rules)).detail.hasNul = false := by
  rw [complianceEntry, Json.hasNul, Json.hasNulEntries, hasNul_resultsJson, map_fst_ruleResults,
    h.names]
  rfl

theorem run_runComplianceCheck {w : ComplianceWorld} {d : DeviceId}
    {ruleIds : Option (List ComplianceRuleId)} {user : Option UserId} {db : Platform}
    {device : Device} (hdevice : db.devices.get? d = some device)
    (huser : refersToOrNull db.users user = true)
    (hwrites : WritesSucceed w d device user (selectedRules ruleIds db)) :
    (runComplianceCheck w d ruleIds user).run db =
      let rules := selectedRules ruleIds db
      let results := ruleResults w device 0 rules
      (.ok (resultsJson results), { db with
        complianceChecks :=
          db.complianceChecks.insertAll (checkRows w d device user 0 rules)
        auditLogs := db.auditLogs.insert (complianceEntry w d user results) }) := by
  have hd := refersTo_of_get? hdevice
  have hrules : ∀ rule ∈ selectedRules ruleIds db, refersTo db.complianceRules rule.1 = true :=
    fun rule hrule => refersTo_selectedRules hrule
  have hloop := run_checkRules_rows w device 0 hd huser hrules hwrites.rows
  have hlogged : refersToOrNull db.devices (some d) = true := (refersToOrNull_some _ d).trans hd
  rw [runComplianceCheck, Device.get, Program.run_statement_bind, hdevice]
  dsimp only
  rw [Program.query_bind, Program.run_stmt, Program.run_bind]
  dsimp only [id]
  rw [hloop]
  exact run_createLog_bind _ (hasNul_complianceEntry hwrites) huser hlogged

/-! ### Each rule by itself -/

/-- The row of a rule whose command was answered with `answer`. -/
structure Checks (reSearch : String → String → Except Exn Bool) (answer : Except Exn String)
    (rule : ComplianceRuleId × ComplianceRule) (row : ComplianceCheck) : Prop where
  ofRule : row.rule = rule.1
  error : row.status = .error ↔ (∃ e, answer = .error e) ∨
    ∃ output e, answer = .ok output ∧ reSearch rule.2.expectedPattern output = .error e
  noOutput : row.status = .error → row.output = ""
  verdict : ∀ output matched, answer = .ok output →
    reSearch rule.2.expectedPattern output = .ok matched →
    row.status = (if matched = rule.2.mustMatch then .compliant else .nonCompliant) ∧
      row.output = textTake 4000 output

/-- One row for each rule, in order, of what the device answers to its own command. -/
structure ChecksEach (w : ComplianceWorld) (d : DeviceId) (device : Device)
    (rules : List (ComplianceRuleId × ComplianceRule)) (rows : List ComplianceCheck) : Prop where
  oneRow : rows.length = rules.length
  ofDevice : ∀ row ∈ rows, row.device = d
  checked : ∀ n rule, rules[n]? = some rule → ∃ row, rows[n]? = some row ∧
    Checks w.reSearch (sendCommand (w.session n) device rule.2.checkCommand) rule row

/-- The device behaves the same in both worlds, but for the answers to one command. -/
structure AgreesExcept (command : String) (device : Device) (w w' : ComplianceWorld) : Prop where
  search : w'.reSearch = w.reSearch
  clock : w'.clock = w.clock
  answers : ∀ n other, other ≠ command →
    sendCommand (w'.session n) device other = sendCommand (w.session n) device other

theorem checks_checkRow (w : ComplianceWorld) (d : DeviceId) (device : Device)
    (user : Option UserId) (n : ℕ) (rule : ComplianceRuleId × ComplianceRule) :
    Checks w.reSearch (sendCommand (w.session n) device rule.2.checkCommand) rule
      (checkRow w d device user n rule) := by
  have herror (e : Exn) : (checkRule.onError e).2.1 = .error ∧ (checkRule.onError e).1 = "" := by
    unfold checkRule.onError
    split <;> exact ⟨rfl, rfl⟩
  have hempty : textTake 4000 "" = "" := rfl
  cases hanswer : sendCommand (w.session n) device rule.2.checkCommand with
  | error e =>
    have hrow : checkRule w device n rule.2 = checkRule.onError e := by simp [checkRule, hanswer]
    constructor <;> simp [checkRow, hrow, herror, hempty]
  | ok output =>
    cases hsearch : w.reSearch rule.2.expectedPattern output with
    | error e =>
      have hrow : checkRule w device n rule.2 = checkRule.onError e := by
        simp [checkRule, hanswer, evaluateRule_eq, hsearch, Except.map]
      refine ⟨rfl, by simp [checkRow, hrow, herror, hsearch],
        by simp [checkRow, hrow, herror, hempty], ?_⟩
      rintro output' matched ⟨⟩ hmatched
      rw [hsearch] at hmatched
      cases hmatched
    | ok matched =>
      have hrow : (checkRow w d device user n rule).status =
          (if matched = rule.2.mustMatch then .compliant else .nonCompliant) ∧
            (checkRow w d device user n rule).output = textTake 4000 output := by
        cases hmust : rule.2.mustMatch <;> cases matched <;>
          simp [checkRow, checkRule, hanswer, evaluateRule_eq, hsearch, hmust, Except.map]
      have hstatus : (checkRow w d device user n rule).status ≠ .error := by
        rw [hrow.1]
        split <;> simp
      refine ⟨rfl, by simp [hstatus, hsearch], fun h => absurd h hstatus, ?_⟩
      rintro output' matched' ⟨⟩ hmatched
      obtain rfl := Except.ok.inj (hsearch.symm.trans hmatched)
      exact hrow

theorem checksEach_checkRows (w : ComplianceWorld) (d : DeviceId) (device : Device)
    (user : Option UserId) (rules : List (ComplianceRuleId × ComplianceRule)) :
    ChecksEach w d device rules (checkRows w d device user 0 rules) where
  oneRow := by simp [checkRows]
  ofDevice row hrow := by
    obtain ⟨rule, -, rfl⟩ := List.mem_map.mp hrow
    rfl
  checked n rule hrule :=
    ⟨_, by simp [checkRows, hrule], checks_checkRow w d device user n rule⟩

/-- A row depends on the answer to the command of its rule alone. -/
theorem checkRow_congr {command : String} {device : Device} {w w' : ComplianceWorld}
    (h : AgreesExcept command device w w') (d : DeviceId) (user : Option UserId) (n : ℕ)
    {rule : ComplianceRuleId × ComplianceRule} (hrule : rule.2.checkCommand ≠ command) :
    checkRow w' d device user n rule = checkRow w d device user n rule := by
  have hcheck : checkRule w' device n rule.2 = checkRule w device n rule.2 := by
    rw [checkRule, checkRule, h.answers n rule.2.checkCommand hrule, h.search]
  rw [checkRow, checkRow, hcheck, h.clock]

/-- The run returns, adds the rows `rows`, and reports their statuses twice. -/
def RunAdds (w : ComplianceWorld) (d : DeviceId) (ruleIds : Option (List ComplianceRuleId))
    (user : Option UserId) (db : Platform) (rows : List ComplianceCheck) : Prop :=
  ∃ after entry, (runComplianceCheck w d ruleIds user).run db =
      (.ok (resultsJson (ruleStatuses (selectedRules ruleIds db) rows)), after) ∧
    after.complianceChecks = db.complianceChecks.insertAll rows ∧
    after.auditLogs = db.auditLogs.insert entry ∧
    entry.action = .complianceCheck ∧ entry.device = some d ∧ entry.detail =
      .obj [("results", resultsJson (ruleStatuses (selectedRules ruleIds db) rows))]

theorem runAdds_checkRows {w : ComplianceWorld} {d : DeviceId}
    {ruleIds : Option (List ComplianceRuleId)} {user : Option UserId} {db : Platform}
    {device : Device} (hdevice : db.devices.get? d = some device)
    (huser : refersToOrNull db.users user = true)
    (hwrites : WritesSucceed w d device user (selectedRules ruleIds db)) :
    RunAdds w d ruleIds user db (checkRows w d device user 0 (selectedRules ruleIds db)) := by
  have hrun := run_runComplianceCheck hdevice huser hwrites
  dsimp only at hrun
  rw [ruleResults_eq w d device user 0] at hrun
  exact ⟨_, _, hrun, rfl, rfl, rfl, rfl, rfl⟩

/-- In any case the run adds the rows of the first selected rules. -/
theorem run_runComplianceCheck_prefix (w : ComplianceWorld) {d : DeviceId}
    (ruleIds : Option (List ComplianceRuleId)) (user : Option UserId) {db : Platform}
    {device : Device} (hdevice : db.devices.get? d = some device) :
    ∃ outcome after rows, (runComplianceCheck w d ruleIds user).run db = (outcome, after) ∧
      after.complianceChecks = db.complianceChecks.insertAll rows ∧
      rows <+: checkRows w d device user 0 (selectedRules ruleIds db) := by
  obtain ⟨outcome, rows, hloop, hprefix⟩ :=
    run_checkRules_prefix w d device user 0 (selectedRules ruleIds db) db
  rw [runComplianceCheck, Device.get, Program.run_statement_bind, hdevice]
  dsimp only
  rw [Program.query_bind, Program.run_stmt, Program.run_bind]
  dsimp only [id]
  rw [hloop]
  cases outcome with
  | error e => exact ⟨_, _, rows, rfl, rfl, hprefix⟩
  | ok results =>
    dsimp only
    rw [AuditLog.create, run_insertRow_bind]
    split
    · exact ⟨_, _, rows, rfl, rfl, hprefix⟩
    · exact ⟨_, _, rows, rfl, rfl, hprefix⟩

/-- A run whose writes succeed checks every selected rule by itself, and what the device does
with one command reaches the rows of the rules with that command only. -/
theorem runComplianceCheck_isolates (w : ComplianceWorld) (d : DeviceId)
    (ruleIds : Option (List ComplianceRuleId)) (user : Option UserId) (db : Platform)
    (device : Device) (hdevice : db.devices.get? d = some device)
    (huser : refersToOrNull db.users user = true)
    (hwrites : WritesSucceed w d device user (selectedRules ruleIds db)) :
    ∃ rows, RunAdds w d ruleIds user db rows ∧
      ChecksEach w d device (selectedRules ruleIds db) rows ∧
      ∀ w' command, AgreesExcept command device w w' →
        WritesSucceed w' d device user (selectedRules ruleIds db) → ∃ rows',
          RunAdds w' d ruleIds user db rows' ∧
          ∀ (n : ℕ) (rule : ComplianceRuleId × ComplianceRule),
            (selectedRules ruleIds db)[n]? = some rule → rule.2.checkCommand ≠ command →
            rows'[n]? = rows[n]? := by
  refine ⟨_, runAdds_checkRows hdevice huser hwrites, checksEach_checkRows w d device user _, ?_⟩
  intro w' command hagrees hwrites'
  refine ⟨_, runAdds_checkRows hdevice huser hwrites', fun n rule hrule hne => ?_⟩
  simp [checkRows, hrule, checkRow_congr hagrees d user n hne]

/-- The small platform with five rules, two of them about one command and one inactive. -/
def labRules : Platform := { lab with
  complianceRules := ((((Table.empty.insert
    { name := "Logging Buffered", description := "", checkCommand := "show logging",
      expectedPattern := "buffer logging", createdAt := 0 }).insert
    { name := "Syslog Host", description := "", checkCommand := "show logging",
      expectedPattern := "logging to 10.0.0.9", createdAt := 0 }).insert
    { name := "SSH Version 2", description := "", checkCommand := "show ip ssh",
      expectedPattern := "version 2.0", createdAt := 0 }).insert
    { name := "Login Banner", description := "", checkCommand := "show banner login",
      expectedPattern := "authorized", isActive := false, createdAt := 0 }).insert
    { name := "Clock Set", description := "", checkCommand := "show clock",
      expectedPattern := "(", createdAt := 0 } }

/-- A device whose session breaks at one command; a pattern is a plain text, or it does not
compile. -/
def labAnswers : ComplianceWorld where
  session _ := { SshSession.answering "buffer logging: level debugging" with
    sendCommand := fun command =>
      if command = "show ip ssh" then .error (.other "Socket is closed")
      else .ok "buffer logging: level debugging" }
  clock n := n
  reSearch pattern output :=
    if pattern = "(" then .error ⟨.reError, "missing ), unterminated subpattern at position 0"⟩
    else .ok (decide (pattern.toList <:+: output.toList))

theorem writesSucceed_labAnswers :
    WritesSucceed labAnswers 1 labDevice (some 1)
      (selectedRules (some [5, 3, 2, 2, 4, 9, 1]) labRules) :=
  ⟨by decide +kernel, by decide +kernel⟩

theorem runComplianceCheck_isolates_of_lab : ∃ rows,
    RunAdds labAnswers 1 (some [5, 3, 2, 2, 4, 9, 1]) (some 1) labRules rows ∧
      ChecksEach labAnswers 1 labDevice
        (selectedRules (some [5, 3, 2, 2, 4, 9, 1]) labRules) rows ∧
      ∀ w' command, AgreesExcept command labDevice labAnswers w' →
        WritesSucceed w' 1 labDevice (some 1)
          (selectedRules (some [5, 3, 2, 2, 4, 9, 1]) labRules) → ∃ rows',
          RunAdds w' 1 (some [5, 3, 2, 2, 4, 9, 1]) (some 1) labRules rows' ∧
          ∀ (n : ℕ) (rule : ComplianceRuleId × ComplianceRule),
            (selectedRules (some [5, 3, 2, 2, 4, 9, 1]) labRules)[n]? = some rule →
            rule.2.checkCommand ≠ command → rows'[n]? = rows[n]? :=
  runComplianceCheck_isolates labAnswers 1 (some [5, 3, 2, 2, 4, 9, 1]) (some 1) labRules labDevice
    rfl rfl writesSucceed_labAnswers

/-- Four rules are executed: two pass or fail by themselves, two raise. -/
example : (checkRows labAnswers 1 labDevice (some 1) 0
      (selectedRules (some [5, 3, 2, 2, 4, 9, 1]) labRules)).map (fun r => (r.rule, r.status)) =
    [(5, .error), (1, .compliant), (3, .error), (2, .nonCompliant)] := by
  decide +kernel

/-! ### Which rules are executed -/

/-- An active rule, of the list when the request has one. -/
def IsRequested (ruleIds : Option (List ComplianceRuleId)) (db : Platform)
    (id : ComplianceRuleId) : Prop :=
  ∃ rule, db.complianceRules.get? id = some rule ∧ rule.isActive = true ∧
    ∀ ids, ruleIds = some ids → id ∈ ids

/-- The loop goes over the active rules of a list that is not empty, else over all of them. -/
theorem mem_selectedRules (ruleIds : Option (List ComplianceRuleId)) (db : Platform)
    (id : ComplianceRuleId) : id ∈ (selectedRules ruleIds db).map Prod.fst ↔
      ∃ rule, db.complianceRules.get? id = some rule ∧ rule.isActive = true ∧
        ∀ ids, ruleIds = some ids → ids ≠ [] → id ∈ ids := by
  have hmem (rule : ComplianceRule) : (id, rule) ∈ selectedRules ruleIds db ↔
      db.complianceRules.get? id = some rule ∧ rule.isActive = true ∧
        ∀ ids, ruleIds = some ids → ids ≠ [] → id ∈ ids := by
    rw [selectedRules, (List.perm_insertionSort _ _).mem_iff, Table.mem_select, Bool.and_eq_true]
    cases ruleIds with
    | none => simp
    | some ids => cases ids <;> simp
  constructor
  · intro h
    obtain ⟨⟨_, rule⟩, hrule, rfl⟩ := List.mem_map.mp h
    exact ⟨rule, (hmem rule).mp hrule⟩
  · rintro ⟨rule, hrule⟩
    exact List.mem_map.mpr ⟨(id, rule), (hmem rule).mpr hrule, rfl⟩

/-- The rules of the loop are the requested ones exactly when the list is absent or not empty,
or there is nothing to execute. -/
theorem selectedRules_iff (ruleIds : Option (List ComplianceRuleId)) (db : Platform) :
    (∀ id, id ∈ (selectedRules ruleIds db).map Prod.fst ↔ IsRequested ruleIds db id) ↔
      ruleIds ≠ some [] ∨
        ∀ id rule, db.complianceRules.get? id = some rule → rule.isActive = false := by
  constructor
  · intro h
    by_cases hempty : ruleIds = some []
    · right
      intro id rule hrule
      cases hactive : rule.isActive with
      | false => rfl
      | true =>
        have hselected := (mem_selectedRules ruleIds db id).mpr
          ⟨rule, hrule, hactive, fun ids hids hne =>
            absurd (Option.some.inj (hids.symm.trans hempty)) hne⟩
        obtain ⟨-, -, -, hlisted⟩ := (h id).mp hselected
        cases hlisted [] hempty
    · exact .inl hempty
  · rintro hcondition id
    rw [mem_selectedRules, IsRequested]
    constructor
    · rintro ⟨rule, hrule, hactive, hlisted⟩
      refine ⟨rule, hrule, hactive, fun ids hids => hlisted ids hids ?_⟩
      rintro rfl
      rcases hcondition with hne | hinactive
      · exact hne hids
      · rw [hinactive id rule hrule] at hactive
        cases hactive
    · rintro ⟨rule, hrule, hactive, hlisted⟩
      exact ⟨rule, hrule, hactive, fun ids hids _ => hlisted ids hids⟩

theorem map_rule_checkRows (w : ComplianceWorld) (d : DeviceId) (device : Device)
    (user : Option UserId) (n : ℕ) (rules : List (ComplianceRuleId × ComplianceRule)) :
    (checkRows w d device user n rules).map (·.rule) = rules.map Prod.fst := by
  induction rules generalizing n with
  | nil => rfl
  | cons rule rules ih => exact congrArg (rule.1 :: ·) (ih (n + 1))

/-- The run adds rows of these rules, in this order: of all of them and its report when the
database takes what it writes, else of the first ones. -/
def Executes (w : ComplianceWorld) (d : DeviceId) (device : Device)
    (ruleIds : Option (List ComplianceRuleId)) (user : UserId) (db : Platform)
    (executed : List ComplianceRuleId) : Prop :=
  ∃ outcome after rows, (runComplianceCheck w d ruleIds (some user)).run db = (outcome, after) ∧
    after.complianceChecks = db.complianceChecks.insertAll rows ∧
    rows.map (·.rule) <+: executed ∧
    (refersTo db.users user = true →
      WritesSucceed w d device (some user) (selectedRules ruleIds db) →
      RunAdds w d ruleIds (some user) db rows ∧ rows.map (·.rule) = executed)

theorem executes_selectedRules (w : ComplianceWorld) {d : DeviceId} {device : Device}
    (ruleIds : Option (List ComplianceRuleId)) (user : UserId) {db : Platform}
    (hdevice : db.devices.get? d = some device) :
    Executes w d device ruleIds user db ((selectedRules ruleIds db).map Prod.fst) := by
  rw [← map_rule_checkRows w d device (some user) 0]
  by_cases hwrites : refersTo db.users user = true ∧
      WritesSucceed w d device (some user) (selectedRules ruleIds db)
  · have huser : refersToOrNull db.users (some user) = true := hwrites.1
    have hadds := runAdds_checkRows hdevice huser hwrites.2
    have ⟨after, _, hrun, hrows, _⟩ := hadds
    exact ⟨_, after, _, hrun, hrows, List.prefix_rfl, fun _ _ => ⟨hadds, rfl⟩⟩
  · obtain ⟨outcome, after, rows, hrun, hrows, hprefix⟩ :=
      run_runComplianceCheck_prefix w ruleIds (some user) hdevice
    exact ⟨outcome, after, rows, hrun, hrows, hprefix.map _, fun hu hw => absurd ⟨hu, hw⟩ hwrites⟩

/-- A request that is answered 200 puts its list on the queue as it is. -/
theorem queue_runCompliance {caller : Option UserId} {deviceId : Option DeviceId}
    {ruleIds : Option (List ComplianceRuleId)} {taskId : String} {store after : Platform}
    {response : Response}
    (hrun : (runCompliance caller deviceId ruleIds taskId).run store = (.ok response, after))
    (hstatus : response.status = 200) : ∃ d user, deviceId = some d ∧
      after.queue = store.queue ++ [(taskId, .runComplianceCheck d ruleIds (some user))] := by
  rw [runCompliance, deviceAction] at hrun
  obtain ⟨user, hpermit⟩ := run_permit_bind_ok (congrArg Prod.fst hrun)
  rw [hpermit] at hrun
  cases deviceId with
  | none =>
    obtain rfl := Except.ok.inj (congrArg Prod.fst hrun)
    cases hstatus
  | some d =>
    cases d with
    | zero =>
      obtain rfl := Except.ok.inj (congrArg Prod.fst hrun)
      cases hstatus
    | succ d =>
      obtain rfl := congrArg Prod.snd hrun
      exact ⟨d + 1, user.id, rfl, rfl⟩

/-- What the worker executes for a request is what the request asked for exactly when the list
of the request is not empty, or no rule is active. -/
theorem requested_rules_iff (caller : Option UserId) (deviceId : Option DeviceId)
    (ruleIds : Option (List ComplianceRuleId)) (taskId : String) (store after : Platform)
    (response : Response)
    (hrun : (runCompliance caller deviceId ruleIds taskId).run store = (.ok response, after))
    (hstatus : response.status = 200) : ∃ d user, deviceId = some d ∧
      after.queue = store.queue ++ [(taskId, .runComplianceCheck d ruleIds (some user))] ∧
      ∀ db : Platform,
        (∀ w device, db.devices.get? d = some device →
          Executes w d device ruleIds user db ((selectedRules ruleIds db).map Prod.fst)) ∧
        ((∀ id, id ∈ (selectedRules ruleIds db).map Prod.fst ↔ IsRequested ruleIds db id) ↔
          ruleIds ≠ some [] ∨
            ∀ id rule, db.complianceRules.get? id = some rule → rule.isActive = false) := by
  obtain ⟨d, user, hdevice, hqueue⟩ := queue_runCompliance hrun hstatus
  exact ⟨d, user, hdevice, hqueue, fun db =>
    ⟨fun w device hd => executes_selectedRules w ruleIds user hd, selectedRules_iff _ db⟩⟩

theorem requested_rules_iff_of_lab : ∃ d user, some 1 = some d ∧
    ((runCompliance (some 1) (some 1) (some [2, 2, 4, 9, 1]) "t").run labRules).2.queue =
      labRules.queue ++ [("t", .runComplianceCheck d (some [2, 2, 4, 9, 1]) (some user))] ∧
    ∀ db : Platform,
      (∀ w device, db.devices.get? d = some device →
        Executes w d device (some [2, 2, 4, 9, 1]) user db
          ((selectedRules (some [2, 2, 4, 9, 1]) db).map Prod.fst)) ∧
      ((∀ id, id ∈ (selectedRules (some [2, 2, 4, 9, 1]) db).map Prod.fst ↔
          IsRequested (some [2, 2, 4, 9, 1]) db id) ↔
        some [2, 2, 4, 9, 1] ≠ some [] ∨
          ∀ id rule, db.complianceRules.get? id = some rule → rule.isActive = false) :=
  requested_rules_iff (some 1) (some 1) (some [2, 2, 4, 9, 1]) "t" labRules _ _ rfl rfl

/-- Duplicates, an inactive rule and an unknown id are left out. -/
example : (selectedRules (some [2, 2, 4, 9, 1]) labRules).map Prod.fst = [1, 2] := by decide +kernel

/-- A request with an empty list has every active rule executed. -/
theorem executes_unrequested_rule : ∃ response after rows,
    (runCompliance (some 1) (some 1) (some []) "t").run labRules = (.ok response, after) ∧
      response.status = 200 ∧ after.queue = [("t", .runComplianceCheck 1 (some []) (some 1))] ∧
      RunAdds labAnswers 1 (some []) (some 1) after rows ∧
      rows.map (·.rule) = [5, 1, 3, 2] ∧ ∀ id, ¬ IsRequested (some []) after id := by
  refine ⟨_, _, _, rfl, rfl, rfl,
    runAdds_checkRows rfl rfl ⟨by decide +kernel, by decide +kernel⟩, by decide +kernel, fun id => ?_⟩
  rintro ⟨rule, -, -, hlisted⟩
  cases hlisted [] rfl

end DevSecOpsPlatform.ComplianceRuns
