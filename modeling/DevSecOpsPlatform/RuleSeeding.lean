import DevSecOpsPlatform.BuiltinRules
import DevSecOpsPlatform.KeyedUpserts
import DevSecOpsPlatform.SecurityViews

/-!
# Seeding the compliance rules

`seed_compliance_rules` runs at every start of the container: one upsert by name for each
record. A record may leave out any field but its name, and never gives `is_active` or
`created_at`. Seeding writes the fields that the records give, and a second seeding finds
everything as it should be.
-/

namespace DevSecOpsPlatform.RuleSeeding

open KeyedTables KeyedUpserts StatementPrograms PlatformModels PlatformStore BuiltinRules
open PythonValues

/-! ### The command -/

/-- The entries of a record, each present or not. -/
structure RuleValues where
  name : String
  description : Option String := none
  checkCommand : Option String := none
  expectedPattern : Option String := none
  mustMatch : Option Bool := none
  severity : Option RuleSeverity := none
  remediation : Option String := none

/-- The text fits a column of a length, if there is one. -/
def fitsColumn (maxLength : Option ℕ) (value : Option String) : Bool :=
  value.all (fun s => !s.toList.any Json.isNul && maxLength.all (fun n => decide (s.length ≤ n)))

/-- The columns take the values. -/
def RuleValues.fits (r : RuleValues) : Bool :=
  fitsColumn (some 255) (some r.name) && fitsColumn none r.description &&
    fitsColumn (some 255) r.checkCommand && fitsColumn (some 512) r.expectedPattern &&
    fitsColumn none r.remediation

abbrev RuleRecord := {r : RuleValues // r.fits = true}

/-- `setattr` of the entries. -/
def RuleValues.assign (r : RuleValues) (rule : ComplianceRule) : ComplianceRule :=
  { rule with
    name := r.name
    description := r.description.getD rule.description
    checkCommand := r.checkCommand.getD rule.checkCommand
    expectedPattern := r.expectedPattern.getD rule.expectedPattern
    mustMatch := r.mustMatch.getD rule.mustMatch
    severity := r.severity.getD rule.severity
    remediation := r.remediation.getD rule.remediation }

/-- `ComplianceRule(**rule_data)`, with the model's defaults for the entries that are not
there. -/
def RuleValues.row (r : RuleValues) (now : DateTime) : ComplianceRule :=
  r.assign {
    name := ""
    description := ""
    checkCommand := ""
    expectedPattern := ""
    createdAt := now }

def rulesNamed (rules : Table ComplianceRule) (name : String) :
    List (ComplianceRuleId × ComplianceRule) :=
  rules.select (fun _ rule => rule.name == name)

def multipleRulesError (n : ℕ) : Exn :=
  ⟨.multipleObjectsReturned, "get() returned more than one ComplianceRule -- it returned " ++
    (if n < 21 then toString n else "more than 20") ++ "!"⟩

/-- `ComplianceRule.objects.update_or_create(name=..., defaults=rule_data)`. -/
def ComplianceRule.updateOrCreate (now : DateTime) (r : RuleRecord) : Statement Bool :=
  .statement fun db => do
    let rows := rulesNamed db.complianceRules r.val.name
    require (decide (rows.length ≤ 1)) (multipleRulesError rows.length)
    match rows with
    | [] => return (true, { db with complianceRules := db.complianceRules.insert (r.val.row now) })
    | (id, _) :: _ =>
      return (false, { db with complianceRules := db.complianceRules.update id r.val.assign })

/-- The two counters of the loop. -/
structure SeedCount where
  created : ℕ
  updated : ℕ

def SeedCount.text (n : SeedCount) : String :=
  "Compliance rules seeded: " ++ toString n.created ++ " created, " ++ toString n.updated ++
    " updated."

/-- The loop of `handle` over the records, from the record numbered `k` on. -/
def seedRules (clock : ℕ → DateTime) : ℕ → SeedCount → List RuleRecord → Statement SeedCount
  | _, n, [] => return n
  | k, n, r :: rs => do
    let wasCreated ← ComplianceRule.updateOrCreate (clock k) r
    if wasCreated then seedRules clock (k + 1) { n with created := n.created + 1 } rs
    else seedRules clock (k + 1) { n with updated := n.updated + 1 } rs

/-- `Command.handle`: the counters, and what it writes to the output. -/
def handle (clock : ℕ → DateTime) (records : List RuleRecord) : Statement (SeedCount × String) := do
  let n ← seedRules clock 0 ⟨0, 0⟩ records
  return (n, n.text)

/-! ### Seeding as upserts -/

/-- The upserts of records, each with the time at which it is stored. -/
def ruleUpserts : Upserts ComplianceRule (RuleRecord × DateTime) String where
  key := ComplianceRule.name
  create b := b.1.val.row b.2
  modify b rule := b.1.val.assign rule
  key_modify _ _ h := h.symm

/-- The records with their times, from the record numbered `k` on. -/
def stamped (clock : ℕ → DateTime) : ℕ → List RuleRecord → List (RuleRecord × DateTime)
  | _, [] => []
  | k, r :: rs => (r, clock k) :: stamped clock (k + 1) rs

/-- The rule has every value that the record gives. -/
structure RuleValues.Agrees (r : RuleValues) (rule : ComplianceRule) : Prop where
  name : rule.name = r.name
  description : ∀ v, r.description = some v → rule.description = v
  checkCommand : ∀ v, r.checkCommand = some v → rule.checkCommand = v
  expectedPattern : ∀ v, r.expectedPattern = some v → rule.expectedPattern = v
  mustMatch : ∀ v, r.mustMatch = some v → rule.mustMatch = v
  severity : ∀ v, r.severity = some v → rule.severity = v
  remediation : ∀ v, r.remediation = some v → rule.remediation = v

/-- The unique constraint on the name. -/
def UniqueNames (rules : Table ComplianceRule) : Prop :=
  ∀ id id' rule rule', rules.get? id = some rule → rules.get? id' = some rule' →
    rule.name = rule'.name → id = id'

/-- The rules after seeding. -/
structure Seeded (records : List RuleRecord) (db db' : Platform) (n : SeedCount) : Prop where
  row : ∀ r ∈ records, ∃ id rule, rulesNamed db'.complianceRules r.val.name = [(id, rule)] ∧
    r.val.Agrees rule
  kept : ∀ id rule, db.complianceRules.get? id = some rule →
    ∃ rule', db'.complianceRules.get? id = some rule' ∧ rule'.name = rule.name ∧
      rule'.isActive = rule.isActive ∧ rule'.createdAt = rule.createdAt
  untouched : ∀ name, name ∉ records.map (·.val.name) →
    rulesNamed db'.complianceRules name = rulesNamed db.complianceRules name
  total : n.created + n.updated = records.length
  rest : db' = { db with complianceRules := db'.complianceRules }

variable {db : Platform} {records : List RuleRecord} {clock : ℕ → DateTime} {k : ℕ}
  {rules : Table ComplianceRule}

theorem getD_eq_iff {α : Type} (o : Option α) (a : α) : o.getD a = a ↔ ∀ v, o = some v → a = v := by
  cases o with
  | none => simp
  | some v => simp [eq_comm]

/-- A rule has the values of a record exactly when assigning them changes nothing. -/
theorem agrees_iff (r : RuleValues) (rule : ComplianceRule) :
    r.Agrees rule ↔ r.assign rule = rule := by
  obtain ⟨name, description, checkCommand, expectedPattern, mustMatch, severity, remediation,
    isActive, createdAt⟩ := rule
  simp only [RuleValues.assign, ComplianceRule.mk.injEq, getD_eq_iff, and_true]
  constructor
  · rintro ⟨hname, hdescription, hcommand, hpattern, hmatch, hseverity, hremediation⟩
    exact ⟨hname.symm, hdescription, hcommand, hpattern, hmatch, hseverity, hremediation⟩
  · rintro ⟨hname, hdescription, hcommand, hpattern, hmatch, hseverity, hremediation⟩
    exact ⟨hname.symm, hdescription, hcommand, hpattern, hmatch, hseverity, hremediation⟩

theorem agrees_assign (r : RuleValues) (rule : ComplianceRule) : r.Agrees (r.assign rule) where
  name := rfl
  description v h := by rw [RuleValues.assign, h]; rfl
  checkCommand v h := by rw [RuleValues.assign, h]; rfl
  expectedPattern v h := by rw [RuleValues.assign, h]; rfl
  mustMatch v h := by rw [RuleValues.assign, h]; rfl
  severity v h := by rw [RuleValues.assign, h]; rfl
  remediation v h := by rw [RuleValues.assign, h]; rfl

theorem run_updateOrCreate {now : DateTime} {r : RuleRecord}
    (hone : (rulesNamed db.complianceRules r.val.name).length ≤ 1) :
    (ComplianceRule.updateOrCreate now r).run db =
      (.ok (ruleUpserts.upsert db.complianceRules (r, now)).1,
        { db with complianceRules := (ruleUpserts.upsert db.complianceRules (r, now)).2 }) := by
  have hrows : ruleUpserts.rowsOf db.complianceRules (ruleUpserts.keyOf (r, now)) =
      rulesNamed db.complianceRules r.val.name := rfl
  rw [ComplianceRule.updateOrCreate, Program.run_statement, Upserts.upsert, hrows]
  simp only [decide_eq_true hone, require_true]
  cases rulesNamed db.complianceRules r.val.name with
  | nil => rfl
  | cons r rows => rfl

/-- The loop is a sequence of upserts, and counts every record once. -/
theorem run_seedRules {n : SeedCount}
    (h : ruleUpserts.UniqueFor db.complianceRules (stamped clock k records)) :
    ∃ updated, (ruleUpserts.upsertAll db.complianceRules (stamped clock k records)).1 + updated =
        records.length ∧
      (seedRules clock k n records).run db =
        (.ok ⟨n.created + (ruleUpserts.upsertAll db.complianceRules (stamped clock k records)).1,
          n.updated + updated⟩, { db with complianceRules :=
            (ruleUpserts.upsertAll db.complianceRules (stamped clock k records)).2 }) := by
  induction records generalizing k n db with
  | nil => exact ⟨0, rfl, rfl⟩
  | cons r records ih =>
    obtain ⟨hone, hrest⟩ := Upserts.uniqueFor_cons.mp h
    rw [seedRules, Program.run_bind, run_updateOrCreate hone, stamped, Upserts.upsertAll]
    generalize hstore : ruleUpserts.upsert db.complianceRules (r, clock k) = stored at hrest ⊢
    obtain ⟨wasCreated, rules⟩ := stored
    dsimp only at hrest ⊢
    have hloop (m : SeedCount) := @ih { db with complianceRules := rules } (k + 1) m hrest
    dsimp only at hloop
    generalize ruleUpserts.upsertAll rules (stamped clock (k + 1) records) = rest at hloop ⊢
    cases wasCreated with
    | true =>
      obtain ⟨updated, htotal, hrun⟩ := hloop { n with created := n.created + 1 }
      have hcount : n.created + 1 + rest.1 = n.created + (rest.1 + 1) := by omega
      refine ⟨updated, ?_, ?_⟩
      · rw [List.length_cons, ← htotal, Bool.toNat_true]
        omega
      · rw [if_pos rfl, hrun, Bool.toNat_true]
        dsimp only
        rw [hcount]
    | false =>
      obtain ⟨updated, htotal, hrun⟩ := hloop { n with updated := n.updated + 1 }
      have hcount : n.updated + 1 + updated = n.updated + (updated + 1) := by omega
      refine ⟨updated + 1, ?_, ?_⟩
      · rw [List.length_cons, ← htotal, Bool.toNat_false]
        omega
      · rw [if_neg Bool.false_ne_true, hrun, Bool.toNat_false]
        dsimp only
        rw [hcount, Nat.add_zero rest.1]

theorem keyOf_stamped (clock : ℕ → DateTime) (k : ℕ) (records : List RuleRecord) :
    (stamped clock k records).map ruleUpserts.keyOf = records.map (·.val.name) := by
  induction records generalizing k with
  | nil => rfl
  | cons r records ih =>
    rw [stamped, List.map_cons, ih, List.map_cons]
    rfl

theorem uniqueFor_of_uniqueNames (h : UniqueNames rules) (bs : List (RuleRecord × DateTime)) :
    ruleUpserts.UniqueFor rules bs :=
  fun b _ => Upserts.length_rowsOf_of_unique (u := ruleUpserts) h (ruleUpserts.keyOf b)

theorem exists_stamped (clock : ℕ → DateTime) (k : ℕ) {r : RuleRecord} (h : r ∈ records) :
    ∃ now, (r, now) ∈ stamped clock k records := by
  induction records generalizing k with
  | nil => cases h
  | cons s records ih =>
    rcases List.mem_cons.mp h with rfl | h
    · exact ⟨clock k, List.mem_cons_self⟩
    · obtain ⟨now, hmem⟩ := ih (k + 1) h
      exact ⟨now, List.mem_cons_of_mem _ hmem⟩

theorem mem_of_stamped {b : RuleRecord × DateTime} (h : b ∈ stamped clock k records) :
    b.1 ∈ records := by
  induction records generalizing k with
  | nil => cases h
  | cons s records ih =>
    rcases List.mem_cons.mp h with rfl | h
    · exact List.mem_cons_self
    · exact List.mem_cons_of_mem _ (ih h)

/-- The rules after the upserts have the values of the record of their name. -/
theorem agrees_of_upsertAll (hunique : UniqueNames rules)
    (hnames : (records.map (·.val.name)).Nodup) {id : ComplianceRuleId} {rule : ComplianceRule}
    (hget : (ruleUpserts.upsertAll rules (stamped clock k records)).2.get? id = some rule)
    {r : RuleRecord} (hr : r ∈ records) (hname : r.val.name = rule.name) : r.val.Agrees rule := by
  have hnodup : ((stamped clock k records).map ruleUpserts.keyOf).Nodup := by
    rw [keyOf_stamped]
    exact hnames
  obtain ⟨now, hmem⟩ := exists_stamped clock k hr
  rcases Upserts.get?_upsertAll (uniqueFor_of_uniqueNames hunique _) hget with
    ⟨old, -, rfl⟩ | ⟨before, b, after, hsplit, rfl⟩
  · have hkey : ruleUpserts.keyOf (r, now) = ruleUpserts.key old :=
      hname.trans (Upserts.key_rewrite (u := ruleUpserts) _ _)
    rw [Upserts.rewrite_of_mem hnodup hmem hkey]
    exact agrees_assign r.val old
  · have hkey : ruleUpserts.keyOf (r, now) = ruleUpserts.keyOf b :=
      hname.trans (Upserts.key_rewrite (u := ruleUpserts) _ _)
    have hb : b ∈ stamped clock k records := by simp [hsplit]
    have heq : (r, now) = b := List.inj_on_of_nodup_map hnodup hmem hb hkey
    subst heq
    rw [hsplit, List.map_append, List.map_cons] at hnodup
    have hafter := (List.nodup_cons.mp (List.nodup_append.mp hnodup).2.1).1
    rw [Upserts.rewrite_of_absent]
    · exact agrees_assign r.val _
    · intro c hc hck
      have hmem' := List.mem_map_of_mem (f := ruleUpserts.keyOf) hc
      rw [hck] at hmem'
      exact hafter hmem'

/-- The fields that no record gives. -/
theorem rest_rewrite (bs : List (RuleRecord × DateTime)) (rule : ComplianceRule) :
    (ruleUpserts.rewrite bs rule).isActive = rule.isActive ∧
      (ruleUpserts.rewrite bs rule).createdAt = rule.createdAt := by
  induction bs generalizing rule with
  | nil => exact ⟨rfl, rfl⟩
  | cons b bs ih =>
    rw [Upserts.rewrite_cons, (ih _).1, (ih _).2, Upserts.touch]
    split
    · exact ⟨rfl, rfl⟩
    · exact ⟨rfl, rfl⟩

theorem seeded_upsertAll (hunique : UniqueNames db.complianceRules)
    (hnames : (records.map (·.val.name)).Nodup) {n : SeedCount}
    (htotal : n.created + n.updated = records.length) :
    Seeded records db { db with complianceRules :=
      (ruleUpserts.upsertAll db.complianceRules (stamped clock k records)).2 } n where
  row := by
    intro r hr
    obtain ⟨now, hmem⟩ := exists_stamped clock k hr
    obtain ⟨id, rule, hrow⟩ :=
      Upserts.exists_rowsOf_upsertAll (uniqueFor_of_uniqueNames hunique _) hmem
    obtain ⟨hget, hname⟩ := Upserts.mem_rowsOf.mp (hrow ▸ List.mem_singleton_self (id, rule))
    exact ⟨id, rule, hrow, agrees_of_upsertAll hunique hnames hget hr hname.symm⟩
  kept := by
    intro id rule hget
    obtain ⟨hactive, hcreated⟩ := rest_rewrite (stamped clock k records) rule
    exact ⟨_, Upserts.get?_upsertAll_of_some (uniqueFor_of_uniqueNames hunique _) hget,
      Upserts.key_rewrite (u := ruleUpserts) _ rule, hactive, hcreated⟩
  untouched := by
    intro name hname
    refine Upserts.rowsOf_upsertAll_of_absent (u := ruleUpserts)
      (uniqueFor_of_uniqueNames hunique _) fun b hb hkey => ?_
    rw [← keyOf_stamped clock k records] at hname
    exact hname (hkey ▸ List.mem_map_of_mem hb)
  total := htotal
  rest := rfl

/-- The same records, stored at other times, leave the rules of the upserts as they are. -/
theorem upsertAll_stamped_again (hunique : UniqueNames rules)
    (hnames : (records.map (·.val.name)).Nodup) (clock' : ℕ → DateTime) :
    ruleUpserts.upsertAll (ruleUpserts.upsertAll rules (stamped clock k records)).2
        (stamped clock' k records) =
      (0, (ruleUpserts.upsertAll rules (stamped clock k records)).2) := by
  refine Upserts.upsertAll_again (uniqueFor_of_uniqueNames hunique _) ?_ ?_
  · intro c hc
    obtain ⟨now, hmem⟩ := exists_stamped clock k (mem_of_stamped hc)
    exact ⟨_, hmem, rfl⟩
  · intro id rule hget
    refine Upserts.rewrite_eq_self fun c hc hkey => ?_
    have hagrees := agrees_of_upsertAll hunique hnames hget (mem_of_stamped hc) hkey.symm
    exact (agrees_iff c.1.val rule).mp hagrees

theorem uniqueNames_upsertAll (hunique : UniqueNames rules)
    (bs : List (RuleRecord × DateTime)) : UniqueNames (ruleUpserts.upsertAll rules bs).2 := by
  intro id id' rule rule' hget hget' hname
  have hone : (ruleUpserts.rowsOf (ruleUpserts.upsertAll rules bs).2 rule.name).length ≤ 1 :=
    Upserts.length_rowsOf_upsertAll (uniqueFor_of_uniqueNames hunique bs)
      (Upserts.length_rowsOf_of_unique (u := ruleUpserts) hunique rule.name)
  have hrow := Upserts.rowsOf_eq_singleton hone (Upserts.mem_rowsOf.mpr ⟨hget, rfl⟩)
  have hmem : (id', rule') ∈ ruleUpserts.rowsOf (ruleUpserts.upsertAll rules bs).2 rule.name :=
    Upserts.mem_rowsOf.mpr ⟨hget', hname.symm⟩
  rw [hrow, List.mem_singleton] at hmem
  exact (Prod.mk.inj hmem).1.symm

/-- Seeding leaves one rule for each record, with the values that the record gives, and keeps
everything else; a second seeding changes no rule and creates none. -/
theorem run_handle (db : Platform) (hunique : UniqueNames db.complianceRules)
    (records : List RuleRecord) (hnames : (records.map (·.val.name)).Nodup)
    (clock : ℕ → DateTime) :
    ∃ n db', (handle clock records).run db = (.ok (n, n.text), db') ∧ Seeded records db db' n ∧
      ∀ clock', (handle clock' records).run db' =
        (.ok (⟨0, records.length⟩, SeedCount.text ⟨0, records.length⟩), db') := by
  have hrun (clock : ℕ → DateTime) {db : Platform} (hunique : UniqueNames db.complianceRules) :
      ∃ updated, (ruleUpserts.upsertAll db.complianceRules (stamped clock 0 records)).1 + updated =
          records.length ∧
        (handle clock records).run db =
          (.ok (⟨(ruleUpserts.upsertAll db.complianceRules (stamped clock 0 records)).1, updated⟩,
              SeedCount.text
                ⟨(ruleUpserts.upsertAll db.complianceRules (stamped clock 0 records)).1, updated⟩),
            { db with complianceRules :=
              (ruleUpserts.upsertAll db.complianceRules (stamped clock 0 records)).2 }) := by
    obtain ⟨updated, htotal, hloop⟩ := @run_seedRules db records clock 0 ⟨0, 0⟩
      (uniqueFor_of_uniqueNames hunique _)
    rw [Nat.zero_add, Nat.zero_add] at hloop
    refine ⟨updated, htotal, ?_⟩
    rw [handle, Program.run_bind, hloop]
    rfl
  obtain ⟨updated, htotal, hfirst⟩ := hrun clock hunique
  refine ⟨_, _, hfirst, seeded_upsertAll hunique hnames htotal, fun clock' => ?_⟩
  have hunique' : UniqueNames ({ db with complianceRules :=
      (ruleUpserts.upsertAll db.complianceRules (stamped clock 0 records)).2 }
        : Platform).complianceRules :=
    uniqueNames_upsertAll hunique (stamped clock 0 records)
  obtain ⟨updated', htotal', hsecond⟩ := hrun clock' hunique'
  dsimp only at htotal' hsecond
  rw [upsertAll_stamped_again hunique hnames clock'] at htotal' hsecond
  have hupdated : updated' = records.length := (Nat.zero_add updated').symm.trans htotal'
  rw [hsecond, hupdated]

/-! ### The built-in rules -/

def builtinValues (d : RuleData) : RuleValues where
  name := d.name
  description := some d.description
  checkCommand := some d.checkCommand
  expectedPattern := some d.expectedPattern
  mustMatch := some d.mustMatch
  severity := some d.severity
  remediation := some d.remediation

theorem fits_builtinRules : ∀ r ∈ builtinRules.map builtinValues, r.fits = true := by
  rw [← List.all_eq_true]
  decide +kernel

def builtinRecords : List RuleRecord :=
  (builtinRules.map builtinValues).attachWith _ fits_builtinRules

/-- A lab where an operator has switched a built-in rule off and added one of their own. -/
def seededLab : Platform where
  complianceRules := (Table.empty.insert {
    name := "HTTP Server Disabled"
    description := ""
    checkCommand := "show running-config"
    expectedPattern := "ip http server"
    isActive := false
    createdAt := 1 }).insert {
    name := "NTP Configured"
    description := ""
    checkCommand := "show ntp status"
    expectedPattern := "synchronized"
    createdAt := 2 }

theorem run_handle_builtinRecords :
    ∃ n db', (handle (fun k => 10 + k) builtinRecords).run seededLab = (.ok (n, n.text), db') ∧
      Seeded builtinRecords seededLab db' n ∧
      ∀ clock', (handle clock' builtinRecords).run db' =
        (.ok (⟨0, 8⟩, "Compliance rules seeded: 0 created, 8 updated."), db') := by
  have hunique : UniqueNames seededLab.complianceRules := by
    intro id id' rule rule' hget hget' hname
    have hmem := (Table.mem_rows_iff _ _ _).mpr hget
    have hmem' := (Table.mem_rows_iff _ _ _).mpr hget'
    simp only [seededLab, Table.insert, Table.empty, List.nil_append, List.cons_append,
      List.mem_cons, List.not_mem_nil, or_false, Prod.mk.injEq] at hmem hmem'
    rcases hmem with ⟨rfl, rfl⟩ | ⟨rfl, rfl⟩ <;> rcases hmem' with ⟨rfl, rfl⟩ | ⟨rfl, rfl⟩
    · rfl
    · exact absurd hname (by decide)
    · exact absurd hname (by decide)
    · rfl
  have hlength : builtinRecords.length = 8 := rfl
  have htext : SeedCount.text ⟨0, 8⟩ = "Compliance rules seeded: 0 created, 8 updated." := rfl
  have hrun := run_handle seededLab hunique builtinRecords (by decide +kernel) (fun k => 10 + k)
  rw [hlength, htext] at hrun
  exact hrun

end DevSecOpsPlatform.RuleSeeding
