import DevSecOpsPlatform.SecurityTaskRuns

/-!
# The verdict of a drift check

The check compares line lists, cut with the terminators kept, and these are equal exactly
when the texts are. The rest of a verdict is read off the store the task leaves, branch by
branch. A text with a NUL character is stored nowhere: the check raises, and leaves nothing.
-/

namespace DevSecOpsPlatform.DriftVerdicts

open KeyedTables StatementPrograms PlatformModels PlatformStore RolePermissions PythonValues
open NetmikoSessions SecurityTasks

/-- What `difflib` promises of `unified_diff`: it yields nothing exactly for equal lists. -/
def EmptyOnEqual (unifiedDiff : List String → List String → String → String → ℕ → List String) :
    Prop :=
  ∀ a b fromfile tofile n, unifiedDiff a b fromfile tofile n = [] ↔ a = b

/-- What it promises of its characters: it adds none of its own that PostgreSQL refuses. -/
def AddsNoNul (unifiedDiff : List String → List String → String → String → ℕ → List String) :
    Prop :=
  ∀ a b fromfile tofile n, storable a = true → storable b = true →
    storable [fromfile, tofile] = true → storable (unifiedDiff a b fromfile tofile n) = true

/-- The diff of two texts that can be stored can be stored. -/
theorem storable_storedDiff {w : DriftWorld} (hdiff : AddsNoNul w.unifiedDiff)
    {golden : ConfigSnapshot} {config : String} (hgolden : storable [golden.config] = true)
    (hconfig : storable [config] = true) :
    storable [storedDiff (driftLines w golden config)] = true := by
  have hlabel (front : String) (hfront : storable [front] = true) (t : DateTime) :
      storable [front ++ dateText t ++ ")"] = true := by
    rw [storable_textAppend, storable_textAppend, hfront, storable_dateText]
    rfl
  refine storable_textTake 10000 ?_
  rw [storable_join]
  refine hdiff _ _ _ _ 3 ?_ ?_ ?_
  · rw [storable_splitlinesKeepends, hgolden]
  · rw [storable_splitlinesKeepends, hconfig]
  · rw [storable_cons, hlabel "golden (" rfl, hlabel "current (" rfl]
    rfl

/-- A golden snapshot of the device, with no golden one taken after it. -/
structure IsLatestGolden (db : Platform) (d : DeviceId) (pk : ConfigSnapshotId)
    (s : ConfigSnapshot) : Prop where
  stored : db.configSnapshots.get? pk = some s
  device : s.device = d
  golden : s.isGolden = true
  latest : ∀ pk' s', db.configSnapshots.get? pk' = some s' → s'.device = d →
    s'.isGolden = true → s'.takenAt ≤ s.takenAt

theorem le_of_latestTaken {rows : List (ConfigSnapshotId × ConfigSnapshot)}
    {s r : ConfigSnapshotId × ConfigSnapshot} (h : latestTaken rows = some s) (hr : r ∈ rows) :
    r.2.takenAt ≤ s.2.takenAt := by
  induction rows generalizing s with
  | nil => cases hr
  | cons first rows ih =>
    simp only [latestTaken] at h
    cases hrest : latestTaken rows with
    | none =>
      rw [latestTaken_eq_none.mp hrest] at hr h
      simp only [latestTaken, Option.some.injEq] at h
      rw [List.mem_singleton.mp hr, h]
    | some t =>
      simp only [hrest] at h
      have hfirst : first.2.takenAt ≤ s.2.takenAt ∧ t.2.takenAt ≤ s.2.takenAt := by
        split at h
        · rename_i hlt
          obtain rfl := Option.some.inj h
          exact ⟨Int.le_of_lt hlt, Int.le_refl _⟩
        · rename_i hnot
          obtain rfl := Option.some.inj h
          exact ⟨Int.le_refl _, Int.not_lt.mp hnot⟩
      rcases List.mem_cons.mp hr with rfl | hr
      · exact hfirst.1
      · exact (ih hrest hr).trans hfirst.2

theorem isLatestGolden_of_latestGolden {d : DeviceId} {db : Platform}
    {g : ConfigSnapshotId × ConfigSnapshot} (h : latestGolden d db = some g) :
    IsLatestGolden db d g.1 g.2 where
  stored := (latestGolden_mem h).1
  device := (latestGolden_mem h).2.1
  golden := (latestGolden_mem h).2.2
  latest pk' s' hs hd hg := by
    have hmem : (pk', s') ∈ goldenSnapshots db d :=
      (db.configSnapshots.mem_select _ pk' s').mpr ⟨hs, by simp [hd, hg]⟩
    exact le_of_latestTaken h hmem

theorem driftLines_eq_nil {w : DriftWorld} (hdiff : EmptyOnEqual w.unifiedDiff)
    (golden : ConfigSnapshot) (config : String) :
    driftLines w golden config = [] ↔ golden.config = config :=
  (hdiff _ _ _ _ _).trans splitlinesKeepends_inj

/-- The verdict of a comparison is the comparison of the texts. -/
theorem driftStatus_driftLines {w : DriftWorld} (hdiff : EmptyOnEqual w.unifiedDiff)
    (golden : ConfigSnapshot) (config : String) :
    driftStatus (!(driftLines w golden config).isEmpty) =
      if golden.config = config then .clean else .drifted := by
  have hnil := driftLines_eq_nil hdiff golden config
  by_cases heq : golden.config = config
  · simp [hnil.mpr heq, heq, driftStatus]
  · cases hlines : driftLines w golden config with
    | nil => exact absurd (hnil.mp hlines) heq
    | cons line lines => simp [heq, driftStatus]

/-- What a check that has read the text `config` of the device leaves: a new snapshot `s` of
the text and a new report `r`. -/
structure Checked (db after : Platform) (d : DeviceId) (config : String) (s : ConfigSnapshot)
    (r : DriftReport) : Prop where
  snapshots : after.configSnapshots = db.configSnapshots.insert s
  reports : after.driftReports = db.driftReports.insert r
  ofDevice : s.device = d ∧ r.device = d
  ofText : s.config = config
  current : r.currentSnapshot = some db.configSnapshots.nextId
  /-- The first check of a device makes its snapshot the golden one. -/
  first : (∀ pk g, db.configSnapshots.get? pk = some g → g.device = d → g.isGolden = false) →
    s.isGolden = true ∧ r.goldenSnapshot = some db.configSnapshots.nextId ∧ r.status = .clean
  /-- A later one compares with the latest golden snapshot. -/
  later : (∃ pk g, db.configSnapshots.get? pk = some g ∧ g.device = d ∧ g.isGolden = true) →
    s.isGolden = false ∧ ∃ pk g, IsLatestGolden db d pk g ∧ r.goldenSnapshot = some pk ∧
      r.status = if g.config = config then .clean else .drifted

/-- What a check that could not read the configuration leaves: the error report `r`. -/
structure Unread (db after : Platform) (d : DeviceId) (r : DriftReport) : Prop where
  snapshots : after.configSnapshots = db.configSnapshots
  reports : after.driftReports = db.driftReports.insert r
  ofDevice : r.device = d
  error : r.status = .error

/-- A drift check stores the text it has read and one report, whose verdict is exact; when the
text cannot be read, it stores an error report and nothing else of either. When what it has to
store has a NUL character, it raises and stores nothing. -/
theorem runDriftDetection_verdict (w : DriftWorld) (hdiff : EmptyOnEqual w.unifiedDiff)
    (hnul : AddsNoNul w.unifiedDiff) (d : DeviceId) (user : Option UserId) (db : Platform)
    (device : Device) (hdevice : db.devices.get? d = some device)
    (huser : refersToOrNull db.users user = true)
    (htexts : ∀ pk s, db.configSnapshots.get? pk = some s → storable [s.config] = true) :
    match getRunningConfig w.session device with
    | .ok config =>
      if storable [config] then
        ∃ result after s r, (runDriftDetection w d user).run db = (.ok result, after) ∧
          Checked db after d config s r
      else (runDriftDetection w d user).run db = (.error nulTextError, db)
    | .error exc =>
      if storable [exc.message] then
        ∃ result after r, (runDriftDetection w d user).run db = (.ok result, after) ∧
          Unread db after d r
      else (runDriftDetection w d user).run db = (.error nulTextError, db) := by
  rw [run_runDriftDetection]
  simp only [hdevice, huser, if_true]
  cases getRunningConfig w.session device with
  | error exc =>
    dsimp only
    cases storable [exc.message] with
    | false => rfl
    | true => exact ⟨_, _, _, rfl, rfl, rfl, rfl, rfl⟩
  | ok config =>
    dsimp only
    cases hconfig : storable [config] with
    | false => rfl
    | true =>
      have hrows := goldenSnapshots_captured db (currentSnapshot w d user config) rfl d
      simp only [if_true]
      rw [latestGolden, hrows, ← latestGolden]
      cases hgolden : latestGolden d db with
      | none =>
        refine ⟨_, _, { currentSnapshot w d user config with
          isGolden := true, comment := "Auto-set as initial golden" }, _, rfl, ?_, rfl, ⟨rfl, rfl⟩,
          rfl, rfl, fun _ => ⟨rfl, rfl, rfl⟩, ?_⟩
        · simp only [promoted]
          exact Table.update_insert_nextId _ _ _
        · rintro ⟨pk, g, hg, hd, hflag⟩
          have hmem : (pk, g) ∈ goldenSnapshots db d :=
            (db.configSnapshots.mem_select _ pk g).mpr ⟨hg, by simp [hd, hflag]⟩
          rw [latestTaken_eq_none.mp hgolden] at hmem
          cases hmem
      | some golden =>
        have hlatest := isLatestGolden_of_latestGolden hgolden
        have hstatus := driftStatus_driftLines hdiff golden.2 config
        have hdiffText := storable_storedDiff hnul (htexts _ _ hlatest.stored) hconfig
        simp only [hdiffText, if_true]
        refine ⟨_, _, _, _, rfl, rfl, rfl, ⟨rfl, rfl⟩, rfl, rfl, fun hnone => ?_, fun _ => ?_⟩
        · have hflag := hnone golden.1 golden.2 hlatest.stored hlatest.device
          rw [hlatest.golden] at hflag
          cases hflag
        · exact ⟨rfl, golden.1, golden.2, hlatest, rfl, hstatus⟩

/-- The diff of two texts of one line each. -/
def oneLineDiff (a b : List String) (fromfile tofile : String) (_ : ℕ) : List String :=
  if a = b then []
  else ["--- " ++ fromfile ++ "\n", "+++ " ++ tofile ++ "\n", "@@ -1 +1 @@\n"] ++
    a.map ("-" ++ ·) ++ b.map ("+" ++ ·)

/-- The small platform with a golden snapshot of its device. -/
def labBaseline : Platform := { lab with
  configSnapshots := Table.empty.insert
    { device := 1, config := "hostname r1", isGolden := true, takenAt := 1 } }

theorem emptyOnEqual_oneLineDiff : EmptyOnEqual oneLineDiff := by
  intro a b fromfile tofile n
  by_cases h : a = b <;> simp [oneLineDiff, h]

theorem addsNoNul_oneLineDiff : AddsNoNul oneLineDiff := by
  intro a b fromfile tofile n ha hb hlabels
  have hmarked (mark : String) (hmark : storable [mark] = true) {lines : List String}
      (hlines : storable lines = true) : storable (lines.map (mark ++ ·)) = true := by
    induction lines with
    | nil => rfl
    | cons line lines ih =>
      rw [storable_cons, Bool.and_eq_true] at hlines
      rw [List.map_cons, storable_cons, storable_textAppend, hmark, hlines.1, ih hlines.2]
      rfl
  rw [storable_cons, Bool.and_eq_true] at hlabels
  unfold oneLineDiff
  split
  · rfl
  · rw [storable_append, storable_append, hmarked "-" rfl ha, hmarked "+" rfl hb]
    simp only [storable_cons _ (_ :: _), storable_textAppend, hlabels.1, hlabels.2]
    rfl

theorem storable_labBaseline (pk : ConfigSnapshotId) (s : ConfigSnapshot)
    (h : labBaseline.configSnapshots.get? pk = some s) : storable [s.config] = true := by
  have hrow := List.mem_singleton.mp ((Table.mem_rows_iff _ _ _).mpr h)
  obtain ⟨-, rfl⟩ : pk = 1 ∧ s = _ := Prod.mk.inj hrow
  rfl

theorem runDriftDetection_verdict_of_lab :
    ∃ result after s r, (runDriftDetection ⟨.answering "hostname r2", fun _ => 2, oneLineDiff⟩ 1
        (some 1)).run labBaseline = (.ok result, after) ∧
      Checked labBaseline after 1 "hostname r2" s r :=
  runDriftDetection_verdict ⟨.answering "hostname r2", fun _ => 2, oneLineDiff⟩
    emptyOnEqual_oneLineDiff addsNoNul_oneLineDiff 1 (some 1) labBaseline labDevice rfl rfl
    storable_labBaseline

/-- A configuration with a NUL character is read, and neither a snapshot nor a report of it is
stored. -/
theorem not_checked_of_nul :
    ¬ ∀ (w : DriftWorld), EmptyOnEqual w.unifiedDiff → AddsNoNul w.unifiedDiff →
      ∀ (d : DeviceId) (user : Option UserId) (db : Platform) (device : Device) (config : String),
        db.devices.get? d = some device → refersToOrNull db.users user = true →
        getRunningConfig w.session device = .ok config →
        ∃ result after s r, (runDriftDetection w d user).run db = (.ok result, after) ∧
          Checked db after d config s r := by
  intro h
  have hnul := h ⟨.answering "hostname r1\x00", fun _ => 2, oneLineDiff⟩ emptyOnEqual_oneLineDiff
    addsNoNul_oneLineDiff 1 (some 1) labBaseline labDevice "hostname r1\x00" rfl rfl rfl
  obtain ⟨result, after, s, r, hrun, -⟩ := hnul
  cases congrArg Prod.fst hrun

end DevSecOpsPlatform.DriftVerdicts
