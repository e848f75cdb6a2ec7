import DevSecOpsPlatform.DriftVerdicts
import DevSecOpsPlatform.UnifiedDiffs

/-!
# Reading a drift report

`drift_detail.html` cuts the stored diff into lines and tells these by their first characters.
It finds the changes that `unified_diff` reported unless the joined elements have run together
at the end of one of the texts.
-/

namespace DevSecOpsPlatform.DriftDiffs

open KeyedTables StatementPrograms PlatformModels PlatformStore RolePermissions PythonValues
open NetmikoSessions SecurityTasks DriftVerdicts LineTexts UnifiedDiffs

/-- What `difflib` promises of `unified_diff`, with the script it finds: for different lists two
header lines and the hunks of the script. -/
structure DiffsAs (unifiedDiff : List String → List String → String → String → ℕ → List String)
    (script : List String → List String → List Edit) : Prop where
  old : ∀ a b, oldLines (script a b) = a
  new : ∀ a b, newLines (script a b) = b
  shows : ∀ a b fromfile tofile n, a ≠ b → ∃ shown, Shows (script a b) shown ∧
    unifiedDiff a b fromfile tofile n =
      ["--- " ++ fromfile ++ "\n", "+++ " ++ tofile ++ "\n"] ++ shown

/-- The lines of the stored diff as `drift_detail.html` tells them apart. -/
def driftDetail (report : DriftReport) : List ShownLine :=
  (splitlines report.diff).map ShownLine.ofLine

/-- The lines after the file header give the changes of the script, in order, and lead from the
golden text to the current one, up to line terminators. -/
structure ReadsBack (edits : List Edit) (golden current : String) (lines : List ShownLine) :
    Prop where
  removed : removedTexts lines = (removedLines edits).map lineText
  added : addedTexts lines = (addedLines edits).map lineText
  patches : Patches lines (splitlines golden) (splitlines current)

/-! ### The file headers -/

theorem isLineBoundary_of_isDigit {c : Char} (hc : c.isDigit = true) :
    isLineBoundary c = false := by
  have hrange : 48 ≤ c.toNat ∧ c.toNat ≤ 57 := by
    rw [Char.isDigit, Bool.and_eq_true, decide_eq_true_eq, decide_eq_true_eq] at hc
    exact ⟨hc.1, hc.2⟩
  simp only [isLineBoundary, Bool.or_eq_false_iff, Bool.and_eq_false_iff, decide_eq_false_iff_not,
    beq_eq_false_iff_ne]
  omega

theorem plain_dateText (t : DateTime) : Plain (dateText t).toList := by
  intro c hc
  rcases mem_dateText hc with hdigit | rfl
  · exact isLineBoundary_of_isDigit hdigit
  · decide

/-- A file header with a name of one line is a line of its own. -/
theorem isMarked_fileHeader {mark name : String} (hmark : Plain mark.toList)
    (hne : mark.toList ≠ []) (hname : Plain name.toList) :
    IsMarked (mark ++ name ++ "\n") ∧ Terminated (mark ++ name ++ "\n") := by
  have hplain : Plain (mark ++ name).toList := by
    rw [String.toList_append]
    exact hmark.append hname
  refine ⟨⟨(mark ++ name).toList, ['\n'], ?_, ?_, hplain, .inr (.inr ⟨'\n', by decide, rfl⟩)⟩,
    (terminated_append _ hplain "\n").mpr rfl⟩
  · rw [String.toList_append]
    rfl
  · simp [hne]

theorem fileHeaders (golden current : DateTime) : ∀ x ∈
    ["--- " ++ ("golden (" ++ dateText golden ++ ")") ++ "\n",
      "+++ " ++ ("current (" ++ dateText current ++ ")") ++ "\n"], IsMarked x ∧ Terminated x := by
  have hname {front : String} (hfront : Plain front.toList) (t : DateTime) :
      Plain (front ++ dateText t ++ ")").toList := by
    have hclose : Plain ")".toList := by decide
    rw [String.toList_append, String.toList_append]
    exact (hfront.append (plain_dateText t)).append hclose
  refine List.forall_mem_cons.mpr ⟨?_, List.forall_mem_cons.mpr ⟨?_, by simp⟩⟩
  · exact isMarked_fileHeader (by decide) (by decide) (hname (by decide) golden)
  · exact isMarked_fileHeader (by decide) (by decide) (hname (by decide) current)

/-! ### The stored report -/

theorem textTake_eq {n : ℕ} {s : String} (hs : s.length ≤ n) : textTake n s = s := by
  rw [textTake, List.take_of_length_le (by rwa [String.length_toList]), String.ofList_toList]

theorem readsBack_iff_readBack {edits : List Edit} {golden current : String}
    (hold : oldLines edits = splitlinesKeepends golden)
    (hnew : newLines edits = splitlinesKeepends current) (lines : List ShownLine) :
    ReadsBack edits golden current lines ↔ ReadBack edits lines := by
  have holdTexts : (oldLines edits).map lineText = splitlines golden := by
    rw [hold, map_lineText_splitlinesKeepends]
  have hnewTexts : (newLines edits).map lineText = splitlines current := by
    rw [hnew, map_lineText_splitlinesKeepends]
  constructor
  · rintro ⟨hremoved, hadded, hpatches⟩
    rw [← holdTexts, ← hnewTexts] at hpatches
    exact ⟨hremoved, hadded, hpatches⟩
  · rintro ⟨hremoved, hadded, hpatches⟩
    rw [holdTexts, hnewTexts] at hpatches
    exact ⟨hremoved, hadded, hpatches⟩

theorem driftLines_readsBack_iff {w : DriftWorld}
    {script : List String → List String → List Edit} (hdiff : DiffsAs w.unifiedDiff script)
    {golden : ConfigSnapshot} {config : String} (hne : golden.config ≠ config) :
    ReadsBack (script (splitlinesKeepends golden.config) (splitlinesKeepends config))
        golden.config config (readDiff 2 (String.join (driftLines w golden config))) ↔
      ClosedEnd (script (splitlinesKeepends golden.config) (splitlinesKeepends config)) := by
  have hdifferent : splitlinesKeepends golden.config ≠ splitlinesKeepends config :=
    fun heq => hne (splitlinesKeepends_inj.mp heq)
  obtain ⟨shown, hshows, hlines⟩ := hdiff.shows _ _
    ("golden (" ++ dateText golden.takenAt ++ ")") ("current (" ++ dateText (w.clock 0) ++ ")") 3
    hdifferent
  have hgolden : ∀ l ∈ oldLines (script (splitlinesKeepends golden.config)
      (splitlinesKeepends config)), IsLine l := by
    rw [hdiff.old]
    exact fun l hl => isLine_of_mem hl
  have hcurrent : ∀ l ∈ newLines (script (splitlinesKeepends golden.config)
      (splitlinesKeepends config)), IsLine l := by
    rw [hdiff.new]
    exact fun l hl => isLine_of_mem hl
  have hold : (oldLines (script (splitlinesKeepends golden.config)
      (splitlinesKeepends config))).Pairwise (fun l _ => Terminated l) := by
    rw [hdiff.old]
    exact pairwise_terminated golden.config
  have hnew : (newLines (script (splitlinesKeepends golden.config)
      (splitlinesKeepends config))).Pairwise (fun l _ => Terminated l) := by
    rw [hdiff.new]
    exact pairwise_terminated config
  have hheads := fileHeaders golden.takenAt (w.clock 0)
  have hread := readBack_iff hheads hshows (forall_line hgolden hcurrent) hold hnew
  rw [readsBack_iff_readBack (hdiff.old _ _) (hdiff.new _ _), ← closed_iff_closedEnd hold hnew,
    ← hread, driftLines, hlines]
  rfl

/-- The report of a drift check that finds a change, with a diff short enough to be stored whole,
is read back exactly when the end of the script is closed. A text that the database does not take
gets no report. -/
theorem driftDetail_readsBack_iff {w : DriftWorld} {script : List String → List String → List Edit}
    (hdiff : DiffsAs w.unifiedDiff script) {d : DeviceId} {user : Option UserId} {db : Platform}
    {device : Device} (hdevice : db.devices.get? d = some device)
    (huser : refersToOrNull db.users user = true) {config : String}
    (hconfig : getRunningConfig w.session device = .ok config)
    {golden : ConfigSnapshotId × ConfigSnapshot} (hgolden : latestGolden d db = some golden)
    (hne : golden.2.config ≠ config)
    (hfits : (String.join (driftLines w golden.2 config)).length ≤ 10000) :
    if storable [config, String.join (driftLines w golden.2 config)] then
      ∃ result after report, (runDriftDetection w d user).run db = (.ok result, after) ∧
        after.driftReports = db.driftReports.insert report ∧
        report.goldenSnapshot = some golden.1 ∧
        (ReadsBack (script (splitlinesKeepends golden.2.config) (splitlinesKeepends config))
            golden.2.config config ((driftDetail report).drop 2) ↔
          ClosedEnd (script (splitlinesKeepends golden.2.config) (splitlinesKeepends config)))
    else ∃ after, (runDriftDetection w d user).run db = (.error nulTextError, after) ∧
      after.driftReports = db.driftReports := by
  have hread := driftLines_readsBack_iff hdiff hne
  have hrows := goldenSnapshots_captured db (currentSnapshot w d user config) rfl d
  have hstored : storedDiff (driftLines w golden.2 config) =
      String.join (driftLines w golden.2 config) := textTake_eq hfits
  rw [run_runDriftDetection, storable_cons]
  simp only [hdevice, huser, if_true, hconfig]
  rw [latestGolden, hrows, ← latestGolden, hgolden]
  dsimp only
  rw [hstored]
  cases storable [config] with
  | false => exact ⟨_, rfl, rfl⟩
  | true =>
    cases storable [String.join (driftLines w golden.2 config)] with
    | false => exact ⟨_, rfl, rfl⟩
    | true =>
      refine ⟨_, _, _, rfl, rfl, rfl, ?_⟩
      rw [driftDetail, ← List.map_drop, hstored]
      exact hread

/-- The script of `oneLineDiff`: everything is replaced. -/
def oneLineScript (a b : List String) : List Edit :=
  if a = b then a.map .kept else a.map .removed ++ b.map .added

theorem oldLines_oneLineScript (a b : List String) : oldLines (oneLineScript a b) = a := by
  have hkept : oldLines (a.map .kept) = a := by
    rw [oldLines, List.filterMap_map]
    exact List.filterMap_some
  have hremoved : oldLines (a.map .removed) = a := by
    rw [oldLines, List.filterMap_map]
    exact List.filterMap_some
  have hadded : oldLines (b.map .added) = [] := by
    simp [oldLines, Edit.old?]
  by_cases hab : a = b
  · rw [oneLineScript, if_pos hab, hkept]
  · rw [oneLineScript, if_neg hab, oldLines_append, hremoved, hadded, List.append_nil]

theorem newLines_oneLineScript (a b : List String) : newLines (oneLineScript a b) = b := by
  have hkept : newLines (a.map .kept) = a := by
    rw [newLines, List.filterMap_map]
    exact List.filterMap_some
  have hremoved : newLines (a.map .removed) = [] := by
    simp [newLines, Edit.new?]
  have hadded : newLines (b.map .added) = b := by
    rw [newLines, List.filterMap_map]
    exact List.filterMap_some
  by_cases hab : a = b
  · rw [oneLineScript, if_pos hab, hkept, hab]
  · rw [oneLineScript, if_neg hab, newLines_append, hremoved, hadded, List.nil_append]

theorem diffsAs_oneLineDiff : DiffsAs oneLineDiff oneLineScript where
  old := oldLines_oneLineScript
  new := newLines_oneLineScript
  shows a b fromfile tofile n hne := by
    have hhunk := Shows.hunk ⟨" -1 +1 @@", by decide⟩ (a.map .removed ++ b.map .added)
    rw [List.map_append, List.map_map, List.map_map] at hhunk
    rw [oneLineScript, if_neg hne, oneLineDiff, if_neg hne]
    exact ⟨_, hhunk, rfl⟩

/-- The device answers another name, in a line without terminator. -/
def labAnswer : DriftWorld where
  session := .answering "hostname r2"
  clock _ := 2
  unifiedDiff := oneLineDiff

/-- A golden snapshot whose lines have their terminators. -/
def labSnapshot : ConfigSnapshot where
  device := 1
  config := "hostname r1\nntp\n"
  isGolden := true
  takenAt := 1

def labTerminated : Platform :=
  { lab with configSnapshots := Table.empty.insert labSnapshot }

/-- Everything is replaced, and the last golden line has its terminator. -/
theorem closedEnd_labTerminated : ClosedEnd (oneLineScript
    (splitlinesKeepends labSnapshot.config) (splitlinesKeepends "hostname r2")) where
  added _ _ := by
    change ∀ l ∈ oldLines _, l.toList.any isLineBoundary = true
    decide +kernel
  removed l hlast := by
    have hadded : (oneLineScript (splitlinesKeepends labSnapshot.config)
        (splitlinesKeepends "hostname r2")).getLast? = some (.added "hostname r2") := by rfl
    rw [hadded] at hlast
    cases hlast

/-- A golden text that ends its lines is read back, and one that does not is not. -/
theorem driftDetail_readsBack_iff_of_lab :
    (∃ result after report,
      (runDriftDetection labAnswer 1 (some 1)).run labTerminated = (.ok result, after) ∧
        after.driftReports = labTerminated.driftReports.insert report ∧
        report.goldenSnapshot = some 1 ∧
        ReadsBack (oneLineScript (splitlinesKeepends labSnapshot.config)
            (splitlinesKeepends "hostname r2")) labSnapshot.config "hostname r2"
            ((driftDetail report).drop 2)) ∧
    ∃ result after report,
      (runDriftDetection labAnswer 1 (some 1)).run labBaseline = (.ok result, after) ∧
        after.driftReports = labBaseline.driftReports.insert report ∧
        report.goldenSnapshot = some 1 ∧
        (ReadsBack (oneLineScript (splitlinesKeepends "hostname r1")
              (splitlinesKeepends "hostname r2")) "hostname r1" "hostname r2"
              ((driftDetail report).drop 2) ↔
          ClosedEnd (oneLineScript (splitlinesKeepends "hostname r1")
            (splitlinesKeepends "hostname r2"))) := by
  constructor
  · have h := @driftDetail_readsBack_iff labAnswer oneLineScript diffsAs_oneLineDiff 1 (some 1)
      labTerminated labDevice rfl rfl "hostname r2" rfl (1, labSnapshot) rfl (by decide)
      (by decide +kernel)
    rw [if_pos (by decide +kernel)] at h
    obtain ⟨result, after, report, hrun, hreports, hgolden, hread⟩ := h
    exact ⟨result, after, report, hrun, hreports, hgolden, hread.mpr closedEnd_labTerminated⟩
  · have h := @driftDetail_readsBack_iff labAnswer oneLineScript diffsAs_oneLineDiff 1 (some 1)
      labBaseline labDevice rfl rfl "hostname r2" rfl (1, { labSnapshot with
        config := "hostname r1" }) rfl (by decide) (by decide +kernel)
    rwa [if_pos (by decide +kernel)] at h

/-- Two texts of one line without terminator: the removed line and the added one are read as
one line. -/
theorem unterminated_not_readsBack : ∃ result after report,
    (runDriftDetection labAnswer 1 (some 1)).run labBaseline = (.ok result, after) ∧
      after.driftReports = labBaseline.driftReports.insert report ∧
      report.diff = "--- golden (1970-01-01)\n+++ current (1970-01-01)\n@@ -1 +1 @@\n" ++
        "-hostname r1+hostname r2" ∧
      ¬ ReadsBack (oneLineScript (splitlinesKeepends "hostname r1")
          (splitlinesKeepends "hostname r2")) "hostname r1" "hostname r2"
          ((driftDetail report).drop 2) := by
  refine ⟨_, _, _, rfl, rfl, by decide, ?_⟩
  intro hread
  have hadded := hread.added
  revert hadded
  decide

end DevSecOpsPlatform.DriftDiffs
