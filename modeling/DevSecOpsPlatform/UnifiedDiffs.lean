import DevSecOpsPlatform.LineTexts

/-!
# Unified diffs

An edit script from one list of lines to another, the elements a unified diff shows of it, and
what a reader who tells the lines by their first characters finds in the joined elements: the
script, unless a line without a terminator is not the last one shown.
-/

namespace DevSecOpsPlatform.UnifiedDiffs

open PythonValues LineTexts

/-! ### Edit scripts -/

inductive Edit where
  | kept (line : String)
  | removed (line : String)
  | added (line : String)

namespace Edit

def line : Edit → String
  | kept l | removed l | added l => l

def old? : Edit → Option String
  | kept l | removed l => some l
  | added _ => none

def new? : Edit → Option String
  | kept l | added l => some l
  | removed _ => none

def removed? : Edit → Option String
  | removed l => some l
  | _ => none

def added? : Edit → Option String
  | added l => some l
  | _ => none

theorem line_of_old? {e : Edit} {l : String} (h : e.old? = some l) : e.line = l := by
  cases e with
  | kept k => exact Option.some.inj h
  | removed k => exact Option.some.inj h
  | added k => cases h

theorem line_of_new? {e : Edit} {l : String} (h : e.new? = some l) : e.line = l := by
  cases e with
  | kept k => exact Option.some.inj h
  | removed k => cases h
  | added k => exact Option.some.inj h

/-- The line with its prefix. -/
def element : Edit → String
  | kept l => " " ++ l
  | removed l => "-" ++ l
  | added l => "+" ++ l

end Edit

def oldLines (script : List Edit) : List String := script.filterMap Edit.old?

def newLines (script : List Edit) : List String := script.filterMap Edit.new?

def removedLines (script : List Edit) : List String := script.filterMap Edit.removed?

def addedLines (script : List Edit) : List String := script.filterMap Edit.added?

section Kept

variable (l : String) (script script' : List Edit)

@[simp] theorem oldLines_append :
    oldLines (script ++ script') = oldLines script ++ oldLines script' :=
  List.filterMap_append

@[simp] theorem newLines_append :
    newLines (script ++ script') = newLines script ++ newLines script' :=
  List.filterMap_append

@[simp] theorem oldLines_kept : oldLines (.kept l :: script) = l :: oldLines script := rfl

@[simp] theorem newLines_kept : newLines (.kept l :: script) = l :: newLines script := rfl

end Kept

theorem forall_line {script : List Edit} {p : String → Prop} (hold : ∀ l ∈ oldLines script, p l)
    (hnew : ∀ l ∈ newLines script, p l) : ∀ e ∈ script, p e.line := by
  intro e he
  cases e with
  | kept l => exact hold l (List.mem_filterMap.mpr ⟨_, he, rfl⟩)
  | removed l => exact hold l (List.mem_filterMap.mpr ⟨_, he, rfl⟩)
  | added l => exact hnew l (List.mem_filterMap.mpr ⟨_, he, rfl⟩)

/-- The line in front of a hunk. -/
structure RangeLine where
  range : String
  plain : Plain range.toList

def RangeLine.element (header : RangeLine) : String := "@@" ++ header.range ++ "\n"

/-- The elements that show a script: its edits in hunks, each after a range line. Kept lines
may be left out at both ends, and some are between two hunks. -/
inductive Shows : List Edit → List String → Prop where
  | hunk (header : RangeLine) (body : List Edit) :
      Shows body (header.element :: body.map Edit.element)
  | skipFront (l : String) {script : List Edit} {shown : List String} :
      Shows script shown → Shows (.kept l :: script) shown
  | skipBack (l : String) {script : List Edit} {shown : List String} :
      Shows script shown → Shows (script ++ [.kept l]) shown
  | gap (l : String) {script script' : List Edit} {shown shown' : List String} :
      Shows script shown → Shows script' shown' →
        Shows (script ++ .kept l :: script') (shown ++ shown')

/-! ### Reading a diff -/

inductive ShownLine where
  | added (text : String)
  | removed (text : String)
  | range (text : String)
  | other (text : String)

namespace ShownLine

/-- A line of a diff by its first characters. -/
def ofLine (line : String) : ShownLine :=
  match line.toList with
  | '+' :: cs => added (String.ofList cs)
  | '-' :: cs => removed (String.ofList cs)
  | '@' :: '@' :: cs => range (String.ofList cs)
  | _ => other line

def removed? : ShownLine → Option String
  | removed text => some text
  | _ => none

def added? : ShownLine → Option String
  | added text => some text
  | _ => none

end ShownLine

/-- What a reader sees of an element that stands in a line of its own. -/
def shownLine (element : String) : ShownLine := .ofLine (lineText element)

theorem shownLine_kept (l : String) :
    shownLine (Edit.kept l).element = .other (" " ++ lineText l) := by
  have htext : lineText (Edit.kept l).element = " " ++ lineText l := lineText_append (by decide) l
  rw [shownLine, htext, ShownLine.ofLine, String.toList_append]
  rfl

theorem shownLine_removed (l : String) :
    shownLine (Edit.removed l).element = .removed (lineText l) := by
  have htext : lineText (Edit.removed l).element = "-" ++ lineText l :=
    lineText_append (by decide) l
  have hchars : ("-" ++ lineText l).toList = '-' :: (lineText l).toList := by simp
  rw [shownLine, htext, ShownLine.ofLine, hchars]
  exact congrArg ShownLine.removed String.ofList_toList

theorem shownLine_added (l : String) :
    shownLine (Edit.added l).element = .added (lineText l) := by
  have htext : lineText (Edit.added l).element = "+" ++ lineText l :=
    lineText_append (by decide) l
  have hchars : ("+" ++ lineText l).toList = '+' :: (lineText l).toList := by simp
  rw [shownLine, htext, ShownLine.ofLine, hchars]
  exact congrArg ShownLine.added String.ofList_toList

theorem RangeLine.plain_mark (header : RangeLine) : Plain ("@@" ++ header.range).toList := by
  have hmark : Plain "@@".toList := by decide
  rw [String.toList_append]
  exact hmark.append header.plain

theorem shownLine_range (header : RangeLine) :
    shownLine header.element = .range header.range := by
  have htext : lineText header.element = "@@" ++ header.range := by
    rw [RangeLine.element, lineText_append header.plain_mark]
    exact String.append_empty
  have hchars : ("@@" ++ header.range).toList = '@' :: '@' :: header.range.toList := by simp
  rw [shownLine, htext, ShownLine.ofLine, hchars]
  exact congrArg ShownLine.range String.ofList_toList

/-! ### What a diff shows of its script -/

def removedTexts (lines : List ShownLine) : List String := lines.filterMap ShownLine.removed?

def addedTexts (lines : List ShownLine) : List String := lines.filterMap ShownLine.added?

@[simp] theorem removedTexts_append (lines lines' : List ShownLine) :
    removedTexts (lines ++ lines') = removedTexts lines ++ removedTexts lines' :=
  List.filterMap_append

@[simp] theorem addedTexts_append (lines lines' : List ShownLine) :
    addedTexts (lines ++ lines') = addedTexts lines ++ addedTexts lines' :=
  List.filterMap_append

section Picked

variable {pick : ShownLine → Option String} {pick' : Edit → Option String}
  (hpick : ∀ e : Edit, pick (shownLine e.element) = (pick' e).map lineText)

include hpick

theorem picked_elements (body : List Edit) :
    ((body.map Edit.element).map shownLine).filterMap pick =
      (body.filterMap pick').map lineText := by
  induction body with
  | nil => rfl
  | cons e body ih =>
    have he := hpick e
    rw [List.map_cons, List.map_cons]
    cases hsome : pick' e with
    | none =>
      rw [hsome] at he
      rw [List.filterMap_cons_none he, List.filterMap_cons_none hsome, ih]
    | some l =>
      rw [hsome] at he
      rw [List.filterMap_cons_some he, List.filterMap_cons_some hsome, ih, List.map_cons]

/-- What a reader picks from the lines of a diff, range lines apart, is what is picked from the
script, kept lines apart. -/
theorem Shows.picked (hrange : ∀ text, pick (.range text) = none)
    (hkept : ∀ l, pick' (.kept l) = none) {script : List Edit} {shown : List String}
    (h : Shows script shown) :
    (shown.map shownLine).filterMap pick = (script.filterMap pick').map lineText := by
  induction h with
  | hunk header body =>
    rw [List.map_cons, shownLine_range, List.filterMap_cons_none (hrange _)]
    exact picked_elements hpick body
  | skipFront l h ih => rw [List.filterMap_cons_none (hkept l), ih]
  | skipBack l h ih =>
    rw [List.filterMap_append, List.filterMap_cons_none (hkept l), List.filterMap_nil,
      List.append_nil, ih]
  | gap l h h' ih ih' =>
    rw [List.map_append, List.filterMap_append, ih, ih', List.filterMap_append,
      List.filterMap_cons_none (hkept l), List.map_append]

end Picked

theorem removed?_shownLine (e : Edit) :
    (shownLine e.element).removed? = e.removed?.map lineText := by
  cases e with
  | kept l => rw [shownLine_kept]; rfl
  | removed l => rw [shownLine_removed]; rfl
  | added l => rw [shownLine_added]; rfl

theorem added?_shownLine (e : Edit) : (shownLine e.element).added? = e.added?.map lineText := by
  cases e with
  | kept l => rw [shownLine_kept]; rfl
  | removed l => rw [shownLine_removed]; rfl
  | added l => rw [shownLine_added]; rfl

theorem Shows.removedTexts_eq {script : List Edit} {shown : List String}
    (h : Shows script shown) :
    removedTexts (shown.map shownLine) = (removedLines script).map lineText :=
  h.picked removed?_shownLine (fun _ => rfl) (fun _ => rfl)

theorem Shows.addedTexts_eq {script : List Edit} {shown : List String}
    (h : Shows script shown) :
    addedTexts (shown.map shownLine) = (addedLines script).map lineText :=
  h.picked added?_shownLine (fun _ => rfl) (fun _ => rfl)

/-- Applying a diff that was read: texts outside the hunks stay, `-` lines go and `+` lines
come. -/
inductive Patches : List ShownLine → List String → List String → Prop where
  | done (texts : List String) : Patches [] texts texts
  | range (text : String) (unchanged : List String) {lines : List ShownLine}
      {old new : List String} : Patches lines old new →
        Patches (.range text :: lines) (unchanged ++ old) (unchanged ++ new)
  | other (text : String) {lines : List ShownLine} {old new : List String} :
      Patches lines old new → Patches (.other (" " ++ text) :: lines) (text :: old) (text :: new)
  | removed (text : String) {lines : List ShownLine} {old new : List String} :
      Patches lines old new → Patches (.removed text :: lines) (text :: old) new
  | added (text : String) {lines : List ShownLine} {old new : List String} :
      Patches lines old new → Patches (.added text :: lines) old (text :: new)

/-- No hunk is open in front of the lines. -/
def AtRange : List ShownLine → Prop
  | [] | .range _ :: _ => True
  | _ => False

theorem Patches.cons_unchanged {lines : List ShownLine} {old new : List String}
    (hlines : AtRange lines) (h : Patches lines old new) (text : String) :
    Patches lines (text :: old) (text :: new) := by
  cases h with
  | done => exact .done _
  | range header unchanged h => exact .range header (text :: unchanged) h
  | other _ h => cases hlines
  | removed _ h => cases hlines
  | added _ h => cases hlines

theorem Shows.atRange {script : List Edit} {shown : List String} (h : Shows script shown)
    (rest : List ShownLine) : AtRange (shown.map shownLine ++ rest) := by
  induction h generalizing rest with
  | hunk header body =>
    rw [List.map_cons, shownLine_range]
    trivial
  | skipFront l h ih => exact ih rest
  | skipBack l h ih => exact ih rest
  | gap l h h' ih ih' =>
    rw [List.map_append, List.append_assoc]
    exact ih _

theorem patches_elements (body : List Edit) {rest : List ShownLine} {old new : List String}
    (h : Patches rest old new) : Patches ((body.map Edit.element).map shownLine ++ rest)
      ((oldLines body).map lineText ++ old) ((newLines body).map lineText ++ new) := by
  induction body with
  | nil => exact h
  | cons e body ih =>
    cases e with
    | kept l =>
      rw [List.map_cons, List.map_cons, shownLine_kept]
      exact ih.other (lineText l)
    | removed l =>
      rw [List.map_cons, List.map_cons, shownLine_removed]
      exact ih.removed (lineText l)
    | added l =>
      rw [List.map_cons, List.map_cons, shownLine_added]
      exact ih.added (lineText l)

/-- A diff, read element by element, leads from the old lines to the new ones. -/
theorem Shows.patches {script : List Edit} {shown : List String} (h : Shows script shown)
    {rest : List ShownLine} (hrest : AtRange rest) {old new : List String}
    (hpatches : Patches rest old new) : Patches (shown.map shownLine ++ rest)
      ((oldLines script).map lineText ++ old) ((newLines script).map lineText ++ new) := by
  induction h generalizing rest old new with
  | hunk header body =>
    rw [List.map_cons, shownLine_range]
    exact (patches_elements body hpatches).range header.range []
  | skipFront l h ih =>
    exact (ih hrest hpatches).cons_unchanged (h.atRange rest) (lineText l)
  | skipBack l h ih =>
    have hmore := ih hrest (hpatches.cons_unchanged hrest (lineText l))
    have hlast : oldLines [.kept l] = [l] ∧ newLines [.kept l] = [l] := ⟨rfl, rfl⟩
    simpa [hlast] using hmore
  | gap l h h' ih ih' =>
    have hlater := (ih' hrest hpatches).cons_unchanged (h'.atRange rest) (lineText l)
    have hboth := ih (h'.atRange rest) hlater
    simpa using hboth

/-! ### Terminators -/

theorem Edit.isMarked {e : Edit} (he : IsLine e.line) : IsMarked e.element := by
  cases e with
  | kept l => exact he.isMarked " " (by decide) (by decide)
  | removed l => exact he.isMarked "-" (by decide) (by decide)
  | added l => exact he.isMarked "+" (by decide) (by decide)

theorem Edit.terminated_element (e : Edit) : Terminated e.element ↔ Terminated e.line := by
  cases e with
  | kept l => exact terminated_append " " (by decide) l
  | removed l => exact terminated_append "-" (by decide) l
  | added l => exact terminated_append "+" (by decide) l

theorem RangeLine.isMarked (header : RangeLine) : IsMarked header.element := by
  refine ⟨("@@" ++ header.range).toList, ['\n'], ?_, by simp, header.plain_mark,
    .inr (.inr ⟨'\n', by decide, rfl⟩)⟩
  rw [RangeLine.element, String.toList_append]
  rfl

theorem RangeLine.terminated (header : RangeLine) : Terminated header.element :=
  (terminated_append _ header.plain_mark "\n").mpr rfl

theorem Shows.isMarked {script : List Edit} {shown : List String} (h : Shows script shown)
    (hlines : ∀ e ∈ script, IsLine e.line) : ∀ x ∈ shown, IsMarked x := by
  induction h with
  | hunk header body =>
    rw [List.forall_mem_cons, List.forall_mem_map]
    exact ⟨header.isMarked, fun e he => Edit.isMarked (hlines e he)⟩
  | skipFront l h ih => exact ih (List.forall_mem_cons.mp hlines).2
  | skipBack l h ih => exact ih (List.forall_mem_append.mp hlines).1
  | gap l h h' ih ih' =>
    obtain ⟨hfront, hback⟩ := List.forall_mem_append.mp hlines
    exact List.forall_mem_append.mpr ⟨ih hfront, ih' (List.forall_mem_cons.mp hback).2⟩

theorem Shows.terminated {script : List Edit} {shown : List String} (h : Shows script shown)
    (hends : ∀ e ∈ script, Terminated e.line) : ∀ x ∈ shown, Terminated x := by
  induction h with
  | hunk header body =>
    rw [List.forall_mem_cons, List.forall_mem_map]
    exact ⟨header.terminated, fun e he => e.terminated_element.mpr (hends e he)⟩
  | skipFront l h ih => exact ih (List.forall_mem_cons.mp hends).2
  | skipBack l h ih => exact ih (List.forall_mem_append.mp hends).1
  | gap l h h' ih ih' =>
    obtain ⟨hfront, hback⟩ := List.forall_mem_append.mp hends
    exact List.forall_mem_append.mpr ⟨ih hfront, ih' (List.forall_mem_cons.mp hback).2⟩

/-- Every line of the script but the last has its terminator. -/
def Closed (script : List Edit) : Prop := script.Pairwise (fun e _ => Terminated e.line)

theorem pairwise_elements {body : List Edit} (hclosed : Closed body) :
    (body.map Edit.element).Pairwise (fun x _ => Terminated x) := by
  rw [List.pairwise_map]
  exact hclosed.imp fun hends => (Edit.terminated_element _).mpr hends

theorem Shows.pairwise {script : List Edit} {shown : List String} (h : Shows script shown)
    (hclosed : Closed script) : shown.Pairwise (fun x _ => Terminated x) := by
  induction h with
  | hunk header body =>
    exact List.pairwise_cons.mpr ⟨fun _ _ => header.terminated, pairwise_elements hclosed⟩
  | skipFront l h ih => exact ih (List.pairwise_cons.mp hclosed).2
  | skipBack l h ih => exact ih (List.pairwise_append.mp hclosed).1
  | gap l h h' ih ih' =>
    obtain ⟨hfront, hback, hacross⟩ := List.pairwise_append.mp hclosed
    have hends := h.terminated fun e he => hacross e he _ List.mem_cons_self
    exact List.pairwise_append.mpr ⟨ih hfront, ih' (List.pairwise_cons.mp hback).2,
      fun x hx _ _ => hends x hx⟩

/-! ### A line without a terminator -/

/-- The lines stand in the same text. -/
def Edit.SameText (e e' : Edit) : Prop :=
  (e.old?.isSome ∧ e'.old?.isSome) ∨ (e.new?.isSome ∧ e'.new?.isSome)

/-- Of two lines of one text the first has its terminator. -/
theorem pairwise_sameText {script : List Edit}
    (hold : (oldLines script).Pairwise (fun l _ => Terminated l))
    (hnew : (newLines script).Pairwise (fun l _ => Terminated l)) :
    script.Pairwise (fun e e' => e.SameText e' → Terminated e.line) := by
  rw [oldLines, List.pairwise_filterMap] at hold
  rw [newLines, List.pairwise_filterMap] at hnew
  refine (hold.and hnew).imp ?_
  rintro e e' ⟨hold, hnew⟩ (⟨he, he'⟩ | ⟨he, he'⟩)
  · obtain ⟨l, hl⟩ := Option.isSome_iff_exists.mp he
    obtain ⟨l', hl'⟩ := Option.isSome_iff_exists.mp he'
    rw [Edit.line_of_old? hl]
    exact hold l hl l' hl'
  · obtain ⟨l, hl⟩ := Option.isSome_iff_exists.mp he
    obtain ⟨l', hl'⟩ := Option.isSome_iff_exists.mp he'
    rw [Edit.line_of_new? hl]
    exact hnew l hl l' hl'

theorem exists_open_of_not_closed {script : List Edit} (hopen : ¬ Closed script) :
    ∃ pre e next post, script = pre ++ e :: next :: post ∧ ¬ Terminated e.line := by
  induction script with
  | nil => exact absurd List.Pairwise.nil hopen
  | cons e script ih =>
    by_cases hrest : Closed script
    · cases script with
      | nil => exact absurd (List.pairwise_singleton _ _) hopen
      | cons next post =>
        refine ⟨[], e, next, post, rfl, fun hend => hopen ?_⟩
        exact List.pairwise_cons.mpr ⟨fun _ _ => hend, hrest⟩
    · obtain ⟨pre, d, next, post, rfl, hend⟩ := ih hrest
      exact ⟨e :: pre, d, next, post, rfl, hend⟩

theorem Edit.sameText_of_not {e x y : Edit} (hx : ¬ e.SameText x) (hy : ¬ e.SameText y) :
    x.SameText y := by
  cases e <;> cases x <;> cases y <;> simp_all [SameText, old?, new?]

theorem Edit.sameText_or {e x : Edit} (hx : ¬ e.SameText x) (d : Edit) :
    d.SameText e ∨ d.SameText x := by
  cases e <;> cases x <;> cases d <;> simp_all [SameText, old?, new?]

theorem Edit.ne_kept_of_not_sameText {e x : Edit} (hx : ¬ e.SameText x) (l : String) :
    e ≠ .kept l ∧ x ≠ .kept l := by
  cases e <;> cases x <;> simp_all [SameText, old?, new?]

/-- After a line without a terminator only lines of the other text come, and these are closed,
as are the lines before it. -/
theorem open_split {pre post : List Edit} {e next : Edit}
    (hsame : (pre ++ e :: next :: post).Pairwise (fun e e' => e.SameText e' → Terminated e.line))
    (hend : ¬ Terminated e.line) : (∀ x ∈ next :: post, ¬ e.SameText x) ∧
      (∀ x ∈ pre, Terminated x.line) ∧ Closed (next :: post) := by
  obtain ⟨-, htail, hacross⟩ := List.pairwise_append.mp hsame
  obtain ⟨hlater, hpost⟩ := List.pairwise_cons.mp htail
  have hother : ∀ x ∈ next :: post, ¬ e.SameText x := fun x hx htext => hend (hlater x hx htext)
  refine ⟨hother, ?_, ?_⟩
  · intro x hx
    have hnext := List.mem_cons_of_mem e (List.mem_cons_self (a := next) (l := post))
    rcases Edit.sameText_or (hother next List.mem_cons_self) x with htext | htext
    · exact hacross x hx e List.mem_cons_self htext
    · exact hacross x hx next hnext htext
  · refine hpost.imp_of_mem ?_
    intro x y hx hy hterminated
    exact hterminated (Edit.sameText_of_not (hother x hx) (hother y hy))

/-- The changes at the end of a script are shown one after the other, with no range line
between them. -/
theorem Shows.exists_tail {script : List Edit} {shown : List String} (h : Shows script shown)
    {pre tail : List Edit} (hscript : script = pre ++ tail) (hne : tail ≠ [])
    (hchanges : ∀ e ∈ tail, ∀ l, e ≠ .kept l) : ∃ front, shown = front ++ tail.map Edit.element ∧
      ((∀ e ∈ pre, Terminated e.line) → ∀ x ∈ front, Terminated x) := by
  induction h generalizing pre with
  | hunk header body =>
    refine ⟨header.element :: pre.map Edit.element, by rw [hscript, List.map_append]; rfl, ?_⟩
    intro hends
    rw [List.forall_mem_cons, List.forall_mem_map]
    exact ⟨header.terminated, fun e he => e.terminated_element.mpr (hends e he)⟩
  | skipFront l h ih =>
    cases pre with
    | nil =>
      have hkept : Edit.kept l ∈ [] ++ tail := hscript ▸ List.mem_cons_self
      exact absurd rfl (hchanges _ hkept l)
    | cons e pre =>
      obtain ⟨-, hscript⟩ := List.cons.inj hscript
      obtain ⟨front, hshown, hfront⟩ := ih hscript
      exact ⟨front, hshown, fun hends => hfront (List.forall_mem_cons.mp hends).2⟩
  | skipBack l h ih =>
    have hlast := congrArg List.getLast? hscript
    obtain ⟨z, hz⟩ := Option.isSome_iff_exists.mp (List.getLast?_isSome.mpr hne)
    rw [List.getLast?_append, List.getLast?_append, hz] at hlast
    obtain rfl : Edit.kept l = z := by simpa using hlast
    exact absurd rfl (hchanges _ (List.mem_of_getLast? hz) l)
  | gap l h h' ih ih' =>
    rcases List.append_eq_append_iff.mp hscript with ⟨back, rfl, hback⟩ | ⟨mid, -, rfl⟩
    · cases back with
      | nil =>
        have hkept : Edit.kept l ∈ [] ++ tail := hback ▸ List.mem_cons_self
        exact absurd rfl (hchanges _ hkept l)
      | cons e back =>
        obtain ⟨-, hback⟩ := List.cons.inj hback
        obtain ⟨front, rfl, hfront⟩ := ih' hback
        refine ⟨_ ++ front, (List.append_assoc _ _ _).symm, fun hends => ?_⟩
        obtain ⟨hbefore, hends⟩ := List.forall_mem_append.mp hends
        exact List.forall_mem_append.mpr
          ⟨h.terminated hbefore, hfront (List.forall_mem_cons.mp hends).2⟩
    · exact absurd rfl (hchanges (.kept l) (by simp) l)

/-- Where a script ends with an added line, every line of the old text has its terminator;
where it ends with a removed one, every line of the new text. -/
structure ClosedEnd (script : List Edit) : Prop where
  added : ∀ l, script.getLast? = some (.added l) → ∀ l' ∈ oldLines script, Terminated l'
  removed : ∀ l, script.getLast? = some (.removed l) → ∀ l' ∈ newLines script, Terminated l'

theorem Closed.terminated_of_ne {script : List Edit} {last e : Edit} (hclosed : Closed script)
    (hlast : script.getLast? = some last) (he : e ∈ script) (hne : e ≠ last) :
    Terminated e.line := by
  obtain ⟨init, rfl⟩ := List.getLast?_eq_some_iff.mp hlast
  obtain ⟨-, -, hacross⟩ := List.pairwise_append.mp hclosed
  rcases List.mem_append.mp he with he | he
  · exact hacross e he last (List.mem_singleton_self last)
  · exact absurd (List.mem_singleton.mp he) hne

theorem closed_iff_closedEnd {script : List Edit}
    (hold : (oldLines script).Pairwise (fun l _ => Terminated l))
    (hnew : (newLines script).Pairwise (fun l _ => Terminated l)) :
    Closed script ↔ ClosedEnd script := by
  constructor
  · intro hclosed
    refine ⟨fun l hlast l' hl' => ?_, fun l hlast l' hl' => ?_⟩
    · obtain ⟨e, he, hline⟩ := List.mem_filterMap.mp hl'
      have hne : e ≠ .added l := by
        rintro rfl
        cases hline
      rw [← Edit.line_of_old? hline]
      exact hclosed.terminated_of_ne hlast he hne
    · obtain ⟨e, he, hline⟩ := List.mem_filterMap.mp hl'
      have hne : e ≠ .removed l := by
        rintro rfl
        cases hline
      rw [← Edit.line_of_new? hline]
      exact hclosed.terminated_of_ne hlast he hne
  · intro hends
    by_contra hopen
    obtain ⟨pre, e, next, post, rfl, hend⟩ := exists_open_of_not_closed hopen
    obtain ⟨hother, -, -⟩ := open_split (pairwise_sameText hold hnew) hend
    obtain ⟨last, hlast⟩ :=
      Option.isSome_iff_exists.mp (List.getLast?_isSome.mpr (List.cons_ne_nil next post))
    have hall : (pre ++ e :: next :: post).getLast? = some last := by
      rw [List.getLast?_append, List.getLast?_cons_cons, hlast, Option.some_or]
    have hlater := hother last (List.mem_of_getLast? hlast)
    have hmem : e ∈ pre ++ e :: next :: post := by simp
    cases e with
    | kept k => exact (Edit.ne_kept_of_not_sameText hlater k).1 rfl
    | removed k =>
      cases last with
      | added l => exact hend (hends.added l hall k (List.mem_filterMap.mpr ⟨_, hmem, rfl⟩))
      | kept l => exact (Edit.ne_kept_of_not_sameText hlater l).2 rfl
      | removed l => exact hlater (.inl ⟨rfl, rfl⟩)
    | added k =>
      cases last with
      | removed l => exact hend (hends.removed l hall k (List.mem_filterMap.mpr ⟨_, hmem, rfl⟩))
      | kept l => exact (Edit.ne_kept_of_not_sameText hlater l).2 rfl
      | added l => exact hlater (.inr ⟨rfl, rfl⟩)

/-! ### Reading back -/

/-- The lines of a diff after its first `heads` ones. -/
def readDiff (heads : ℕ) (diff : String) : List ShownLine :=
  ((splitlines diff).drop heads).map ShownLine.ofLine

/-- A reader of the lines finds the changes of the script, in order. -/
structure ReadBack (script : List Edit) (lines : List ShownLine) : Prop where
  removed : removedTexts lines = (removedLines script).map lineText
  added : addedTexts lines = (addedLines script).map lineText
  patches : Patches lines ((oldLines script).map lineText) ((newLines script).map lineText)

theorem readDiff_join {heads shown : List String}
    (hheads : ∀ x ∈ heads, IsMarked x ∧ Terminated x) (hmarked : ∀ x ∈ shown, IsMarked x)
    (hends : shown.Pairwise (fun x _ => Terminated x)) :
    readDiff heads.length (String.join (heads ++ shown)) = shown.map shownLine := by
  have hall : ∀ x ∈ heads ++ shown, IsMarked x :=
    List.forall_mem_append.mpr ⟨fun x hx => (hheads x hx).1, hmarked⟩
  have hpairwise : (heads ++ shown).Pairwise (fun x _ => Terminated x) := by
    refine List.pairwise_append.mpr ⟨?_, hends, fun x hx _ _ => (hheads x hx).2⟩
    exact List.pairwise_of_forall_mem_list fun x hx _ _ => (hheads x hx).2
  rw [readDiff, splitlines_join hall hpairwise, List.map_append,
    List.drop_left' (List.length_map _), List.map_map]
  rfl

/-- The number of `-` and `+` lines. -/
def changes (lines : List ShownLine) : ℕ := (removedTexts lines).length + (addedTexts lines).length

theorem changes_append (lines lines' : List ShownLine) :
    changes (lines ++ lines') = changes lines + changes lines' := by
  simp only [changes, removedTexts_append, addedTexts_append, List.length_append]
  omega

theorem changes_cons (line : ShownLine) (lines : List ShownLine) :
    changes (line :: lines) = changes [line] + changes lines :=
  changes_append [line] lines

theorem changes_singleton_le (line : ShownLine) : changes [line] ≤ 1 := by
  cases line with
  | added text => exact Nat.le_refl 1
  | removed text => exact Nat.le_refl 1
  | range text => exact Nat.zero_le 1
  | other text => exact Nat.zero_le 1

theorem changes_element {e : Edit} (he : ∀ l, e ≠ .kept l) :
    changes [shownLine e.element] = 1 := by
  cases e with
  | kept l => exact absurd rfl (he l)
  | removed l => rw [shownLine_removed]; rfl
  | added l => rw [shownLine_added]; rfl

theorem changes_of_readBack {script : List Edit} {shown : List String}
    (h : Shows script shown) {lines : List ShownLine} (hread : ReadBack script lines) :
    changes lines = changes (shown.map shownLine) := by
  rw [changes, changes, hread.removed, hread.added, h.removedTexts_eq, h.addedTexts_eq]

/-- An element without a terminator is read as a single line with the next. -/
theorem changes_merged {heads front back : List String} {x y : String}
    (hheads : ∀ z ∈ heads, IsMarked z ∧ Terminated z)
    (hmarked : ∀ z ∈ front ++ x :: y :: back, IsMarked z) (hfront : ∀ z ∈ front, Terminated z)
    (hend : ¬ Terminated x) (hback : (y :: back).Pairwise (fun z _ => Terminated z)) :
    changes (readDiff heads.length (String.join (heads ++ (front ++ x :: y :: back)))) ≤
      changes (front.map shownLine) + 1 + changes (back.map shownLine) := by
  have hjoin : String.join (heads ++ (front ++ x :: y :: back)) =
      String.join (heads ++ (front ++ (x ++ y) :: back)) := by
    simp [String.append_assoc]
  obtain ⟨hmarkedFront, hmarkedTail⟩ := List.forall_mem_append.mp hmarked
  obtain ⟨hmarkedX, hmarkedTail⟩ := List.forall_mem_cons.mp hmarkedTail
  obtain ⟨hmarkedY, hmarkedBack⟩ := List.forall_mem_cons.mp hmarkedTail
  have hmarkedAll : ∀ z ∈ front ++ (x ++ y) :: back, IsMarked z :=
    List.forall_mem_append.mpr ⟨hmarkedFront,
      List.forall_mem_cons.mpr ⟨hmarkedX.append hend hmarkedY, hmarkedBack⟩⟩
  obtain ⟨hy, hrest⟩ := List.pairwise_cons.mp hback
  have hpairwise : (front ++ (x ++ y) :: back).Pairwise (fun z _ => Terminated z) := by
    refine List.pairwise_append.mpr ⟨?_, List.pairwise_cons.mpr ⟨fun z hz => ?_, hrest⟩,
      fun z hz _ _ => hfront z hz⟩
    · exact List.pairwise_of_forall_mem_list fun z hz _ _ => hfront z hz
    · rw [Terminated, String.toList_append, List.any_append, hy z hz, Bool.or_true]
  have hle := changes_singleton_le (shownLine (x ++ y))
  rw [hjoin, readDiff_join hheads hmarkedAll hpairwise, List.map_append, List.map_cons,
    changes_append, changes_cons]
  omega

/-- The joined diff is read back exactly when only the last line of its script may lack its
terminator. -/
theorem readBack_iff {script : List Edit} {heads shown : List String}
    (hheads : ∀ x ∈ heads, IsMarked x ∧ Terminated x) (h : Shows script shown)
    (hlines : ∀ e ∈ script, IsLine e.line)
    (hold : (oldLines script).Pairwise (fun l _ => Terminated l))
    (hnew : (newLines script).Pairwise (fun l _ => Terminated l)) :
    ReadBack script (readDiff heads.length (String.join (heads ++ shown))) ↔ Closed script := by
  have hmarked := h.isMarked hlines
  constructor
  · intro hread
    by_contra hopen
    obtain ⟨pre, e, next, post, hscript, hend⟩ := exists_open_of_not_closed hopen
    have hsame := pairwise_sameText hold hnew
    rw [hscript] at hsame
    obtain ⟨hother, hbefore, hclosed⟩ := open_split hsame hend
    have hchanges : ∀ x ∈ e :: next :: post, ∀ l, x ≠ .kept l := by
      refine List.forall_mem_cons.mpr ⟨fun l => ?_, fun x hx l => ?_⟩
      · exact (Edit.ne_kept_of_not_sameText (hother next List.mem_cons_self) l).1
      · exact (Edit.ne_kept_of_not_sameText (hother x hx) l).2
    obtain ⟨front, rfl, hfront⟩ := h.exists_tail hscript (by simp) hchanges
    -- The first change is read as one line with the second, so that one change is lost.
    have hendE : ¬ Terminated e.element := fun hterm => hend (e.terminated_element.mp hterm)
    have hmerged := changes_merged hheads hmarked (hfront hbefore) hendE
      (pairwise_elements hclosed)
    have hread := changes_of_readBack h hread
    have hall : changes ((front ++ (e :: next :: post).map Edit.element).map shownLine) =
        changes (front.map shownLine) + 1 + 1 +
          changes ((post.map Edit.element).map shownLine) := by
      have he := changes_element (hchanges e List.mem_cons_self)
      have hnext := changes_element
        (hchanges next (List.mem_cons_of_mem _ List.mem_cons_self))
      rw [List.map_append, List.map_cons, List.map_cons, List.map_cons, List.map_cons,
        changes_append, changes_cons, changes_cons _ (List.map _ _), he, hnext]
      omega
    rw [List.map_cons, List.map_cons] at hread hall
    omega
  · intro hclosed
    rw [readDiff_join hheads hmarked (h.pairwise hclosed)]
    have hnil : AtRange [] := trivial
    have hpatches := h.patches hnil (.done [])
    simp only [List.append_nil] at hpatches
    exact ⟨h.removedTexts_eq, h.addedTexts_eq, hpatches⟩

end DevSecOpsPlatform.UnifiedDiffs
