import DevSecOpsPlatform.PythonValues

/-!
# Texts made of lines

`str.splitlines` on lines joined without a separator. Lines of which all but the last have
their terminator are read back as they were; a line without one runs into the next.
-/

namespace DevSecOpsPlatform.LineTexts

open PythonValues

/-- What ends a line; nothing does at the end of a text. -/
def Terminator (x : List Char) : Prop :=
  x = [] ∨ x = ['\r', '\n'] ∨ ∃ c, isLineBoundary c = true ∧ x = [c]

def Plain (x : List Char) : Prop := ∀ c ∈ x, isLineBoundary c = false

instance : DecidablePred Plain := fun x =>
  decidable_of_iff (x.any isLineBoundary = false) (by simp [Plain])

theorem Plain.append {x y : List Char} (hx : Plain x) (hy : Plain y) : Plain (x ++ y) := by
  intro c hc
  rcases List.mem_append.mp hc with hc | hc
  · exact hx c hc
  · exact hy c hc

/-- One line: a text and its terminator. -/
def IsLine (l : String) : Prop :=
  ∃ text term, l.toList = text ++ term ∧ Plain text ∧ Terminator term

/-- The line without its terminator. -/
def lineText (l : String) : String := String.ofList (l.toList.takeWhile (!isLineBoundary ·))

def Terminated (l : String) : Prop := l.toList.any isLineBoundary = true

theorem takeWhile_line {text term : List Char} (htext : Plain text) (hterm : Terminator term) :
    (text ++ term).takeWhile (!isLineBoundary ·) = text := by
  have hfront : ∀ c ∈ text, (!isLineBoundary c) = true := by
    intro c hc
    rw [htext c hc]
    rfl
  rw [List.takeWhile_append_of_pos hfront]
  have hnil : term.takeWhile (!isLineBoundary ·) = [] := by
    rcases hterm with rfl | rfl | ⟨c, hc, rfl⟩
    · rfl
    · rfl
    · simp [hc]
  rw [hnil, List.append_nil]

theorem lineText_eq {l : String} {text term : List Char} (hl : l.toList = text ++ term)
    (htext : Plain text) (hterm : Terminator term) : lineText l = String.ofList text := by
  rw [lineText, hl, takeWhile_line htext hterm]

theorem lineText_append {mark : String} (hmark : Plain mark.toList) (l : String) :
    lineText (mark ++ l) = mark ++ lineText l := by
  have hfront : ∀ c ∈ mark.toList, (!isLineBoundary c) = true := by
    intro c hc
    rw [hmark c hc]
    rfl
  refine String.toList_inj.mp ?_
  rw [String.toList_append, lineText, lineText, String.toList_ofList, String.toList_ofList,
    String.toList_append, List.takeWhile_append_of_pos hfront]

theorem terminated_append (mark : String) (hmark : Plain mark.toList) (l : String) :
    Terminated (mark ++ l) ↔ Terminated l := by
  have hplain : mark.toList.any isLineBoundary = false := by
    rw [List.any_eq_false]
    intro c hc
    rw [hmark c hc]
    exact Bool.false_ne_true
  rw [Terminated, Terminated, String.toList_append, List.any_append, hplain, Bool.false_or]

theorem terminated_iff {l : String} {text term : List Char} (hl : l.toList = text ++ term)
    (htext : Plain text) (hterm : Terminator term) : Terminated l ↔ term ≠ [] := by
  have hplain : text.any isLineBoundary = false := by
    rw [List.any_eq_false]
    intro c hc
    rw [htext c hc]
    exact Bool.false_ne_true
  rw [Terminated, hl, List.any_append, hplain, Bool.false_or]
  rcases hterm with rfl | rfl | ⟨c, hc, rfl⟩
  · simp
  · exact iff_of_true rfl (List.cons_ne_nil _ _)
  · simp [hc]

/-! ### Cutting a text -/

theorem cutLines_plain {text : List Char} (htext : Plain text) (line rest : List Char) :
    cutLines line (text ++ rest) = cutLines (text.reverse ++ line) rest := by
  induction text generalizing line with
  | nil => rfl
  | cons c text ih =>
    obtain ⟨hc, htext⟩ := List.forall_mem_cons.mp htext
    have hreturn : c ≠ '\r' := by
      rintro rfl
      exact absurd hc (by decide)
    have hstep : cutLines line (c :: (text ++ rest)) = cutLines (c :: line) (text ++ rest) := by
      rw [cutLines, hc, if_neg Bool.false_ne_true]
      exact fun _ h => absurd h hreturn
    rw [List.cons_append, hstep, ih htext, List.reverse_cons, List.append_assoc]
    rfl

theorem cutLines_terminator {term rest : List Char} (hterm : Terminator term) (hne : term ≠ [])
    (hrest : rest.head? ≠ some '\n') (line : List Char) :
    cutLines line (term ++ rest) = (line.reverse, term) :: cutLines [] rest := by
  rcases hterm with rfl | rfl | ⟨c, hc, rfl⟩
  · exact absurd rfl hne
  · rfl
  · have hpair : ∀ cs, c = '\r' → rest = '\n' :: cs → False := by
      rintro cs - rfl
      exact hrest rfl
    rw [List.singleton_append, cutLines, hc, if_pos rfl]
    exact hpair

theorem cutLines_line {text term rest : List Char} (htext : Plain text)
    (hterm : Terminator term) (hne : term ≠ []) (hrest : rest.head? ≠ some '\n') :
    cutLines [] (text ++ term ++ rest) = (text, term) :: cutLines [] rest := by
  rw [List.append_assoc, cutLines_plain htext, cutLines_terminator hterm hne hrest,
    List.append_nil, List.reverse_reverse]

theorem cutLines_last {text term : List Char} (htext : Plain text) (hterm : Terminator term)
    (hne : text ≠ []) : cutLines [] (text ++ term) = [(text, term)] := by
  by_cases hnil : term = []
  · subst hnil
    have hempty : text.reverse.isEmpty = false := by simpa using hne
    rw [cutLines_plain htext, List.append_nil, cutLines, hempty, if_neg Bool.false_ne_true,
      List.reverse_reverse]
  · have hcut : cutLines [] (text ++ term ++ []) = _ := cutLines_line htext hterm hnil (by simp)
    rw [List.append_nil] at hcut
    rw [hcut]
    rfl

/-- A line with a text that is not empty. -/
def IsMarked (l : String) : Prop :=
  ∃ text term, l.toList = text ++ term ∧ text ≠ [] ∧ Plain text ∧ Terminator term

theorem IsLine.isMarked {l : String} (hl : IsLine l) (mark : String) (hne : mark.toList ≠ [])
    (hmark : Plain mark.toList) : IsMarked (mark ++ l) := by
  obtain ⟨text, term, hchars, htext, hterm⟩ := hl
  refine ⟨mark.toList ++ text, term, ?_, by simp [hne], hmark.append htext, hterm⟩
  rw [String.toList_append, hchars, List.append_assoc]

/-- A line without its terminator runs into the next. -/
theorem IsMarked.append {l next : String} (hl : IsMarked l) (hend : ¬ Terminated l)
    (hnext : IsMarked next) : IsMarked (l ++ next) := by
  obtain ⟨text, term, hchars, hne, htext, hterm⟩ := hl
  obtain rfl : term = [] := by
    by_contra hsome
    exact hend ((terminated_iff hchars htext hterm).mpr hsome)
  obtain ⟨text', term', hchars', -, htext', hterm'⟩ := hnext
  refine ⟨text ++ text', term', ?_, by simp [hne], htext.append htext', hterm'⟩
  rw [String.toList_append, hchars, hchars', List.append_nil, List.append_assoc]

theorem IsMarked.head?_join {lines : List String} (hlines : ∀ l ∈ lines, IsMarked l) :
    (String.join lines).toList.head? ≠ some '\n' := by
  cases lines with
  | nil => simp
  | cons l lines =>
    obtain ⟨text, term, hl, hne, htext, -⟩ := hlines l List.mem_cons_self
    obtain ⟨c, text, rfl⟩ := List.exists_cons_of_ne_nil hne
    have hc := htext c List.mem_cons_self
    rw [String.join_cons, String.toList_append, hl]
    intro hhead
    obtain rfl : c = '\n' := by simpa using hhead
    exact absurd hc (by decide)

/-- Marked lines of which all but the last have their terminator are cut apart again. -/
theorem splitlines_join {lines : List String} (hlines : ∀ l ∈ lines, IsMarked l)
    (hends : lines.Pairwise (fun l _ => Terminated l)) :
    splitlines (String.join lines) = lines.map lineText := by
  have hcut : (cutLines [] (String.join lines).toList).map (fun l => String.ofList l.1) =
      lines.map lineText := by
    induction lines with
    | nil => simp [cutLines]
    | cons l lines ih =>
      obtain ⟨⟨text, term, hl, hne, htext, hterm⟩, hrest⟩ := List.forall_mem_cons.mp hlines
      obtain ⟨hend, hends⟩ := List.pairwise_cons.mp hends
      have htail := ih hrest hends
      rw [String.join_cons, String.toList_append, hl, List.map_cons,
        lineText_eq hl htext hterm]
      cases lines with
      | nil => simp [cutLines_last htext hterm hne]
      | cons next lines =>
        have hterminated := (terminated_iff hl htext hterm).mp (hend next List.mem_cons_self)
        rw [cutLines_line htext hterm hterminated (IsMarked.head?_join hrest), List.map_cons,
          htail]
  exact hcut

/-! ### The lines of a text -/

theorem mem_cutLines {line cs : List Char} (hline : Plain line) {p : List Char × List Char}
    (hp : p ∈ cutLines line cs) : Plain p.1 ∧ Terminator p.2 := by
  have hreverse {line : List Char} (hline : Plain line) : Plain line.reverse := by
    intro c hc
    exact hline c (List.mem_reverse.mp hc)
  fun_induction cutLines line cs with
  | case1 line hempty => cases hp
  | case2 line hempty =>
    obtain rfl := List.mem_singleton.mp hp
    exact ⟨hreverse hline, .inl rfl⟩
  | case3 line cs ih =>
    rcases List.mem_cons.mp hp with rfl | hp
    · exact ⟨hreverse hline, .inr (.inl rfl)⟩
    · exact ih (by simp [Plain]) hp
  | case4 line c cs hpair hc ih =>
    rcases List.mem_cons.mp hp with rfl | hp
    · exact ⟨hreverse hline, .inr (.inr ⟨c, hc, rfl⟩)⟩
    · exact ih (by simp [Plain]) hp
  | case5 line c cs hpair hc ih =>
    refine ih ?_ hp
    intro d hd
    rcases List.mem_cons.mp hd with rfl | hd
    · exact Bool.eq_false_iff.mpr hc
    · exact hline d hd

theorem pairwise_cutLines (line cs : List Char) :
    (cutLines line cs).Pairwise (fun p _ => p.2 ≠ []) := by
  fun_induction cutLines line cs with
  | case1 line hempty => exact List.Pairwise.nil
  | case2 line hempty => exact List.pairwise_singleton _ _
  | case3 line cs ih => exact List.pairwise_cons.mpr ⟨fun _ _ => List.cons_ne_nil _ _, ih⟩
  | case4 line c cs hpair hc ih =>
    exact List.pairwise_cons.mpr ⟨fun _ _ => List.cons_ne_nil _ _, ih⟩
  | case5 line c cs hpair hc ih => exact ih

theorem isLine_of_mem {s l : String} (hl : l ∈ splitlinesKeepends s) : IsLine l := by
  obtain ⟨p, hp, rfl⟩ := List.mem_map.mp hl
  obtain ⟨htext, hterm⟩ := mem_cutLines (by simp [Plain]) hp
  exact ⟨p.1, p.2, String.toList_ofList, htext, hterm⟩

/-- Only the last line of a text may lack its terminator. -/
theorem pairwise_terminated (s : String) :
    (splitlinesKeepends s).Pairwise (fun l _ => Terminated l) := by
  rw [splitlinesKeepends, List.pairwise_map]
  refine (pairwise_cutLines [] s.toList).imp_of_mem ?_
  intro p _ hp _ hends
  obtain ⟨htext, hterm⟩ := mem_cutLines (by simp [Plain]) hp
  exact (terminated_iff String.toList_ofList htext hterm).mpr hends

theorem map_lineText_splitlinesKeepends (s : String) :
    (splitlinesKeepends s).map lineText = splitlines s := by
  rw [splitlinesKeepends, splitlines, List.map_map]
  refine List.map_congr_left ?_
  intro p hp
  obtain ⟨htext, hterm⟩ := mem_cutLines (by simp [Plain]) hp
  exact lineText_eq String.toList_ofList htext hterm

end DevSecOpsPlatform.LineTexts
