import DevSecOpsPlatform.BuiltinVerdicts
import DevSecOpsPlatform.SeparatedWords

/-!
# Verdicts of the Telnet rule

The rule `Telnet Disabled on VTY` on outputs made of vty sections. It sees Telnet only where
the word follows `transport input` at once.
-/

namespace DevSecOpsPlatform.TelnetVerdicts

open PythonValues RegexSearch SecurityTasks BuiltinRules BuiltinVerdicts SeparatedWords

variable {reSearch : String → String → Except Exn Bool}

/-! ### Vty sections -/

/-- A protocol of a transport list: one word. -/
structure Protocol where
  name : String
  nonempty : name ≠ ""
  oneWord : name.toList.any isSpace = false

def transportWords (protocols : List Protocol) : List (List Char) :=
  "transport".toList :: "input".toList :: protocols.map (·.name.toList)

theorem oneWord_transportWords (protocols : List Protocol) :
    ∀ w ∈ transportWords protocols, w.any isSpace = false := by
  simp only [transportWords, List.forall_mem_cons, List.forall_mem_map]
  exact ⟨by decide, by decide, fun p _ => p.oneWord⟩

theorem mem_separated {α : Type} {sep c : α} {words : List (List α)}
    (hc : c ∈ separated sep words) : c = sep ∨ ∃ w ∈ words, c ∈ w := by
  obtain ⟨w, hw, hcw⟩ := List.mem_flatMap.mp hc
  rcases List.mem_cons.mp hcw with rfl | hcw
  · exact .inl rfl
  · exact .inr ⟨w, hw, hcw⟩

/-- The line ` transport input p q …`. -/
def transportInput (protocols : List Protocol) : ConfigLine where
  text := String.ofList (separated ' ' (transportWords protocols))
  inLine := by
    intro hmem
    rw [String.toList_ofList] at hmem
    rcases mem_separated hmem with hspace | ⟨w, hw, hc⟩
    · exact absurd hspace (by decide)
    · exact List.any_eq_false.mp (oneWord_transportWords protocols w hw) _ hc (by decide)

/-- A line under a section header that lists no transport protocols. -/
structure OtherLine extends ConfigLine where
  deeper : 0 < toConfigLine.depth
  noTransport : ¬ "transport input".toList <+: toConfigLine.stripped

inductive VtyLine where
  | transportInput (protocols : List Protocol)
  | other (line : OtherLine)

def VtyLine.line : VtyLine → ConfigLine
  | transportInput protocols => TelnetVerdicts.transportInput protocols
  | other line => line.toConfigLine

structure VtySection where
  header : ConfigLine
  named : header.startsWith "line vty" = true
  lines : List VtyLine

def vtyOutput (sections : List VtySection) : List ConfigLine :=
  sections.flatMap (fun s => s.header :: s.lines.map (·.line))

theorem VtyLine.depth_pos (line : VtyLine) : 0 < line.line.depth := by
  cases line with
  | transportInput protocols =>
    rw [VtyLine.line, ConfigLine.depth, TelnetVerdicts.transportInput, String.toList_ofList]
    simp [transportWords]
  | other line => exact line.deeper

theorem selectSections_lines (text : String) (lines : List VtyLine) (rest : List ConfigLine) :
    selectSections text (some 0) (lines.map (·.line) ++ rest) =
      lines.map (·.line) ++ selectSections text (some 0) rest := by
  induction lines with
  | nil => rfl
  | cons line lines ih =>
    have hdeeper : (some 0 : Option ℕ).any (· < line.line.depth) = true := by
      simpa using line.depth_pos
    rw [List.map_cons, List.cons_append, selectSections, if_pos hdeeper, ih, List.cons_append]

theorem VtySection.header_depth (s : VtySection) : s.header.depth = 0 := by
  obtain ⟨post, hheader⟩ := ConfigLine.startsWith_iff.mp s.named
  rw [ConfigLine.depth, ← hheader]
  rfl

theorem selectSections_vtyOutput (header : Option ℕ) (hheader : header = none ∨ header = some 0)
    (sections : List VtySection) :
    selectSections "line vty" header (vtyOutput sections) = vtyOutput sections := by
  induction sections generalizing header with
  | nil => rfl
  | cons s sections ih =>
    have hshallow : header.any (· < s.header.depth) = false := by
      rw [s.header_depth]
      rcases hheader with rfl | rfl <;> rfl
    have hnamed : s.header.contains "line vty" = true :=
      ConfigLine.contains_iff.mpr (ConfigLine.startsWith_iff.mp s.named).isInfix
    have hsections := ih (some 0) (.inr rfl)
    rw [vtyOutput, List.flatMap_cons, List.cons_append, selectSections, hshallow,
      if_neg Bool.false_ne_true, if_pos hnamed, s.header_depth, selectSections_lines]
    rw [vtyOutput] at hsections
    rw [hsections]

/-- Vty sections are printed as these are. -/
theorem showRunningConfig_vtyOutput (sections : List VtySection) :
    showRunningConfig (vtyOutput sections) telnetDisabledOnVty.checkCommand =
      some (vtyOutput sections) := by
  have hfilter : filterOf telnetDisabledOnVty.checkCommand = some (.sections "line vty") := rfl
  rw [showRunningConfig, hfilter, Option.map_some, OutputFilter.select,
    selectSections_vtyOutput none (.inl rfl)]

/-! ### Telnet -/

/-- Some transport list has `telnet` or `all`, at any position. -/
def AllowsTelnet (sections : List VtySection) : Prop :=
  ∃ s ∈ sections, ∃ protocols, .transportInput protocols ∈ s.lines ∧
    ∃ p ∈ protocols, p.name = "telnet" ∨ p.name = "all"

/-- The first protocol of the list begins with `telnet`; or further on a word that ends with
`transport` is followed by `input` and a word that begins with `telnet`. In any case of the
letters. -/
def TelnetFollows (protocols : List Protocol) : Prop :=
  (∃ p rest, protocols = p :: rest ∧ fold "telnet".toList <+: fold p.name.toList) ∨
    ∃ pre p q r post, protocols = pre ++ p :: q :: r :: post ∧
      fold "transport".toList <:+ fold p.name.toList ∧
      fold "input".toList = fold q.name.toList ∧ fold "telnet".toList <+: fold r.name.toList

/-- The line has the text `transport input telnet`, in any case of the letters. -/
def Phrase (line : ConfigLine) : Prop :=
  fold "transport input telnet".toList <:+: fold line.text.toList

/-- Telnet follows `transport input` at once in a transport line, or the three words stand in
another line of a section. -/
def TelnetShown (sections : List VtySection) : Prop :=
  (∃ s ∈ sections, ∃ protocols, .transportInput protocols ∈ s.lines ∧ TelnetFollows protocols) ∨
    ∃ s ∈ sections, Phrase s.header ∨ ∃ line, .other line ∈ s.lines ∧ Phrase line.toConfigLine

theorem fold_separated (words : List (List Char)) :
    fold (separated ' ' words) = separated ' ' (words.map fold) := by
  have hspace : foldCase ' ' = ' ' := by decide
  induction words with
  | nil => rfl
  | cons w words ih =>
    rw [List.map_cons, separated_cons, separated_cons, ← ih, ← fold_append, fold, List.map_cons,
      hspace, fold]

theorem space_notMem_fold {w : List Char} (hw : w.any isSpace = false) : ' ' ∉ fold w := by
  intro hmem
  obtain ⟨c, hc, hfold⟩ := List.mem_map.mp hmem
  obtain rfl := eq_space_of_foldCase hfold
  exact List.any_eq_false.mp hw ' ' hc (by decide)

theorem toList_transportInput (protocols : List Protocol) :
    (transportInput protocols).text.toList = separated ' ' (transportWords protocols) :=
  String.toList_ofList

theorem phrase_transportInput (protocols : List Protocol) :
    Phrase (transportInput protocols) ↔ TelnetFollows protocols := by
  have hphrase : fold "transport input telnet".toList = fold "transport".toList ++
      ' ' :: (fold "input".toList ++ ' ' :: fold "telnet".toList) := by decide
  have hwords : ∀ w ∈ (transportWords protocols).map fold, ' ' ∉ w := by
    rw [List.forall_mem_map]
    exact fun w hw => space_notMem_fold (oneWord_transportWords protocols w hw)
  have hmap : (transportWords protocols).map fold = fold "transport".toList ::
      fold "input".toList :: protocols.map (fun p => fold p.name.toList) := by
    rw [transportWords, List.map_cons, List.map_cons, List.map_map]
    rfl
  rw [Phrase, toList_transportInput, fold_separated, hphrase,
    infix_phrase (by decide) (by decide) (by decide) (by decide) hwords, hmap]
  constructor
  · rintro ⟨pre, u, v, w, post, hsplit, hu, hv, hw⟩
    -- The phrase begins at `transport`, at `input`, or among the protocols.
    cases pre with
    | nil =>
      obtain ⟨-, hsplit⟩ := List.cons.inj hsplit
      obtain ⟨-, hsplit⟩ := List.cons.inj hsplit
      obtain ⟨p, rest, rfl, rfl, -⟩ := List.map_eq_cons_iff.mp hsplit
      exact .inl ⟨p, rest, rfl, hw⟩
    | cons x pre =>
      obtain ⟨-, hsplit⟩ := List.cons.inj hsplit
      cases pre with
      | nil =>
        obtain ⟨rfl, -⟩ := List.cons.inj hsplit
        exact absurd hu.length_le (by decide)
      | cons y pre =>
        obtain ⟨-, hsplit⟩ := List.cons.inj hsplit
        obtain ⟨front, back, rfl, -, hback⟩ := List.map_eq_append_iff.mp hsplit
        obtain ⟨p, back, rfl, rfl, htail⟩ := List.map_eq_cons_iff.mp hback
        obtain ⟨q, back, rfl, rfl, hlast⟩ := List.map_eq_cons_iff.mp htail
        obtain ⟨r, back, rfl, rfl, -⟩ := List.map_eq_cons_iff.mp hlast
        exact .inr ⟨front, p, q, r, back, rfl, hu, hv, hw⟩
  · rintro (⟨p, rest, rfl, hp⟩ | ⟨pre, p, q, r, post, rfl, hp, hq, hr⟩)
    · exact ⟨[], _, _, _, _, rfl, List.suffix_rfl, rfl, hp⟩
    · refine ⟨fold "transport".toList :: fold "input".toList ::
        pre.map (fun p => fold p.name.toList), _, _, _, post.map (fun p => fold p.name.toList), ?_,
        hp, hq, hr⟩
      rw [List.map_append]
      rfl

theorem exists_phrase_vtyOutput (sections : List VtySection) :
    (∃ line ∈ vtyOutput sections, Phrase line) ↔ TelnetShown sections := by
  constructor
  · rintro ⟨line, hline, hphrase⟩
    obtain ⟨s, hs, hline⟩ := List.mem_flatMap.mp hline
    rcases List.mem_cons.mp hline with rfl | hline
    · exact .inr ⟨s, hs, .inl hphrase⟩
    · obtain ⟨vtyLine, hmem, rfl⟩ := List.mem_map.mp hline
      cases vtyLine with
      | transportInput protocols =>
        exact .inl ⟨s, hs, protocols, hmem, (phrase_transportInput protocols).mp hphrase⟩
      | other line => exact .inr ⟨s, hs, .inr ⟨line, hmem, hphrase⟩⟩
  · have hmem {s : VtySection} {line : ConfigLine} (hs : s ∈ sections)
        (hline : line ∈ s.header :: s.lines.map (·.line)) : line ∈ vtyOutput sections :=
      List.mem_flatMap.mpr ⟨s, hs, hline⟩
    rintro (⟨s, hs, protocols, hline, hfollows⟩ | ⟨s, hs, hphrase | ⟨line, hline, hphrase⟩⟩)
    · have hbody := List.mem_map_of_mem (f := VtyLine.line) hline
      exact ⟨_, hmem hs (List.mem_cons_of_mem _ hbody),
        (phrase_transportInput protocols).mpr hfollows⟩
    · exact ⟨_, hmem hs List.mem_cons_self, hphrase⟩
    · have hbody := List.mem_map_of_mem (f := VtyLine.line) hline
      exact ⟨_, hmem hs (List.mem_cons_of_mem _ hbody), hphrase⟩

theorem telnet_compliant_iff (hreads : Reads reSearch) (sections : List VtySection) :
    evaluateRule reSearch (outputText (vtyOutput sections)) telnetDisabledOnVty.expectedPattern
      telnetDisabledOnVty.mustMatch = .ok true ↔ ¬ TelnetShown sections := by
  have hpattern : parsePattern telnetDisabledOnVty.expectedPattern =
      some [literals "transport input telnet".toList] := rfl
  have hverdict := evaluateRule_outputText hreads hpattern (by decide) (by decide)
    (vtyOutput sections)
  have hmust : telnetDisabledOnVty.mustMatch = false := rfl
  rw [hverdict, hmust, Except.ok.injEq, beq_iff_eq, ← exists_phrase_vtyOutput,
    List.any_eq_false]
  simp only [search_literals, not_exists, not_and]
  rfl

/-- On what the device prints of any vty sections, the rule tells whether Telnet is allowed
exactly when an allowed Telnet shows as `transport input telnet` and nothing else does. -/
theorem telnet_decides_iff (hreads : Reads reSearch) (sections : List VtySection) :
    showRunningConfig (vtyOutput sections) telnetDisabledOnVty.checkCommand =
        some (vtyOutput sections) ∧
      ((evaluateRule reSearch (outputText (vtyOutput sections))
            telnetDisabledOnVty.expectedPattern telnetDisabledOnVty.mustMatch = .ok true ↔
          ¬ AllowsTelnet sections) ↔
        (AllowsTelnet sections ↔ TelnetShown sections)) := by
  refine ⟨showRunningConfig_vtyOutput sections, ?_⟩
  rw [telnet_compliant_iff hreads, not_iff_not]
  exact iff_comm

def ssh : Protocol := ⟨"ssh", by decide, by decide⟩

def telnet : Protocol := ⟨"telnet", by decide, by decide⟩

/-- `line vty 0 4` with these protocols. -/
def labSection (protocols : List Protocol) : VtySection where
  header := ⟨"line vty 0 4", by decide⟩
  named := by decide
  lines := [.transportInput protocols]

/-- Two sections, the first with Telnet before SSH. -/
def labSections : List VtySection := [labSection [telnet, ssh], labSection [ssh]]

theorem allowsTelnet_labSections : AllowsTelnet labSections :=
  ⟨_, List.mem_cons_self, [telnet, ssh], List.mem_singleton_self _, telnet, List.mem_cons_self,
    .inl rfl⟩

theorem telnetShown_labSections : TelnetShown labSections :=
  .inl ⟨_, List.mem_cons_self, [telnet, ssh], List.mem_singleton_self _,
    .inl ⟨telnet, [ssh], rfl, List.prefix_rfl⟩⟩

theorem telnet_decides_iff_of_labSection :
    (evaluateRule searchParsed (outputText (vtyOutput labSections))
        telnetDisabledOnVty.expectedPattern telnetDisabledOnVty.mustMatch = .ok true ↔
      ¬ AllowsTelnet labSections) ∧
    ((evaluateRule searchParsed (outputText (vtyOutput [labSection [ssh, telnet]]))
          telnetDisabledOnVty.expectedPattern telnetDisabledOnVty.mustMatch = .ok true ↔
        ¬ AllowsTelnet [labSection [ssh, telnet]]) ↔
      (AllowsTelnet [labSection [ssh, telnet]] ↔ TelnetShown [labSection [ssh, telnet]])) := by
  have hdecides : AllowsTelnet labSections ↔ TelnetShown labSections :=
    iff_of_true allowsTelnet_labSections telnetShown_labSections
  exact ⟨(telnet_decides_iff reads_searchParsed labSections).2.mpr hdecides,
    (telnet_decides_iff reads_searchParsed [labSection [ssh, telnet]]).2⟩

/-- `transport input ssh telnet` passes the rule. -/
theorem secondTelnet_compliant : AllowsTelnet [labSection [ssh, telnet]] ∧
    evaluateRule searchParsed (outputText (vtyOutput [labSection [ssh, telnet]]))
      telnetDisabledOnVty.expectedPattern telnetDisabledOnVty.mustMatch = .ok true := by
  refine ⟨⟨_, List.mem_singleton_self _, [ssh, telnet], List.mem_singleton_self _, telnet,
    by simp, .inl rfl⟩, ?_⟩
  rfl

end DevSecOpsPlatform.TelnetVerdicts
