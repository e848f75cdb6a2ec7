import DevSecOpsPlatform.BuiltinRules

/-!
# Verdicts of the built-in rules

Four rules ask for a command: they are satisfied by any line that mentions it, a line that
negates it included. The rule against the HTTP server rejects the command its own remediation
writes.
-/

namespace DevSecOpsPlatform.BuiltinVerdicts

open PythonValues RegexSearch SecurityTasks BuiltinRules

variable {reSearch : String → String → Except Exn Bool}

/-! ### Required commands -/

/-- A configuration command, with a name in its middle or without. -/
inductive Command where
  | text (words : String)
  | named (before after : String)

namespace Command

/-- `x` is the command, up to what `keep` drops of a text. -/
def Writes (keep : List Char → List Char) : Command → List Char → Prop
  | text words, x => keep x = keep words.toList
  | named s t, x => ∃ front name back, x = front ++ name ++ back ∧ keep front = keep s.toList ∧
      name ≠ [] ∧ (∀ c ∈ name, isSpace c = false) ∧ keep back = keep t.toList

/-- The line starts with the command, leading spaces removed. -/
def Starts (command : Command) (line : ConfigLine) : Prop :=
  ∃ x post, line.stripped = x ++ post ∧ command.Writes id x

/-- The command stands anywhere in the line, in upper or lower case. -/
def Mentioned (command : Command) (line : ConfigLine) : Prop :=
  ∃ pre x post, line.text.toList = pre ++ x ++ post ∧ command.Writes fold x

def regex : Command → List Piece
  | text words => literals words.toList
  | named s t => literals s.toList ++ .oneOrMore .notSpace :: literals t.toList

theorem matches_regex {command : Command} {atStart : Bool} {x : List Char} :
    Matches command.regex atStart x ↔ command.Writes fold x := by
  cases command with
  | text words => exact matches_literals
  | named s t =>
    rw [regex, matches_literals_append]
    constructor
    · rintro ⟨front, z, rfl, hfront, name, back, rfl, hne, hname, hback⟩
      refine ⟨front, name, back, (List.append_assoc front name back).symm, hfront, hne, ?_,
        matches_literals.mp hback⟩
      intro c hc
      simpa [CharSet.accepts] using hname c hc
    · rintro ⟨front, name, back, rfl, hfront, hne, hname, hback⟩
      refine ⟨front, name ++ back, List.append_assoc front name back, hfront, name, back, rfl,
        hne, ?_, matches_literals.mpr hback⟩
      intro c hc
      simpa [CharSet.accepts] using hname c hc

theorem search_regex (command : Command) (line : ConfigLine) :
    search [command.regex] line.text = true ↔ command.Mentioned line := by
  rw [search_iff]
  constructor
  · rintro ⟨pre, x, post, hline, ps, hps, hx⟩
    obtain rfl := List.mem_singleton.mp hps
    exact ⟨pre, x, post, hline, matches_regex.mp hx⟩
  · rintro ⟨pre, x, post, hline, hx⟩
    exact ⟨pre, x, post, hline, command.regex, by simp, matches_regex.mpr hx⟩

theorem starts_text {words : String} {line : ConfigLine} :
    (text words).Starts line ↔ words.toList <+: line.stripped := by
  constructor
  · rintro ⟨x, post, hline, rfl⟩
    exact ⟨post, hline.symm⟩
  · rintro ⟨post, hline⟩
    exact ⟨words.toList, post, hline.symm, rfl⟩

end Command

/-- The rules that ask for a command, with the command. -/
def requiredCommands : List (RuleData × Command) := [
  (servicePasswordEncryption, .text "service password-encryption"),
  (loggingEnabled, .text "logging buffered"),
  (bannerMotdConfigured, .text "banner motd"),
  (aclOnVtyLines, .named "access-class " " in")]

theorem requiredCommands_reads : ∀ entry ∈ requiredCommands,
    parsePattern entry.1.expectedPattern = some [entry.2.regex] ∧ entry.1.mustMatch = true ∧
      (∀ ps ∈ [entry.2.regex], ∀ p ∈ ps, p.inLine = true) ∧
      search [entry.2.regex] "" = false := by
  simp only [requiredCommands, List.forall_mem_cons]
  exact ⟨⟨rfl, rfl, by decide, by decide⟩, ⟨rfl, rfl, by decide, by decide⟩,
    ⟨rfl, rfl, by decide, by decide⟩, ⟨rfl, rfl, by decide, by decide⟩, by simp⟩

theorem required_compliant_iff (hreads : Reads reSearch) {rule : RuleData} {command : Command}
    (hrule : (rule, command) ∈ requiredCommands) (lines : List ConfigLine) :
    evaluateRule reSearch (outputText lines) rule.expectedPattern rule.mustMatch = .ok true ↔
      ∃ line ∈ lines, command.Mentioned line := by
  obtain ⟨hpattern, hmust, hline, hempty⟩ := requiredCommands_reads _ hrule
  have hverdict := evaluateRule_outputText hreads hpattern hline hempty lines
  have hany : lines.any (fun line => search [command.regex] line.text) = true ↔
      ∃ line ∈ lines, command.Mentioned line := by
    rw [List.any_eq_true]
    exact exists_congr fun line => and_congr_right fun _ => command.search_regex line
  rw [hverdict, hmust, beq_true, Except.ok.injEq, hany]

theorem showRunningConfig_required {rule : RuleData} {command : Command}
    (hrule : (rule, command) ∈ requiredCommands) (config : List ConfigLine) :
    ∃ lines, showRunningConfig config rule.checkCommand = some lines := by
  have hfilter : ∀ entry ∈ requiredCommands, (filterOf entry.1.checkCommand).isSome = true := by
    simp only [requiredCommands, List.forall_mem_cons]
    exact ⟨by decide, by decide, by decide, by decide, by simp⟩
  obtain ⟨filter, hsome⟩ := Option.isSome_iff_exists.mp (hfilter _ hrule)
  exact ⟨filter.select config, by rw [showRunningConfig, hsome, Option.map_some]⟩

/-- A rule that asks for a command vouches for the command exactly when no line of the output
mentions it or one starts with it. -/
theorem required_sound_iff (hreads : Reads reSearch) {rule : RuleData} {command : Command}
    (hrule : (rule, command) ∈ requiredCommands) (config : List ConfigLine) :
    ∃ lines, showRunningConfig config rule.checkCommand = some lines ∧
      ((evaluateRule reSearch (outputText lines) rule.expectedPattern rule.mustMatch = .ok true →
          ∃ line ∈ lines, command.Starts line) ↔
        (∀ line ∈ lines, ¬ command.Mentioned line) ∨ ∃ line ∈ lines, command.Starts line) := by
  obtain ⟨lines, hlines⟩ := showRunningConfig_required hrule config
  refine ⟨lines, hlines, ?_⟩
  rw [required_compliant_iff hreads hrule, imp_iff_not_or]
  simp only [not_exists, not_and]

/-- A search by the expression of the pattern. -/
def searchParsed (pattern text : String) : Except Exn Bool :=
  match parsePattern pattern with
  | some r => .ok (search r text)
  | none => .error ⟨.reError, "unsupported pattern"⟩

theorem reads_searchParsed : Reads searchParsed := by
  intro pattern r hr text
  rw [searchParsed, hr]

def negatedEncryption : ConfigLine := ⟨"no service password-encryption", by decide⟩

/-- Two sections, of which the first takes its access list away and the second applies one. -/
def labVty : List ConfigLine := [
  ⟨"line vty 0 3", by decide⟩, ⟨" no access-class 10 in", by decide⟩,
  ⟨"line vty 4 15", by decide⟩, ⟨" access-class MGMT_ACCESS in", by decide⟩]

theorem accessClass_labVty :
    ∃ line ∈ labVty, (Command.named "access-class " " in").Starts line := by
  have hname : "MGMT_ACCESS".toList.any isSpace = false := by decide
  refine ⟨⟨" access-class MGMT_ACCESS in", by decide⟩, by simp [labVty],
    "access-class MGMT_ACCESS in".toList, [], rfl,
    "access-class ".toList, "MGMT_ACCESS".toList, " in".toList, rfl, rfl, by decide, ?_, rfl⟩
  exact fun c hc => Bool.eq_false_iff.mpr (List.any_eq_false.mp hname c hc)

theorem required_sound_iff_of_negatedEncryption :
    (∃ lines, showRunningConfig labVty aclOnVtyLines.checkCommand = some lines ∧
      (evaluateRule searchParsed (outputText lines) aclOnVtyLines.expectedPattern
          aclOnVtyLines.mustMatch = .ok true →
        ∃ line ∈ lines, (Command.named "access-class " " in").Starts line)) ∧
    ∃ lines, showRunningConfig [negatedEncryption] servicePasswordEncryption.checkCommand =
        some lines ∧
      ((evaluateRule searchParsed (outputText lines) servicePasswordEncryption.expectedPattern
            servicePasswordEncryption.mustMatch = .ok true →
          ∃ line ∈ lines, (Command.text "service password-encryption").Starts line) ↔
        (∀ line ∈ lines, ¬ (Command.text "service password-encryption").Mentioned line) ∨
          ∃ line ∈ lines, (Command.text "service password-encryption").Starts line) := by
  have hacl : (aclOnVtyLines, Command.named "access-class " " in") ∈ requiredCommands := by
    simp [requiredCommands]
  have hencryption : (servicePasswordEncryption, Command.text "service password-encryption") ∈
      requiredCommands := List.mem_cons_self
  refine ⟨?_, required_sound_iff reads_searchParsed hencryption [negatedEncryption]⟩
  obtain ⟨lines, hlines, hsound⟩ := required_sound_iff reads_searchParsed hacl labVty
  have hselected : showRunningConfig labVty aclOnVtyLines.checkCommand = some labVty := rfl
  obtain rfl := Option.some.inj (hselected.symm.trans hlines)
  exact ⟨labVty, hlines, hsound.mpr (.inr accessClass_labVty)⟩

/-- The command that turns password encryption off satisfies the rule that asks for it. -/
theorem negatedEncryption_compliant :
    showRunningConfig [negatedEncryption] servicePasswordEncryption.checkCommand =
        some [negatedEncryption] ∧
      evaluateRule searchParsed (outputText [negatedEncryption])
        servicePasswordEncryption.expectedPattern servicePasswordEncryption.mustMatch =
          .ok true ∧
      ¬ ∃ line ∈ [negatedEncryption],
        (Command.text "service password-encryption").Starts line := by
  refine ⟨rfl, rfl, ?_⟩
  rintro ⟨line, hline, hstarts⟩
  obtain rfl := List.mem_singleton.mp hline
  have hprefix := Command.starts_text.mp hstarts
  revert hprefix
  decide

/-! ### The HTTP server -/

/-- The first ten lines of `config_templates/hardening.j2`. -/
def hardeningTemplate : List String := [
  "! Security Hardening Baseline - generated by DevSecOps Platform",
  "! Disable unnecessary services",
  "no service finger",
  "no service udp-small-servers",
  "no service tcp-small-servers",
  "no ip http server",
  "no ip http secure-server",
  "no cdp run",
  "no ip source-route",
  "no ip proxy-arp"]

/-- The line is one that the remediation, or the hardening template, writes against the HTTP
server. -/
def HttpRemediation (line : ConfigLine) : Prop :=
  some line.text = (splitlines httpServerDisabled.remediation).head? ∨
    some line.text = hardeningTemplate[5]?

theorem HttpRemediation.text_eq {line : ConfigLine} (hline : HttpRemediation line) :
    line.text = "no ip http server" := by
  have hremediation : (splitlines httpServerDisabled.remediation).head? =
      some "no ip http server" := by decide
  have hhardening : hardeningTemplate[5]? = some "no ip http server" := rfl
  rw [HttpRemediation, hremediation, hhardening, or_self] at hline
  exact Option.some.inj hline

/-- The configuration after the lines that start the HTTP server are replaced. -/
def remediated (command : ConfigLine) (config : List ConfigLine) : List ConfigLine :=
  config.map (fun line => if line.startsWith "ip http server" then command else line)

/-- The line starts, in upper or lower case, with the text. -/
def StartsFolded (text : String) (line : ConfigLine) : Prop :=
  fold text.toList <+: fold line.text.toList

/-- No line that speaks of the HTTP server starts with the command or with its negation, in
upper or lower case. -/
def HttpSilent (config : List ConfigLine) : Prop :=
  ∀ line ∈ config, line.contains "ip http server" = true →
    ¬ StartsFolded "no ip http server" line ∧ ¬ StartsFolded "ip http server" line

theorem showRunningConfig_http (config : List ConfigLine) :
    showRunningConfig config httpServerDisabled.checkCommand =
      some (config.filter (·.contains "ip http server")) := by
  have hfilter : filterOf httpServerDisabled.checkCommand =
      some (.included "ip http server") := rfl
  rw [showRunningConfig, hfilter, Option.map_some, OutputFilter.select]

theorem http_compliant_iff (hreads : Reads reSearch) {config lines : List ConfigLine}
    (hlines : showRunningConfig config httpServerDisabled.checkCommand = some lines) :
    evaluateRule reSearch (outputText lines) httpServerDisabled.expectedPattern
      httpServerDisabled.mustMatch = .ok true ↔ HttpSilent config := by
  have hpattern : parsePattern httpServerDisabled.expectedPattern =
      some (["no ip http server".toList, "ip http server".toList].map
        (fun w => .lineStart :: literals w)) := rfl
  have hverdict := evaluateRule_outputText hreads hpattern (by decide) (by decide) lines
  have hline (line : ConfigLine) : search (["no ip http server".toList,
        "ip http server".toList].map (fun w => .lineStart :: literals w)) line.text = true ↔
      StartsFolded "no ip http server" line ∨ StartsFolded "ip http server" line := by
    rw [search_lineStart line.inLine]
    simp only [List.mem_cons, List.not_mem_nil, or_false, exists_eq_or_imp, exists_eq_left]
    rfl
  have hselected := (showRunningConfig_http config).symm.trans hlines
  obtain rfl := Option.some.inj hselected
  have hmust : httpServerDisabled.mustMatch = false := rfl
  rw [hverdict, hmust, Except.ok.injEq, beq_iff_eq, List.any_eq_false]
  simp only [List.mem_filter, and_imp, hline, not_or]
  rfl

theorem startsFolded_of_startsWith {text : String} {line : ConfigLine}
    (hline : line.startsWith text = true) : StartsFolded text line :=
  (ConfigLine.startsWith_iff.mp hline).map foldCase

theorem HttpSilent.startsWith_eq_false {config : List ConfigLine} (hsilent : HttpSilent config) :
    ∀ line ∈ config, line.startsWith "ip http server" = false := by
  intro line hline
  cases hstarts : line.startsWith "ip http server" with
  | false => rfl
  | true =>
    have hprefix := ConfigLine.startsWith_iff.mp hstarts
    have hcontains : line.contains "ip http server" = true :=
      ConfigLine.contains_iff.mpr hprefix.isInfix
    exact absurd (startsFolded_of_startsWith hstarts) (hsilent line hline hcontains).2

/-- Replacing the command by its negation silences no configuration. -/
theorem httpSilent_remediated {command : ConfigLine} (hcommand : HttpRemediation command)
    (config : List ConfigLine) : HttpSilent (remediated command config) ↔ HttpSilent config := by
  by_cases hnone : ∀ line ∈ config, line.startsWith "ip http server" = false
  · have hkept : ∀ line ∈ config,
        (if line.startsWith "ip http server" then command else line) = line := by
      intro line hline
      rw [hnone line hline, if_neg Bool.false_ne_true]
    rw [remediated, List.map_congr_left hkept, List.map_id']
  · refine iff_of_false ?_ (fun hsilent => hnone hsilent.startsWith_eq_false)
    intro hsilent
    obtain ⟨line, hline, hstarts⟩ : ∃ line ∈ config, line.startsWith "ip http server" = true := by
      simpa using hnone
    have hmem : command ∈ remediated command config :=
      List.mem_map.mpr ⟨line, hline, if_pos hstarts⟩
    have hcontains : command.contains "ip http server" = true := by
      rw [ConfigLine.contains, hcommand.text_eq]
      decide
    have hfolded : StartsFolded "no ip http server" command := by
      rw [StartsFolded, hcommand.text_eq]
    exact (hsilent command hmem hcontains).1 hfolded

/-- The HTTP rule decides whether the server is started exactly when a line starts it or no
line that speaks of it starts with the command or its negation; of the remediated
configurations it accepts the latter only. -/
theorem http_accepts_iff (hreads : Reads reSearch) {command : ConfigLine}
    (hcommand : HttpRemediation command) (config : List ConfigLine) : ∃ lines after,
    showRunningConfig config httpServerDisabled.checkCommand = some lines ∧
    showRunningConfig (remediated command config) httpServerDisabled.checkCommand =
      some after ∧
    ((evaluateRule reSearch (outputText lines) httpServerDisabled.expectedPattern
          httpServerDisabled.mustMatch = .ok true ↔
        ∀ line ∈ config, line.startsWith "ip http server" = false) ↔
      (∃ line ∈ config, line.startsWith "ip http server" = true) ∨ HttpSilent config) ∧
    (evaluateRule reSearch (outputText after) httpServerDisabled.expectedPattern
        httpServerDisabled.mustMatch = .ok true ↔ HttpSilent config) := by
  refine ⟨_, _, showRunningConfig_http config, showRunningConfig_http _, ?_, ?_⟩
  · rw [http_compliant_iff hreads (showRunningConfig_http config)]
    constructor
    · intro hverdict
      by_cases hnone : ∀ line ∈ config, line.startsWith "ip http server" = false
      · exact .inr (hverdict.mpr hnone)
      · exact .inl (by simpa using hnone)
    · rintro (⟨line, hline, hstarts⟩ | hsilent)
      · have hsome : ¬ ∀ line ∈ config, line.startsWith "ip http server" = false := by
          intro hnone
          exact Bool.false_ne_true ((hnone line hline).symm.trans hstarts)
        exact iff_of_false (fun hsilent => hsome hsilent.startsWith_eq_false) hsome
      · exact iff_of_true hsilent hsilent.startsWith_eq_false
  · rw [http_compliant_iff hreads (showRunningConfig_http _), httpSilent_remediated hcommand]

def noHttpServer : ConfigLine := ⟨"no ip http server", by decide⟩

/-- A device that starts the HTTP server. -/
def labHttp : List ConfigLine := [⟨"hostname r1", by decide⟩, ⟨"ip http server", by decide⟩]

theorem http_accepts_iff_of_noHttpServer :
    (∃ lines, showRunningConfig labHttp httpServerDisabled.checkCommand = some lines ∧
      (evaluateRule searchParsed (outputText lines) httpServerDisabled.expectedPattern
          httpServerDisabled.mustMatch = .ok true ↔
        ∀ line ∈ labHttp, line.startsWith "ip http server" = false)) ∧
    ∃ lines after,
      showRunningConfig [noHttpServer] httpServerDisabled.checkCommand = some lines ∧
      showRunningConfig (remediated noHttpServer [noHttpServer])
        httpServerDisabled.checkCommand = some after ∧
      ((evaluateRule searchParsed (outputText lines) httpServerDisabled.expectedPattern
            httpServerDisabled.mustMatch = .ok true ↔
          ∀ line ∈ [noHttpServer], line.startsWith "ip http server" = false) ↔
        (∃ line ∈ [noHttpServer], line.startsWith "ip http server" = true) ∨
          HttpSilent [noHttpServer]) ∧
      (evaluateRule searchParsed (outputText after) httpServerDisabled.expectedPattern
          httpServerDisabled.mustMatch = .ok true ↔ HttpSilent [noHttpServer]) := by
  have hcommand : HttpRemediation noHttpServer := .inr rfl
  refine ⟨?_, http_accepts_iff reads_searchParsed hcommand [noHttpServer]⟩
  obtain ⟨lines, _, hlines, -, hdecides, -⟩ :=
    http_accepts_iff reads_searchParsed hcommand labHttp
  have hstarts : ∃ line ∈ labHttp, line.startsWith "ip http server" = true :=
    ⟨⟨"ip http server", by decide⟩, by simp [labHttp], by decide⟩
  exact ⟨lines, hlines, hdecides.mpr (.inl hstarts)⟩

/-- The rule's own remediation does not satisfy the rule. -/
theorem noHttpServer_not_compliant : HttpRemediation noHttpServer ∧
    showRunningConfig [noHttpServer] httpServerDisabled.checkCommand = some [noHttpServer] ∧
    (∀ line ∈ [noHttpServer], line.startsWith "ip http server" = false) ∧
    evaluateRule searchParsed (outputText [noHttpServer]) httpServerDisabled.expectedPattern
      httpServerDisabled.mustMatch = .ok false :=
  ⟨.inr rfl, rfl, by decide, rfl⟩

end DevSecOpsPlatform.BuiltinVerdicts
