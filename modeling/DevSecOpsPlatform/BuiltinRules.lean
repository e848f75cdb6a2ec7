import DevSecOpsPlatform.RegexSearch
import DevSecOpsPlatform.SecurityTasks
import Mathlib.Data.List.Infix

/-!
# The built-in compliance rules

`apps/security/compliance_checks.py`, and what a device answers to the check commands that
print its running configuration: `include` keeps the lines that contain a text, `section`
the lines that contain it together with the deeper lines under them.
-/

namespace DevSecOpsPlatform.BuiltinRules

open PlatformModels PythonValues RegexSearch SecurityTasks

/-! ### The rules -/

structure RuleData where
  name : String
  description : String
  checkCommand : String
  expectedPattern : String
  mustMatch : Bool
  severity : RuleSeverity
  remediation : String

def sshV2Enabled : RuleData where
  name := "SSH v2 Enabled"
  description := "Ensure SSH version 2 is the only allowed protocol"
  checkCommand := "show ip ssh"
  expectedPattern := "SSH Enabled - version 2\\.0"
  mustMatch := true
  severity := .critical
  remediation := "ip ssh version 2"

def telnetDisabledOnVty : RuleData where
  name := "Telnet Disabled on VTY"
  description := "VTY lines must not allow Telnet"
  checkCommand := "show running-config | section line vty"
  expectedPattern := "transport input telnet"
  mustMatch := false
  severity := .critical
  remediation := "line vty 0 4\n transport input ssh"

def snmpV3Configured : RuleData where
  name := "SNMP v3 Configured"
  description := "SNMP v3 must be configured for secure management"
  checkCommand := "show running-config | include snmp-server user"
  expectedPattern := "snmp-server user .+ v3"
  mustMatch := true
  severity := .high
  remediation := ""

def aclOnVtyLines : RuleData where
  name := "ACL on VTY Lines"
  description := "Access control list restricting VTY access must be applied"
  checkCommand := "show running-config | section line vty"
  expectedPattern := "access-class \\S+ in"
  mustMatch := true
  severity := .high
  remediation := "line vty 0 4\n access-class MGMT_ACCESS in"

def servicePasswordEncryption : RuleData where
  name := "Service Password Encryption"
  description := "service password-encryption must be enabled"
  checkCommand := "show running-config | include service password-encryption"
  expectedPattern := "service password-encryption"
  mustMatch := true
  severity := .high
  remediation := "service password-encryption"

def httpServerDisabled : RuleData where
  name := "HTTP Server Disabled"
  description := "ip http server must be disabled"
  checkCommand := "show running-config | include ip http server"
  expectedPattern := "^no ip http server|^ip http server"
  mustMatch := false
  severity := .medium
  remediation := "no ip http server\nno ip http secure-server"

def loggingEnabled : RuleData where
  name := "Logging Enabled"
  description := "Logging buffered must be configured"
  checkCommand := "show running-config | include logging buffered"
  expectedPattern := "logging buffered"
  mustMatch := true
  severity := .medium
  remediation := "logging buffered 16384"

def bannerMotdConfigured : RuleData where
  name := "Banner MOTD Configured"
  description := "A warning banner must be present"
  checkCommand := "show running-config | include banner motd"
  expectedPattern := "banner motd"
  mustMatch := true
  severity := .low
  remediation := ""

def builtinRules : List RuleData := [sshV2Enabled, telnetDisabledOnVty, snmpV3Configured,
  aclOnVtyLines, servicePasswordEncryption, httpServerDisabled, loggingEnabled,
  bannerMotdConfigured]

/-- Every pattern of a built-in rule is an expression that stays in one line and is found in
no empty output. -/
theorem parsePattern_builtinRules : ∀ rule ∈ builtinRules, ∃ r,
    parsePattern rule.expectedPattern = some r ∧ (∀ ps ∈ r, ∀ p ∈ ps, p.inLine = true) ∧
      search r "" = false := by
  simp only [builtinRules, List.forall_mem_cons]
  refine ⟨⟨_, rfl, by decide, by decide⟩, ⟨_, rfl, by decide, by decide⟩,
    ⟨_, rfl, by decide, by decide⟩, ⟨_, rfl, by decide, by decide⟩,
    ⟨_, rfl, by decide, by decide⟩, ⟨_, rfl, by decide, by decide⟩,
    ⟨_, rfl, by decide, by decide⟩, ⟨_, rfl, by decide, by decide⟩, by simp⟩

/-! ### The running configuration -/

structure ConfigLine where
  text : String
  inLine : '\n' ∉ text.toList

namespace ConfigLine

def contains (line : ConfigLine) (text : String) : Bool :=
  line.text.toList.tails.any (text.toList.isPrefixOf ·)

def startsWith (line : ConfigLine) (text : String) : Bool :=
  text.toList.isPrefixOf line.text.toList

/-- The line without its leading spaces. -/
def stripped (line : ConfigLine) : List Char := line.text.toList.dropWhile (· == ' ')

def depth (line : ConfigLine) : ℕ := (line.text.toList.takeWhile (· == ' ')).length

theorem contains_iff {line : ConfigLine} {text : String} :
    line.contains text = true ↔ text.toList <:+: line.text.toList := by
  rw [contains, List.any_eq_true, List.infix_iff_prefix_suffix]
  simp only [List.mem_tails, List.isPrefixOf_iff_prefix, and_comm]

theorem startsWith_iff {line : ConfigLine} {text : String} :
    line.startsWith text = true ↔ text.toList <+: line.text.toList :=
  List.isPrefixOf_iff_prefix

end ConfigLine

inductive OutputFilter where
  | included (text : String)
  | sections (text : String)

/-- The lines of the sections that a text names; `header` is the depth of the section that
is open. -/
def selectSections (text : String) : Option ℕ → List ConfigLine → List ConfigLine
  | _, [] => []
  | header, line :: lines =>
    if header.any (· < line.depth) then line :: selectSections text header lines
    else if line.contains text then line :: selectSections text (some line.depth) lines
    else selectSections text none lines

def OutputFilter.select : OutputFilter → List ConfigLine → List ConfigLine
  | included text, lines => lines.filter (·.contains text)
  | sections text, lines => selectSections text none lines

/-- What stands after the bar of a command that prints the running configuration. -/
def filterOf (command : String) : Option OutputFilter :=
  match command.toList.dropPrefix? "show running-config | include ".toList with
  | some text => some (.included (String.ofList text))
  | none => (command.toList.dropPrefix? "show running-config | section ".toList).map
      (fun text => .sections (String.ofList text))

/-- The lines that a device with this configuration prints for a filtered `show
running-config`. -/
def showRunningConfig (config : List ConfigLine) (command : String) : Option (List ConfigLine) :=
  (filterOf command).map (·.select config)

def outputText (lines : List ConfigLine) : String := "\n".intercalate (lines.map (·.text))

/-- The verdict of a rule is a search in every line of the output. -/
theorem evaluateRule_outputText {reSearch : String → String → Except Exn Bool}
    (hreads : Reads reSearch) {rule : RuleData} {r : Regex}
    (hpattern : parsePattern rule.expectedPattern = some r)
    (hline : ∀ ps ∈ r, ∀ p ∈ ps, p.inLine = true) (hempty : search r "" = false)
    (lines : List ConfigLine) :
    evaluateRule reSearch (outputText lines) rule.expectedPattern rule.mustMatch =
      .ok (lines.any (fun line => search r line.text) == rule.mustMatch) := by
  have hsearch : search r (outputText lines) = lines.any (fun line => search r line.text) := by
    rw [outputText, search_intercalate hline hempty, List.any_map]
    rfl
  rw [evaluateRule_eq, hreads _ _ hpattern, hsearch]
  cases rule.mustMatch <;> cases lines.any (fun line => search r line.text) <;> rfl

/-- No built-in rule raises, whatever the output. -/
theorem evaluateRule_builtinRules {reSearch : String → String → Except Exn Bool}
    (hreads : Reads reSearch) {rule : RuleData} (hrule : rule ∈ builtinRules) (output : String) :
    ∃ compliant, evaluateRule reSearch output rule.expectedPattern rule.mustMatch =
      .ok compliant := by
  obtain ⟨r, hpattern, -, -⟩ := parsePattern_builtinRules rule hrule
  rw [evaluateRule_eq, hreads _ _ hpattern]
  exact ⟨_, rfl⟩

end DevSecOpsPlatform.BuiltinRules
