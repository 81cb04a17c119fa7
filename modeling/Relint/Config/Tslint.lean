import Relint.Config.Schema
import Relint.Jsonc.Document
import Relint.Rule.Source

/-!
TSLint configurations: presets, a severity for rules that set none, the rules
themselves and the files that are left out.
-/

namespace Relint

/-- A TSLint configuration. Rules come in the order of the text, those for
JavaScript last. -/
structure TslintConfig where
  presets : List String
  defaultSeverity : Severity
  rules : List SourceRule
  exclude : List String
  deriving DecidableEq, Inhabited

/-- Why a text is not a TSLint configuration. -/
inductive TslintFault where
  | malformed (report : String)
  | misshapen (violation : Schema.Violation)
  | setting (fault : SettingFault)
  deriving DecidableEq

def TslintFault.reason : TslintFault → String
  | .malformed report => "Invalid TSLint configuration: " ++ report
  | .misshapen violation => "TSLint configuration validation failed: " ++ violation.message
  | .setting fault => fault.message

namespace TslintConfig

/-- The entries of an object-valued field; none for every other value. -/
def entriesOf (root : Value) (key : String) : Fields :=
  ((root.field? key).bind Value.object?).getD []

/-- The entries that set rules: those of `rules`, and behind them those of `jsRules`
with names that are not set there. -/
def ruleEntries (root : Value) : Fields :=
  let rules := entriesOf root "rules"
  rules ++ (entriesOf root "jsRules").filter fun entry => !Assoc.contains rules entry.1

def severityOf (root : Value) : Severity :=
  (((root.field? "defaultSeverity").bind Value.string?).bind Severity.ofWord?).getD .error

def ofValue (root : Value) : Except SettingFault TslintConfig :=
  let severity := severityOf root
  ((ruleEntries root).mapM fun (name, entry) => SourceRule.ofEntry name entry severity).map
    fun rules =>
      { presets := Value.stringList (root.field? "extends")
        defaultSeverity := severity
        rules := rules
        exclude := Value.stringList ((root.field? "linterOptions").bind (·.field? "exclude")) }

/-- Reads a configuration from the text of a file. A text without value sets
nothing. -/
def read (text : String) : Except TslintFault TslintConfig :=
  match Jsonc.read text with
  | .error report => .error (.malformed report)
  | .ok value? =>
      let root := value?.getD (.object [])
      match Schema.violation? root with
      | some violation => .error (.misshapen violation)
      | none => (ofValue root).mapError .setting

end TslintConfig

end Relint
