import Relint.Converter.Basic
import Relint.OrderedSet
import Relint.Rule.Map

/-!
The results of converting a whole set of rules, and the questions they answer.
-/

namespace Relint

/-- What became of one source rule. -/
inductive RuleStatus where
  | converted
  | failed
  | missing
  deriving DecidableEq, Inhabited, Repr

def RuleStatus.word : RuleStatus → String
  | .converted => "converted"
  | .failed => "failed"
  | .missing => "missing"

/-- A source rule and what became of it. -/
structure RuleOutcome where
  rule : String
  status : RuleStatus
  deriving DecidableEq, Inhabited

/-- A converted source rule and the target rules it was converted to. -/
structure RuleEquivalent where
  rule : String
  targets : List String
  deriving DecidableEq, Inhabited

/-- A target rule that the existing configuration sets already. Its value stays,
and the settings that were proposed are dropped. -/
structure RuleConflict where
  rule : String
  existing : Value
  proposed : RuleSettings
  deriving DecidableEq, Inhabited

/-- Everything that is known after a set of rules has been converted. -/
structure ConversionResults where
  converted : RuleMap
  failed : List RuleFailure
  missing : List SourceRule
  presets : OrderedSet
  plugins : OrderedSet
  conflicts : List RuleConflict
  equivalents : List RuleEquivalent
  outcomes : List RuleOutcome

def statusIn (outcomes : List RuleOutcome) (rule : String) : Option RuleStatus :=
  (outcomes.find? (·.rule == rule)).map (·.status)

namespace ConversionResults

def statusOf (r : ConversionResults) (rule : String) : Option RuleStatus :=
  statusIn r.outcomes rule

def equivalentsOf (r : ConversionResults) (rule : String) : Option (List String) :=
  (r.equivalents.find? (·.rule == rule)).map (·.targets)

def convertedCount (r : ConversionResults) : Nat :=
  r.outcomes.countP (·.status == .converted)

def hasFailures (r : ConversionResults) : Bool :=
  !r.failed.isEmpty

def toValue (r : ConversionResults) : Value :=
  .object [
    ("converted", r.converted.toValue),
    ("failed", .array (r.failed.map RuleFailure.toValue)),
    ("missing", .array (r.missing.map SourceRule.toValue)),
    ("extends", .strings r.presets.toList),
    ("plugins", .strings r.plugins.toList),
    ("conflicts", .array (r.conflicts.map fun c =>
      .object [("ruleName", .string c.rule), ("existing", c.existing),
        ("proposed", c.proposed.toValue)])),
    ("equivalents", .array (r.equivalents.map fun e =>
      .object [("ruleName", .string e.rule), ("targetRules", .strings e.targets)])),
    ("outcomes", .array (r.outcomes.map fun o =>
      .object [("ruleName", .string o.rule), ("status", .string o.status.word)]))]

end ConversionResults

end Relint
