import Relint.Rule.Source

/-!
Converters turn one source rule into target rules. A registry names a converter
for each rule that has one; converting a rule looks it up and fills in the
severities that the converter left open.
-/

namespace Relint

/-- What a run as a whole asks of every converter. With `prettier` the formatting
of sources is left to Prettier, and with `typeChecked` the new configuration
has type information at hand. -/
structure ConversionSettings where
  prettier : Bool
  typeChecked : Bool
  deriving DecidableEq, Inhabited, Repr

/-- A target rule that a converter suggests. Without a severity it takes that of
the source rule. -/
structure TargetRule where
  name : String
  arguments : List Value
  severity : Option Severity
  notices : List String
  deriving DecidableEq, Inhabited

namespace TargetRule

def named (name : String) : TargetRule :=
  ⟨name, [], none, []⟩

def withArguments (t : TargetRule) (arguments : List Value) : TargetRule :=
  ⟨t.name, arguments, t.severity, t.notices⟩

def withArgument (t : TargetRule) (argument : Value) : TargetRule :=
  ⟨t.name, t.arguments ++ [argument], t.severity, t.notices⟩

def withOptions (t : TargetRule) (options : Fields) : TargetRule :=
  if options.isEmpty then t else t.withArgument (.object options)

def withSeverity (t : TargetRule) (severity : Severity) : TargetRule :=
  ⟨t.name, t.arguments, some severity, t.notices⟩

def withNotice (t : TargetRule) (notice : String) : TargetRule :=
  ⟨t.name, t.arguments, t.severity, t.notices ++ [notice]⟩

def withNoticeIf (t : TargetRule) (condition : Bool) (notice : String) : TargetRule :=
  if condition then t.withNotice notice else t

def resolve (t : TargetRule) (inherited : Severity) : TargetRule :=
  ⟨t.name, t.arguments, some (t.severity.getD inherited), t.notices⟩

def toValue (t : TargetRule) : Value :=
  .object [("ruleName", .string t.name), ("ruleArguments", .array t.arguments),
    ("severity", (t.severity.map Severity.toValue).getD .null), ("notices", .strings t.notices)]

end TargetRule

/-- All that a converter contributes for one source rule. No rules at all is an
answer too: the source rule needs no counterpart. -/
structure Contribution where
  rules : List TargetRule
  plugins : List String
  presets : List String
  deriving DecidableEq, Inhabited

namespace Contribution

def nothing : Contribution :=
  ⟨[], [], []⟩

def ofRules (rules : List TargetRule) : Contribution :=
  ⟨rules, [], []⟩

def ofRule (rule : TargetRule) : Contribution :=
  ofRules [rule]

def withPlugin (c : Contribution) (plugin : String) : Contribution :=
  ⟨c.rules, c.plugins ++ [plugin], c.presets⟩

def withPreset (c : Contribution) (preset : String) : Contribution :=
  ⟨c.rules, c.plugins, c.presets ++ [preset]⟩

def mapRules (c : Contribution) (f : TargetRule → TargetRule) : Contribution :=
  ⟨c.rules.map f, c.plugins, c.presets⟩

def toValue (c : Contribution) : Value :=
  .object [("rules", .array (c.rules.map TargetRule.toValue)), ("plugins", .strings c.plugins),
    ("extends", .strings c.presets)]

end Contribution

/-- What a converter is told about the source rule and the run. -/
structure Context where
  arguments : List Value
  severity : Severity
  settings : ConversionSettings

namespace Context

def hasFlag (ctx : Context) (flag : String) : Bool :=
  ctx.arguments.any (·.string? == some flag)

def strings (ctx : Context) : List String :=
  ctx.arguments.filterMap Value.string?

def object? (ctx : Context) : Option Fields :=
  ctx.arguments.findSome? Value.object?

def number? (ctx : Context) : Option Value :=
  ctx.arguments.find? Value.isNumber

def option? (ctx : Context) (key : String) : Option Value :=
  ctx.object?.bind (·.lookup key)

end Context

/-- A converter answers with a contribution or with the reason for refusing the
rule's arguments. -/
abbrev Converter := Context → Except String Contribution

/-- The converters by the names of their source rules. -/
abbrev ConverterRegistry := List (String × Converter)

/-- Why a source rule failed: its converter refused it, or what it proposed for a
target rule could not be reconciled with what earlier rules proposed. -/
inductive RuleFailure where
  | converterFailed (rule message : String)
  | unresolvableMerge (rule target message : String)
  deriving DecidableEq, Inhabited

namespace RuleFailure

def rule : RuleFailure → String
  | .converterFailed rule _ => rule
  | .unresolvableMerge rule _ _ => rule

def message : RuleFailure → String
  | .converterFailed rule reason => rule ++ " threw an error during conversion: " ++ reason
  | .unresolvableMerge rule target reason =>
      rule ++ " could not be merged into " ++ target ++ ": " ++ reason

def toValue : RuleFailure → Value
  | .converterFailed rule reason =>
      .object [("kind", .string "converterFailed"), ("ruleName", .string rule),
        ("message", .string reason)]
  | .unresolvableMerge rule target reason =>
      .object [("kind", .string "unresolvableMerge"), ("ruleName", .string rule),
        ("targetRuleName", .string target), ("message", .string reason)]

end RuleFailure

/-- The outcome for one source rule on its own. -/
inductive RuleConversion where
  | converted (c : Contribution)
  | failed (f : RuleFailure)
  | missing
  deriving DecidableEq

/-- Converts one source rule. Every target rule of the outcome has a severity. -/
def convertRule (converters : ConverterRegistry) (settings : ConversionSettings)
    (rule : SourceRule) : RuleConversion :=
  match converters.lookup rule.name with
  | none => .missing
  | some converter =>
      match converter ⟨rule.arguments, rule.severity, settings⟩ with
      | .ok c => .converted (c.mapRules (·.resolve rule.severity))
      | .error reason => .failed (.converterFailed rule.name reason)

/-- The notice for an option of a source rule that has no counterpart. -/
def unsupportedOption (option : String) : String :=
  "Option \"" ++ option ++ "\" is not supported by ESLint."

end Relint
