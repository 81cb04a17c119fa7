import Relint.Json.Printer
import Relint.Severity

/-!
Rules of a TSLint configuration, and the shapes in which a configuration writes
them.
-/

namespace Relint

/-- A rule of the configuration that is converted. Its arguments have no meaning
before a converter looks at them. -/
structure SourceRule where
  name : String
  arguments : List Value
  severity : Severity
  deriving DecidableEq, Inhabited

/-- Why an entry is not the setting of a rule. -/
inductive SettingFault where
  | severity (rule : String) (value : Value)
  | shape (rule : String) (value : Value)
  deriving DecidableEq

def SettingFault.message : SettingFault → String
  | .severity rule value =>
      "Invalid severity for rule '" ++ rule ++ "': " ++ Json.compact value
  | .shape rule value => "Invalid value for rule '" ++ rule ++ "': " ++ Json.compact value

namespace SourceRule

def switched (enabled : Bool) (default : Severity) : Severity :=
  if enabled then default else .off

/-- The severity that the object form of an entry gives. A word that names no
level leaves the default. -/
def objectSeverity (name : String) (fields : Fields) (default : Severity) :
    Except SettingFault Severity :=
  match fields.lookup "severity" with
  | none => .ok default
  | some (.string s) => .ok ((Severity.ofWord? s).getD default)
  | some other => .error (.severity name other)

/-- The arguments that the object form of an entry gives: those of an array, or a
single other value. -/
def objectArguments (fields : Fields) : List Value :=
  match fields.lookup "options" with
  | none | some .null => []
  | some (.array options) => options
  | some option => [option]

/-- The rule that one entry of a configuration sets. The entry is a switch, an
array of a switch and arguments, an array of arguments alone, an object with
`severity` and `options`, or null for a rule that is off. -/
def ofEntry (name : String) (entry : Value) (default : Severity) :
    Except SettingFault SourceRule :=
  match entry with
  | .null => .ok ⟨name, [], .off⟩
  | .bool enabled => .ok ⟨name, [], switched enabled default⟩
  | .array (.bool enabled :: rest) => .ok ⟨name, rest, switched enabled default⟩
  | .array items => .ok ⟨name, items, default⟩
  | .object fields =>
      (objectSeverity name fields default).map fun severity =>
        ⟨name, objectArguments fields, severity⟩
  | other => .error (.shape name other)

/-- The rule that a record of its parts describes: an object of which only the
name is required, or an array of the parts in order. -/
def ofValue? : Value → Option SourceRule
  | .object fields => do
      let name ← (← fields.lookup "name").string?
      let arguments ←
        match fields.lookup "arguments" with
        | none => some []
        | some v => v.array?
      let severity ←
        match fields.lookup "severity" with
        | none => some .error
        | some v => Severity.ofValue? v
      return ⟨name, arguments, severity⟩
  | .array [.string name] => some ⟨name, [], .error⟩
  | .array [.string name, .array arguments] => some ⟨name, arguments, .error⟩
  | .array [.string name, .array arguments, severity] =>
      (Severity.ofValue? severity).map fun severity => ⟨name, arguments, severity⟩
  | _ => none

def toValue (r : SourceRule) : Value :=
  .object [("name", .string r.name), ("arguments", .array r.arguments),
    ("severity", r.severity.toValue)]

end SourceRule

end Relint
