import Relint.Json.Printer
import Relint.Jsonc.Document
import Relint.Path
import Relint.Text.Blank
import Relint.Yaml.Node

/-!
Existing ESLint configurations, of which a conversion keeps the presets, the
plugins, the globals and above all the rules.
-/

namespace Relint

/-- The parts of an ESLint configuration that a conversion keeps. -/
structure EslintConfig where
  presets : List String
  plugins : List String
  globals : Option Value
  rules : Fields
  deriving DecidableEq, Inhabited

/-- Why something is not an ESLint configuration that can be read. A module would
have to be run. -/
inductive EslintFault where
  | malformedJson (report : String)
  | malformedYaml
  | script (path : String)
  | root
  | rules (v : Value)
  deriving DecidableEq

def EslintFault.reason : EslintFault → String
  | .malformedJson report => "Invalid ESLint configuration: " ++ report
  | .malformedYaml => "Invalid ESLint configuration: malformed YAML"
  | .script path =>
      "Cannot read JavaScript ESLint configuration " ++ path ++
        "; convert it to JSON or YAML first"
  | .root => "ESLint configuration root must be an object"
  | .rules v => "ESLint 'rules' must be an object, got " ++ Json.compact v

namespace EslintConfig

def empty : EslintConfig :=
  ⟨[], [], none, []⟩

def rulesOf (fields : Fields) : Except EslintFault Fields :=
  match fields.lookup "rules" with
  | none | some .null => .ok []
  | some (.object rules) => .ok rules
  | some other => .error (.rules other)

/-- The globals of a configuration, unless they are null. -/
def globalsOf (fields : Fields) : Option Value :=
  (fields.lookup "globals").filter (· != .null)

def ofValue (root : Value) : Except EslintFault EslintConfig :=
  match root with
  | .object fields =>
      (rulesOf fields).map fun rules =>
        { presets := Value.stringList (fields.lookup "extends")
          plugins := Value.stringList (fields.lookup "plugins")
          globals := globalsOf fields
          rules := rules }
  | _ => .error .root

/-- Reads a configuration from JSON text. A text without value sets nothing. -/
def readJson (text : String) : Except EslintFault EslintConfig :=
  match Jsonc.read text with
  | .error report => .error (.malformedJson report)
  | .ok value? => ofValue (value?.getD (.object []))

/-- Reads a configuration from YAML text. A blank text sets nothing. -/
def readYaml (text : String) : Except EslintFault EslintConfig :=
  if Text.allBlank text.toList then .ok empty
  else
    match Yaml.read text with
    | none => .error .malformedYaml
    | some root => ofValue root

def isScript (path : String) : Bool :=
  match Path.extension? path with
  | some "js" | some "cjs" | some "mjs" => true
  | _ => false

/-- Reads a configuration from the text of a file, in the format that the path asks
for. -/
def readFile (path text : String) : Except EslintFault EslintConfig :=
  if isScript path then .error (.script path)
  else
    match Path.extension? path with
    | some "yml" | some "yaml" => readYaml text
    | _ => readJson text

end EslintConfig

end Relint
