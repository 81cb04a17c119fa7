import Relint.Json.Printer
import Relint.Path
import Relint.Yaml.Printer

/-!
The text of a new configuration, in the format that its file name asks for.
-/

namespace Relint

/-- The formats of configuration files. -/
inductive OutputFormat where
  | json
  | javascript
  | yaml
  deriving DecidableEq, Repr

namespace OutputFormat

def name : OutputFormat → String
  | .json => "Json"
  | .javascript => "JavaScript"
  | .yaml => "Yaml"

/-- The format for a file: whatever is neither a module nor YAML is JSON. -/
def ofPath (path : String) : OutputFormat :=
  match Path.extension? path with
  | some "js" | some "cjs" => .javascript
  | some "yml" | some "yaml" => .yaml
  | _ => .json

def fileIndent : String :=
  "    "

/-- The text of a value in a format. It ends with a line feed. -/
def render (format : OutputFormat) (v : Value) : String :=
  match format with
  | .json => Json.pretty fileIndent 0 v ++ "\n"
  | .javascript => "module.exports = " ++ Json.pretty fileIndent 0 v ++ ";\n"
  | .yaml =>
      let text := Yaml.print v
      if text.toList.getLast? = some '\n' then text else text ++ "\n"

end OutputFormat

end Relint
