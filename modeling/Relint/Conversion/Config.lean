import Relint.Config.Eslint
import Relint.Config.Tslint
import Relint.Conversion.Presets
import Relint.Conversion.Rules

/-!
Converting a whole configuration: its presets and its rules against an existing
configuration, and the new configuration that comes of it.
-/

namespace Relint

/-- Everything that is known after a configuration has been converted. The presets
and plugins of the results begin with those that replace presets. -/
structure ConfigConversion where
  results : ConversionResults
  missingPresets : List String

def ConfigConversion.toValue (c : ConfigConversion) : Value :=
  .object [("rules", c.results.toValue), ("missingExtends", .strings c.missingPresets)]

def convertConfig (registries : Registries) (settings : ConversionSettings)
    (tslint : TslintConfig) (eslint : Option EslintConfig) : ConfigConversion :=
  let presets := convertPresets settings tslint.presets
  let results := convertRules registries settings tslint.rules ((eslint.map (·.rules)).getD [])
  ⟨{ results with
      presets := .ofList (presets.presets ++ results.presets.toList)
      plugins := .ofList (presets.plugins ++ results.plugins.toList) },
    presets.missing⟩

def typescriptParser : String :=
  "@typescript-eslint/parser"

def typescriptPlugin : String :=
  "@typescript-eslint"

def tslintPlugin : String :=
  "@typescript-eslint/tslint"

/-- The target rule that holds the TSLint rules to be run as they are. -/
def tslintRule : String :=
  "@typescript-eslint/tslint/config"

namespace ConfigConversion

/-- The rules without converter that are switched on, as that target rule takes
them: true for a rule without arguments, and otherwise its arguments. -/
def passthroughRules (c : ConfigConversion) : Fields :=
  Assoc.ofEntries ((c.results.missing.filter (·.severity != .off)).map fun rule =>
    (rule.name, if rule.arguments.isEmpty then .bool true else .array rule.arguments))

/-- The presets of the new configuration: the existing ones, those of the
conversion, and at the end that of Prettier where the layout is left to it. -/
def presets (c : ConfigConversion) (settings : ConversionSettings)
    (eslint : Option EslintConfig) : List String :=
  distinct (((eslint.map (·.presets)).getD []) ++ c.results.presets.toList ++
    if settings.prettier then [prettierPreset] else [])

def plugins (c : ConfigConversion) (eslint : Option EslintConfig) : List String :=
  distinct (((eslint.map (·.plugins)).getD []) ++ c.results.plugins.toList ++
    [typescriptPlugin] ++ if c.passthroughRules.isEmpty then [] else [tslintPlugin])

/-- The rules of the new configuration: the existing ones, the converted ones, and
the target rule for what has no converter. -/
def rules (c : ConfigConversion) (eslint : Option EslintConfig) : Fields :=
  let written := Assoc.insertAll ((eslint.map (·.rules)).getD [])
    (c.results.converted.toList.map fun (name, settings) => (name, settings.toEntry))
  if c.passthroughRules.isEmpty then written
  else
    Assoc.insert tslintRule
      (.array [Severity.error.toValue, .object [("rules", .object c.passthroughRules)]]) written

/-- The new configuration. The order of its fields is fixed, and presets, globals
and rules are left out where there are none. -/
def summarize (c : ConfigConversion) (settings : ConversionSettings)
    (eslint : Option EslintConfig) : Value :=
  let presets := c.presets settings eslint
  let rules := c.rules eslint
  .object (
    [("env", .object [("browser", .bool true), ("es6", .bool true), ("node", .bool true)])] ++
    (if presets.isEmpty then [] else [("extends", .strings presets)]) ++
    (match eslint.bind (·.globals) with
      | some globals => [("globals", globals)]
      | none => []) ++
    [("parser", .string typescriptParser),
      ("parserOptions",
        .object [("project", .string "tsconfig.json"), ("sourceType", .string "module")]),
      ("plugins", .strings (c.plugins eslint))] ++
    (if rules.isEmpty then [] else [("rules", .object rules)]))

end ConfigConversion

end Relint
