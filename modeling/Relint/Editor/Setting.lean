import Relint.Converter.Basic

/-!
The settings of the TSLint extension of an editor, and the converters that turn
each into settings of the ESLint extension.
-/

namespace Relint

/-- A setting that a converter suggests. -/
structure EditorSetting where
  name : String
  value : Value
  deriving DecidableEq, Inhabited

/-- A converter of one setting answers with new settings or with the reason for
refusing the value. -/
abbrev EditorConverter := ConversionSettings → Value → Except String (List EditorSetting)

/-- The converters by the names of their settings. -/
abbrev EditorRegistry := List (String × EditorConverter)

def knownEditorSettings : List String := [
  "tslint.configFile",
  "tslint.jsEnable",
  "tslint.ignoreDefinitionFiles",
  "tslint.exclude",
  "tslint.alwaysShowRuleFailuresAsWarnings",
  "tslint.suppressWhileTypeErrorsPresent"]

namespace EditorConverter

def optionsSetting : String :=
  "eslint.options"

def ignoreOption : String :=
  "ignorePattern"

def configOption : String :=
  "overrideConfigFile"

def refuse (expected : String) (v : Value) : Except String (List EditorSetting) :=
  .error ("Expected " ++ expected ++ ", got " ++ Json.compact v ++ ".")

def option (name : String) (v : Value) : EditorSetting :=
  ⟨optionsSetting, .object [(name, v)]⟩

def configFile : EditorConverter := fun _ v =>
  match v with
  | .string path => .ok [option configOption (.string path)]
  | _ => refuse "a file path" v

/-- The languages that are checked, with or without JavaScript. -/
def languages (javascript : Bool) : List String :=
  (if javascript then ["javascript", "javascriptreact"] else []) ++
    ["typescript", "typescriptreact"]

def jsEnable : EditorConverter := fun _ v =>
  match v with
  | .bool enabled => .ok [⟨"eslint.validate", .strings (languages enabled)⟩]
  | _ => refuse "a boolean" v

/-- Converts a switch that sets something when it is on and nothing when it is off. -/
def switch (setting : EditorSetting) : EditorConverter := fun _ v =>
  match v with
  | .bool true => .ok [setting]
  | .bool false => .ok []
  | _ => refuse "a boolean" v

def ignoreDefinitionFiles : EditorConverter :=
  switch (option ignoreOption (.string "*.d.ts"))

/-- Converts the globs of files that are left out. Items that are not strings are
passed over. -/
def exclude : EditorConverter := fun _ v =>
  match v with
  | .string _ | .array _ => .ok [option ignoreOption (.strings (Value.stringList (some v)))]
  | _ => refuse "glob patterns" v

def alwaysShowRuleFailuresAsWarnings : EditorConverter :=
  switch ⟨"eslint.rules.customizations",
    .array [.object [("rule", .string "*"), ("severity", .string "warn")]]⟩

end EditorConverter

/-- The converters that come with the program. The last of the known settings has
none. -/
def EditorRegistry.builtin : EditorRegistry := [
  ("tslint.configFile", EditorConverter.configFile),
  ("tslint.jsEnable", EditorConverter.jsEnable),
  ("tslint.ignoreDefinitionFiles", EditorConverter.ignoreDefinitionFiles),
  ("tslint.exclude", EditorConverter.exclude),
  ("tslint.alwaysShowRuleFailuresAsWarnings",
    EditorConverter.alwaysShowRuleFailuresAsWarnings)]

end Relint
