import Relint.Conversion.Config
import Relint.Distinct

/-!
The packages that a new configuration needs, and the command that installs them.
-/

namespace Relint

def basePackages : List String :=
  ["eslint", "@typescript-eslint/parser", "@typescript-eslint/eslint-plugin"]

def occursIn (part : List Char) : List Char → Bool
  | [] => part.isEmpty
  | c :: rest => part.isPrefixOf (c :: rest) || occursIn part rest

/-- Whether a name is that of a package already: it begins with the kind, or the
kind begins its part behind a scope. -/
def isPackageOf (kind name : String) : Bool :=
  (kind ++ "-").toList.isPrefixOf name.toList || occursIn ("/" ++ kind).toList name.toList

def splitScope? (name : List Char) : Option (String × String) :=
  match name.dropWhile (· ≠ '/') with
  | [] => none
  | _ :: rest => some (String.ofList (name.takeWhile (· ≠ '/')), String.ofList rest)

/-- The package of a plugin. The plugin for TypeScript is among the base packages. -/
def pluginPackage? (plugin : String) : Option String :=
  if plugin = typescriptPlugin then none
  else if plugin = tslintPlugin then some "@typescript-eslint/eslint-plugin-tslint"
  else if isPackageOf "eslint-plugin" plugin then some plugin
  else
    match splitScope? plugin.toList with
    | some (scope, name) => some (scope ++ "/eslint-plugin-" ++ name)
    | none =>
        if plugin.toList.head? = some '@' then some (plugin ++ "/eslint-plugin")
        else some ("eslint-plugin-" ++ plugin)

/-- Whether a preset comes without a package of its own: with ESLint, with a plugin
or as a file. -/
def isBundledPreset (preset : String) : Bool :=
  ["eslint:", "plugin:", "."].any fun start => start.toList.isPrefixOf preset.toList

def presetPackage? (preset : String) : Option String :=
  if isBundledPreset preset then none
  else if isPackageOf "eslint-config" preset then some preset
  else some ("eslint-config-" ++ preset)

/-- All packages that a configuration needs: the base packages, those of its plugins
and those of its presets, each once. -/
def requiredPackages (config : Value) : List String :=
  distinct (basePackages ++
    (Value.stringList (config.field? "plugins")).filterMap pluginPackage? ++
    (Value.stringList (config.field? "extends")).filterMap presetPackage?)

/-- The programs that install packages. -/
inductive PackageManager where
  | npm
  | pnpm
  | yarn
  deriving DecidableEq, Repr

namespace PackageManager

def name : PackageManager → String
  | .npm => "npm"
  | .pnpm => "pnpm"
  | .yarn => "yarn"

def ofName? (name : String) : Option PackageManager :=
  [npm, pnpm, yarn].find? (·.name == name)

/-- The command for development dependencies, up to the packages. -/
def installStem : PackageManager → String
  | .npm => "npm install --save-dev"
  | .pnpm => "pnpm add --save-dev"
  | .yarn => "yarn add --dev"

/-- The command that installs packages as development dependencies. -/
def installCommand (manager : PackageManager) (packages : List String) : String :=
  manager.installStem ++ " " ++ " ".intercalate packages

end PackageManager

end Relint
