import Relint.Converter.Basic

/-!
Rules whose counterparts live in plugins of third parties. A contribution names
the plugin package along with the rules.
-/

namespace Relint

namespace Converter

/-- A target rule of a plugin, whatever the arguments. -/
def inPlugin (plugin target : String) : Converter := fun _ =>
  .ok ((Contribution.ofRule (.named target)).withPlugin plugin)

def inPluginWith (plugin target : String) (argument : Value) : Contribution :=
  (Contribution.ofRule ((TargetRule.named target).withArgument argument)).withPlugin plugin

def fileNameCasing : Converter := fun ctx =>
  let case (name : String) : Except String Contribution :=
    .ok (inPluginWith "eslint-plugin-unicorn" "unicorn/filename-case"
      (.object [("case", .string name)]))
  match ctx.strings.head? with
  | none | some "camel-case" => case "camelCase"
  | some "pascal-case" => case "pascalCase"
  | some "kebab-case" => case "kebabCase"
  | some "snake-case" => case "snakeCase"
  | some other => .error ("Unsupported file name casing \"" ++ other ++ "\".")

def jsdocFormat : Converter := fun ctx =>
  let rules := ["jsdoc/check-alignment", "jsdoc/newline-after-description"] ++
    if ctx.hasFlag "check-multiline-start" then ["jsdoc/no-bad-blocks"] else []
  .ok ((Contribution.ofRules (rules.map TargetRule.named)).withPlugin "eslint-plugin-jsdoc")

def jsxBooleanValue : Converter := fun ctx =>
  let mode := ctx.strings.head?.getD "always"
  if mode = "always" ∨ mode = "never" then
    .ok (inPluginWith "eslint-plugin-react" "react/jsx-boolean-value" (.string mode))
  else .error ("Unknown jsx-boolean-value mode \"" ++ mode ++ "\".")

def jsxCurlySpacing : Converter := fun ctx =>
  let mode := ctx.strings.head?.getD "never"
  if mode = "always" ∨ mode = "never" then
    .ok (inPluginWith "eslint-plugin-react" "react/jsx-curly-spacing" (.string mode))
  else .error ("Unknown jsx-curly-spacing mode \"" ++ mode ++ "\".")

def noDuplicateImports : Converter := fun ctx =>
  .ok ((Contribution.ofRule ((TargetRule.named "import/no-duplicates").withNoticeIf
    ((ctx.option? "allow-namespace-imports").bind Value.bool? == some true)
    (unsupportedOption "allow-namespace-imports"))).withPlugin "eslint-plugin-import")

def noImplicitDependencies : Converter := fun ctx =>
  let options : Fields :=
    (if ctx.hasFlag "dev" then [("devDependencies", .bool true)] else []) ++
      (if ctx.hasFlag "optional" then [("optionalDependencies", .bool true)] else [])
  .ok ((Contribution.ofRule
    (((TargetRule.named "import/no-extraneous-dependencies").withOptions options).withNoticeIf
      (ctx.arguments.any Value.isArray)
      ("Whitelisted modules are not supported; " ++
        "use import/core-modules settings instead."))).withPlugin "eslint-plugin-import")

/-- Imports of parts of a package, with some packages allowed. -/
def noSubmoduleImports : Converter := fun ctx =>
  let allowed := ctx.strings.map (· ++ "/**")
  .ok ((Contribution.ofRule ((TargetRule.named "import/no-internal-modules").withOptions
    (if allowed.isEmpty then [] else [("allow", .strings allowed)]))).withPlugin
    "eslint-plugin-import")

def onlyArrowFunctions : Converter := fun ctx =>
  let options : Fields :=
    if ctx.hasFlag "allow-declarations" then [("allowStandaloneDeclarations", .bool true)] else []
  .ok ((Contribution.ofRule
    (((TargetRule.named "prefer-arrow/prefer-arrow-functions").withOptions options).withNoticeIf
      (ctx.hasFlag "allow-named-functions") (unsupportedOption "allow-named-functions"))).withPlugin
    "eslint-plugin-prefer-arrow")

/-- The order of imports. The order of names inside one import does not carry
over. -/
def orderedImports : Converter := fun ctx =>
  let caseInsensitive :=
    match (ctx.option? "import-sources-order").bind Value.string? with
    | some order => order.startsWith "case-insensitive"
    | none => true
  .ok ((Contribution.ofRule (((TargetRule.named "import/order").withArgument
    (.object [
      ("alphabetize",
        .object [("caseInsensitive", .bool caseInsensitive), ("order", .string "asc")]),
      ("newlines-between", .string "ignore")])).withNoticeIf
    (ctx.option? "named-imports-order").isSome
    (unsupportedOption "named-imports-order"))).withPlugin "eslint-plugin-import")

/-- Prettier run as a rule, together with its preset. -/
def prettier : Converter := fun ctx =>
  let rule := TargetRule.named "prettier/prettier"
  let rule :=
    match ctx.arguments with
    | .object options :: _ => rule.withArgument (.object options)
    | .string path :: _ =>
        rule.withNotice ("Prettier config path \"" ++ path ++
          "\" is not supported; ESLint resolves Prettier configs itself.")
    | _ => rule
  .ok (((Contribution.ofRule rule).withPlugin "eslint-plugin-prettier").withPreset
    "plugin:prettier/recommended")

/-- Source rules for React and the rules of its plugin that do the same. -/
def reactRules : List (String × String) := [
  ("jsx-key", "react/jsx-key"),
  ("jsx-no-bind", "react/jsx-no-bind"),
  ("jsx-no-lambda", "react/jsx-no-bind"),
  ("jsx-no-string-ref", "react/no-string-refs"),
  ("jsx-self-close", "react/self-closing-comp")]

def plugins : ConverterRegistry := [
  ("deprecation", inPlugin "eslint-plugin-deprecation" "deprecation/deprecation"),
  ("file-name-casing", fileNameCasing),
  ("jsdoc-format", jsdocFormat),
  ("jsx-boolean-value", jsxBooleanValue),
  ("jsx-curly-spacing", jsxCurlySpacing),
  ("no-default-export", inPlugin "eslint-plugin-import" "import/no-default-export"),
  ("no-duplicate-imports", noDuplicateImports),
  ("no-implicit-dependencies", noImplicitDependencies),
  ("no-null-keyword", inPlugin "eslint-plugin-no-null" "no-null/no-null"),
  ("no-redundant-jsdoc", inPlugin "eslint-plugin-jsdoc" "jsdoc/no-types"),
  ("no-submodule-imports", noSubmoduleImports),
  ("only-arrow-functions", onlyArrowFunctions),
  ("ordered-imports", orderedImports),
  ("prettier", prettier)] ++
  reactRules.map fun (source, target) => (source, inPlugin "eslint-plugin-react" target)

end Converter

end Relint
