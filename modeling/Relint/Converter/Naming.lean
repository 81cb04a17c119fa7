import Relint.Converter.Basic

/-!
Rules about the names of classes, interfaces and variables. They all become
selectors of one target rule.
-/

namespace Relint

namespace Converter

/-- The target rule for names, with one selector. -/
def namingConvention (selector : Fields) : TargetRule :=
  (TargetRule.named "@typescript-eslint/naming-convention").withArgument (.object selector)

def className : Converter := fun _ =>
  .ok (.ofRule (namingConvention
    [("selector", .string "class"), ("format", .strings ["PascalCase"])]))

/-- The names of interfaces, with or without a leading `I`. -/
def interfaceName : Converter := fun ctx =>
  let selector (withLetter : Bool) : Except String Contribution :=
    .ok (.ofRule (namingConvention
      [("selector", .string "interface"), ("format", .strings ["PascalCase"]),
        ("custom", .object [("regex", .string "^I[A-Z]"), ("match", .bool withLetter)])]))
  match ctx.strings.head? with
  | none | some "always-prefix" => selector true
  | some "never-prefix" => selector false
  | some other => .error ("Unknown interface-name option \"" ++ other ++ "\".")

/-- Names that are keywords of types and may be forbidden for variables. -/
def typeKeywords : List String :=
  ["any", "Number", "number", "String", "string", "Boolean", "boolean", "Undefined", "undefined"]

/-- The policy for an underscore: required, allowed, or forbidden. -/
def underscorePolicy (ctx : Context) (allow require : String) : String :=
  if ctx.hasFlag require then "require"
  else if ctx.hasFlag allow then "allow"
  else "forbid"

/-- The names of variables. Forbidden underscores and forbidden keywords have
target rules of their own. -/
def variableName : Converter := fun ctx =>
  let formats := ["camelCase", "UPPER_CASE"] ++
    (if ctx.hasFlag "allow-pascal-case" then ["PascalCase"] else []) ++
    (if ctx.hasFlag "allow-snake-case" then ["snake_case"] else [])
  let leading :=
    underscorePolicy ctx "allow-leading-underscore" "require-leading-underscore"
  let trailing :=
    underscorePolicy ctx "allow-trailing-underscore" "require-trailing-underscore"
  let naming := (namingConvention
    [("selector", .string "variable"), ("format", .strings formats),
      ("leadingUnderscore", .string leading),
      ("trailingUnderscore", .string trailing)]).withNoticeIf
    (ctx.hasFlag "check-format")
    "ESLint always checks the identifier format; \"check-format\" is implied."
  let dangling :=
    if leading = "forbid" ∨ trailing = "forbid" then [TargetRule.named "no-underscore-dangle"]
    else []
  let keywords :=
    if ctx.hasFlag "ban-keywords" then
      [(TargetRule.named "id-denylist").withArguments (typeKeywords.map .string)]
    else []
  .ok (.ofRules (naming :: dangling ++ keywords))

def namings : ConverterRegistry := [
  ("class-name", className),
  ("interface-name", interfaceName),
  ("variable-name", variableName)]

end Converter

end Relint
