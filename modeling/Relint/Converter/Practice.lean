import Relint.Converter.Basic

/-!
Rules about ways of writing code that the core of ESLint checks.
-/

namespace Relint

namespace Converter

/-- The words that a comment may start with although its first letter is of the
wrong case, as one pattern. -/
def ignoredWords (ctx : Context) : Fields :=
  match (ctx.option? "ignore-words").bind Value.array? with
  | some words =>
      [("ignorePattern", .string ("|".intercalate (words.filterMap Value.string?)))]
  | none => []

/-- The space at the start of a comment, and the case of its first letter. -/
def commentFormat : Converter := fun ctx =>
  let spaced :=
    if ctx.hasFlag "check-space" then
      [((TargetRule.named "spaced-comment").withArgument (.string "always")).withArgument
        (.object [("markers", .strings ["/"])])]
    else []
  let capitalized (mode : String) : TargetRule :=
    ((TargetRule.named "capitalized-comments").withArgument (.string mode)).withOptions
      (ignoredWords ctx)
  match ctx.hasFlag "check-lowercase", ctx.hasFlag "check-uppercase" with
  | true, true => .error "\"check-lowercase\" and \"check-uppercase\" cannot both be set."
  | true, false => .ok (.ofRules (spaced ++ [capitalized "never"]))
  | false, true => .ok (.ofRules (spaced ++ [capitalized "always"]))
  | false, false => .ok (.ofRules spaced)

def curly : Converter := fun ctx =>
  let mode :=
    if ctx.hasFlag "ignore-same-line" then "multi-line"
    else if ctx.hasFlag "as-needed" then "multi"
    else "all"
  .ok (.ofRule ((TargetRule.named "curly").withArgument (.string mode)))

/-- Calls of the console. A choice of its methods does not carry over. -/
def noConsole : Converter := fun ctx =>
  .ok (.ofRule ((TargetRule.named "no-console").withNoticeIf (!ctx.arguments.isEmpty)
    ("Custom console methods, if any, will no longer be allowed; " ++
      "ESLint bans every console method.")))

/-- Empty blocks, and empty functions with a rule of their own. That rule is
switched off where empty functions are allowed. -/
def noEmpty : Converter := fun ctx =>
  let blocks := (TargetRule.named "no-empty").withOptions
    (if ctx.hasFlag "allow-empty-catch" then [("allowEmptyCatch", .bool true)] else [])
  let functions := TargetRule.named "@typescript-eslint/no-empty-function"
  .ok (.ofRules [blocks,
    if ctx.hasFlag "allow-empty-functions" then functions.withSeverity .off else functions])

/-- Shorthand for the properties and the methods of object literals. -/
def objectLiteralShorthand : Converter := fun ctx =>
  let never (key : String) : Bool := (ctx.option? key).bind Value.string? == some "never"
  let mode :=
    if ctx.hasFlag "never" then "never"
    else
      match never "property", never "method" with
      | true, true => "never"
      | true, false => "methods"
      | false, true => "properties"
      | false, false => "always"
  .ok (.ofRule ((TargetRule.named "object-shorthand").withArgument (.string mode)))

def oneVariablePerDeclaration : Converter := fun ctx =>
  .ok (.ofRule (((TargetRule.named "one-var").withArgument (.string "never")).withNoticeIf
    (ctx.hasFlag "ignore-for-loop") (unsupportedOption "ignore-for-loop")))

def preferConst : Converter := fun ctx =>
  .ok (.ofRule ((TargetRule.named "prefer-const").withOptions
    (match ctx.option? "destructuring" with
    | some destructuring => [("destructuring", destructuring)]
    | none => [])))

def tripleEquals : Converter := fun ctx =>
  .ok (.ofRule ((((TargetRule.named "eqeqeq").withArgument (.string "always")).withOptions
    (if ctx.hasFlag "allow-null-check" then [("null", .string "ignore")] else [])).withNoticeIf
    (ctx.hasFlag "allow-undefined-check") (unsupportedOption "allow-undefined-check")))

def practices : ConverterRegistry := [
  ("comment-format", commentFormat),
  ("curly", curly),
  ("no-console", noConsole),
  ("no-empty", noEmpty),
  ("object-literal-shorthand", objectLiteralShorthand),
  ("one-variable-per-declaration", oneVariablePerDeclaration),
  ("prefer-const", preferConst),
  ("triple-equals", tripleEquals)]

end Converter

end Relint
