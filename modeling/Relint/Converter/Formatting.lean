import Relint.Converter.Basic
import Relint.Text.Quoted

/-!
Rules about the layout of sources. Where Prettier owns the layout they all
convert to nothing, whatever their arguments.
-/

namespace Relint

namespace Converter

/-- A converter that applies only where the layout is not left to Prettier. -/
def unlessPrettier (convert : Converter) : Converter :=
  fun ctx => if ctx.settings.prettier then .ok .nothing else convert ctx

def arrowParens : Converter := fun ctx =>
  let rule := TargetRule.named "arrow-parens"
  .ok (.ofRule
    (if ctx.hasFlag "ban-single-arg-parens" then rule.withArgument (.string "as-needed") else rule))

/-- The kind and the width of indentation. A width is a natural number. -/
def indent : Converter := fun ctx =>
  let rule := TargetRule.named "@typescript-eslint/indent"
  match ctx.arguments.head?.bind Value.string? with
  | none => .ok (.ofRule rule)
  | some "tabs" => .ok (.ofRule (rule.withArgument (.string "tab")))
  | some "spaces" =>
      match ctx.arguments[1]?.bind Value.nat? with
      | some size => .ok (.ofRule (rule.withArgument (.ofNat size)))
      | none => .ok (.ofRule rule)
  | some other => .error ("Unknown indent type \"" ++ other ++ "\".")

def linebreakStyle : Converter := fun ctx =>
  let style (s : String) : Except String Contribution :=
    .ok (.ofRule ((TargetRule.named "linebreak-style").withArgument (.string s)))
  match ctx.strings.head? with
  | none | some "LF" => style "unix"
  | some "CRLF" => style "windows"
  | some other => .error ("Unknown linebreak style \"" ++ other ++ "\".")

def lineLengthOptions (options : Fields) : Fields :=
  let copied (key name : String) : Fields :=
    match options.lookup key with
    | some v => [(name, v)]
    | none => []
  let checked (key : String) : Bool :=
    ((options.lookup key).bind Value.bool?).getD false
  copied "limit" "code" ++ copied "ignore-pattern" "ignorePattern" ++
    [("ignoreStrings", .bool (!checked "check-strings")),
      ("ignoreRegExpLiterals", .bool (!checked "check-regex"))]

/-- The greatest length of a line, given as a number or in an object. -/
def maxLineLength : Converter := fun ctx =>
  let rule := TargetRule.named "max-len"
  match ctx.number?, ctx.object? with
  | some limit, _ => .ok (.ofRule (rule.withArgument (.object [("code", limit)])))
  | none, some options => .ok (.ofRule (rule.withArgument (.object (lineLengthOptions options))))
  | none, none => .ok (.ofRule rule)

def noConsecutiveBlankLines : Converter := fun ctx =>
  let most := ctx.number?.getD (.ofNat 1)
  .ok (.ofRule
    ((TargetRule.named "no-multiple-empty-lines").withArgument (.object [("max", most)])))

def noTrailingWhitespace : Converter := fun ctx =>
  let comments := ctx.hasFlag "ignore-comments" || ctx.hasFlag "ignore-jsdoc"
  let options : Fields :=
    (if comments then [("ignoreComments", .bool true)] else []) ++
      (if ctx.hasFlag "ignore-blank-lines" then [("skipBlankLines", .bool true)] else [])
  .ok (.ofRule
    (((TargetRule.named "no-trailing-spaces").withNoticeIf
      (ctx.hasFlag "ignore-template-strings")
      (unsupportedOption "ignore-template-strings")).withOptions options))

def objectLiteralKeyQuotes : Converter := fun ctx =>
  let rule := TargetRule.named "quote-props"
  match ctx.strings.head? with
  | none => .ok (.ofRule rule)
  | some mode =>
      if ["always", "as-needed", "consistent", "consistent-as-needed"].contains mode then
        .ok (.ofRule (rule.withArgument (.string mode)))
      else .error ("Unknown key quotes mode \"" ++ mode ++ "\".")

/-- The quotes of string literals, and those of attributes where they are set. -/
def quotemark : Converter := fun ctx =>
  let style := (ctx.strings.find? (["single", "double", "backtick"].contains ·)).getD "double"
  let templates := style != "backtick" && !ctx.hasFlag "avoid-template"
  let options : Fields :=
    (if ctx.hasFlag "avoid-escape" then [("avoidEscape", .bool true)] else []) ++
      (if templates then [("allowTemplateLiterals", .bool true)] else [])
  let rule := (TargetRule.named "@typescript-eslint/quotes").withArgument (.string style)
  let quotes := rule.withOptions options
  let attributes (mode : String) : List TargetRule :=
    [(TargetRule.named "jsx-quotes").withArgument (.string mode)]
  .ok (.ofRules (quotes ::
    if ctx.hasFlag "jsx-single" then attributes "prefer-single"
    else if ctx.hasFlag "jsx-double" then attributes "prefer-double"
    else []))

/-- What ends the members of an interface where statements end without semicolon. -/
def bareMemberDelimiters : Value :=
  .object [("multiline", .object [("delimiter", .string "none")]),
    ("singleline", .object [("delimiter", .string "semi"), ("requireLast", .bool false)])]

/-- Semicolons after statements and, unless told otherwise, after the members of
interfaces. -/
def semicolon : Converter := fun ctx =>
  let rules (mode : String) : Except String Contribution :=
    let unsupported :=
      ["ignore-bound-class-methods", "strict-bound-class-methods"].filter ctx.hasFlag
    let semi := unsupported.foldl (fun rule option => rule.withNotice (unsupportedOption option))
      ((TargetRule.named "@typescript-eslint/semi").withArgument (.string mode))
    let delimiter := TargetRule.named "@typescript-eslint/member-delimiter-style"
    .ok (.ofRules (semi ::
      if ctx.hasFlag "ignore-interfaces" then []
      else if mode = "always" then [delimiter]
      else [delimiter.withArgument bareMemberDelimiters]))
  match ctx.strings.head? with
  | none | some "always" => rules "always"
  | some "never" => rules "never"
  | some other => .error ("Unknown semicolon mode \"" ++ other ++ "\".")

def spaceBeforeFunctionParen : Converter := fun ctx =>
  let rule := TargetRule.named "@typescript-eslint/space-before-function-paren"
  match ctx.strings.head?, ctx.object? with
  | some mode, _ => .ok (.ofRule (rule.withArgument (.string mode)))
  | none, none => .ok (.ofRule rule)
  | none, some options =>
      let known (entry : String × Value) : Bool :=
        ["anonymous", "named", "asyncArrow"].contains entry.1
      let noted := (options.filter (!known ·)).foldl
        (fun rule entry => rule.withNotice (unsupportedOption entry.1)) rule
      .ok (.ofRule (noted.withArgument (.object (options.filter known))))

/-- One setting of trailing commas. Only a word applies to every construct. -/
def commaSetting (options : Fields) (key : String) : Except String (Option String) :=
  match options.lookup key with
  | none => .ok none
  | some (.string s) => .ok (some s)
  | some _ =>
      .error ("Per-construct \"" ++ key ++ "\" trailing-comma settings are not supported.")

def describeCommaSetting : Option String → String
  | none => "None"
  | some s => "Some(" ++ Text.quoted s ++ ")"

/-- The single mode for the settings of lists over several lines and on one line.
Commas on one line alone have no mode. -/
def commaMode (multiline singleline : Option String) : Except String String :=
  let absent (s : Option String) : Bool := s == none || s == some "never"
  if multiline = some "always" then
    .ok (if singleline = some "always" then "always" else "always-multiline")
  else if absent multiline && absent singleline then .ok "never"
  else if singleline = some "always" then
    .error "Trailing commas on single lines only cannot be expressed."
  else
    .error ("Unknown trailing-comma settings " ++ describeCommaSetting multiline ++ "/" ++
      describeCommaSetting singleline ++ ".")

def trailingComma : Converter := fun ctx =>
  let rule := TargetRule.named "comma-dangle"
  match ctx.object? with
  | none => .ok (.ofRule rule)
  | some options => do
      let multiline ← commaSetting options "multiline"
      let singleline ← commaSetting options "singleline"
      let mode ← commaMode multiline singleline
      return .ofRule ((rule.withArgument (.string mode)).withNoticeIf
        (Assoc.contains options "esSpecCompliant") (unsupportedOption "esSpecCompliant"))

/-- The converters of this module before the setting for Prettier is looked at. -/
def layoutConverters : ConverterRegistry := [
  ("arrow-parens", arrowParens),
  ("eofline", fun _ => .ok (.ofRule (.named "eol-last"))),
  ("indent", indent),
  ("linebreak-style", linebreakStyle),
  ("max-line-length", maxLineLength),
  ("new-parens", fun _ => .ok (.ofRule (.named "new-parens"))),
  ("no-consecutive-blank-lines", noConsecutiveBlankLines),
  ("no-trailing-whitespace", noTrailingWhitespace),
  ("object-literal-key-quotes", objectLiteralKeyQuotes),
  ("quotemark", quotemark),
  ("semicolon", semicolon),
  ("space-before-function-paren", spaceBeforeFunctionParen),
  ("trailing-comma", trailingComma)]

def formatting : ConverterRegistry :=
  layoutConverters.map fun (source, convert) => (source, unlessPrettier convert)

end Converter

end Relint
