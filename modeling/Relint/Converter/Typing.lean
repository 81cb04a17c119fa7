import Relint.Converter.Basic

/-!
Rules about the syntax of types, members and declarations. They need a parser for
TypeScript but no type information.
-/

namespace Relint

namespace Converter

/-- The options that flags switch on, in the order of a table of flags and
options. -/
def flagOptions (ctx : Context) (table : List (String × String)) : Fields :=
  (table.filter fun (flag, _) => ctx.hasFlag flag).map fun (_, option) => (option, .bool true)

def arrayType : Converter := fun ctx =>
  let style := ctx.strings.head?.getD "array"
  if ["array", "generic", "array-simple"].contains style then
    .ok (.ofRule ((TargetRule.named "@typescript-eslint/array-type").withArgument
      (.object [("default", .string style)])))
  else .error ("Unknown array type style \"" ++ style ++ "\".")

/-- Explicit access of members. What is not to be checked is switched off. -/
def memberAccess : Converter := fun ctx =>
  let rule := TargetRule.named "@typescript-eslint/explicit-member-accessibility"
  if ctx.hasFlag "no-public" then
    .ok (.ofRule (rule.withArgument (.object [("accessibility", .string "no-public")])))
  else
    let unchecked : List (String × String) :=
      [("check-accessor", "accessors"), ("check-constructor", "constructors"),
        ("check-parameter-property", "parameterProperties")].filter
        fun (flag, _) => !ctx.hasFlag flag
    let overrides : Fields := unchecked.map fun (_, option) => (option, .string "off")
    .ok (.ofRule (rule.withArgument (.object ([("accessibility", .string "explicit")] ++
      if overrides.isEmpty then [] else [("overrides", .object overrides)]))))

def readMember (entry : Value) : Except String Value :=
  if entry.isString then .ok entry
  else .error ("Unsupported member-ordering entry " ++ Json.compact entry ++ ".")

/-- The order of members. Only an order that is spelled out carries over. -/
def memberOrdering : Converter := fun ctx =>
  let rule := TargetRule.named "@typescript-eslint/member-ordering"
  match ctx.option? "order" with
  | none => .ok (.ofRule rule)
  | some (.array members) =>
      (members.mapM readMember).map fun order =>
        .ofRule (rule.withArgument (.object [("default", .array order)]))
  | some (.string preset) =>
      .ok (.ofRule (rule.withNotice
        ("Preset order \"" ++ preset ++ "\" is replaced by the ESLint default order.")))
  | some other =>
      .error ("Unsupported member-ordering order " ++ Json.compact other ++ ".")

def noAngleBracketTypeAssertion : Converter := fun _ =>
  .ok (.ofRule ((TargetRule.named "@typescript-eslint/consistent-type-assertions").withArgument
    (.object [("assertionStyle", .string "as")])))

def noInferrableTypes : Converter := fun ctx =>
  .ok (.ofRule ((TargetRule.named "@typescript-eslint/no-inferrable-types").withOptions
    (flagOptions ctx [("ignore-params", "ignoreParameters"),
      ("ignore-properties", "ignoreProperties")])))

/-- Namespaces, with an exception for declarations. -/
def noNamespace : Converter := fun ctx =>
  .ok (.ofRule ((TargetRule.named "@typescript-eslint/no-namespace").withOptions
    (flagOptions ctx [("allow-declarations", "allowDeclarations")])))

/-- Type assertions on object literals, with an exception for arguments. -/
def noObjectLiteralTypeAssertion : Converter := fun ctx =>
  let allowed := ((ctx.option? "allow-arguments").bind Value.bool?).getD false
  .ok (.ofRule ((TargetRule.named "@typescript-eslint/consistent-type-assertions").withArgument
    (.object [("assertionStyle", .string "as"),
      ("objectLiteralTypeAssertions",
        .string (if allowed then "allow-as-parameter" else "never"))])))

/-- Other names for `this`, and which of them are allowed. -/
def noThisAssignment : Converter := fun ctx =>
  let names : Fields :=
    match ctx.option? "allowed-names" with
    | some names => [("allowedNames", names)]
    | none => []
  let destructuring : Fields :=
    if (ctx.option? "allow-destructuring").bind Value.bool? = some true then
      [("allowDestructuring", .bool true)]
    else []
  .ok (.ofRule ((TargetRule.named "@typescript-eslint/no-this-alias").withOptions
    (names ++ destructuring)))

def noUnusedExpression : Converter := fun ctx =>
  .ok (.ofRule (((TargetRule.named "@typescript-eslint/no-unused-expressions").withOptions
    (flagOptions ctx [("allow-fast-null-checks", "allowShortCircuit"),
      ("allow-tagged-template", "allowTaggedTemplates")])).withNoticeIf
    (ctx.hasFlag "allow-new") (unsupportedOption "allow-new")))

/-- Explicit types where flags ask for them. Those of results have a rule of their
own. -/
def typedef : Converter := fun ctx =>
  let options := flagOptions ctx [
    ("array-destructuring", "arrayDestructuring"),
    ("arrow-parameter", "arrowParameter"),
    ("member-variable-declaration", "memberVariableDeclaration"),
    ("object-destructuring", "objectDestructuring"),
    ("parameter", "parameter"),
    ("property-declaration", "propertyDeclaration"),
    ("variable-declaration", "variableDeclaration"),
    ("variable-declaration-ignore-function", "variableDeclarationIgnoreFunction")]
  let results := TargetRule.named "@typescript-eslint/explicit-function-return-type"
  .ok (.ofRules ((TargetRule.named "@typescript-eslint/typedef").withArgument (.object options) ::
    if ctx.hasFlag "call-signature" then [results]
    else if ctx.hasFlag "arrow-call-signature" then
      [results.withArgument (.object [("allowExpressions", .bool true)])]
    else []))

def typings : ConverterRegistry := [
  ("array-type", arrayType),
  ("member-access", memberAccess),
  ("member-ordering", memberOrdering),
  ("no-angle-bracket-type-assertion", noAngleBracketTypeAssertion),
  ("no-inferrable-types", noInferrableTypes),
  ("no-namespace", noNamespace),
  ("no-object-literal-type-assertion", noObjectLiteralTypeAssertion),
  ("no-this-assignment", noThisAssignment),
  ("no-unused-expression", noUnusedExpression),
  ("typedef", typedef)]

end Converter

end Relint
