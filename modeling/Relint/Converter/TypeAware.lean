import Relint.Converter.Typing

/-!
Rules whose counterparts need type information. They convert in any case; where
the new configuration has no type information at hand, each target rule gets a
notice that says so, and nothing else changes.
-/

namespace Relint

namespace Converter

def needsTypesNotice : String :=
  "This rule needs type information; pass --type-checked once tsconfig.json is set up."

def typeAware (convert : Converter) : Converter := fun ctx =>
  (convert ctx).map fun c =>
    if ctx.settings.typeChecked then c else c.mapRules (·.withNotice needsTypesNotice)

def awaitPromise : Converter := fun ctx =>
  .ok (.ofRule ((TargetRule.named "@typescript-eslint/await-thenable").withNoticeIf
    (!ctx.strings.isEmpty)
    ("ESLint does not support custom Promise-like types; " ++
      "only real thenables are allowed.")))

def noFloatingPromises : Converter := fun ctx =>
  .ok (.ofRule ((TargetRule.named "@typescript-eslint/no-floating-promises").withNoticeIf
    (!ctx.strings.isEmpty)
    "ESLint does not support custom Promise-like types; only real Promises are checked."))

def noUnboundMethod : Converter := fun ctx =>
  .ok (.ofRule (((TargetRule.named "@typescript-eslint/unbound-method").withOptions
    (flagOptions ctx [("ignore-static", "ignoreStatic")])).withNoticeIf
    (ctx.hasFlag "whitelist") (unsupportedOption "whitelist")))

def noUnnecessaryTypeAssertion : Converter := fun ctx =>
  .ok (.ofRule ((TargetRule.named "@typescript-eslint/no-unnecessary-type-assertion").withOptions
    (if ctx.strings.isEmpty then [] else [("typesToIgnore", .strings ctx.strings)])))

def unsafeTypeRules : List String := [
  "@typescript-eslint/no-unsafe-argument",
  "@typescript-eslint/no-unsafe-assignment",
  "@typescript-eslint/no-unsafe-call",
  "@typescript-eslint/no-unsafe-member-access",
  "@typescript-eslint/no-unsafe-return"]

def noUnsafeAny : Converter := fun _ =>
  .ok (.ofRules (unsafeTypeRules.map TargetRule.named))

def noVoidExpression : Converter := fun ctx =>
  .ok (.ofRule ((TargetRule.named "@typescript-eslint/no-confusing-void-expression").withOptions
    (flagOptions ctx [("ignore-arrow-function-shorthand", "ignoreArrowShorthand")])))

def preferReadonly : Converter := fun ctx =>
  .ok (.ofRule ((TargetRule.named "@typescript-eslint/prefer-readonly").withOptions
    (flagOptions ctx [("only-inline-lambdas", "onlyInlineLambdas")])))

def strictBooleanExpressions : Converter := fun ctx =>
  .ok (.ofRule (((TargetRule.named "@typescript-eslint/strict-boolean-expressions").withOptions
    (flagOptions ctx [
      ("allow-string", "allowString"),
      ("allow-number", "allowNumber"),
      ("allow-null-union", "allowNullableObject"),
      ("allow-boolean-or-undefined", "allowNullableBoolean"),
      ("allow-any-type", "allowAny")])).withNoticeIf
    (ctx.hasFlag "ignore-rhs") (unsupportedOption "ignore-rhs")))

/-- The converters of this module before the setting for type information is
looked at. -/
def typeAwareConverters : ConverterRegistry := [
  ("await-promise", awaitPromise),
  ("no-floating-promises", noFloatingPromises),
  ("no-unbound-method", noUnboundMethod),
  ("no-unnecessary-type-assertion", noUnnecessaryTypeAssertion),
  ("no-unsafe-any", noUnsafeAny),
  ("no-void-expression", noVoidExpression),
  ("prefer-readonly", preferReadonly),
  ("strict-boolean-expressions", strictBooleanExpressions)]

def typeAwares : ConverterRegistry :=
  typeAwareConverters.map fun (source, convert) => (source, typeAware convert)

end Converter

end Relint
