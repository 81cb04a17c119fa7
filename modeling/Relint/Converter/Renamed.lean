import Relint.Converter.Basic

/-!
Source rules that have one counterpart without options, and those that need none.
-/

namespace Relint

namespace Converter

def renamedRules : List (String × String) := [
  ("adjacent-overload-signatures", "@typescript-eslint/adjacent-overload-signatures"),
  ("ban-comma-operator", "no-sequences"),
  ("callable-types", "@typescript-eslint/prefer-function-type"),
  ("label-position", "no-labels"),
  ("no-any", "@typescript-eslint/no-explicit-any"),
  ("no-arg", "no-caller"),
  ("no-bitwise", "no-bitwise"),
  ("no-conditional-assignment", "no-cond-assign"),
  ("no-construct", "no-new-wrappers"),
  ("no-debugger", "no-debugger"),
  ("no-duplicate-super", "constructor-super"),
  ("no-duplicate-switch-case", "no-duplicate-case"),
  ("no-duplicate-variable", "no-redeclare"),
  ("no-dynamic-delete", "@typescript-eslint/no-dynamic-delete"),
  ("no-empty-interface", "@typescript-eslint/no-empty-interface"),
  ("no-eval", "no-eval"),
  ("no-for-in-array", "@typescript-eslint/no-for-in-array"),
  ("no-internal-module", "@typescript-eslint/prefer-namespace-keyword"),
  ("no-invalid-template-strings", "no-template-curly-in-string"),
  ("no-invalid-this", "no-invalid-this"),
  ("no-irregular-whitespace", "no-irregular-whitespace"),
  ("no-misused-new", "@typescript-eslint/no-misused-new"),
  ("no-non-null-assertion", "@typescript-eslint/no-non-null-assertion"),
  ("no-parameter-properties", "@typescript-eslint/parameter-properties"),
  ("no-parameter-reassignment", "no-param-reassign"),
  ("no-require-imports", "@typescript-eslint/no-require-imports"),
  ("no-return-await", "no-return-await"),
  ("no-sparse-arrays", "no-sparse-arrays"),
  ("no-string-literal", "@typescript-eslint/dot-notation"),
  ("no-string-throw", "no-throw-literal"),
  ("no-switch-case-fall-through", "no-fallthrough"),
  ("no-unnecessary-class", "@typescript-eslint/no-extraneous-class"),
  ("no-unnecessary-initializer", "no-undef-init"),
  ("no-unnecessary-qualifier", "@typescript-eslint/no-unnecessary-qualifier"),
  ("no-unsafe-finally", "no-unsafe-finally"),
  ("no-unused-variable", "@typescript-eslint/no-unused-vars"),
  ("no-var-keyword", "no-var"),
  ("no-var-requires", "@typescript-eslint/no-var-requires"),
  ("prefer-for-of", "@typescript-eslint/prefer-for-of"),
  ("prefer-object-spread", "prefer-object-spread"),
  ("prefer-template", "prefer-template"),
  ("promise-function-async", "@typescript-eslint/promise-function-async"),
  ("radix", "radix"),
  ("restrict-plus-operands", "@typescript-eslint/restrict-plus-operands"),
  ("unified-signatures", "@typescript-eslint/unified-signatures"),
  ("use-isnan", "use-isnan")]

def retiredRules : List String :=
  ["import-spacing", "no-reference-import"]

/-- Replaces a rule by another name, whatever its arguments. -/
def renamed (target : String) : Converter :=
  fun _ => .ok (.ofRule (.named target))

def retired : Converter :=
  fun _ => .ok .nothing

def renamings : ConverterRegistry :=
  renamedRules.map fun (source, target) => (source, renamed target)

def retirements : ConverterRegistry :=
  retiredRules.map fun source => (source, retired)

end Converter

end Relint
