import Relint.Converter.Basic

/-!
Rules that set a greatest number: of branches, of classes and of lines.
-/

namespace Relint

namespace Converter

/-- A target rule with the first number of the arguments, if there is one. -/
def limited (target : String) : Converter := fun ctx =>
  let rule := TargetRule.named target
  match ctx.number? with
  | some limit => .ok (.ofRule (rule.withArgument limit))
  | none => .ok (.ofRule rule)

/-- The greatest number of classes in a file, which must be given. -/
def maxClassesPerFile : Converter := fun ctx =>
  match ctx.number? with
  | none => .error "A maximum number of classes is required."
  | some limit =>
      .ok (.ofRule (((TargetRule.named "max-classes-per-file").withArgument limit).withNoticeIf
        (ctx.hasFlag "exclude-class-expressions")
        (unsupportedOption "exclude-class-expressions")))

def limits : ConverterRegistry := [
  ("cyclomatic-complexity", limited "complexity"),
  ("max-classes-per-file", maxClassesPerFile),
  ("max-file-line-count", limited "max-lines")]

end Converter

end Relint
