import Relint.Converter.Basic

/-!
How a source rule is converted on its own, what can be said of every answer of a
converter, and which parts of a target rule its builders leave alone.
-/

namespace Relint

section Conversion

variable {converters : ConverterRegistry} {settings : ConversionSettings} {rule : SourceRule}

theorem convertRule_eq_converted_iff {c : Contribution} :
    convertRule converters settings rule = .converted c ↔
      ∃ convert answer, converters.lookup rule.name = some convert ∧
        convert ⟨rule.arguments, rule.severity, settings⟩ = .ok answer ∧
        c = answer.mapRules (·.resolve rule.severity) := by
  unfold convertRule
  cases hlookup : converters.lookup rule.name with
  | none => simp
  | some convert =>
      cases hanswer : convert ⟨rule.arguments, rule.severity, settings⟩ with
      | ok answer => simp [hanswer, eq_comm]
      | error reason => simp [hanswer]

theorem convertRule_eq_failed_iff {f : RuleFailure} :
    convertRule converters settings rule = .failed f ↔
      ∃ convert reason, converters.lookup rule.name = some convert ∧
        convert ⟨rule.arguments, rule.severity, settings⟩ = .error reason ∧
        f = .converterFailed rule.name reason := by
  unfold convertRule
  cases hlookup : converters.lookup rule.name with
  | none => simp
  | some convert =>
      cases hanswer : convert ⟨rule.arguments, rule.severity, settings⟩ with
      | ok answer => simp [hanswer]
      | error reason => simp [hanswer, eq_comm]

theorem convertRule_eq_missing_iff :
    convertRule converters settings rule = .missing ↔ converters.lookup rule.name = none := by
  unfold convertRule
  cases hlookup : converters.lookup rule.name with
  | none => simp
  | some convert =>
      cases hanswer : convert ⟨rule.arguments, rule.severity, settings⟩ <;> simp [hanswer]

end Conversion

/-- Every answer that is no refusal has the property. -/
def Answers (property : Contribution → Prop) (answer : Except String Contribution) : Prop :=
  ∀ c, answer = .ok c → property c

section Answers

variable {property : Contribution → Prop}

@[simp] theorem answers_error (reason : String) : Answers property (.error reason) := by
  intro c h
  cases h

@[simp] theorem answers_ok {c : Contribution} : Answers property (.ok c) ↔ property c := by
  constructor
  · intro h
    exact h c rfl
  · intro h c' hc'
    cases hc'
    exact h

/-- A refusal on the way to an answer is no answer. -/
theorem answers_bind {α : Type} {first : Except String α}
    {next : α → Except String Contribution} (h : ∀ a, Answers property (next a)) :
    Answers property (first >>= next) := by
  cases first with
  | error reason => exact answers_error reason
  | ok a => exact h a

theorem answers_map {α : Type} {first : Except String α} {next : α → Contribution}
    (h : ∀ a, property (next a)) : Answers property (first.map next) := by
  cases first with
  | error reason => exact answers_error reason
  | ok a => exact answers_ok.mpr (h a)

end Answers

section Builders

variable (t : TargetRule)

@[simp] theorem TargetRule.name_named (name : String) : (named name).name = name := rfl

@[simp] theorem TargetRule.severity_named (name : String) : (named name).severity = none := rfl

@[simp] theorem TargetRule.name_withArguments (arguments : List Value) :
    (t.withArguments arguments).name = t.name := rfl

@[simp] theorem TargetRule.severity_withArguments (arguments : List Value) :
    (t.withArguments arguments).severity = t.severity := rfl

@[simp] theorem TargetRule.name_withArgument (argument : Value) :
    (t.withArgument argument).name = t.name := rfl

@[simp] theorem TargetRule.severity_withArgument (argument : Value) :
    (t.withArgument argument).severity = t.severity := rfl

@[simp] theorem TargetRule.name_withOptions (options : Fields) :
    (t.withOptions options).name = t.name := by
  unfold withOptions
  split <;> rfl

@[simp] theorem TargetRule.severity_withOptions (options : Fields) :
    (t.withOptions options).severity = t.severity := by
  unfold withOptions
  split <;> rfl

@[simp] theorem TargetRule.name_withSeverity (severity : Severity) :
    (t.withSeverity severity).name = t.name := rfl

@[simp] theorem TargetRule.severity_withSeverity (severity : Severity) :
    (t.withSeverity severity).severity = some severity := rfl

@[simp] theorem TargetRule.name_withNotice (notice : String) :
    (t.withNotice notice).name = t.name := rfl

@[simp] theorem TargetRule.severity_withNotice (notice : String) :
    (t.withNotice notice).severity = t.severity := rfl

@[simp] theorem TargetRule.name_withNoticeIf (condition : Bool) (notice : String) :
    (t.withNoticeIf condition notice).name = t.name := by
  cases condition <;> rfl

@[simp] theorem TargetRule.severity_withNoticeIf (condition : Bool) (notice : String) :
    (t.withNoticeIf condition notice).severity = t.severity := by
  cases condition <;> rfl

end Builders

end Relint
