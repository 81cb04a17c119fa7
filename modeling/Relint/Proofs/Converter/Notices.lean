import Relint.Proofs.Converter.Settings

/-!
Converters and notices. Notices tell the reader something and have no other use, so two
answers of a converter mean the same if they are equal once their notices are erased. Type
information, or the lack of it, makes no other difference to a built-in converter.
-/

namespace Relint

def TargetRule.withoutNotices (t : TargetRule) : TargetRule :=
  ⟨t.name, t.arguments, t.severity, []⟩

@[simp] theorem TargetRule.withoutNotices_withNotice (t : TargetRule) (notice : String) :
    (t.withNotice notice).withoutNotices = t.withoutNotices :=
  rfl

namespace Contribution

def withoutNotices (c : Contribution) : Contribution :=
  c.mapRules TargetRule.withoutNotices

@[simp] theorem withoutNotices_withNotice (c : Contribution) (notice : String) :
    (c.mapRules (·.withNotice notice)).withoutNotices = c.withoutNotices := by
  simp [withoutNotices, mapRules, Function.comp_def]

/-- Severities are filled in without regard to notices. -/
theorem withoutNotices_resolve (c : Contribution) (severity : Severity) :
    (c.mapRules (·.resolve severity)).withoutNotices =
      c.withoutNotices.mapRules (·.resolve severity) := by
  simp [withoutNotices, mapRules, TargetRule.resolve, TargetRule.withoutNotices,
    Function.comp_def]

end Contribution

def RuleConversion.withoutNotices : RuleConversion → RuleConversion
  | .converted c => .converted c.withoutNotices
  | .failed f => .failed f
  | .missing => .missing

/-- The conversion of a rule without its notices, read off the answer of the converter without
its notices. -/
theorem withoutNotices_convertRule {converters : ConverterRegistry} {rule : SourceRule}
    {convert : Converter} (settings : ConversionSettings)
    (h : converters.lookup rule.name = some convert) :
    (convertRule converters settings rule).withoutNotices =
      match (convert ⟨rule.arguments, rule.severity, settings⟩).map
        Contribution.withoutNotices with
      | .ok c => .converted (c.mapRules (·.resolve rule.severity))
      | .error reason => .failed (.converterFailed rule.name reason) := by
  simp only [convertRule, h]
  cases convert ⟨rule.arguments, rule.severity, settings⟩ with
  | ok c => simp [RuleConversion.withoutNotices, Except.map, Contribution.withoutNotices_resolve]
  | error reason => rfl

namespace Converter

theorem withoutNotices_typeAware (convert : Converter) (ctx : Context) :
    (typeAware convert ctx).map Contribution.withoutNotices =
      (convert ctx).map Contribution.withoutNotices := by
  unfold typeAware
  cases convert ctx with
  | error reason => rfl
  | ok c =>
      simp only [Except.map]
      split
      · rfl
      · rw [Contribution.withoutNotices_withNotice]

/-- What a built-in converter answers with type information it answers without, up to
notices. -/
theorem withoutNotices_builtin {source : String} {convert : Converter}
    (h : (source, convert) ∈ ConverterRegistry.builtin) (arguments : List Value)
    (severity : Severity) (prettier : Bool) :
    (convert ⟨arguments, severity, ⟨prettier, true⟩⟩).map Contribution.withoutNotices =
      (convert ⟨arguments, severity, ⟨prettier, false⟩⟩).map Contribution.withoutNotices := by
  rcases settings_of_mem_builtin h with
    hplain | ⟨_, inner, hinner, rfl⟩ | ⟨inner, hinner, rfl⟩
  · rw [hplain arguments severity ⟨prettier, true⟩ ⟨prettier, false⟩]
  · simp only [unlessPrettier]
    rw [hinner arguments severity ⟨prettier, true⟩ ⟨prettier, false⟩]
  · rw [withoutNotices_typeAware, withoutNotices_typeAware,
      hinner arguments severity ⟨prettier, true⟩ ⟨prettier, false⟩]

end Converter

/-- A source rule is converted to the same with and without type information, up to
notices. -/
theorem withoutNotices_convertRule_builtin (prettier : Bool) (rule : SourceRule) :
    (convertRule .builtin ⟨prettier, true⟩ rule).withoutNotices =
      (convertRule .builtin ⟨prettier, false⟩ rule).withoutNotices := by
  cases hlookup : ConverterRegistry.builtin.lookup rule.name with
  | none => simp [convertRule, hlookup]
  | some convert =>
      rw [withoutNotices_convertRule _ hlookup, withoutNotices_convertRule _ hlookup,
        Converter.withoutNotices_builtin (Assoc.mem_of_lookup hlookup)]

/-- The notices themselves do differ. -/
example : convertRule .builtin ⟨false, true⟩ ⟨"await-promise", [], .error⟩ ≠
    convertRule .builtin ⟨false, false⟩ ⟨"await-promise", [], .error⟩ := by
  decide +kernel

end Relint
