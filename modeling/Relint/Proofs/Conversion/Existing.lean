import Relint.Converter.Builtin
import Relint.Merge.Builtin
import Relint.Proofs.Conversion.Rerun
import Relint.Proofs.Conversion.Targets

/-!
What a conversion leaves of the existing rules. The new configuration begins with
them, and the converted rules come behind them, because none has a name that is taken.
Only the entry for the rules that are run as they are asks nobody: it replaces what the
existing configuration says about that one target rule.
-/

namespace Relint

variable {registries : Registries} {settings : ConversionSettings} {tslint : TslintConfig}
  {before : Option EslintConfig} {c : ConfigConversion}

/-- The rules that the value of a configuration sets; none where it has no such field. -/
def EslintConfig.rulesIn (config : Value) : Fields :=
  ((config.field? "rules").bind Value.object?).getD []

/-- The rules of an existing configuration, if there is one. -/
def existingRules (before : Option EslintConfig) : Fields :=
  (before.map (·.rules)).getD []

namespace ConfigConversion

/-- The converted rules as entries of a configuration. -/
def convertedEntries (c : ConfigConversion) : Fields :=
  c.results.converted.toList.map fun entry => (entry.1, entry.2.toEntry)

/-- The entry for the rules that are run as they are. -/
def passthroughEntry (c : ConfigConversion) : Value :=
  .array [Severity.error.toValue, .object [("rules", .object c.passthroughRules)]]

theorem rulesIn_summarize (c : ConfigConversion) (settings : ConversionSettings)
    (before : Option EslintConfig) :
    EslintConfig.rulesIn (c.summarize settings before) = c.rules before := by
  unfold EslintConfig.rulesIn summarize
  generalize c.presets settings before = presets
  generalize c.plugins before = plugins
  generalize c.rules before = rules
  cases presets <;> cases before.bind (·.globals) <;> cases rules <;>
    simp [Value.field?, Value.object?, List.lookup_cons]

theorem keys_convertedEntries : Assoc.keys c.convertedEntries = c.results.converted.keys := by
  simp [convertedEntries, Assoc.keys, RuleMap.keys, Function.comp_def]

/-- The entry for what is run as it is is written into the existing rules with the
converted ones behind them. -/
theorem rules_convertConfig (registries : Registries) (settings : ConversionSettings)
    (tslint : TslintConfig) (before : Option EslintConfig) :
    let c := convertConfig registries settings tslint before
    c.rules before =
      if c.passthroughRules.isEmpty then existingRules before ++ c.convertedEntries
      else Assoc.insert tslintRule c.passthroughEntry
        (existingRules before ++ c.convertedEntries) := by
  intro c
  have hkeys : Assoc.keys c.convertedEntries =
      (settledOf registries settings tslint.rules).rules.keys.filter
        (!Assoc.contains (existingRules before) ·) := by
    rw [keys_convertedEntries]
    exact keys_converted _
  have hfresh : (Assoc.keys c.convertedEntries).Disjoint (Assoc.keys (existingRules before)) := by
    intro name hnew hold
    rw [hkeys, List.mem_filter] at hnew
    simp [Assoc.contains_iff_mem_keys.mpr hold] at hnew
  have hnodup : (Assoc.keys c.convertedEntries).Nodup := by
    rw [hkeys]
    exact nodup_keys_settledOf.filter _
  rw [← Assoc.insertAll_of_disjoint hfresh hnodup]
  rfl

/-- No rule is run as it is when those without converter are all switched off. -/
theorem passthroughRules_eq_nil_iff :
    c.passthroughRules = [] ↔ ∀ rule ∈ c.results.missing, rule.severity = .off := by
  rw [passthroughRules, Assoc.ofEntries_eq_nil_iff, List.map_eq_nil_iff, List.filter_eq_nil_iff]
  simp

theorem keys_rules_prefix (registries : Registries) (settings : ConversionSettings)
    (tslint : TslintConfig) (before : Option EslintConfig) :
    Assoc.keys (existingRules before) <+:
      Assoc.keys ((convertConfig registries settings tslint before).rules before) := by
  rw [rules_convertConfig]
  split
  · rw [Assoc.keys_append]
    exact List.prefix_append _ _
  · rw [Assoc.keys_insert]
    split
    · rw [Assoc.keys_append]
      exact List.prefix_append _ _
    · rw [Assoc.keys_append, List.append_assoc]
      exact List.prefix_append _ _

/-- Nothing but the entry for what is run as it is can be replaced. -/
theorem existing_sublist_rules (registries : Registries) (settings : ConversionSettings)
    (tslint : TslintConfig) (before : Option EslintConfig) :
    ((existingRules before).filter (·.1 != tslintRule)).Sublist
      ((convertConfig registries settings tslint before).rules before) := by
  have hwritten : ((existingRules before).filter (·.1 != tslintRule)).Sublist
      ((existingRules before ++
        (convertConfig registries settings tslint before).convertedEntries).filter
          (·.1 != tslintRule)) :=
    (List.sublist_append_left _ _).filter _
  rw [rules_convertConfig]
  split
  · exact hwritten.trans List.filter_sublist
  · refine hwritten.trans ?_
    rw [← Assoc.filter_insert_ne tslintRule
      (convertConfig registries settings tslint before).passthroughEntry]
    exact List.filter_sublist

/-- All existing entries stand in front as they were exactly when the entry for what is
run as it is, if it is written at all, is new or says what is there already. -/
theorem existing_prefix_rules_iff (registries : Registries) (settings : ConversionSettings)
    (tslint : TslintConfig) (before : Option EslintConfig) :
    let c := convertConfig registries settings tslint before
    existingRules before <+: c.rules before ↔
      c.passthroughRules = [] ∨ (existingRules before).lookup tslintRule = none ∨
        (existingRules before).lookup tslintRule = some c.passthroughEntry := by
  intro c
  rw [rules_convertConfig]
  split
  · rename_i hnone
    exact iff_of_true (List.prefix_append _ _) (Or.inl (List.isEmpty_iff.mp hnone))
  · rename_i hsome
    have hpassthrough : c.passthroughRules ≠ [] := by simpa using hsome
    rw [Assoc.insert_append, ← Assoc.insert_eq_self_iff, Assoc.lookup_eq_none_iff_not_mem_keys]
    by_cases hmem : tslintRule ∈ Assoc.keys (existingRules before)
    · have hlength : (Assoc.insert tslintRule c.passthroughEntry (existingRules before)).length =
          (existingRules before).length := Assoc.length_insert_of_mem hmem
      rw [if_pos hmem]
      simp only [hpassthrough, hmem, not_true_eq_false, false_or]
      constructor
      · rintro ⟨more, hmore⟩
        exact (List.append_inj_left hmore hlength.symm).symm
      · intro hsame
        rw [hsame]
        exact List.prefix_append _ _
    · rw [if_neg hmem]
      simp [hmem]

end ConfigConversion

/-- The new configuration has the names of the existing rules in front, in their order,
and the existing values under all of them but one. Whether that one is kept as well
depends on the rules without converter: if one of them is switched on, the entry that
runs it takes the place of an existing entry, unless that is the same. -/
theorem existing_rules_kept (registries : Registries) (settings : ConversionSettings)
    (tslint : TslintConfig) (existing : EslintConfig) :
    let c := convertConfig registries settings tslint (some existing)
    let rules := EslintConfig.rulesIn (c.summarize settings (some existing))
    Assoc.keys existing.rules <+: Assoc.keys rules ∧
      (existing.rules.filter (·.1 != tslintRule)).Sublist rules ∧
      (existing.rules <+: rules ↔
        (∀ rule ∈ c.results.missing, rule.severity = .off) ∨
          existing.rules.lookup tslintRule = none ∨
          existing.rules.lookup tslintRule = some c.passthroughEntry) := by
  intro c rules
  have hrules : rules = c.rules (some existing) := ConfigConversion.rulesIn_summarize ..
  rw [hrules, ← ConfigConversion.passthroughRules_eq_nil_iff]
  refine ⟨?_, ?_, ?_⟩
  · exact ConfigConversion.keys_rules_prefix registries settings tslint (some existing)
  · exact ConfigConversion.existing_sublist_rules registries settings tslint (some existing)
  · exact ConfigConversion.existing_prefix_rules_iff registries settings tslint (some existing)

/-- An existing configuration that switches off what runs TSLint rules. -/
def tslintRuleOff : EslintConfig where
  presets := []
  plugins := []
  globals := none
  rules := [(tslintRule, .string "off")]

/-- A rule without converter is enough to lose what the existing configuration says
about running TSLint rules. -/
theorem existing_tslintRule_replaced :
    let tslint : TslintConfig := ⟨[], .error, [⟨"some-unknown-rule", [], .error⟩], []⟩
    let c := convertConfig ⟨.builtin, .builtin⟩ disputeSettings tslint (some tslintRuleOff)
    let rules := EslintConfig.rulesIn (c.summarize disputeSettings (some tslintRuleOff))
    (tslintRule, Value.string "off") ∈ tslintRuleOff.rules ∧
      (tslintRule, Value.string "off") ∉ rules ∧
      rules = [(tslintRule, .array [.string "error",
        .object [("rules", .object [("some-unknown-rule", .bool true)])]])] := by
  decide +kernel

end Relint
