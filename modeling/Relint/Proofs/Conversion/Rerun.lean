import Relint.Conversion.Config
import Relint.Proofs.Distinct
import Relint.Proofs.Conversion.Status
import Relint.Proofs.Rule.Map

/-!
Converting the same configuration again on top of what the first conversion wrote.
Reading the new configuration gives back its presets, plugins, globals and rules.
On top of these every target rule of the second conversion is one that is set
already, so it only adds what is there, in places that are taken, and the second
result is the first.
-/

namespace Relint

variable {registries : Registries} {settings : ConversionSettings} {tslint : TslintConfig}
  {before : Option EslintConfig} {c : ConfigConversion}

/-- The parts of the new configuration that a later conversion will read. -/
def ConfigConversion.toEslint (c : ConfigConversion) (settings : ConversionSettings)
    (before : Option EslintConfig) : EslintConfig where
  presets := c.presets settings before
  plugins := c.plugins before
  globals := before.bind (·.globals)
  rules := c.rules before

section Reading

/-- A configuration that was read has no globals rather than null for them. -/
theorem EslintConfig.globals_ne_null {root : Value} {e : EslintConfig}
    (h : EslintConfig.ofValue root = .ok e) : e.globals ≠ some .null := by
  unfold EslintConfig.ofValue at h
  split at h
  · rename_i fields
    cases hrules : EslintConfig.rulesOf fields with
    | error fault => simp [hrules, Except.map] at h
    | ok rules =>
        simp only [hrules, Except.map, Except.ok.injEq] at h
        rw [← h]
        intro hnull
        simpa using (Option.filter_eq_some_iff.mp hnull).2
  · cases h

/-- What is read from the new configuration are the parts it was put together from. -/
theorem ofValue_summarize (hglobals : before.bind (·.globals) ≠ some .null) :
    EslintConfig.ofValue (c.summarize settings before) = .ok (c.toEslint settings before) := by
  unfold ConfigConversion.toEslint ConfigConversion.summarize
  generalize c.presets settings before = presets
  generalize c.plugins before = plugins
  generalize c.rules before = rules
  cases hread : before.bind (·.globals) with
  | none =>
      cases presets <;> cases rules <;>
        simp [EslintConfig.ofValue, EslintConfig.rulesOf, EslintConfig.globalsOf, List.lookup_cons,
          Except.map]
  | some globals =>
      have hvalue : globals ≠ .null := by
        rintro rfl
        exact hglobals hread
      cases presets <;> cases rules <;>
        simp [EslintConfig.ofValue, EslintConfig.rulesOf, EslintConfig.globalsOf, List.lookup_cons,
          Except.map, hvalue, Option.filter]

/-- The new configuration is determined by the parts that can be read from it. -/
theorem summarize_eq_of_toEslint_eq {c' : ConfigConversion} {before' : Option EslintConfig}
    (h : c'.toEslint settings before' = c.toEslint settings before) :
    c'.summarize settings before' = c.summarize settings before := by
  simp only [ConfigConversion.toEslint, EslintConfig.mk.injEq] at h
  obtain ⟨hpresets, hplugins, hglobals, hrules⟩ := h
  simp only [ConfigConversion.summarize, hpresets, hplugins, hglobals, hrules]

end Reading

section Again

theorem presets_again {again : EslintConfig}
    (h : again.presets = (convertConfig registries settings tslint before).presets settings before) :
    (convertConfig registries settings tslint (some again)).presets settings (some again) =
      again.presets := by
  have hsame : (convertConfig registries settings tslint (some again)).results.presets =
      (convertConfig registries settings tslint before).results.presets := rfl
  rw [h]
  simp only [ConfigConversion.presets, Option.map_some, Option.getD_some, hsame, h,
    List.append_assoc]
  exact distinct_distinct_append _ _

theorem plugins_again {again : EslintConfig}
    (h : again.plugins = (convertConfig registries settings tslint before).plugins before) :
    (convertConfig registries settings tslint (some again)).plugins (some again) =
      again.plugins := by
  have hplugins : (convertConfig registries settings tslint (some again)).results.plugins =
      (convertConfig registries settings tslint before).results.plugins := rfl
  have hrules : (convertConfig registries settings tslint (some again)).passthroughRules =
      (convertConfig registries settings tslint before).passthroughRules := rfl
  rw [h]
  simp only [ConfigConversion.plugins, Option.map_some, Option.getD_some, hplugins, hrules, h,
    List.append_assoc]
  exact distinct_distinct_append _ _

/-- The rules of the new configuration are the existing ones, the converted ones and,
if anything has to be run as it is, the target rule for that. -/
theorem ConfigConversion.mem_keys_rules {name : String} :
    name ∈ Assoc.keys (c.rules before) ↔
      name ∈ Assoc.keys ((before.map (·.rules)).getD []) ∨ name ∈ c.results.converted.keys ∨
        (c.passthroughRules ≠ [] ∧ name = tslintRule) := by
  have hwritten : Assoc.keys (c.results.converted.toList.map fun entry =>
      (entry.1, entry.2.toEntry)) = c.results.converted.keys := by
    simp [Assoc.keys, RuleMap.keys, Function.comp_def]
  unfold ConfigConversion.rules
  cases hpassthrough : c.passthroughRules with
  | nil => simp [Assoc.mem_keys_insertAll, hwritten]
  | cons entry rest =>
      simp only [List.isEmpty_cons, Bool.false_eq_true, ↓reduceIte, Assoc.mem_keys_insert,
        Assoc.mem_keys_insertAll, hwritten]
      simp
      tauto

theorem converted_convertConfig (before : Option EslintConfig) :
    (convertConfig registries settings tslint before).results.converted =
      (convertRules registries settings tslint.rules
        ((before.map (·.rules)).getD [])).converted :=
  rfl

/-- Every target rule that was merged is set in the new configuration, be it by the
existing configuration or by the conversion. -/
theorem mem_keys_rules_of_merged (before : Option EslintConfig) {entry : String × RuleSettings}
    (h : entry ∈ (settledOf registries settings tslint.rules).rules.toList) :
    entry.1 ∈ Assoc.keys ((convertConfig registries settings tslint before).rules before) := by
  rw [ConfigConversion.mem_keys_rules]
  cases hset : Assoc.contains ((before.map (·.rules)).getD []) entry.1 with
  | true => exact Or.inl (Assoc.contains_iff_mem_keys.mp hset)
  | false =>
      refine Or.inr (Or.inl ?_)
      rw [converted_convertConfig, converted_convertRules, RuleMap.keys_eq, RuleMap.toList_ofList,
        Assoc.mem_keys_ofEntries]
      apply List.mem_map_of_mem
      rw [List.mem_filter]
      exact ⟨h, by simp [hset]⟩

/-- On top of the new configuration no target rule is left to be converted. -/
theorem converted_again {again : EslintConfig}
    (h : again.rules = (convertConfig registries settings tslint before).rules before) :
    (convertConfig registries settings tslint (some again)).results.converted = .empty := by
  have hnone : (settledOf registries settings tslint.rules).rules.toList.filter
      (fun entry => !Assoc.contains again.rules entry.1) = [] := by
    rw [List.filter_eq_nil_iff]
    intro entry hentry
    have hset := mem_keys_rules_of_merged before hentry
    rw [← h, ← Assoc.contains_iff_mem_keys] at hset
    simp [hset]
  rw [converted_convertConfig, converted_convertRules]
  simp only [Option.map_some, Option.getD_some]
  rw [hnone]
  rfl

theorem rules_again {again : EslintConfig}
    (h : again.rules = (convertConfig registries settings tslint before).rules before) :
    (convertConfig registries settings tslint (some again)).rules (some again) = again.rules := by
  have hpassthrough : (convertConfig registries settings tslint (some again)).passthroughRules =
      (convertConfig registries settings tslint before).passthroughRules := rfl
  have hempty : RuleMap.empty.toList = [] := rfl
  unfold ConfigConversion.rules
  rw [converted_again h, hpassthrough, hempty]
  simp only [Option.map_some, Option.getD_some, List.map_nil, Assoc.insertAll_nil]
  split
  · rfl
  · rename_i hsome
    rw [h, ConfigConversion.rules, if_neg hsome, Assoc.insert_insert_self]

end Again

/-- A conversion on top of its own result changes nothing: the new configuration can
be read, and converting the same source configuration with what was read as the
existing one gives the new configuration again, with all its fields, presets,
plugins and rules in the same order. The existing configuration of the first
conversion is one that was read, if there is any. -/
theorem summarize_again (registries : Registries) (settings : ConversionSettings)
    (tslint : TslintConfig) (before : Option EslintConfig)
    (hread : ∀ e, before = some e → ∃ root, EslintConfig.ofValue root = .ok e) :
    let written := (convertConfig registries settings tslint before).summarize settings before
    ∃ again, EslintConfig.ofValue written = .ok again ∧
      (convertConfig registries settings tslint (some again)).summarize settings (some again) =
        written := by
  intro written
  have hglobals : before.bind (·.globals) ≠ some .null := by
    cases before with
    | none => simp
    | some e =>
        obtain ⟨root, hroot⟩ := hread e rfl
        exact EslintConfig.globals_ne_null hroot
  refine ⟨_, ofValue_summarize hglobals, ?_⟩
  apply summarize_eq_of_toEslint_eq
  unfold ConfigConversion.toEslint
  congr 1
  · exact presets_again rfl
  · exact plugins_again rfl
  · exact rules_again rfl

/-- An existing configuration with a preset that is given twice and a rule that is
switched off. -/
def disputeRoot : Value :=
  .object [
    ("extends", .strings ["eslint:recommended", "eslint:recommended"]),
    ("globals", .object [("window", .bool true)]),
    ("rules", .object [("jsx-quotes", .string "off")])]

def disputeExisting : EslintConfig where
  presets := ["eslint:recommended", "eslint:recommended"]
  plugins := []
  globals := some (.object [("window", .bool true)])
  rules := [("jsx-quotes", .string "off")]

theorem dispute_summarize_again :
    EslintConfig.ofValue disputeRoot = .ok disputeExisting ∧
    let tslint : TslintConfig := ⟨["tslint:latest"], .error, disputeRules, []⟩
    let written := (convertConfig disputeRegistries disputeSettings tslint
      (some disputeExisting)).summarize disputeSettings (some disputeExisting)
    ∃ again, EslintConfig.ofValue written = .ok again ∧
      (convertConfig disputeRegistries disputeSettings tslint (some again)).summarize
        disputeSettings (some again) = written := by
  refine ⟨rfl, summarize_again _ _ _ (some disputeExisting) ?_⟩
  intro e he
  cases he
  exact ⟨disputeRoot, rfl⟩

end Relint
