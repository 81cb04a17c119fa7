import Relint.Proofs.Conversion.Existing

/-!
No rule that is switched on disappears. A source rule is reported to have failed, or it
is run as it is under the one target rule for that, or every target that it proposed is
set in the new configuration, to what the existing configuration says or else to what
was merged. Which of the three it is follows from the final status of the rule.
-/

namespace Relint

variable {registries : Registries} {settings : ConversionSettings} {tslint : TslintConfig}
  {before : Option EslintConfig} {rule : SourceRule}

/-- These rules of a configuration run a source rule as it is: the second item of the
entry for that lists it, with true where it has no arguments, and otherwise with its
arguments. -/
def RunsAsIs (rules : Fields) (rule : SourceRule) : Prop :=
  ∃ items options listed, rules.lookup tslintRule = some (.array items) ∧
    items[1]? = some options ∧ options.field? "rules" = some (.object listed) ∧
    listed.lookup rule.name =
      some (if rule.arguments.isEmpty then .bool true else .array rule.arguments)

/-- These rules of a configuration set a target rule, to the existing value if there is
one and otherwise to the merged settings. -/
def SetsTarget (rules existing : Fields) (merged : RuleMap) (target : String) : Prop :=
  match existing.lookup target with
  | some value => rules.lookup target = some value
  | none => ∃ s, merged.get? target = some s ∧ rules.lookup target = some s.toEntry

/-- How a conversion and the new configuration that comes of it account for a source
rule that ended in one of the three ways. The target rule for what is run as it is may
be proposed too, but then it has no value of its own. -/
def Accounts (registries : Registries) (settings : ConversionSettings) (tslint : TslintConfig)
    (before : Option EslintConfig) (rule : SourceRule) (status : RuleStatus) : Prop :=
  let c := convertConfig registries settings tslint before
  let rules := EslintConfig.rulesIn (c.summarize settings before)
  match status with
  | .failed => rule.name ∈ c.results.failed.map (·.rule)
  | .missing => rule ∈ c.results.missing ∧ RunsAsIs rules rule
  | .converted => c.results.statusOf rule.name = some .converted ∧
      ∃ contribution, convertRule registries.converters settings rule = .converted contribution ∧
        ∀ t ∈ contribution.rules, t.name ≠ tslintRule →
          SetsTarget rules (existingRules before)
            (settledOf registries settings tslint.rules).rules t.name

namespace ConfigConversion

/-- Rules without converter have the names they had. -/
theorem nodup_missing (before : Option EslintConfig)
    (hdistinct : (tslint.rules.map (·.name)).Nodup) :
    ((convertConfig registries settings tslint before).results.missing.map (·.name)).Nodup := by
  have hmissing : (convertConfig registries settings tslint before).results.missing =
      (conversionsOf registries settings tslint.rules).filterMap (·.missing?) := rfl
  rw [hmissing]
  refine (names_filterMap_sublist ?_).nodup (nodup_conversionsOf registries settings hdistinct)
  intro r _ rule hrule
  rw [(ConvertedRule.missing?_eq_some_iff.mp hrule).2]

theorem lookup_passthroughRules {c : ConfigConversion}
    (hnodup : (c.results.missing.map (·.name)).Nodup) (hmissing : rule ∈ c.results.missing)
    (hon : rule.severity ≠ .off) :
    c.passthroughRules.lookup rule.name =
      some (if rule.arguments.isEmpty then .bool true else .array rule.arguments) := by
  have hkeys : (Assoc.keys ((c.results.missing.filter (·.severity != .off)).map fun rule =>
      (rule.name, if rule.arguments.isEmpty then Value.bool true
        else .array rule.arguments))).Nodup := by
    rw [Assoc.keys, List.map_map]
    exact (List.filter_sublist.map _).nodup hnodup
  rw [passthroughRules, Assoc.ofEntries_of_nodup hkeys, Assoc.lookup_eq_some_iff_mem hkeys]
  exact List.mem_map_of_mem (List.mem_filter.mpr ⟨hmissing, by simp [hon]⟩)

/-- A rule without converter that is switched on is run as it is. -/
theorem runsAsIs_of_missing (before : Option EslintConfig)
    (hdistinct : (tslint.rules.map (·.name)).Nodup)
    (hmissing : rule ∈ (convertConfig registries settings tslint before).results.missing)
    (hon : rule.severity ≠ .off) :
    RunsAsIs ((convertConfig registries settings tslint before).rules before) rule := by
  have hlisted := lookup_passthroughRules (nodup_missing before hdistinct) hmissing hon
  have hsome : ¬(convertConfig registries settings tslint before).passthroughRules.isEmpty := by
    intro hempty
    rw [List.isEmpty_iff.mp hempty] at hlisted
    cases hlisted
  have hentry : ((convertConfig registries settings tslint before).rules before).lookup tslintRule =
      some (convertConfig registries settings tslint before).passthroughEntry := by
    rw [rules_convertConfig, if_neg hsome]
    exact Assoc.lookup_insert_self _ _ _
  exact ⟨_, _, _, hentry, rfl, rfl, hlisted⟩

/-- Under every other name the new configuration has the existing value or else the
converted one. -/
theorem lookup_rules_of_ne (before : Option EslintConfig) {target : String}
    (hother : target ≠ tslintRule) :
    ((convertConfig registries settings tslint before).rules before).lookup target =
      ((existingRules before).lookup target).or
        ((convertConfig registries settings tslint before).convertedEntries.lookup target) := by
  rw [rules_convertConfig, ← List.lookup_append]
  split
  · rfl
  · exact Assoc.lookup_insert_of_ne hother

theorem lookup_convertedEntries (before : Option EslintConfig) {target : String}
    (hnew : (existingRules before).lookup target = none) :
    (convertConfig registries settings tslint before).convertedEntries.lookup target =
      ((settledOf registries settings tslint.rules).rules.get? target).map
        RuleSettings.toEntry := by
  have hconverted : (convertConfig registries settings tslint before).results.converted.toList =
      (settledOf registries settings tslint.rules).rules.toList.filter
        fun entry => !Assoc.contains (existingRules before) entry.1 :=
    toList_converted (existingRules before)
  have hkept : (!Assoc.contains (existingRules before) target) = true := by
    simp [Assoc.contains, hnew]
  rw [convertedEntries, Assoc.lookup_map_snd, hconverted,
    Assoc.lookup_filter_key fun name => !Assoc.contains (existingRules before) name,
    if_pos hkept, get?_settledOf]

/-- Every target that was merged is set in the new configuration. -/
theorem setsTarget_of_merged (before : Option EslintConfig) {target : String}
    (hmerged : target ∈ (settledOf registries settings tslint.rules).rules.keys)
    (hother : target ≠ tslintRule) :
    SetsTarget ((convertConfig registries settings tslint before).rules before)
      (existingRules before) (settledOf registries settings tslint.rules).rules target := by
  unfold SetsTarget
  rw [lookup_rules_of_ne before hother]
  split
  · rename_i value hvalue
    rw [hvalue, Option.some_or]
  · rename_i hnew
    rw [hnew, Option.none_or, lookup_convertedEntries before hnew, get?_settledOf]
    cases hlookup : (settledOf registries settings tslint.rules).rules.toList.lookup target with
    | none => exact absurd hmerged (Assoc.lookup_eq_none_iff_not_mem_keys.mp hlookup)
    | some s => exact ⟨s, rfl, rfl⟩

end ConfigConversion

/-- What a rule of a configuration with different names ends as is its own final
status. -/
theorem endsAs_iff_finalStatus (hdistinct : (tslint.rules.map (·.name)).Nodup)
    (hrule : rule ∈ tslint.rules) {status : RuleStatus} :
    EndsAs registries settings tslint.rules rule.name status ↔
      ConvertedRule.finalStatus (settledOf registries settings tslint.rules).failed
        (rule, convertRule registries.converters settings rule) = status := by
  have hmem := mem_conversionsOf registries settings hrule
  constructor
  · rintro ⟨r, hr, hname, hstatus⟩
    rwa [eq_of_name_eq hdistinct hr hmem hname] at hstatus
  · exact fun hstatus => ⟨_, hmem, rfl, hstatus⟩

/-- Whatever accounts for a rule tells how it ended. -/
theorem Accounts.endsAs (hdistinct : (tslint.rules.map (·.name)).Nodup)
    (hrule : rule ∈ tslint.rules) {status : RuleStatus}
    (h : Accounts registries settings tslint before rule status) :
    EndsAs registries settings tslint.rules rule.name status := by
  cases status with
  | failed =>
      have hfailed : rule.name ∈ (convertRules registries settings tslint.rules
          (existingRules before)).failed.map (·.rule) := h
      exact endsAs_failed_iff.mp hfailed
  | missing =>
      have hmissing : rule ∈ (convertRules registries settings tslint.rules
          (existingRules before)).missing := h.1
      exact (endsAs_missing_iff hdistinct).mp (List.mem_map_of_mem hmissing)
  | converted =>
      have hconverted : (convertRules registries settings tslint.rules
          (existingRules before)).statusOf rule.name = some .converted := h.1
      exact (statusOf_convertRules_iff hdistinct (List.mem_map_of_mem hrule)).mp hconverted

/-- However a rule that is switched on ended, it is accounted for. -/
theorem accounts_of_endsAs (before : Option EslintConfig)
    (hdistinct : (tslint.rules.map (·.name)).Nodup) (hrule : rule ∈ tslint.rules)
    (hon : rule.severity ≠ .off) {status : RuleStatus}
    (h : EndsAs registries settings tslint.rules rule.name status) :
    Accounts registries settings tslint before rule status := by
  have hmem := mem_conversionsOf registries settings hrule
  have hstatus := (endsAs_iff_finalStatus hdistinct hrule).mp h
  cases status with
  | failed =>
      have hfailed : rule.name ∈ (convertRules registries settings tslint.rules
          (existingRules before)).failed.map (·.rule) := endsAs_failed_iff.mpr h
      exact hfailed
  | missing =>
      have hnone : convertRule registries.converters settings rule = .missing :=
        (finalStatus_eq_missing_iff hdistinct hmem).mp hstatus
      rw [hnone] at hmem
      have hmissing : rule ∈ (convertRules registries settings tslint.rules
          (existingRules before)).missing := mem_missing_iff.mpr hmem
      refine ⟨hmissing, ?_⟩
      rw [ConfigConversion.rulesIn_summarize]
      exact ConfigConversion.runsAsIs_of_missing before hdistinct hmissing hon
  | converted =>
      obtain ⟨⟨contribution, hcontribution⟩, hkept⟩ := (finalStatus_eq_converted_iff _).mp hstatus
      have hconverted : (convertRules registries settings tslint.rules
          (existingRules before)).statusOf rule.name = some .converted :=
        (statusOf_convertRules_iff hdistinct (List.mem_map_of_mem hrule)).mpr h
      refine ⟨hconverted, contribution, hcontribution, ?_⟩
      intro t ht hother
      rw [ConfigConversion.rulesIn_summarize]
      apply ConfigConversion.setsTarget_of_merged before _ hother
      exact mem_keys_settledOf hmem hkept hcontribution ht

/-- Every rule that is switched on is accounted for in exactly one of three ways: its
failure is reported, or it is run as it is, or all its targets are set. -/
theorem accounts_unique (registries : Registries) (settings : ConversionSettings)
    (tslint : TslintConfig) (before : Option EslintConfig) (rule : SourceRule)
    (hdistinct : (tslint.rules.map (·.name)).Nodup) (hrule : rule ∈ tslint.rules)
    (hon : rule.severity ≠ .off) :
    ∃! status, Accounts registries settings tslint before rule status := by
  have hended : EndsAs registries settings tslint.rules rule.name
      (ConvertedRule.finalStatus (settledOf registries settings tslint.rules).failed
        (rule, convertRule registries.converters settings rule)) :=
    (endsAs_iff_finalStatus hdistinct hrule).mpr rfl
  refine ⟨_, accounts_of_endsAs before hdistinct hrule hon hended, ?_⟩
  intro status hstatus
  exact EndsAs.unique hdistinct (hstatus.endsAs hdistinct hrule) hended

/-- The rule without converter of the dispute is run as it is, also where the existing
configuration says otherwise. -/
theorem dispute_accounts_unique :
    let tslint : TslintConfig := ⟨[], .error, disputeRules, []⟩
    let rule : SourceRule := ⟨"whitespace", [], .warn⟩
    (tslint.rules.map (·.name)).Nodup ∧ rule ∈ tslint.rules ∧ rule.severity ≠ .off ∧
      ∃! status, Accounts disputeRegistries disputeSettings tslint (some tslintRuleOff) rule
        status := by
  intro tslint rule
  have hrule : rule ∈ tslint.rules := by decide
  refine ⟨by decide, hrule, by decide, ?_⟩
  exact accounts_unique disputeRegistries disputeSettings tslint (some tslintRuleOff) rule
    (by decide) hrule (by decide)

end Relint
