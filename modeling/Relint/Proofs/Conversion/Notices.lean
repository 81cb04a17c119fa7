import Relint.Conversion.Config
import Relint.Merge.Builtin
import Relint.Proofs.Conversion.Targets
import Relint.Proofs.Converter.Notices
import Relint.Proofs.Merge.Notices

/-!
Notices and type information in whole conversions. What becomes of source rules, which
target rules come of them and the new configuration are read off the conversions of the
rules without their notices. Type information changes notices only, so that the new
configuration is the same whether or not it is at hand.
-/

namespace Relint

variable {registries : Registries} {settings settings' : ConversionSettings}
  {rules : List SourceRule} {existing : Fields}

namespace ConvertedRule

def withoutNotices (r : ConvertedRule) : ConvertedRule :=
  (r.1, r.2.withoutNotices)

theorem proposals_withoutNotices (r : ConvertedRule) :
    r.withoutNotices.proposals = r.proposals.map Proposal.withoutNotices := by
  obtain ⟨rule, conversion⟩ := r
  cases conversion with
  | converted c =>
      simp [proposals, contribution?, withoutNotices, RuleConversion.withoutNotices,
        Contribution.withoutNotices, Contribution.mapRules, TargetRule.withoutNotices,
        Proposal.withoutNotices, Function.comp_def]
  | failed f => rfl
  | missing => rfl

theorem failure?_withoutNotices (r : ConvertedRule) : r.withoutNotices.failure? = r.failure? := by
  obtain ⟨rule, conversion⟩ := r
  cases conversion <;> rfl

theorem missing?_withoutNotices (r : ConvertedRule) : r.withoutNotices.missing? = r.missing? := by
  obtain ⟨rule, conversion⟩ := r
  cases conversion <;> rfl

theorem outcome_withoutNotices (r : ConvertedRule) : r.withoutNotices.outcome = r.outcome := by
  obtain ⟨rule, conversion⟩ := r
  cases conversion <;> rfl

end ConvertedRule

namespace NamedContribution

def withoutNotices (c : NamedContribution) : NamedContribution :=
  ⟨c.rule, c.contribution.withoutNotices⟩

theorem ofConverted?_withoutNotices (r : ConvertedRule) :
    ofConverted? r.withoutNotices = (ofConverted? r).map withoutNotices := by
  obtain ⟨rule, conversion⟩ := r
  cases conversion <;> rfl

theorem equivalent_withoutNotices (c : NamedContribution) :
    c.withoutNotices.equivalent = c.equivalent := by
  simp [equivalent, withoutNotices, Contribution.withoutNotices, Contribution.mapRules,
    TargetRule.withoutNotices, Function.comp_def]

end NamedContribution

section Parts

theorem settle_conversions_withoutNotices (mergers : MergerRegistry)
    (conversions : List ConvertedRule) :
    settle mergers ((conversions.map ConvertedRule.withoutNotices).flatMap (·.proposals)) =
      (settle mergers (conversions.flatMap (·.proposals))).withoutNotices := by
  rw [← settle_withoutNotices, List.flatMap_map, List.map_flatMap]
  simp only [ConvertedRule.proposals_withoutNotices]

theorem contributionsOf_withoutNotices (outcomes : List RuleOutcome)
    (conversions : List ConvertedRule) :
    contributionsOf outcomes (conversions.map ConvertedRule.withoutNotices) =
      (contributionsOf outcomes conversions).map NamedContribution.withoutNotices := by
  rw [contributionsOf, List.filterMap_map, contributionsOf]
  have hcontributions : (conversions.filterMap
      (NamedContribution.ofConverted? ∘ ConvertedRule.withoutNotices)) =
        (conversions.filterMap NamedContribution.ofConverted?).map
          NamedContribution.withoutNotices := by
    rw [List.map_filterMap]
    congr 1
    funext r
    exact NamedContribution.ofConverted?_withoutNotices r
  rw [hcontributions, List.filter_map]
  rfl

end Parts

def RuleConflict.withoutNotices (c : RuleConflict) : RuleConflict :=
  ⟨c.rule, c.existing, c.proposed.withoutNotices⟩

/-- Everything but the notices of the converted rules and of the conflicts. -/
def ConversionResults.withoutNotices (results : ConversionResults) : ConversionResults :=
  { results with
    converted := results.converted.withoutNotices
    conflicts := results.conflicts.map RuleConflict.withoutNotices }

section Results

theorem converted_withoutNotices (existing : Fields) :
    (convertRules registries settings rules existing).converted.withoutNotices =
      .ofList ((settledOf registries settings rules).withoutNotices.rules.toList.filter
        fun entry => !Assoc.contains existing entry.1) := by
  rw [converted_convertRules, ← RuleMap.ofList_withoutNotices, Merged.withoutNotices,
    RuleMap.toList_withoutNotices, List.filter_map]
  rfl

theorem conflicts_withoutNotices (existing : Fields) :
    (convertRules registries settings rules existing).conflicts.map RuleConflict.withoutNotices =
      (settledOf registries settings rules).withoutNotices.rules.toList.filterMap
        (conflict? existing) := by
  rw [conflicts_convertRules, Merged.withoutNotices, RuleMap.toList_withoutNotices,
    List.filterMap_map, List.map_filterMap]
  congr 1
  funext entry
  simp only [conflict?, Option.map_map, Function.comp_def]
  rfl

variable (hconversions : (conversionsOf registries settings rules).map
  ConvertedRule.withoutNotices =
    (conversionsOf registries settings' rules).map ConvertedRule.withoutNotices)

/-- What is read off conversions without regard to notices is the same. -/
theorem filterMap_eq_of_withoutNotices {α : Type} {f : ConvertedRule → Option α}
    (hf : ∀ r, f r.withoutNotices = f r) {first second : List ConvertedRule}
    (h : first.map ConvertedRule.withoutNotices = second.map ConvertedRule.withoutNotices) :
    first.filterMap f = second.filterMap f := by
  have hread : ∀ conversions : List ConvertedRule,
      (conversions.map ConvertedRule.withoutNotices).filterMap f = conversions.filterMap f := by
    intro conversions
    simp only [List.filterMap_map, Function.comp_def, hf]
  rw [← hread first, h, hread second]

include hconversions in
theorem settledOf_eq_of_withoutNotices :
    (settledOf registries settings rules).withoutNotices =
      (settledOf registries settings' rules).withoutNotices := by
  rw [settledOf, settledOf, ← settle_conversions_withoutNotices,
    ← settle_conversions_withoutNotices, hconversions]

include hconversions in
theorem lost_eq_of_withoutNotices :
    (settledOf registries settings rules).failed =
      (settledOf registries settings' rules).failed := by
  have hfailed := congrArg Merged.failed (settledOf_eq_of_withoutNotices hconversions)
  exact hfailed

include hconversions in
theorem outcomes_eq_of_withoutNotices (existing : Fields) :
    (convertRules registries settings rules existing).outcomes =
      (convertRules registries settings' rules existing).outcomes := by
  have hown : ∀ conversions : List ConvertedRule,
      (conversions.map ConvertedRule.withoutNotices).map (·.outcome) =
        conversions.map (·.outcome) := by
    intro conversions
    simp only [List.map_map, Function.comp_def, ConvertedRule.outcome_withoutNotices]
  rw [outcomes_eq_markAllFailed, outcomes_eq_markAllFailed,
    lost_eq_of_withoutNotices hconversions, ← hown, hconversions, hown]

include hconversions in
/-- The same contributions are kept, up to notices. -/
theorem contributionsOf_eq_of_withoutNotices (existing : Fields) :
    (contributionsOf (convertRules registries settings rules existing).outcomes
        (conversionsOf registries settings rules)).map NamedContribution.withoutNotices =
      (contributionsOf (convertRules registries settings' rules existing).outcomes
        (conversionsOf registries settings' rules)).map NamedContribution.withoutNotices := by
  rw [← contributionsOf_withoutNotices, ← contributionsOf_withoutNotices, hconversions,
    outcomes_eq_of_withoutNotices hconversions]

include hconversions in
/-- Source rules that are converted to the same up to notices, one by one, have the same
results up to notices. -/
theorem withoutNotices_convertRules (existing : Fields) :
    (convertRules registries settings rules existing).withoutNotices =
      (convertRules registries settings' rules existing).withoutNotices := by
  have hsettled := settledOf_eq_of_withoutNotices hconversions
  have hcontributions := contributionsOf_eq_of_withoutNotices hconversions existing
  simp only [ConversionResults.withoutNotices, ConversionResults.mk.injEq]
  refine ⟨?converted, ?failed, ?missing, ?presets, ?plugins, ?conflicts, ?equivalents,
    outcomes_eq_of_withoutNotices hconversions existing⟩
  case converted => rw [converted_withoutNotices, converted_withoutNotices, hsettled]
  case failed =>
    rw [failed_convertRules, failed_convertRules, lost_eq_of_withoutNotices hconversions,
      filterMap_eq_of_withoutNotices ConvertedRule.failure?_withoutNotices hconversions]
  case missing =>
    exact filterMap_eq_of_withoutNotices ConvertedRule.missing?_withoutNotices hconversions
  case presets =>
    have hpresets := congrArg (List.flatMap (·.contribution.presets)) hcontributions
    rw [List.flatMap_map, List.flatMap_map] at hpresets
    exact congrArg OrderedSet.ofList hpresets
  case plugins =>
    have hplugins := congrArg (List.flatMap (·.contribution.plugins)) hcontributions
    rw [List.flatMap_map, List.flatMap_map] at hplugins
    exact congrArg OrderedSet.ofList hplugins
  case conflicts => rw [conflicts_withoutNotices, conflicts_withoutNotices, hsettled]
  case equivalents =>
    have hequivalents := congrArg (List.map (·.equivalent)) hcontributions
    simp only [List.map_map, Function.comp_def, NamedContribution.equivalent_withoutNotices]
      at hequivalents
    exact hequivalents

end Results

/-- Type information makes no difference to the results but for notices. -/
theorem withoutNotices_convertRules_builtin (prettier : Bool) (rules : List SourceRule)
    (existing : Fields) :
    (convertRules ⟨.builtin, .builtin⟩ ⟨prettier, true⟩ rules existing).withoutNotices =
      (convertRules ⟨.builtin, .builtin⟩ ⟨prettier, false⟩ rules existing).withoutNotices := by
  apply withoutNotices_convertRules
  rw [conversionsOf, conversionsOf, List.map_map, List.map_map]
  apply List.map_congr_left
  intro rule _
  exact Prod.ext rfl (withoutNotices_convertRule_builtin prettier rule)

namespace ConfigConversion

def withoutNotices (c : ConfigConversion) : ConfigConversion :=
  ⟨c.results.withoutNotices, c.missingPresets⟩

/-- Notices are no part of the new configuration. -/
theorem summarize_withoutNotices (c : ConfigConversion) (settings : ConversionSettings)
    (eslint : Option EslintConfig) :
    c.withoutNotices.summarize settings eslint = c.summarize settings eslint := by
  have hconverted : c.withoutNotices.results.converted.toList =
      c.results.converted.toList.map fun entry => (entry.1, entry.2.withoutNotices) :=
    RuleMap.toList_withoutNotices _
  have hrules : c.withoutNotices.rules eslint = c.rules eslint := by
    simp only [rules, hconverted, List.map_map]
    rfl
  simp only [summarize, hrules]
  rfl

end ConfigConversion

/-- Whether there is type information makes no difference to a conversion except for the
notices of its converted rules and of its conflicts, and none at all to the new
configuration. -/
theorem convertConfig_typeChecked (prettier : Bool) (tslint : TslintConfig)
    (eslint : Option EslintConfig) :
    let aware := convertConfig ⟨.builtin, .builtin⟩ ⟨prettier, true⟩ tslint eslint
    let unaware := convertConfig ⟨.builtin, .builtin⟩ ⟨prettier, false⟩ tslint eslint
    aware.withoutNotices = unaware.withoutNotices ∧
      aware.summarize ⟨prettier, true⟩ eslint = unaware.summarize ⟨prettier, false⟩ eslint := by
  intro aware unaware
  have hresults := withoutNotices_convertRules_builtin prettier tslint.rules
    ((eslint.map (·.rules)).getD [])
  simp only [ConversionResults.withoutNotices, ConversionResults.mk.injEq] at hresults
  obtain ⟨hconverted, hfailed, hmissing, hpresets, hplugins, hconflicts, hequivalents,
    houtcomes⟩ := hresults
  have hsame : aware.withoutNotices = unaware.withoutNotices := by
    simp only [aware, unaware, ConfigConversion.withoutNotices, convertConfig,
      ConversionResults.withoutNotices, hconverted, hfailed, hmissing, hpresets, hplugins,
      hconflicts, hequivalents, houtcomes]
    rfl
  refine ⟨hsame, ?_⟩
  rw [← ConfigConversion.summarize_withoutNotices aware, hsame]
  exact ConfigConversion.summarize_withoutNotices unaware _ eslint

end Relint
