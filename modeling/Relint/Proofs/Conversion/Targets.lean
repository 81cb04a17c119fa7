import Relint.Proofs.Conversion.Partition
import Relint.Proofs.Merge.Targets

/-!
Where the target rules of a conversion come from. The equivalents are read off the
contributions and the final statuses, the converted rules and the conflicts off the
proposals that are left once the merges have settled. Both are the targets of the
rules that survive, in the same order, and what the existing configuration sets
only divides them into two.
-/

namespace Relint

variable {registries : Registries} {settings : ConversionSettings} {rules : List SourceRule}
  {existing : Fields}

/-- The targets of all equivalents, those of one source rule behind those of the one
before. -/
def ConversionResults.targets (r : ConversionResults) : List String :=
  r.equivalents.flatMap (·.targets)

/-- The names of the conflicts. -/
def ConversionResults.conflictNames (r : ConversionResults) : List String :=
  r.conflicts.map (·.rule)

/-- Every target of a surviving rule was either converted or is a conflict, and nothing
else was: it is a conflict exactly when the existing configuration sets it. In both
lists the targets are different and stand as they first come up in the equivalents. -/
structure ConversionResults.TracesTargets (results : ConversionResults)
    (existing : Fields) : Prop where
  mem_targets_iff : ∀ target,
    target ∈ results.targets ↔ target ∈ results.converted.keys ∨ target ∈ results.conflictNames
  disjoint : results.converted.keys.Disjoint results.conflictNames
  nodup_converted : results.converted.keys.Nodup
  nodup_conflicts : results.conflictNames.Nodup
  conflict_iff : ∀ target ∈ results.targets,
    target ∈ results.conflictNames ↔ target ∈ Assoc.keys existing
  converted_in_order : results.converted.keys.Pairwise fun earlier later =>
    results.targets.idxOf earlier < results.targets.idxOf later
  conflicts_in_order : results.conflictNames.Pairwise fun earlier later =>
    results.targets.idxOf earlier < results.targets.idxOf later

/-- The target rules that the converter of a source rule proposes, if it converts it. -/
def RuleConversion.targets : RuleConversion → List String
  | .converted c => c.rules.map (·.name)
  | .failed _ => []
  | .missing => []

theorem ConvertedRule.map_target_proposals (r : ConvertedRule) :
    r.proposals.map (·.target) = r.2.targets := by
  obtain ⟨rule, conversion⟩ := r
  cases conversion with
  | converted c => simp [proposals, contribution?, RuleConversion.targets, Function.comp_def]
  | failed f => rfl
  | missing => rfl

/-- What is left when the losers' proposals are withdrawn are the targets of the
contributions of everyone else. -/
theorem targets_withdraw (lost : List RuleFailure) (conversions : List ConvertedRule) :
    (withdraw lost (conversions.flatMap (·.proposals))).map (·.target) =
      ((conversions.filter fun r => !hasFailed lost r.1.name).filterMap
        NamedContribution.ofConverted?).flatMap fun c => c.contribution.rules.map (·.name) := by
  rw [withdraw_flatMap]
  induction conversions with
  | nil => rfl
  | cons r rest ih =>
      rw [List.flatMap_cons, List.map_append, ih, ConvertedRule.withdraw_proposals]
      cases hlost : hasFailed lost r.1.name with
      | true => simp [hlost]
      | false =>
          have hown := r.map_target_proposals
          obtain ⟨rule, conversion⟩ := r
          cases conversion <;>
            simp [hlost, hown, RuleConversion.targets, List.filterMap_cons,
              NamedContribution.ofConverted?, ConvertedRule.contribution?]

theorem keys_settledOf (registries : Registries) (settings : ConversionSettings)
    (rules : List SourceRule) :
    (settledOf registries settings rules).rules.keys =
      distinct ((survivors registries settings rules).flatMap fun c =>
        c.contribution.rules.map (·.name)) := by
  rw [settledOf, keys_settle, targets_withdraw]
  rfl

theorem nodup_keys_settledOf : (settledOf registries settings rules).rules.keys.Nodup := by
  rw [keys_settledOf]
  exact nodup_distinct

theorem get?_settledOf (name : String) :
    (settledOf registries settings rules).rules.get? name =
      (settledOf registries settings rules).rules.toList.lookup name :=
  RuleMap.get?_eq_lookup wellIndexed_settle name

/-- What a rule that lost no merge proposes is merged. -/
theorem mem_keys_settledOf {r : ConvertedRule} (hr : r ∈ conversionsOf registries settings rules)
    (hkept : hasFailed (settledOf registries settings rules).failed r.1.name = false)
    {c : Contribution} (hconverted : r.2 = .converted c) {t : TargetRule} (ht : t ∈ c.rules) :
    t.name ∈ (settledOf registries settings rules).rules.keys := by
  rw [keys_settledOf, mem_distinct, List.mem_flatMap]
  exact ⟨⟨r.1.name, c⟩, mem_survivors_iff.mpr ⟨r, hr, hkept, hconverted, rfl⟩,
    List.mem_map_of_mem ht⟩

/-- The merged rules are the targets of the equivalents, each once. -/
theorem keys_settledOf_eq_targets (existing : Fields) (hdistinct : (rules.map (·.name)).Nodup) :
    (settledOf registries settings rules).rules.keys =
      distinct (convertRules registries settings rules existing).targets := by
  rw [keys_settledOf, ConversionResults.targets, convertRules_eq existing hdistinct,
    List.flatMap_map]
  exact (distinct_flatMap_distinct _ _).symm

/-- The converted rules are the merged ones that the existing configuration does not
set. -/
theorem toList_converted (existing : Fields) :
    (convertRules registries settings rules existing).converted.toList =
      (settledOf registries settings rules).rules.toList.filter
        fun entry => !Assoc.contains existing entry.1 := by
  rw [converted_convertRules, RuleMap.toList_ofList]
  apply Assoc.ofEntries_of_nodup
  exact (List.filter_sublist.map _).nodup nodup_keys_settledOf

theorem get?_converted (existing : Fields) (name : String) :
    (convertRules registries settings rules existing).converted.get? name =
      (convertRules registries settings rules existing).converted.toList.lookup name :=
  RuleMap.get?_eq_lookup (RuleMap.wellIndexed_ofList _) name

theorem keys_converted (existing : Fields) :
    (convertRules registries settings rules existing).converted.keys =
      (settledOf registries settings rules).rules.keys.filter (!Assoc.contains existing ·) := by
  rw [RuleMap.keys, toList_converted, RuleMap.keys, List.filter_map]
  rfl

/-- The conflicts are the merged rules that the existing configuration sets, with the
settings that were merged for them. -/
theorem proposed_conflicts (existing : Fields) :
    ((convertRules registries settings rules existing).conflicts.map fun c =>
        (c.rule, c.proposed)) =
      (settledOf registries settings rules).rules.toList.filter
        fun entry => Assoc.contains existing entry.1 := by
  rw [conflicts_convertRules]
  induction (settledOf registries settings rules).rules.toList with
  | nil => rfl
  | cons entry rest ih =>
      rw [List.filterMap_cons, List.filter_cons, ← ih]
      cases hset : existing.lookup entry.1 <;> simp [conflict?, Assoc.contains, hset]

theorem conflictNames_convertRules (existing : Fields) :
    (convertRules registries settings rules existing).conflictNames =
      (settledOf registries settings rules).rules.keys.filter (Assoc.contains existing ·) := by
  have hnames : (convertRules registries settings rules existing).conflictNames =
      ((convertRules registries settings rules existing).conflicts.map fun c =>
        (c.rule, c.proposed)).map Prod.fst := by
    rw [List.map_map]
    rfl
  rw [hnames, proposed_conflicts, RuleMap.keys, List.filter_map]
  rfl

/-- Results whose targets are divided by what the existing configuration sets. -/
theorem ConversionResults.tracesTargets_of_filter {results : ConversionResults}
    (hconverted : results.converted.keys =
      (distinct results.targets).filter (!Assoc.contains existing ·))
    (hconflicts : results.conflictNames =
      (distinct results.targets).filter (Assoc.contains existing ·)) :
    results.TracesTargets existing where
  mem_targets_iff := by
    intro target
    rw [hconverted, hconflicts, List.mem_filter, List.mem_filter, mem_distinct]
    cases Assoc.contains existing target <;> simp
  disjoint := by
    intro target hnew hset
    rw [hconverted, List.mem_filter] at hnew
    rw [hconflicts, List.mem_filter] at hset
    simp [hset.2] at hnew
  nodup_converted := by
    rw [hconverted]
    exact nodup_distinct.filter _
  nodup_conflicts := by
    rw [hconflicts]
    exact nodup_distinct.filter _
  conflict_iff := by
    intro target htarget
    rw [hconflicts, List.mem_filter, mem_distinct, Assoc.contains_iff_mem_keys]
    exact and_iff_right htarget
  converted_in_order := by
    rw [hconverted]
    exact (pairwise_idxOf_distinct results.targets).filter _
  conflicts_in_order := by
    rw [hconflicts]
    exact (pairwise_idxOf_distinct results.targets).filter _

/-- The equivalents of rules with different names account for every converted rule and
for every conflict, and for nothing else. -/
theorem convertRules_tracesTargets (registries : Registries) (settings : ConversionSettings)
    (rules : List SourceRule) (existing : Fields) (hdistinct : (rules.map (·.name)).Nodup) :
    (convertRules registries settings rules existing).TracesTargets existing := by
  apply ConversionResults.tracesTargets_of_filter
  · rw [keys_converted, keys_settledOf_eq_targets existing hdistinct]
  · rw [conflictNames_convertRules, keys_settledOf_eq_targets existing hdistinct]

/-- Source rules that agree on the target they share. -/
def agreeingRules : List SourceRule := [
  ⟨"quotemark", [.string "single"], .error⟩,
  ⟨"jsx-quotemark", [.string "single"], .warn⟩,
  ⟨"indent", [.string "mixed"], .error⟩]

theorem agreeing_tracesTargets :
    (agreeingRules.map (·.name)).Nodup ∧
    (convertRules disputeRegistries disputeSettings agreeingRules
      [("quotes", .string "off")]).targets = ["quotes", "jsx-quotes", "quotes"] ∧
    (convertRules disputeRegistries disputeSettings agreeingRules
      [("quotes", .string "off")]).TracesTargets [("quotes", .string "off")] := by
  refine ⟨by decide, by decide +kernel, ?_⟩
  exact convertRules_tracesTargets disputeRegistries disputeSettings agreeingRules
    [("quotes", .string "off")] (by decide)

end Relint
