import Relint.Proofs.Conversion.Targets
import Relint.Proofs.Merge.Reordered
import Relint.Proofs.OrderedSet

/-!
The order of source rules that have nothing to do with each other. Two neighbours that
propose no target rule in common may change places. The results list some things in
another order then, and a third rule that loses against both may be reported with another
one of its merges, but every source rule ends as it did and every target rule has the
settings it had.
-/

namespace Relint

variable {registries : Registries} {settings : ConversionSettings}
  {rules others : List SourceRule} {existing : Fields}

/-- Two results that say the same of every source rule and of every target rule and list
the same, though perhaps not in the same order. -/
structure ConversionResults.SameUpToOrder (first second : ConversionResults) : Prop where
  statusOf_eq : ∀ rule, first.statusOf rule = second.statusOf rule
  settings_eq : ∀ target, first.converted.get? target = second.converted.get? target
  converted_perm : first.converted.toList.Perm second.converted.toList
  conflicts_perm : first.conflicts.Perm second.conflicts
  presets_perm : first.presets.toList.Perm second.presets.toList
  plugins_perm : first.plugins.toList.Perm second.plugins.toList
  missing_perm : first.missing.Perm second.missing

section Groups

variable (hperm : rules.Perm others)
  (hgroups : SameGroups ((conversionsOf registries settings rules).flatMap (·.proposals))
    ((conversionsOf registries settings others).flatMap (·.proposals)))

include hgroups in
theorem settledOf_perm :
    (settledOf registries settings rules).rules.toList.Perm
      (settledOf registries settings others).rules.toList := by
  apply Assoc.perm_of_lookup_eq nodup_keys_settledOf nodup_keys_settledOf
  intro target
  rw [← get?_settledOf, ← get?_settledOf]
  exact hgroups.get?_settle target

include hperm hgroups in
/-- The same rules lose a merge, so the same contributions survive. -/
theorem survivors_perm :
    (survivors registries settings rules).Perm (survivors registries settings others) := by
  have hkept : (fun r : ConvertedRule =>
      !hasFailed (settledOf registries settings rules).failed r.1.name) =
        fun r => !hasFailed (settledOf registries settings others).failed r.1.name := by
    funext r
    rw [settledOf, settledOf, hgroups.sameLosers_settle]
  rw [survivors, survivors, hkept]
  exact ((hperm.map _).filter _).filterMap _

include hperm hgroups in
theorem outcomes_perm (existing : Fields) (hdistinct : (rules.map (·.name)).Nodup) :
    (convertRules registries settings rules existing).outcomes.Perm
      (convertRules registries settings others existing).outcomes := by
  have hothers : (others.map (·.name)).Nodup := (hperm.map _).nodup_iff.mp hdistinct
  have hfinal : (fun r : ConvertedRule =>
      (⟨r.1.name, r.finalStatus (settledOf registries settings rules).failed⟩ : RuleOutcome)) =
        fun r => ⟨r.1.name, r.finalStatus (settledOf registries settings others).failed⟩ := by
    funext r
    rw [ConvertedRule.finalStatus, ConvertedRule.finalStatus, settledOf, settledOf,
      hgroups.sameLosers_settle]
  rw [outcomes_convertRules existing hdistinct, outcomes_convertRules existing hothers, hfinal]
  exact (hperm.map _).map _

include hperm hgroups in
/-- Rearranging source rules so that every target rule keeps its proposals in their order
changes the results up to order only. -/
theorem sameUpToOrder_of_sameGroups (existing : Fields) (hdistinct : (rules.map (·.name)).Nodup) :
    (convertRules registries settings rules existing).SameUpToOrder
      (convertRules registries settings others existing) := by
  have hothers : (others.map (·.name)).Nodup := (hperm.map _).nodup_iff.mp hdistinct
  have hnames : ((convertRules registries settings rules existing).outcomes.map (·.rule)).Nodup := by
    rw [(convertRules_partitions registries settings rules existing hdistinct).names_outcomes]
    exact hdistinct
  have hconverted : (convertRules registries settings rules existing).converted.toList.Perm
      (convertRules registries settings others existing).converted.toList := by
    rw [toList_converted, toList_converted]
    exact (settledOf_perm hgroups).filter _
  have hkeys : (convertRules registries settings rules existing).converted.keys.Nodup :=
    (convertRules_tracesTargets registries settings rules existing hdistinct).nodup_converted
  have hsurvivors := survivors_perm hperm hgroups
  refine ⟨?_, ?_, hconverted, ?_, ?_, ?_, ?_⟩
  · exact statusIn_eq_of_perm hnames (outcomes_perm hperm hgroups existing hdistinct)
  · intro target
    rw [get?_converted, get?_converted]
    exact Assoc.lookup_eq_of_perm hkeys hconverted target
  · rw [conflicts_convertRules, conflicts_convertRules]
    exact (settledOf_perm hgroups).filterMap _
  · rw [convertRules_eq existing hdistinct, convertRules_eq existing hothers]
    simp only [OrderedSet.toList_ofList]
    exact distinct_perm (hsurvivors.flatMap_right _)
  · rw [convertRules_eq existing hdistinct, convertRules_eq existing hothers]
    simp only [OrderedSet.toList_ofList]
    exact distinct_perm (hsurvivors.flatMap_right _)
  · rw [missing_convertRules, missing_convertRules]
    exact (hperm.map _).filterMap _

end Groups

/-- The proposals of neighbours that have no target in common may change places. -/
theorem sameGroups_swap {first second : SourceRule} (before after : List SourceRule)
    (hunrelated : (convertRule registries.converters settings first).targets.Disjoint
      (convertRule registries.converters settings second).targets) :
    SameGroups
      ((conversionsOf registries settings (before ++ first :: second :: after)).flatMap
        (·.proposals))
      ((conversionsOf registries settings (before ++ second :: first :: after)).flatMap
        (·.proposals)) := by
  rw [← ConvertedRule.map_target_proposals (first, _),
    ← ConvertedRule.map_target_proposals (second, _)] at hunrelated
  have hsplit : ∀ x y : SourceRule,
      (conversionsOf registries settings (before ++ x :: y :: after)).flatMap (·.proposals) =
        (conversionsOf registries settings before).flatMap (·.proposals) ++
          (ConvertedRule.proposals (x, convertRule registries.converters settings x) ++
            ConvertedRule.proposals (y, convertRule registries.converters settings y) ++
              (conversionsOf registries settings after).flatMap (·.proposals)) := by
    intro x y
    simp [conversionsOf]
  rw [hsplit, hsplit]
  exact (SameGroups.refl _).append ((sameGroups_append_comm hunrelated).append (SameGroups.refl _))

/-- Two neighbours among source rules with different names that propose no target in common
may change places, whatever the converters and the mergers do. -/
theorem convertRules_swap (registries : Registries) (settings : ConversionSettings)
    (before after : List SourceRule) (first second : SourceRule) (existing : Fields)
    (hdistinct : ((before ++ first :: second :: after).map (·.name)).Nodup)
    (hunrelated : (convertRule registries.converters settings first).targets.Disjoint
      (convertRule registries.converters settings second).targets) :
    (convertRules registries settings (before ++ first :: second :: after)
        existing).SameUpToOrder
      (convertRules registries settings (before ++ second :: first :: after) existing) :=
  sameUpToOrder_of_sameGroups ((List.Perm.swap second first after).append_left before)
    (sameGroups_swap before after hunrelated) existing hdistinct

/-- Registries with a converter for quotes, one for indentation and one for both, and
mergers for both that only accept arguments that are all the same. -/
def crossingRegistries : Registries where
  converters := [
    ("quotemark", fun ctx => .ok (.ofRule ((TargetRule.named "quotes").withArguments ctx.arguments))),
    ("indent", fun ctx => .ok (.ofRule ((TargetRule.named "indent").withArguments ctx.arguments))),
    ("style", fun ctx => .ok (.ofRules [(TargetRule.named "quotes").withArguments ctx.arguments,
      (TargetRule.named "indent").withArguments ctx.arguments]))]
  mergers :=
    let agreed (proposals : List (List Value)) : Except String (List Value) :=
      if proposals.all (· == proposals.headD []) then .ok (proposals.headD [])
      else .error "Conflicting arguments."
    [("quotes", .ofArguments agreed), ("indent", .ofArguments agreed)]

/-- A rule that loses against both neighbours is reported with the merge that comes up
first, but it fails in either order, and everything else is the same. -/
theorem crossing_swap :
    let first : SourceRule := ⟨"quotemark", [.string "single"], .error⟩
    let second : SourceRule := ⟨"indent", [.string "tab"], .error⟩
    let after : List SourceRule := [⟨"style", [.string "loose"], .warn⟩]
    let results := convertRules crossingRegistries disputeSettings (first :: second :: after) []
    let swapped := convertRules crossingRegistries disputeSettings (second :: first :: after) []
    ((first :: second :: after).map (·.name)).Nodup ∧
      (convertRule crossingRegistries.converters disputeSettings first).targets.Disjoint
        (convertRule crossingRegistries.converters disputeSettings second).targets ∧
      results.failed = [.unresolvableMerge "style" "quotes" "Conflicting arguments."] ∧
      swapped.failed = [.unresolvableMerge "style" "indent" "Conflicting arguments."] ∧
      results.SameUpToOrder swapped := by
  intro first second after results swapped
  have hdistinct : ((first :: second :: after).map (·.name)).Nodup := by decide
  have hunrelated : (convertRule crossingRegistries.converters disputeSettings first).targets.Disjoint
      (convertRule crossingRegistries.converters disputeSettings second).targets :=
    List.disjoint_singleton.mpr (by decide)
  refine ⟨hdistinct, hunrelated, by decide +kernel, by decide +kernel, ?_⟩
  exact convertRules_swap crossingRegistries disputeSettings [] after first second [] hdistinct
    hunrelated

end Relint
