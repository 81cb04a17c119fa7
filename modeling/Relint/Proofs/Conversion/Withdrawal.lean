import Relint.Proofs.Conversion.Status

/-!
Rules that fail leave no trace. The failures of a run may come up over many rounds
of merging, and until then the losers stand in the same groups as everyone else.
Once the merges have settled, nothing tells the results from those of a run that
was never given the failing rules.
-/

namespace Relint

variable {registries : Registries} {settings : ConversionSettings} {rules : List SourceRule}
  {existing : Fields}

/-- The proposals of the rules that do not fail are those that are left when the
losers' proposals are withdrawn. A rule that its converter refused had none. -/
theorem proposals_filter_finalStatus (lost : List RuleFailure) (conversions : List ConvertedRule) :
    (conversions.filter fun r => r.finalStatus lost != .failed).flatMap (·.proposals) =
      withdraw lost (conversions.flatMap (·.proposals)) := by
  rw [withdraw_flatMap]
  induction conversions with
  | nil => rfl
  | cons r rest ih =>
      rw [List.flatMap_cons, ConvertedRule.withdraw_proposals, ← ih, List.filter_cons]
      by_cases hfailed : r.finalStatus lost = .failed
      · have hnone : (if hasFailed lost r.1.name then [] else r.proposals) = [] := by
          rcases (finalStatus_eq_failed_iff _).mp hfailed with ⟨f, hf⟩ | hlost
          · simp [ConvertedRule.proposals, ConvertedRule.contribution?, hf]
          · simp [hlost]
        simp [hfailed, hnone]
      · have hkept : ¬hasFailed lost r.1.name = true := by
          intro hlost
          exact hfailed ((finalStatus_eq_failed_iff _).mpr (Or.inr hlost))
        simp [hfailed, hkept]

/-- The rules that do not fail in a conversion. -/
def succeeding (registries : Registries) (settings : ConversionSettings)
    (rules : List SourceRule) (existing : Fields) : List SourceRule :=
  rules.filter fun rule =>
    (convertRules registries settings rules existing).statusOf rule.name != some .failed

theorem conversionsOf_succeeding (hdistinct : (rules.map (·.name)).Nodup) :
    conversionsOf registries settings (succeeding registries settings rules existing) =
      (conversionsOf registries settings rules).filter fun r =>
        r.finalStatus (settledOf registries settings rules).failed != .failed := by
  rw [succeeding, conversionsOf, conversionsOf, List.filter_map]
  congr 1
  apply List.filter_congr
  intro rule hrule
  have hstatus := statusIn_convertRules existing hdistinct
    (mem_conversionsOf registries settings hrule)
  rw [ConversionResults.statusOf, hstatus]
  rfl

theorem settledOf_succeeding (hdistinct : (rules.map (·.name)).Nodup) :
    settledOf registries settings (succeeding registries settings rules existing) =
      ⟨(settledOf registries settings rules).rules, []⟩ := by
  rw [settledOf, conversionsOf_succeeding hdistinct, proposals_filter_finalStatus]
  exact settle_withdraw

theorem survivors_succeeding (hdistinct : (rules.map (·.name)).Nodup) :
    survivors registries settings (succeeding registries settings rules existing) =
      survivors registries settings rules := by
  rw [survivors, survivors, settledOf_succeeding hdistinct, conversionsOf_succeeding hdistinct]
  simp only [List.filterMap_filter]
  apply List.filterMap_congr
  intro r _
  cases hconversion : r.2 with
  | converted c =>
      simp [ConvertedRule.finalStatus, ConvertedRule.outcome, hconversion]
  | failed f => simp [NamedContribution.ofConverted?, ConvertedRule.contribution?, hconversion]
  | missing => simp [NamedContribution.ofConverted?, ConvertedRule.contribution?, hconversion]

theorem missing_succeeding (hdistinct : (rules.map (·.name)).Nodup) :
    (conversionsOf registries settings (succeeding registries settings rules existing)).filterMap
        (·.missing?) =
      (conversionsOf registries settings rules).filterMap (·.missing?) := by
  rw [conversionsOf_succeeding hdistinct, List.filterMap_filter]
  apply List.filterMap_congr
  intro r hr
  cases hconversion : r.2 with
  | converted c => simp [ConvertedRule.missing?, hconversion]
  | failed f => simp [ConvertedRule.missing?, hconversion]
  | missing =>
      have hstatus := (finalStatus_eq_missing_iff hdistinct hr).mpr hconversion
      simp [hstatus]

theorem failures_succeeding (hdistinct : (rules.map (·.name)).Nodup) :
    (conversionsOf registries settings (succeeding registries settings rules existing)).filterMap
      (·.failure?) = [] := by
  rw [conversionsOf_succeeding hdistinct, List.filterMap_eq_nil_iff]
  intro r hr
  obtain ⟨_, hkept⟩ := List.mem_filter.mp hr
  cases hconversion : r.2 with
  | converted c => simp [ConvertedRule.failure?, hconversion]
  | missing => simp [ConvertedRule.failure?, hconversion]
  | failed f =>
      have hfailed := (finalStatus_eq_failed_iff (settledOf registries settings rules).failed).mpr
        (Or.inl ⟨f, hconversion⟩)
      simp [hfailed] at hkept

theorem outcomes_succeeding (registries : Registries) (settings : ConversionSettings)
    (existing : Fields) (hdistinct : (rules.map (·.name)).Nodup) :
    (convertRules registries settings (succeeding registries settings rules existing)
        existing).outcomes =
      (convertRules registries settings rules existing).outcomes.filter
        (·.status != .failed) := by
  have hsublist : ((succeeding registries settings rules existing).map (·.name)).Nodup :=
    (List.filter_sublist.map _).nodup hdistinct
  rw [outcomes_convertRules existing hsublist, outcomes_convertRules existing hdistinct,
    settledOf_succeeding hdistinct, conversionsOf_succeeding hdistinct, List.filter_map]
  apply List.map_congr_left
  intro r hr
  obtain ⟨_, hkept⟩ := List.mem_filter.mp hr
  have hlost : hasFailed (settledOf registries settings rules).failed r.1.name = false := by
    rw [← Bool.not_eq_true]
    intro h
    simp [(finalStatus_eq_failed_iff _).mpr (Or.inr h)] at hkept
  simp [ConvertedRule.finalStatus, hlost]

/-- A conversion that is only given the rules that do not fail has the same results,
down to the order of every list, except that it reports no failure and has no
outcome for the rules that were left out. -/
theorem convertRules_succeeding (registries : Registries) (settings : ConversionSettings)
    (rules : List SourceRule) (existing : Fields) (hdistinct : (rules.map (·.name)).Nodup) :
    let results := convertRules registries settings rules existing
    convertRules registries settings
        (rules.filter fun rule => results.statusOf rule.name != some .failed) existing =
      { results with
        failed := []
        outcomes := results.outcomes.filter (·.status != .failed) } := by
  intro results
  have hsublist : ((succeeding registries settings rules existing).map (·.name)).Nodup :=
    (List.filter_sublist.map _).nodup hdistinct
  change convertRules registries settings (succeeding registries settings rules existing)
    existing = _
  have houtcomes := outcomes_succeeding registries settings existing hdistinct
  rw [outcomes_convertRules existing hsublist] at houtcomes
  rw [convertRules_eq existing hsublist, houtcomes, settledOf_succeeding hdistinct,
    survivors_succeeding hdistinct, missing_succeeding hdistinct, failures_succeeding hdistinct,
    List.append_nil]
  simp only [results, convertRules_eq existing hdistinct]

theorem dispute_succeeding :
    (disputeRules.map (·.name)).Nodup ∧
    (succeeding disputeRegistries disputeSettings disputeRules []).map (·.name) =
      ["quotemark", "whitespace"] ∧
    convertRules disputeRegistries disputeSettings
        (disputeRules.filter fun rule =>
          (convertRules disputeRegistries disputeSettings disputeRules []).statusOf rule.name !=
            some .failed) [] =
      { convertRules disputeRegistries disputeSettings disputeRules [] with
        failed := []
        outcomes := (convertRules disputeRegistries disputeSettings disputeRules []).outcomes.filter
          (·.status != .failed) } := by
  refine ⟨by decide, by decide +kernel, ?_⟩
  exact convertRules_succeeding disputeRegistries disputeSettings disputeRules [] (by decide)

end Relint
