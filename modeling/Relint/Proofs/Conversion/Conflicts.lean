import Relint.Proofs.Conversion.Targets

/-!
What an existing configuration decides. Source rules are converted and merged without
regard to it. Only when the merges have settled is each merged rule looked up there: what
it sets becomes a conflict, and everything else is converted with the settings that it
would have had without an existing configuration.
-/

namespace Relint

variable {registries : Registries} {settings : ConversionSettings} {rules : List SourceRule}
  {existing : Fields}

/-- The results `divided` differ from the results `whole` only in that the converted rules
are divided by their names: those that are set already are conflicts with the value that
they have, and both parts stand in the order of the whole with the settings they have
there. -/
structure ConversionResults.Divides (existing : Fields) (whole divided : ConversionResults) :
    Prop where
  failed_eq : divided.failed = whole.failed
  missing_eq : divided.missing = whole.missing
  presets_eq : divided.presets = whole.presets
  plugins_eq : divided.plugins = whole.plugins
  equivalents_eq : divided.equivalents = whole.equivalents
  outcomes_eq : divided.outcomes = whole.outcomes
  converted_eq : divided.converted.toList =
    whole.converted.toList.filter fun entry => entry.1 ∉ Assoc.keys existing
  proposed_eq : (divided.conflicts.map fun c => (c.rule, c.proposed)) =
    whole.converted.toList.filter fun entry => entry.1 ∈ Assoc.keys existing
  existing_kept : ∀ c ∈ divided.conflicts, existing.lookup c.rule = some c.existing
  whole_conflicts : whole.conflicts = []

/-- Without an existing configuration everything that was merged is converted. -/
theorem toList_converted_nil (registries : Registries) (settings : ConversionSettings)
    (rules : List SourceRule) :
    (convertRules registries settings rules []).converted.toList =
      (settledOf registries settings rules).rules.toList := by
  rw [toList_converted, List.filter_eq_self]
  intro entry _
  rfl

theorem contains_eq_decide (name : String) :
    Assoc.contains existing name = decide (name ∈ Assoc.keys existing) := by
  rw [Bool.eq_iff_iff, Assoc.contains_iff_mem_keys, decide_eq_true_iff]

theorem conflict?_eq_some_iff {entry : String × RuleSettings} {c : RuleConflict} :
    conflict? existing entry = some c ↔
      existing.lookup c.rule = some c.existing ∧ entry = (c.rule, c.proposed) := by
  obtain ⟨rule, value, proposed⟩ := c
  obtain ⟨name, merged⟩ := entry
  simp only [conflict?, Option.map_eq_some_iff, RuleConflict.mk.injEq, Prod.mk.injEq]
  constructor
  · rintro ⟨_, hlookup, rfl, rfl, rfl⟩
    exact ⟨hlookup, rfl, rfl⟩
  · rintro ⟨hlookup, rfl, rfl⟩
    exact ⟨value, hlookup, rfl, rfl, rfl⟩

/-- The existing configuration decides between conversion and conflict and nothing else,
whatever the converters and the mergers do, and also where names of source rules are
repeated. -/
theorem convertRules_divides (registries : Registries) (settings : ConversionSettings)
    (rules : List SourceRule) (existing : Fields) :
    ConversionResults.Divides existing (convertRules registries settings rules [])
      (convertRules registries settings rules existing) where
  failed_eq := rfl
  missing_eq := rfl
  presets_eq := rfl
  plugins_eq := rfl
  equivalents_eq := rfl
  outcomes_eq := rfl
  converted_eq := by
    rw [toList_converted, toList_converted_nil]
    apply List.filter_congr
    intro entry _
    rw [contains_eq_decide, decide_not]
  proposed_eq := by
    rw [proposed_conflicts, toList_converted_nil]
    apply List.filter_congr
    intro entry _
    exact contains_eq_decide entry.1
  existing_kept := by
    intro c hc
    rw [conflicts_convertRules] at hc
    obtain ⟨_, _, hconflict⟩ := List.mem_filterMap.mp hc
    exact (conflict?_eq_some_iff.mp hconflict).1
  whole_conflicts := by
    rw [conflicts_convertRules, List.filterMap_eq_nil_iff]
    intro entry _
    rfl

end Relint
