import Relint.Proofs.Conversion.Builtin
import Relint.Proofs.Conversion.Targets
import Relint.Proofs.Converter.Names
import Relint.Proofs.Converter.Settings

/-!
Leaving the layout to Prettier. Source rules about layout then convert to nothing, also
those that would be refused for their arguments. No other source rule has a target rule in
common with them, so the results lose exactly the target rules that nothing else proposes,
and what is left stays in its order with the settings that it had.
-/

namespace Relint

open Converter

variable {settings : ConversionSettings} {rules : List SourceRule} {rule : SourceRule}
  {target : String}

/-- All source rules that propose the target rule are about layout. -/
def LayoutOnly (settings : ConversionSettings) (rules : List SourceRule) (target : String) :
    Prop :=
  ∀ rule ∈ rules, target ∈ (convertRule .builtin settings rule).targets →
    rule.name ∈ layoutRules

instance (settings : ConversionSettings) (rules : List SourceRule) (target : String) :
    Decidable (LayoutOnly settings rules target) :=
  inferInstanceAs (Decidable (∀ rule ∈ rules,
    target ∈ (convertRule .builtin settings rule).targets → rule.name ∈ layoutRules))

section Sources

/-- Converters for layout have no plugins, no presets and no target rule of another
converter. -/
theorem layoutRules_apart : ∀ row ∈ builtinProfiles, row.1 ∈ layoutRules →
    row.2.plugins = [] ∧ row.2.presets = [] ∧
      ∀ target ∈ row.2.targets, target ∉ sharedTargets := by
  decide +kernel

theorem exists_profile_of_mem_targets
    (h : target ∈ (convertRule .builtin settings rule).targets) :
    ∃ profile, (rule.name, profile) ∈ builtinProfiles ∧ target ∈ profile.targets := by
  cases hconversion : convertRule .builtin settings rule with
  | converted c =>
      rw [hconversion] at h
      obtain ⟨t, ht, rfl⟩ := List.mem_map.mp h
      obtain ⟨profile, hrow, _, hrules⟩ := profile_of_converted hconversion
      exact ⟨profile, hrow, (hrules t ht).1⟩
  | failed f =>
      rw [hconversion] at h
      exact absurd h List.not_mem_nil
  | missing =>
      rw [hconversion] at h
      exact absurd h List.not_mem_nil

/-- Whether only rules about layout propose a target can be told from any one of the rules
that propose it. -/
theorem layoutOnly_iff (hrule : rule ∈ rules)
    (htarget : target ∈ (convertRule .builtin settings rule).targets) :
    LayoutOnly settings rules target ↔ rule.name ∈ layoutRules := by
  constructor
  · intro h
    exact h rule hrule htarget
  · intro hlayout other _ hother
    obtain ⟨profile, hrow, hmem⟩ := exists_profile_of_mem_targets htarget
    obtain ⟨profile', hrow', hmem'⟩ := exists_profile_of_mem_targets hother
    by_contra hnot
    have hne : (rule.name, profile) ≠ (other.name, profile') := by
      intro heq
      rw [(Prod.mk.inj heq).1] at hlayout
      exact hnot hlayout
    exact (layoutRules_apart _ hrow hlayout).2.2 target hmem
      (mem_sharedTargets hrow hrow' hne hmem hmem')

end Sources

section Conversions

variable {r : ConvertedRule}

/-- A rule with its conversion when the layout is left to Prettier. -/
def ConvertedRule.leaveLayout (r : ConvertedRule) : ConvertedRule :=
  if r.1.name ∈ layoutRules then (r.1, .converted .nothing) else r

theorem leaveLayout_of_layout (h : r.1.name ∈ layoutRules) :
    r.leaveLayout = (r.1, .converted .nothing) :=
  if_pos h

theorem leaveLayout_of_other (h : r.1.name ∉ layoutRules) : r.leaveLayout = r :=
  if_neg h

theorem conversionsOf_prettier (typeChecked : Bool) (rules : List SourceRule) :
    conversionsOf ⟨.builtin, .builtin⟩ ⟨true, typeChecked⟩ rules =
      (conversionsOf ⟨.builtin, .builtin⟩ ⟨false, typeChecked⟩ rules).map
        ConvertedRule.leaveLayout := by
  rw [conversionsOf, conversionsOf, List.map_map]
  apply List.map_congr_left
  intro rule _
  simp only [Function.comp_apply, ConvertedRule.leaveLayout]
  split
  · rename_i hlayout
    rw [convertRule_layout typeChecked hlayout]
  · rename_i hother
    rw [convertRule_eq_of_not_layout typeChecked hother]

/-- The targets that a rule proposes are all those of rules about layout, or none is. -/
theorem layoutOnly_of_mem_proposals {p : Proposal}
    (hr : r ∈ conversionsOf ⟨.builtin, .builtin⟩ settings rules) (hp : p ∈ r.proposals) :
    LayoutOnly settings rules p.target ↔ r.1.name ∈ layoutRules := by
  obtain ⟨hrule, hconversion⟩ := eq_of_mem_conversionsOf hr
  apply layoutOnly_iff hrule
  have htarget := List.mem_map_of_mem (f := (·.target)) hp
  rwa [ConvertedRule.map_target_proposals, hconversion] at htarget

theorem proposals_leaveLayout (hr : r ∈ conversionsOf ⟨.builtin, .builtin⟩ settings rules) :
    r.leaveLayout.proposals =
      r.proposals.filter fun p => ¬LayoutOnly settings rules p.target := by
  by_cases hlayout : r.1.name ∈ layoutRules
  · have hnone : ∀ p ∈ r.proposals, LayoutOnly settings rules p.target := fun p hp =>
      (layoutOnly_of_mem_proposals hr hp).mpr hlayout
    rw [leaveLayout_of_layout hlayout, List.filter_eq_nil_iff.mpr (by simpa using hnone)]
    rfl
  · have hall : ∀ p ∈ r.proposals, ¬LayoutOnly settings rules p.target := fun p hp h =>
      hlayout ((layoutOnly_of_mem_proposals hr hp).mp h)
    rw [leaveLayout_of_other hlayout, List.filter_eq_self.mpr (by simpa using hall)]

theorem failure?_leaveLayout (hr : r ∈ conversionsOf ⟨.builtin, .builtin⟩ settings rules) :
    r.leaveLayout.failure? = r.failure?.filter fun f => f.rule ∉ layoutRules := by
  have howner : ∀ f, r.failure? = some f → f.rule = r.1.name := fun f hf =>
    rule_of_failed hr (ConvertedRule.failure?_eq_some_iff.mp hf)
  by_cases hlayout : r.1.name ∈ layoutRules
  · rw [leaveLayout_of_layout hlayout, eq_comm]
    refine (Option.filter_eq_none_iff.mpr ?_).trans rfl
    intro f hf
    simpa [howner f hf] using hlayout
  · rw [leaveLayout_of_other hlayout]
    cases hfailure : r.failure? with
    | none => rfl
    | some f =>
        have hkept : f.rule ∉ layoutRules := by rwa [howner f hfailure]
        rw [Option.filter_some, if_pos (decide_eq_true hkept)]

/-- Every rule about layout has a converter. -/
theorem missing?_leaveLayout (hr : r ∈ conversionsOf ⟨.builtin, .builtin⟩ settings rules) :
    r.leaveLayout.missing? = r.missing? := by
  by_cases hlayout : r.1.name ∈ layoutRules
  · obtain ⟨convert, hlookup⟩ := exists_lookup_builtin_of_layout hlayout
    have hfound : r.missing? = none := by
      rw [Option.eq_none_iff_forall_ne_some]
      intro rule hrule
      have hmissing := (ConvertedRule.missing?_eq_some_iff.mp hrule).1
      rw [(eq_of_mem_conversionsOf hr).2, convertRule_eq_missing_iff, hlookup] at hmissing
      cases hmissing
    rw [leaveLayout_of_layout hlayout, hfound]
    rfl
  · rw [leaveLayout_of_other hlayout]

/-- Rules about layout come with no plugins and no presets. -/
theorem contribution_of_layout {c : Contribution}
    (hr : r ∈ conversionsOf ⟨.builtin, .builtin⟩ settings rules)
    (hlayout : r.1.name ∈ layoutRules) (hc : r.2 = .converted c) :
    c.plugins = [] ∧ c.presets = [] := by
  rw [(eq_of_mem_conversionsOf hr).2] at hc
  obtain ⟨convert, answer, hlookup, hanswer, rfl⟩ := convertRule_eq_converted_iff.mp hc
  obtain ⟨profile, hrow, hdescribes⟩ := profile_of_builtin hlookup
  obtain ⟨hplugins, hpresets, _⟩ := layoutRules_apart _ hrow hlayout
  have hfits := hdescribes _ answer hanswer
  exact ⟨hfits.plugins_eq.trans hplugins, hfits.presets_eq.trans hpresets⟩

end Conversions

section Results

variable (typeChecked : Bool) (rules : List SourceRule) (existing : Fields)

/-- What is merged but for the targets of rules about layout is as it was. -/
theorem toList_settledOf_prettier :
    (settledOf ⟨.builtin, .builtin⟩ ⟨true, typeChecked⟩ rules).rules.toList =
      (settledOf ⟨.builtin, .builtin⟩ ⟨false, typeChecked⟩ rules).rules.toList.filter
        fun entry => ¬LayoutOnly ⟨false, typeChecked⟩ rules entry.1 := by
  have hproposals :
      (conversionsOf ⟨.builtin, .builtin⟩ ⟨true, typeChecked⟩ rules).flatMap (·.proposals) =
        ((conversionsOf ⟨.builtin, .builtin⟩ ⟨false, typeChecked⟩ rules).flatMap
          (·.proposals)).filter fun p => ¬LayoutOnly ⟨false, typeChecked⟩ rules p.target := by
    rw [conversionsOf_prettier, List.flatMap_map, List.filter_flatMap]
    exact List.flatMap_congr fun r hr => proposals_leaveLayout hr
  rw [rules_settledOf_builtin, rules_settledOf_builtin, hproposals]
  exact toList_mergeProposals_filter _ _ fun target =>
    ¬LayoutOnly ⟨false, typeChecked⟩ rules target

theorem conflict?_filter (kept : String → Bool) (entry : String × RuleSettings) :
    ((conflict? existing entry).filter fun c => kept c.rule) =
      if kept entry.1 then conflict? existing entry else none := by
  cases hset : existing.lookup entry.1 <;> simp [conflict?, hset, Option.filter_some]

/-- The status of a rule that is not about layout is as it was. -/
theorem statusOf_prettier {name : String} (h : name ∉ layoutRules) :
    (convertRules ⟨.builtin, .builtin⟩ ⟨true, typeChecked⟩ rules existing).statusOf name =
      (convertRules ⟨.builtin, .builtin⟩ ⟨false, typeChecked⟩ rules existing).statusOf name := by
  rw [statusOf_builtin, statusOf_builtin]
  apply Option.map_congr
  intro rule hfound
  have hname : rule.name = name := by simpa using List.find?_some hfound
  rw [convertRule_eq_of_not_layout typeChecked (by rwa [hname])]

/-- What contributions bring along is as it was, if contributions for layout bring nothing
of the kind. -/
theorem contributed_prettier (part : Contribution → List String)
    (hpart : ∀ c : Contribution, c.plugins = [] → c.presets = [] → part c = []) :
    (contributionsOf
        (convertRules ⟨.builtin, .builtin⟩ ⟨true, typeChecked⟩ rules existing).outcomes
        (conversionsOf ⟨.builtin, .builtin⟩ ⟨true, typeChecked⟩ rules)).flatMap
          (part ·.contribution) =
      (contributionsOf
        (convertRules ⟨.builtin, .builtin⟩ ⟨false, typeChecked⟩ rules existing).outcomes
        (conversionsOf ⟨.builtin, .builtin⟩ ⟨false, typeChecked⟩ rules)).flatMap
          (part ·.contribution) := by
  rw [flatMap_contributionsOf, flatMap_contributionsOf, conversionsOf_prettier, List.flatMap_map]
  apply List.flatMap_congr
  intro r hr
  by_cases hlayout : r.1.name ∈ layoutRules
  · have hnothing : r.leaveLayout.contribution?.elim [] part = [] := by
      rw [leaveLayout_of_layout hlayout]
      exact hpart .nothing rfl rfl
    have hown : r.contribution?.elim [] part = [] := by
      cases hcontribution : r.contribution? with
      | none => rfl
      | some c =>
          obtain ⟨hplugins, hpresets⟩ := contribution_of_layout hr hlayout
            (ConvertedRule.contribution?_eq_some_iff.mp hcontribution)
          exact hpart c hplugins hpresets
    rw [hnothing, hown, ite_self, ite_self]
  · have hstatus := statusOf_prettier typeChecked rules existing hlayout
    unfold ConversionResults.statusOf at hstatus
    rw [leaveLayout_of_other hlayout, hstatus]

/-- The results `dropped` are the results `whole` for the source rules without the targets
of rules about layout alone and without their failures. Every rule about layout is
converted. -/
structure ConversionResults.DropsLayout (settings : ConversionSettings)
    (rules : List SourceRule) (whole dropped : ConversionResults) : Prop where
  converted_eq : dropped.converted.toList =
    whole.converted.toList.filter fun entry => ¬LayoutOnly settings rules entry.1
  conflicts_eq : dropped.conflicts =
    whole.conflicts.filter fun c => ¬LayoutOnly settings rules c.rule
  failed_eq : dropped.failed = whole.failed.filter fun f => f.rule ∉ layoutRules
  missing_eq : dropped.missing = whole.missing
  presets_eq : dropped.presets = whole.presets
  plugins_eq : dropped.plugins = whole.plugins
  outcomes_eq : dropped.outcomes = whole.outcomes.map fun o =>
    if o.rule ∈ layoutRules then ⟨o.rule, .converted⟩ else o
  layout_converted : ∀ rule ∈ rules, rule.name ∈ layoutRules →
    dropped.statusOf rule.name = some .converted

/-- Leaving the layout to Prettier drops the target rules that only rules about layout
propose, and the failures of such rules, and touches nothing else. -/
theorem convertRules_prettier :
    ConversionResults.DropsLayout ⟨false, typeChecked⟩ rules
      (convertRules ⟨.builtin, .builtin⟩ ⟨false, typeChecked⟩ rules existing)
      (convertRules ⟨.builtin, .builtin⟩ ⟨true, typeChecked⟩ rules existing) where
  converted_eq := by
    rw [toList_converted, toList_converted, toList_settledOf_prettier, List.filter_comm]
  conflicts_eq := by
    rw [conflicts_convertRules, conflicts_convertRules, toList_settledOf_prettier,
      List.filterMap_filter, List.filter_filterMap]
    apply List.filterMap_congr
    intro entry _
    exact (conflict?_filter existing
      (fun target => ¬LayoutOnly ⟨false, typeChecked⟩ rules target) entry).symm
  failed_eq := by
    rw [failed_convertRules_builtin, failed_convertRules_builtin, conversionsOf_prettier,
      List.filterMap_map, List.filter_filterMap]
    exact List.filterMap_congr fun r hr => failure?_leaveLayout hr
  missing_eq := by
    rw [missing_convertRules, missing_convertRules, conversionsOf_prettier, List.filterMap_map]
    exact List.filterMap_congr fun r hr => missing?_leaveLayout hr
  presets_eq := by
    rw [presets_convertRules, presets_convertRules,
      contributed_prettier typeChecked rules existing (·.presets) fun _ _ hpresets => hpresets]
  plugins_eq := by
    rw [plugins_convertRules, plugins_convertRules,
      contributed_prettier typeChecked rules existing (·.plugins) fun _ hplugins _ => hplugins]
  outcomes_eq := by
    rw [outcomes_convertRules_builtin, outcomes_convertRules_builtin, List.map_map]
    apply List.map_congr_left
    intro rule _
    simp only [Function.comp_apply]
    split
    · rename_i hlayout
      rw [convertRule_layout typeChecked hlayout, RuleConversion.status]
    · rename_i hother
      rw [convertRule_eq_of_not_layout typeChecked hother]
  layout_converted := by
    intro rule hrule hlayout
    rw [statusOf_builtin, Option.map_eq_some_iff]
    have hfound : (rules.find? (·.name == rule.name)).isSome = true :=
      List.find?_isSome.mpr ⟨rule, hrule, beq_self_eq_true rule.name⟩
    obtain ⟨first, hfirst⟩ := Option.isSome_iff_exists.mp hfound
    have hname : first.name = rule.name := by simpa using List.find?_some hfirst
    refine ⟨first, hfirst, ?_⟩
    rw [convertRule_layout typeChecked (by rwa [hname]), RuleConversion.status]

/-- An indentation that would be refused. -/
example : (convertRules ⟨.builtin, .builtin⟩ ⟨true, false⟩
    [⟨"indent", [.string "mixed"], .error⟩, ⟨"radix", [], .warn⟩] []).equivalents =
      [⟨"indent", []⟩, ⟨"radix", ["radix"]⟩] := by
  decide +kernel

end Results

end Relint
