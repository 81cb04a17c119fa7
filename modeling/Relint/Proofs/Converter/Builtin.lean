import Relint.Converter.Builtin
import Relint.Proofs.Assoc
import Relint.Proofs.Converter.Formatting
import Relint.Proofs.Converter.Plugin
import Relint.Proofs.Converter.Typing

/-!
The profiles of all built-in converters, and what follows for the target rules whose
mergers can refuse: few source rules propose them, and what those propose can always
be reconciled.
-/

namespace Relint

open Converter ConverterProfile

theorem describes_retired : (of []).Describes retired := by
  intro ctx
  exact answers_ok.mpr (fits_nothing [])

/-- The target rules of all built-in converters. -/
def builtinProfiles : ProfileTable :=
  (renamedRules.map fun row => (row.1, .of [row.2])) ++
    (retiredRules.map fun source => (source, .of [])) ++
    layoutProfiles ++ restrictionProfiles ++ limitProfiles ++ practiceProfiles ++
    typingProfiles ++ typeAwareProfiles ++ namingProfiles ++ pluginProfiles

theorem builtinProfiles_describe : builtinProfiles.Describes .builtin := by
  have hrenamed : ProfileTable.Describes
      (renamedRules.map fun row => (row.1, .of [row.2])) renamings :=
    ProfileTable.describes_rows fun row => describes_named row.2
  have hretired : ProfileTable.Describes
      (retiredRules.map fun source => (source, .of [])) retirements :=
    .cons describes_retired <| .cons describes_retired ProfileTable.describes_nil
  refine ProfileTable.describes_append ?_ pluginProfiles_describe
  refine ProfileTable.describes_append ?_ namingProfiles_describe
  refine ProfileTable.describes_append ?_ typeAwareProfiles_describe
  refine ProfileTable.describes_append ?_ typingProfiles_describe
  refine ProfileTable.describes_append ?_ practiceProfiles_describe
  refine ProfileTable.describes_append ?_ limitProfiles_describe
  refine ProfileTable.describes_append ?_ restrictionProfiles_describe
  refine ProfileTable.describes_append ?_ layoutProfiles_describe
  exact ProfileTable.describes_append hrenamed hretired

/-- The profile of the converter that the program has for a source rule. -/
theorem profile_of_builtin {source : String} {convert : Converter}
    (h : ConverterRegistry.builtin.lookup source = some convert) :
    ∃ profile, (source, profile) ∈ builtinProfiles ∧ profile.Describes convert := by
  obtain ⟨profile, hlookup, hdescribes⟩ := builtinProfiles_describe.lookup h
  exact ⟨profile, Assoc.mem_of_lookup hlookup, hdescribes⟩

/-- What a converted source rule contributes is as the profile of its converter says. Every
target rule is as severe as the source rule or off. -/
theorem profile_of_converted {settings : ConversionSettings} {rule : SourceRule}
    {c : Contribution} (h : convertRule .builtin settings rule = .converted c) :
    ∃ profile, (rule.name, profile) ∈ builtinProfiles ∧ c.plugins = profile.plugins ∧
      ∀ t ∈ c.rules, t.name ∈ profile.targets ∧
        (t.severity = some rule.severity ∨ t.severity = some .off) := by
  obtain ⟨convert, answer, hlookup, hanswer, rfl⟩ := convertRule_eq_converted_iff.mp h
  obtain ⟨profile, hrow, hdescribes⟩ := profile_of_builtin hlookup
  have hfits := hdescribes _ answer hanswer
  refine ⟨profile, hrow, hfits.plugins_eq, ?_⟩
  intro _ hresolved
  obtain ⟨t, ht, rfl⟩ := List.mem_map.mp hresolved
  have hadmits := hfits.admits t ht
  refine ⟨hadmits.name_mem, ?_⟩
  rcases hadmits.severity_open with hopen | ⟨_, hoff⟩
  · exact Or.inl (by simp [TargetRule.resolve, hopen])
  · exact Or.inr (by simp [TargetRule.resolve, hoff])

/-- The target rules whose mergers can refuse. -/
def contestedTargets : List String :=
  ["@typescript-eslint/ban-types", "@typescript-eslint/consistent-type-assertions",
    "no-restricted-imports"]

/-- The source rules that propose them. -/
def contestingSources : List String :=
  ["ban-types", "no-angle-bracket-type-assertion", "no-object-literal-type-assertion",
    "import-blacklist"]

/-- Nothing is required of the arguments for other target rules. -/
theorem reconcilable_of_uncontested {target : String} (arguments : List Value)
    (h : target ∉ contestedTargets) : Reconcilable target arguments := by
  simp only [contestedTargets, List.mem_cons, List.not_mem_nil, or_false, not_or] at h
  obtain ⟨htypes, hassertions, himports⟩ := h
  exact ⟨fun heq => absurd heq htypes, fun heq => absurd heq hassertions,
    fun heq => absurd heq himports⟩

theorem uncontested_targets : ∀ row ∈ builtinProfiles, row.1 ∉ contestingSources →
    ∀ target ∈ row.2.targets, target ∉ contestedTargets := by
  decide +kernel

/-- Everything that a built-in converter answers can be reconciled. -/
theorem reconcilable_builtin {source : String} {convert : Converter}
    (h : ConverterRegistry.builtin.lookup source = some convert) (ctx : Context) :
    Answers Contribution.Reconcilable (convert ctx) := by
  by_cases hsource : source ∈ contestingSources
  · simp only [contestingSources, List.mem_cons, List.not_mem_nil, or_false] at hsource
    rcases hsource with rfl | rfl | rfl | rfl
    · have hconvert : convert = banTypes := Option.some.inj (h.symm.trans rfl)
      rw [hconvert]
      exact reconcilable_banTypes ctx
    · have hconvert : convert = noAngleBracketTypeAssertion := Option.some.inj (h.symm.trans rfl)
      rw [hconvert]
      exact reconcilable_noAngleBracketTypeAssertion ctx
    · have hconvert : convert = noObjectLiteralTypeAssertion :=
        Option.some.inj (h.symm.trans rfl)
      rw [hconvert]
      exact reconcilable_noObjectLiteralTypeAssertion ctx
    · have hconvert : convert = importBlacklist := Option.some.inj (h.symm.trans rfl)
      rw [hconvert]
      exact reconcilable_importBlacklist ctx
  · obtain ⟨profile, hrow, hdescribes⟩ := profile_of_builtin h
    intro c hc t ht
    apply reconcilable_of_uncontested
    exact uncontested_targets _ hrow hsource _ ((hdescribes ctx c hc).admits t ht).name_mem

end Relint
