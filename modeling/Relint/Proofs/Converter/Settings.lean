import Relint.Converter.Builtin
import Relint.Proofs.Assoc
import Relint.Proofs.Converter.Basic
import Mathlib.Tactic.Tauto

/-!
What the settings of a run mean to the built-in converters. Almost all converters look at
the source rule alone. Those for rules about layout are asked first whether the layout is
left to Prettier, and those for rules that need type information add a notice where there
is none; what is behind these two questions does not look at the settings either.
-/

namespace Relint

/-- The answers of the converter depend on the source rule alone. -/
def Converter.IgnoresSettings (convert : Converter) : Prop :=
  ∀ arguments severity settings settings',
    convert ⟨arguments, severity, settings⟩ = convert ⟨arguments, severity, settings'⟩

/-- None of the converters looks at the settings. -/
def ConverterRegistry.IgnoresSettings (registry : ConverterRegistry) : Prop :=
  ∀ entry ∈ registry, entry.2.IgnoresSettings

theorem ConverterRegistry.ignoresSettings_of_answers {registry : ConverterRegistry}
    (h : ∀ arguments severity settings settings',
      registry.map (fun entry => entry.2 ⟨arguments, severity, settings⟩) =
        registry.map fun entry => entry.2 ⟨arguments, severity, settings'⟩) :
    registry.IgnoresSettings := by
  intro entry hentry arguments severity settings settings'
  exact List.map_inj_left.mp (h arguments severity settings settings') entry hentry

theorem ConverterRegistry.IgnoresSettings.append {registry registry' : ConverterRegistry}
    (h : registry.IgnoresSettings) (h' : registry'.IgnoresSettings) :
    ConverterRegistry.IgnoresSettings (registry ++ registry') :=
  List.forall_mem_append.mpr ⟨h, h'⟩

namespace Converter

open ConverterRegistry

theorem renamings_ignoreSettings : renamings.IgnoresSettings :=
  ignoresSettings_of_answers fun _ _ _ _ => rfl

theorem retirements_ignoreSettings : retirements.IgnoresSettings :=
  ignoresSettings_of_answers fun _ _ _ _ => rfl

theorem layoutConverters_ignoreSettings : layoutConverters.IgnoresSettings :=
  ignoresSettings_of_answers fun _ _ _ _ => rfl

theorem restrictions_ignoreSettings : restrictions.IgnoresSettings :=
  ignoresSettings_of_answers fun _ _ _ _ => rfl

theorem limits_ignoreSettings : limits.IgnoresSettings :=
  ignoresSettings_of_answers fun _ _ _ _ => rfl

theorem practices_ignoreSettings : practices.IgnoresSettings :=
  ignoresSettings_of_answers fun _ _ _ _ => rfl

theorem typings_ignoreSettings : typings.IgnoresSettings :=
  ignoresSettings_of_answers fun _ _ _ _ => rfl

theorem typeAwareConverters_ignoreSettings : typeAwareConverters.IgnoresSettings :=
  ignoresSettings_of_answers fun _ _ _ _ => rfl

theorem namings_ignoreSettings : namings.IgnoresSettings :=
  ignoresSettings_of_answers fun _ _ _ _ => rfl

theorem plugins_ignoreSettings : plugins.IgnoresSettings :=
  ignoresSettings_of_answers fun _ _ _ _ => rfl

/-- The built-in converters that are neither for layout nor for type information. -/
def plain : ConverterRegistry :=
  renamings ++ retirements ++ restrictions ++ limits ++ practices ++ typings ++ namings ++ plugins

theorem plain_ignoreSettings : plain.IgnoresSettings := by
  refine IgnoresSettings.append ?_ plugins_ignoreSettings
  refine IgnoresSettings.append ?_ namings_ignoreSettings
  refine IgnoresSettings.append ?_ typings_ignoreSettings
  refine IgnoresSettings.append ?_ practices_ignoreSettings
  refine IgnoresSettings.append ?_ limits_ignoreSettings
  refine IgnoresSettings.append ?_ restrictions_ignoreSettings
  exact IgnoresSettings.append renamings_ignoreSettings retirements_ignoreSettings

theorem mem_builtin_iff {entry : String × Converter} :
    entry ∈ builtin ↔ entry ∈ plain ∨ entry ∈ formatting ∨ entry ∈ typeAwares := by
  simp only [builtin, plain, List.mem_append]
  tauto

/-- All that a built-in converter does with the settings: it ignores them, or it asks once
whether the layout is left to Prettier, or it asks once for type information. -/
theorem settings_of_mem_builtin {source : String} {convert : Converter}
    (h : (source, convert) ∈ builtin) :
    convert.IgnoresSettings ∨
      ((source, convert) ∈ formatting ∧ ∃ inner : Converter, inner.IgnoresSettings ∧
        convert = unlessPrettier inner) ∨
      ∃ inner : Converter, inner.IgnoresSettings ∧ convert = typeAware inner := by
  rcases mem_builtin_iff.mp h with hplain | hformatting | htypeAware
  · exact Or.inl (plain_ignoreSettings _ hplain)
  · obtain ⟨row, hrow, heq⟩ := List.mem_map.mp hformatting
    exact Or.inr (Or.inl ⟨hformatting, row.2, layoutConverters_ignoreSettings row hrow,
      (Prod.mk.inj heq).2.symm⟩)
  · obtain ⟨row, hrow, heq⟩ := List.mem_map.mp htypeAware
    exact Or.inr (Or.inr ⟨row.2, typeAwareConverters_ignoreSettings row hrow,
      (Prod.mk.inj heq).2.symm⟩)

/-- The source rules about layout. -/
abbrev layoutRules : List String :=
  Assoc.keys formatting

/-- For a rule about layout none but its own converter is found. -/
theorem exists_lookup_builtin_of_layout {source : String} (h : source ∈ layoutRules) :
    ∃ convert : Converter, builtin.lookup source = some (unlessPrettier convert) := by
  have hfresh : ∀ name ∈ layoutRules, name ∉ Assoc.keys (renamings ++ retirements) := by
    decide +kernel
  have hnone : (renamings ++ retirements).lookup source = none :=
    Assoc.lookup_eq_none_iff_not_mem_keys.mpr (hfresh source h)
  have hlayout : formatting.lookup source =
      (layoutConverters.lookup source).map unlessPrettier :=
    Assoc.lookup_map_snd unlessPrettier
  cases hconvert : layoutConverters.lookup source with
  | none =>
      rw [hconvert] at hlayout
      exact absurd h (Assoc.lookup_eq_none_iff_not_mem_keys.mp hlayout)
  | some convert =>
      refine ⟨convert, ?_⟩
      rw [hconvert] at hlayout
      simp only [builtin, List.lookup_append] at hnone ⊢
      rw [hnone, hlayout]
      rfl

/-- Where the layout is left to Prettier, rules about it convert to nothing whatever their
arguments. -/
theorem convertRule_layout (typeChecked : Bool) {rule : SourceRule} (h : rule.name ∈ layoutRules) :
    convertRule builtin ⟨true, typeChecked⟩ rule = .converted .nothing := by
  obtain ⟨convert, hlookup⟩ := exists_lookup_builtin_of_layout h
  rw [convertRule_eq_converted_iff]
  exact ⟨_, .nothing, hlookup, rfl, rfl⟩

/-- Leaving the layout to Prettier is nothing to the other rules. -/
theorem convertRule_eq_of_not_layout (typeChecked : Bool) {rule : SourceRule}
    (h : rule.name ∉ layoutRules) :
    convertRule builtin ⟨true, typeChecked⟩ rule =
      convertRule builtin ⟨false, typeChecked⟩ rule := by
  unfold convertRule
  cases hlookup : builtin.lookup rule.name with
  | none => rfl
  | some convert =>
      have hanswer : convert ⟨rule.arguments, rule.severity, ⟨true, typeChecked⟩⟩ =
          convert ⟨rule.arguments, rule.severity, ⟨false, typeChecked⟩⟩ := by
        rcases settings_of_mem_builtin (Assoc.mem_of_lookup hlookup) with
          hplain | ⟨hlayout, _⟩ | ⟨inner, hinner, rfl⟩
        · exact hplain _ _ _ _
        · exact absurd (List.mem_map_of_mem hlayout) h
        · simp only [typeAware]
          rw [hinner rule.arguments rule.severity ⟨true, typeChecked⟩ ⟨false, typeChecked⟩]
      simp only [hanswer]

end Converter

end Relint
