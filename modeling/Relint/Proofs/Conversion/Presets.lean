import Relint.Proofs.Conversion.Rerun
import Relint.Proofs.Converter.Builtin
import Relint.Proofs.OrderedSet

/-!
The presets of the new configuration where the layout is left to Prettier. The conversion
names the preset of Prettier nowhere itself and puts it behind everything else. An existing
configuration that names it already keeps it at its place, though, and then everything that
comes up behind it has the last word instead.
-/

namespace Relint

variable {settings : ConversionSettings} {tslint : TslintConfig} {before : Option EslintConfig}

/-- The presets of an existing configuration, if there is one. -/
def existingPresets (before : Option EslintConfig) : List String :=
  (before.map (·.presets)).getD []

theorem ConfigConversion.field_extends {c : ConfigConversion}
    (hsome : c.presets settings before ≠ []) :
    (c.summarize settings before).field? "extends" =
      some (.strings (c.presets settings before)) := by
  unfold ConfigConversion.summarize
  generalize c.presets settings before = presets at hsome
  cases presets with
  | nil => exact absurd rfl hsome
  | cons preset rest => simp [Value.field?, Value.object?, List.lookup_cons]

section Contributed

theorem prettierPreset_not_in_profiles :
    ∀ row ∈ builtinProfiles, prettierPreset ∉ row.2.presets := by
  decide +kernel

/-- No built-in converter brings the preset of Prettier along. -/
theorem prettierPreset_not_contributed {rule : SourceRule} {c : Contribution}
    (h : convertRule .builtin settings rule = .converted c) : prettierPreset ∉ c.presets := by
  obtain ⟨convert, answer, hlookup, hanswer, rfl⟩ := convertRule_eq_converted_iff.mp h
  obtain ⟨profile, hrow, hdescribes⟩ := profile_of_builtin hlookup
  have hpresets : answer.presets = profile.presets := (hdescribes _ answer hanswer).presets_eq
  change prettierPreset ∉ answer.presets
  rw [hpresets]
  exact prettierPreset_not_in_profiles _ hrow

/-- Where the layout is left to Prettier its preset takes the place of none. -/
theorem prettierPreset_not_replacing (hprettier : settings.prettier = true)
    (presets : List String) : prettierPreset ∉ (convertPresets settings presets).presets := by
  simp only [convertPresets, mem_distinct, List.mem_filter, hprettier, Bool.true_and]
  simp

theorem prettierPreset_not_in_results (hprettier : settings.prettier = true)
    (tslint : TslintConfig) (before : Option EslintConfig) :
    prettierPreset ∉
      (convertConfig ⟨.builtin, .builtin⟩ settings tslint before).results.presets.toList := by
  simp only [convertConfig, OrderedSet.toList_ofList, mem_distinct, List.mem_append]
  rintro (hreplacing | hcontributed)
  · exact prettierPreset_not_replacing hprettier tslint.presets hreplacing
  · rw [presets_convertRules, OrderedSet.toList_ofList, mem_distinct, flatMap_contributionsOf,
      List.mem_flatMap] at hcontributed
    obtain ⟨r, hr, hpreset⟩ := hcontributed
    split at hpreset
    · cases hcontribution : r.contribution? with
      | none => simp [hcontribution] at hpreset
      | some c =>
          have hconverted := ConvertedRule.contribution?_eq_some_iff.mp hcontribution
          rw [(eq_of_mem_conversionsOf hr).2] at hconverted
          rw [hcontribution] at hpreset
          exact prettierPreset_not_contributed hconverted hpreset
    · exact absurd hpreset List.not_mem_nil

end Contributed

/-- Where the layout is left to Prettier, its preset is among those of the new configuration
exactly once. It is the last of them exactly when the existing configuration does not name
it, or names all presets of the new configuration no later than it. -/
theorem prettier_last_iff (typeChecked : Bool) (tslint : TslintConfig)
    (before : Option EslintConfig) :
    let settings : ConversionSettings := ⟨true, typeChecked⟩
    let c := convertConfig ⟨.builtin, .builtin⟩ settings tslint before
    ∃ presets : List String,
      (c.summarize settings before).field? "extends" = some (.strings presets) ∧
        presets.count prettierPreset = 1 ∧
        (presets.getLast? = some prettierPreset ↔
          prettierPreset ∉ existingPresets before ∨
            ∀ preset ∈ presets, (existingPresets before).idxOf preset ≤
              (existingPresets before).idxOf prettierPreset) := by
  intro settings c
  have hpresets : c.presets settings before =
      distinct (existingPresets before ++ c.results.presets.toList ++ [prettierPreset]) := rfl
  have hmem : prettierPreset ∈ c.presets settings before := by
    rw [hpresets]
    simp
  refine ⟨c.presets settings before, ?_, ?_, ?_⟩
  · exact ConfigConversion.field_extends (List.ne_nil_of_mem hmem)
  · rw [hpresets] at hmem ⊢
    exact List.count_eq_one_of_mem nodup_distinct hmem
  · rw [hpresets]
    exact getLast?_distinct_concat_iff (prettierPreset_not_in_results rfl tslint before)

/-- An existing configuration that leaves the layout to Prettier. -/
def prettierExisting : EslintConfig where
  presets := [prettierPreset]
  plugins := []
  globals := none
  rules := []

/-- A preset that the conversion adds itself comes behind that of Prettier if the existing
configuration names this one. -/
theorem existing_prettier_overruled :
    let settings : ConversionSettings := ⟨true, false⟩
    let tslint : TslintConfig := ⟨["tslint-react"], .error, [], []⟩
    let c := convertConfig ⟨.builtin, .builtin⟩ settings tslint (some prettierExisting)
    (c.summarize settings (some prettierExisting)).field? "extends" =
        some (.strings [prettierPreset, "plugin:react/recommended"]) ∧
      [prettierPreset, "plugin:react/recommended"].getLast? ≠ some prettierPreset := by
  intro settings tslint c
  have hpresets : c.presets settings (some prettierExisting) =
      [prettierPreset, "plugin:react/recommended"] := by
    simp only [c, ConfigConversion.presets, convertConfig, OrderedSet.toList_ofList,
      presets_convertRules]
    decide +kernel
  refine ⟨?_, by decide⟩
  rw [ConfigConversion.field_extends (by simp [hpresets]), hpresets]

end Relint
