import Relint.Proofs.Editor.Suggestions

/-!
Writing the new editor settings into the file that they come from. The new settings have
other names than those that are converted, so they never come into a conversion themselves:
converting a file that has been converted gives the same results, and writing them a second
time changes nothing.
-/

namespace Relint

open Assoc EditorConverter

variable {converters : EditorRegistry} {settings : ConversionSettings} {entries others : Fields}

/-- The names of new settings stand in the order in which the settings first came up. -/
theorem keys_converted_editor (converters : EditorRegistry) (settings : ConversionSettings)
    (entries : Fields) :
    keys (convertEditorSettings converters settings entries).converted =
      distinct (keys (converters.suggestions settings entries)) := by
  rw [convertEditorSettings_eq]
  exact keys_foldl_combineEntry _ [] _

/-- A conversion depends on the known settings and their order only. -/
theorem convertEditorSettings_congr
    (h : entries.filter (fun entry => knownEditorSettings.contains entry.1) =
      others.filter fun entry => knownEditorSettings.contains entry.1) :
    convertEditorSettings converters settings entries =
      convertEditorSettings converters settings others := by
  have hknown : ∀ row : Fields, convertEditorSettings converters settings
      (row.filter fun entry => knownEditorSettings.contains entry.1) =
        convertEditorSettings converters settings row := by
    intro row
    rw [convertEditorSettings, convertEditorSettings, List.foldl_filter]
    congr 1
    funext results entry
    split
    · rfl
    · rename_i hunknown
      rw [convertEditorSetting, if_neg hunknown]
  rw [← hknown entries, h, hknown]

/-- The built-in converters write nothing under the name of a setting of the TSLint
extension. -/
theorem not_tslint_of_mem_keys {name : String}
    (h : name ∈ keys (convertEditorSettings .builtin settings entries).converted) :
    ¬ "tslint.".toList <+: name.toList := by
  rw [keys_converted_editor, mem_distinct, keys, List.mem_map] at h
  obtain ⟨suggestion, hmem, rfl⟩ := h
  obtain ⟨_, _, hsuggests⟩ := mem_suggestions_builtin.mp hmem
  have hname := hsuggests.name_mem
  rw [← List.isPrefixOf_iff_prefix]
  simp only [List.mem_cons, List.not_mem_nil, or_false] at hname
  rcases hname with hname | hname | hname <;> rw [hname] <;> decide

/-- Every known setting is one of the TSLint extension. -/
theorem tslint_of_known : ∀ name ∈ knownEditorSettings, "tslint.".toList <+: name.toList := by
  simp only [← List.isPrefixOf_iff_prefix]
  decide

/-- Converting settings and writing the results beside them. The names that are there keep
their places, and behind them stand the new ones in the order in which they first came up;
a new value replaces an old one, and all other values stay, those of the TSLint extension
among them. Doing the same once more gives the same results and the same settings. -/
theorem converted_settings_applied (settings : ConversionSettings) (entries : Fields) :
    let results := convertEditorSettings .builtin settings entries
    let updated := results.apply entries
    keys results.converted = distinct (keys (EditorRegistry.builtin.suggestions settings entries)) ∧
      keys updated = keys entries ++
        (keys results.converted).filter (fun name => !(keys entries).contains name) ∧
      (∀ name, updated.lookup name = (results.converted.lookup name).or (entries.lookup name)) ∧
      (∀ name, "tslint.".toList <+: name.toList → updated.lookup name = entries.lookup name) ∧
      convertEditorSettings .builtin settings updated = results ∧
      results.apply updated = updated := by
  intro results updated
  have hkeys : keys results.converted =
      distinct (keys (EditorRegistry.builtin.suggestions settings entries)) :=
    keys_converted_editor .builtin settings entries
  have hnodup : (keys results.converted).Nodup := by
    rw [hkeys]
    exact nodup_distinct
  have hlookup : ∀ name, updated.lookup name =
      (results.converted.lookup name).or (entries.lookup name) :=
    lookup_insertAll hnodup entries
  refine ⟨hkeys, ?_, hlookup, ?_, ?_, ?_⟩
  · have hwritten := keys_insertAll entries results.converted
    rwa [foldl_appendNew_eq_append, distinct_of_nodup hnodup] at hwritten
  · intro name htslint
    have hnone : results.converted.lookup name = none :=
      lookup_eq_none_iff_not_mem_keys.mpr fun hmem => not_tslint_of_mem_keys hmem htslint
    rw [hlookup, hnone, Option.none_or]
  · refine convertEditorSettings_congr (filter_insertAll ?_ entries)
    intro name hmem
    rw [Bool.eq_false_iff]
    intro hknown
    exact not_tslint_of_mem_keys hmem (tslint_of_known name (List.contains_iff_mem.mp hknown))
  · refine insertAll_eq_self ?_
    rintro ⟨name, v⟩ hentry
    rw [hlookup, (lookup_eq_some_iff_mem hnodup).mpr hentry]
    rfl

/-- Options that are set already are replaced where they stand, and the languages, which are
not, come last. -/
theorem sample_settings_applied :
    let settings : ConversionSettings := ⟨false, false⟩
    let entries : Fields := [("eslint.options", .object [("useEslintrc", .bool false)]),
      ("tslint.jsEnable", .bool false), ("editor.tabSize", .number (.integer 2)),
      ("tslint.exclude", .string "dist/**")]
    let results := convertEditorSettings .builtin settings entries
    let updated := results.apply entries
    "tslint.".toList <+: "tslint.exclude".toList ∧
      updated.lookup "tslint.exclude" = entries.lookup "tslint.exclude" ∧
      convertEditorSettings .builtin settings updated = results ∧
      results.apply updated = updated ∧
      updated = [("eslint.options", .object [("ignorePattern", .strings ["dist/**"])]),
        ("tslint.jsEnable", .bool false), ("editor.tabSize", .number (.integer 2)),
        ("tslint.exclude", .string "dist/**"),
        ("eslint.validate", .strings ["typescript", "typescriptreact"])] := by
  intro settings entries results updated
  obtain ⟨_, _, _, htslint, hagain, hwritten⟩ := converted_settings_applied settings entries
  have hbelongs : "tslint.".toList <+: "tslint.exclude".toList := by
    rw [← List.isPrefixOf_iff_prefix]
    decide
  exact ⟨hbelongs, htslint "tslint.exclude" hbelongs, hagain, hwritten, by decide +kernel⟩

end Relint
