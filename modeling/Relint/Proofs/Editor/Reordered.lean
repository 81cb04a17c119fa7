import Relint.Proofs.Editor.Suggestions
import Relint.Proofs.Value.Unique

/-!
Editor settings in another order. Of what the built-in converters suggest only the globs of
files that are left out meet under one name, and globs are joined: each of them is kept once.
So the order of the settings shows in nothing but the order of new settings, of options and
of globs, and no glob is lost to another setting.
-/

namespace Relint

open Assoc EditorConverter

variable {settings : ConversionSettings} {entries others : Fields}

section Globs

/-- Globs as the built-in converters suggest them. -/
inductive IsGlobs : Value → Prop
  | one (glob : String) : IsGlobs (.string glob)
  | several (globs : List String) : IsGlobs (.strings globs)

/-- The globs of a value. -/
abbrev globTexts (v : Value) : List String :=
  Value.stringList (some v)

theorem globTexts_strings (globs : List String) : globTexts (.strings globs) = globs :=
  Value.stringList_strings globs

/-- The same globs: values that are equal, or lists with the same globs in another order. -/
inductive SameGlobs : Value → Value → Prop
  | refl (v : Value) : SameGlobs v v
  | perm {globs others : List Value} (h : globs.Perm others) :
      SameGlobs (.array globs) (.array others)

theorem IsGlobs.globsOf_eq {v : Value} (h : IsGlobs v) : globsOf v = (globTexts v).map .string := by
  cases h with
  | one glob => rfl
  | several globs => rw [globTexts_strings, Value.strings, globsOf]

/-- Strings are collected as texts are. -/
theorem Value.pushAllUnique_strings (items additions : List String) :
    pushAllUnique (items.map .string) (additions.map .string) =
      (additions.foldl appendNew items).map .string := by
  induction additions generalizing items with
  | nil => rfl
  | cons text rest ih =>
      have hcontains : containsSame (items.map .string) (.string text) = items.contains text := by
        rw [Bool.eq_iff_iff, containsSame_iff_mem, List.contains_iff_mem]
        simp [canonical, Function.comp_def]
      have hstep : pushUnique (items.map .string) (.string text) =
          (appendNew items text).map .string := by
        rw [pushUnique, appendNew, hcontains]
        split
        · rfl
        · rw [List.map_append]
          rfl
      rw [List.map_cons, pushAllUnique_cons, hstep, ih]
      rfl

theorem joinGlobs_eq {v w : Value} (hv : IsGlobs v) (hw : IsGlobs w) :
    joinGlobs v w = .strings (distinct (globTexts v ++ globTexts w)) := by
  rw [joinGlobs, hv.globsOf_eq, hw.globsOf_eq, ← List.map_append]
  exact congrArg Value.array (Value.pushAllUnique_strings [] _)

/-- Globs that meet others are all kept, each once; globs alone stay as they are written. -/
theorem combined_globs {v : Value} {rest : List Value} (hv : IsGlobs v)
    (hrest : ∀ w ∈ rest, IsGlobs w) :
    combined (joinOption ignoreOption) none (v :: rest) = some (
      if rest = [] then v else .strings (distinct ((v :: rest).flatMap globTexts))) := by
  change combined (joinOption ignoreOption) (some v) rest = _
  induction rest generalizing v with
  | nil => rfl
  | cons w more ih =>
      obtain ⟨hw, hmore⟩ := List.forall_mem_cons.mp hrest
      have hjoined : joinOption ignoreOption (some v) w =
          .strings (distinct (globTexts v ++ globTexts w)) := joinGlobs_eq hv hw
      change combined (joinOption ignoreOption) (some (joinOption ignoreOption (some v) w)) more = _
      rw [hjoined, ih (.several _) hmore, if_neg (List.cons_ne_nil w more)]
      cases more with
      | nil => simp
      | cons next more =>
          rw [if_neg (List.cons_ne_nil next more)]
          simp only [List.flatMap_cons, globTexts_strings]
          rw [distinct_append (distinct _), distinct_distinct, ← distinct_append, List.append_assoc]

/-- In which order globs are suggested does not matter to which ones are left out. -/
theorem sameGlobs_combined {values values' : List Value} (hperm : values.Perm values')
    (h : ∀ v ∈ values, IsGlobs v) :
    Option.Rel SameGlobs (combined (joinOption ignoreOption) none values)
      (combined (joinOption ignoreOption) none values') := by
  have h' : ∀ v ∈ values', IsGlobs v := fun v hv => h v (hperm.mem_iff.mpr hv)
  match values with
  | [] =>
      obtain rfl := hperm.nil_eq
      exact Option.Rel.none
  | [v] =>
      obtain rfl := List.singleton_perm.mp hperm
      exact Option.Rel.some (SameGlobs.refl v)
  | v :: w :: rest =>
      obtain ⟨v', w', rest', rfl⟩ : ∃ v' w' rest', values' = v' :: w' :: rest' := by
        match values', hperm.length_eq with
        | v' :: w' :: rest', _ => exact ⟨v', w', rest', rfl⟩
      obtain ⟨hv, hrest⟩ := List.forall_mem_cons.mp h
      obtain ⟨hv', hrest'⟩ := List.forall_mem_cons.mp h'
      rw [combined_globs hv hrest, combined_globs hv' hrest', if_neg (List.cons_ne_nil w rest),
        if_neg (List.cons_ne_nil w' rest')]
      exact .some (.perm ((distinct_perm (hperm.flatMap_right globTexts)).map Value.string))

/-- A glob is kept exactly when it is suggested. -/
theorem mem_combined_globs {values : List Value} (h : ∀ v ∈ values, IsGlobs v) {glob : String} :
    (∃ v, combined (joinOption ignoreOption) none values = some v ∧ .string glob ∈ globsOf v) ↔
      ∃ v ∈ values, glob ∈ globTexts v := by
  have hmem : ∀ {v : Value}, IsGlobs v → (.string glob ∈ globsOf v ↔ glob ∈ globTexts v) := by
    intro v hv
    simp [hv.globsOf_eq]
  cases values with
  | nil => simp [combined]
  | cons v rest =>
      obtain ⟨hv, hrest⟩ := List.forall_mem_cons.mp h
      rw [combined_globs hv hrest]
      simp only [Option.some.injEq, exists_eq_left']
      split
      · rename_i hnil
        simp [hnil, hmem hv]
      · rw [hmem (.several _), globTexts_strings, mem_distinct, List.mem_flatMap]

end Globs

section Options

/-- Objects with the same options in any order, up to the order of their globs. -/
def SameOptions (v w : Value) : Prop :=
  ∃ options others : Fields, v = .object options ∧ w = .object others ∧
    SameBut ignoreOption SameGlobs options others

theorem suggestedOptions_perm (hperm : entries.Perm others) :
    (suggestedOptions settings entries).Perm (suggestedOptions settings others) :=
  (valuesAt_perm (hperm.flatMap_right _) optionsSetting).flatMap_right fieldsOf

theorem isGlobs_of_mem_suggestedOptions {v : Value}
    (h : v ∈ valuesAt ignoreOption (suggestedOptions settings entries)) : IsGlobs v := by
  obtain ⟨entry, _, hsuggests⟩ := mem_suggestedOptions.mp (mem_valuesAt.mp h)
  rcases suggests_option_iff.mp hsuggests with ⟨path, _, hv⟩ | ⟨_, hv⟩ | ⟨globs, _, _, hv⟩
  · simp [ignoreOption, configOption] at hv
  · obtain rfl : v = .string "*.d.ts" := by simpa using hv
    exact .one _
  · obtain rfl : v = .strings (globTexts globs) := by simpa using hv
    exact .several _

/-- Every option but the globs comes from the setting for the path of a configuration. -/
theorem configFile_of_mem_suggestedOptions {name : String} {v : Value} (hname : name ≠ ignoreOption)
    (h : v ∈ valuesAt name (suggestedOptions settings entries)) :
    name = configOption ∧ ("tslint.configFile", v) ∈ entries ∧ v.isString = true := by
  obtain ⟨entry, hentry, hsuggests⟩ := mem_suggestedOptions.mp (mem_valuesAt.mp h)
  rcases suggests_option_iff.mp hsuggests with ⟨path, rfl, hv⟩ | ⟨_, hv⟩ | ⟨globs, _, _, hv⟩
  · obtain ⟨rfl, rfl⟩ : name = configOption ∧ v = .string path := by simpa using hv
    exact ⟨rfl, hentry, rfl⟩
  · simp [hname] at hv
  · simp [hname] at hv

variable (hdistinct : (keys entries).Nodup)

include hdistinct

theorem option_unique {name : String} (hname : name ≠ ignoreOption) {v w : Value}
    (hv : v ∈ valuesAt name (suggestedOptions settings entries))
    (hw : w ∈ valuesAt name (suggestedOptions settings entries)) : v = w := by
  obtain ⟨_, hv, _⟩ := configFile_of_mem_suggestedOptions hname hv
  obtain ⟨_, hw, _⟩ := configFile_of_mem_suggestedOptions hname hw
  exact eq_of_mem_of_mem hdistinct hv hw

theorem suggestion_unique {name : String} (hname : name ≠ optionsSetting) {v w : Value}
    (hv : v ∈ valuesAt name (EditorRegistry.builtin.suggestions settings entries))
    (hw : w ∈ valuesAt name (EditorRegistry.builtin.suggestions settings entries)) : v = w := by
  obtain ⟨⟨source, old⟩, hentry, hsuggests⟩ := mem_suggestions_builtin.mp (mem_valuesAt.mp hv)
  obtain ⟨⟨source', old'⟩, hentry', hsuggests'⟩ := mem_suggestions_builtin.mp (mem_valuesAt.mp hw)
  obtain rfl : source = source' := hsuggests.source_eq hsuggests' rfl hname
  obtain rfl : old = old' := eq_of_mem_of_mem hdistinct hentry hentry'
  exact congrArg Prod.snd (hsuggests.unique hsuggests')

theorem sameOptions_of_perm (settings : ConversionSettings) (hperm : entries.Perm others) :
    Option.Rel SameOptions
      ((convertEditorSettings .builtin settings entries).converted.lookup optionsSetting)
      ((convertEditorSettings .builtin settings others).converted.lookup optionsSetting) := by
  have hoptions : (suggestedOptions settings entries).Perm (suggestedOptions settings others) :=
    suggestedOptions_perm hperm
  rw [lookup_optionsSetting, lookup_optionsSetting]
  by_cases hnone : suggestedOptions settings entries = []
  · have hnone' : suggestedOptions settings others = [] := by
      rw [hnone] at hoptions
      exact hoptions.nil_eq.symm
    rw [if_pos hnone, if_pos hnone']
    exact .none
  · have hsome' : suggestedOptions settings others ≠ [] := by
      intro hnone'
      rw [hnone'] at hoptions
      exact hnone hoptions.eq_nil
    rw [if_neg hnone, if_neg hsome']
    refine .some ⟨_, _, rfl, rfl, sameBut_of_perm hoptions ?_ ?_⟩
    · intro name hname v hv w hw
      exact option_unique hdistinct hname hv hw
    · exact sameGlobs_combined (valuesAt_perm hoptions ignoreOption)
        fun v => isGlobs_of_mem_suggestedOptions

/-- The path of a configuration is the one that the settings give, if it is one. -/
theorem option?_configOption : (convertEditorSettings .builtin settings entries).option?
    configOption = (entries.lookup "tslint.configFile").filter (·.isString) := by
  have hname : configOption ≠ ignoreOption := by decide
  have hmem : ∀ v, v ∈ valuesAt configOption (suggestedOptions settings entries) ↔
      entries.lookup "tslint.configFile" = some v ∧ v.isString = true := by
    intro v
    rw [lookup_eq_some_iff_mem hdistinct]
    constructor
    · intro hv
      exact (configFile_of_mem_suggestedOptions hname hv).2
    · rintro ⟨hentry, hstring⟩
      obtain ⟨path, rfl⟩ : ∃ path, v = .string path := by
        cases v <;> simp_all [Value.isString]
      exact mem_valuesAt.mpr (mem_suggestedOptions.mpr ⟨_, hentry, .configFile path⟩)
  have hreplaced : ∀ found v, joinOption configOption found v = v := by
    intro found v
    cases found with
    | none => rfl
    | some previous => rw [joinOption, overwriteOption, if_neg hname]
  rw [option?_builtin, combined_eq_getLast? hreplaced, Option.or_none]
  apply Option.ext
  intro v
  rw [Option.filter_eq_some_iff, ← hmem]
  constructor
  · exact List.mem_of_getLast?
  · intro hv
    obtain ⟨w, hw⟩ := Option.ne_none_iff_exists'.mp
      (mt List.getLast?_eq_none_iff.mp (List.ne_nil_of_mem hv))
    rw [hw, option_unique hdistinct hname (List.mem_of_getLast? hw) hv]

/-- The globs that are left out are those that the settings name. -/
theorem mem_option?_ignoreOption {glob : String} :
    (∃ v, (convertEditorSettings .builtin settings entries).option? ignoreOption = some v ∧
        .string glob ∈ globsOf v) ↔
      glob ∈ Value.stringList (entries.lookup "tslint.exclude") ∨
        entries.lookup "tslint.ignoreDefinitionFiles" = some (.bool true) ∧ glob = "*.d.ts" := by
  simp only [option?_builtin]
  rw [mem_combined_globs fun v => isGlobs_of_mem_suggestedOptions]
  constructor
  · rintro ⟨v, hv, hglob⟩
    obtain ⟨entry, hentry, hsuggests⟩ := mem_suggestedOptions.mp (mem_valuesAt.mp hv)
    rcases suggests_option_iff.mp hsuggests with ⟨path, _, hv⟩ | ⟨rfl, hv⟩ | ⟨globs, _, rfl, hv⟩
    · simp [ignoreOption, configOption] at hv
    · obtain rfl : v = .string "*.d.ts" := by simpa using hv
      refine .inr ⟨(lookup_eq_some_iff_mem hdistinct).mpr hentry, ?_⟩
      exact List.mem_singleton.mp hglob
    · obtain rfl : v = .strings (globTexts globs) := by simpa using hv
      rw [globTexts_strings] at hglob
      rw [(lookup_eq_some_iff_mem hdistinct).mpr hentry]
      exact .inl hglob
  · rintro (hglob | ⟨hentry, rfl⟩)
    · cases hfound : entries.lookup "tslint.exclude" with
      | none => simp [hfound] at hglob
      | some globs =>
          rw [hfound] at hglob
          have haccepted : globs.isString = true ∨ globs.isArray = true := by
            cases globs <;> simp_all [Value.isString, Value.isArray, Value.stringList]
          refine ⟨.strings (globTexts globs), ?_, by rwa [globTexts_strings]⟩
          exact mem_valuesAt.mpr
            (mem_suggestedOptions.mpr ⟨_, mem_of_lookup hfound, .exclude haccepted⟩)
    · refine ⟨.string "*.d.ts", ?_, List.mem_singleton_self _⟩
      exact mem_valuesAt.mpr
        (mem_suggestedOptions.mpr ⟨_, mem_of_lookup hentry, .ignoreDefinitionFiles⟩)

end Options

/-- Results that say the same: failures and settings without converter are listed in any
order, and so are the new settings, the options among them, and the globs of an option. -/
structure SameResults (results others : EditorResults) : Prop where
  failed : results.failed.Perm others.failed
  missing : results.missing.Perm others.missing
  converted : SameBut optionsSetting SameOptions results.converted others.converted

/-- The options of the new settings are those that the settings name: globs of files that are
left out, and the path of a configuration. -/
structure KeepsOptions (entries : Fields) (results : EditorResults) : Prop where
  ignored_iff : ∀ glob : String,
    (∃ v, results.option? ignoreOption = some v ∧ .string glob ∈ globsOf v) ↔
      glob ∈ Value.stringList (entries.lookup "tslint.exclude") ∨
        entries.lookup "tslint.ignoreDefinitionFiles" = some (.bool true) ∧ glob = "*.d.ts"
  config_eq : results.option? configOption =
    (entries.lookup "tslint.configFile").filter (·.isString)

/-- Settings can stand in any order: the results are the same up to the order in which things
are listed, and no glob and no path is lost in them. -/
theorem editor_settings_in_any_order (settings : ConversionSettings)
    (hdistinct : (keys entries).Nodup) (hperm : entries.Perm others) :
    SameResults (convertEditorSettings .builtin settings entries)
        (convertEditorSettings .builtin settings others) ∧
      KeepsOptions entries (convertEditorSettings .builtin settings entries) := by
  refine ⟨⟨?_, ?_, ?_⟩, ⟨?_, ?_⟩⟩
  · rw [convertEditorSettings_eq, convertEditorSettings_eq]
    exact hperm.flatMap_right _
  · rw [convertEditorSettings_eq, convertEditorSettings_eq]
    exact hperm.flatMap_right _
  · have hoptions := sameOptions_of_perm hdistinct settings hperm
    rw [convertEditorSettings_eq, convertEditorSettings_eq] at hoptions ⊢
    simp only [lookup_foldl_combineEntry] at hoptions
    refine sameBut_of_perm (hperm.flatMap_right _) ?_ hoptions
    intro name hname v hv w hw
    exact suggestion_unique hdistinct hname hv hw
  · intro glob
    exact mem_option?_ignoreOption hdistinct
  · exact option?_configOption hdistinct

/-- Settings of which three are about one option object, one is refused and one has no
converter. -/
def editorSample : Fields := [
  ("tslint.exclude", .strings ["dist/**", "*.d.ts"]),
  ("tslint.jsEnable", .string "yes"),
  ("tslint.configFile", .string "tslint.custom.json"),
  ("tslint.suppressWhileTypeErrorsPresent", .bool true),
  ("tslint.ignoreDefinitionFiles", .bool true)]

/-- In the other order the glob that both settings name comes first. -/
theorem editorSample_in_any_order :
    let results := convertEditorSettings .builtin ⟨false, false⟩ editorSample
    let others := convertEditorSettings .builtin ⟨false, false⟩ editorSample.reverse
    (keys editorSample).Nodup ∧ editorSample.Perm editorSample.reverse ∧
      (SameResults results others ∧ KeepsOptions editorSample results) ∧
      results.converted = [("eslint.options", .object [
        ("ignorePattern", .strings ["dist/**", "*.d.ts"]),
        ("overrideConfigFile", .string "tslint.custom.json")])] ∧
      others.converted = [("eslint.options", .object [
        ("ignorePattern", .strings ["*.d.ts", "dist/**"]),
        ("overrideConfigFile", .string "tslint.custom.json")])] := by
  intro results others
  have hdistinct : (keys editorSample).Nodup := by decide
  have hperm : editorSample.Perm editorSample.reverse := (List.reverse_perm editorSample).symm
  refine ⟨hdistinct, hperm, ?_, by decide +kernel, by decide +kernel⟩
  exact editor_settings_in_any_order ⟨false, false⟩ hdistinct hperm

end Relint
