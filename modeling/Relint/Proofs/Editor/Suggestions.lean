import Relint.Editor.Conversion
import Relint.Proofs.Assoc.Combined

/-!
A conversion of editor settings as a whole. The converters suggest new settings, entry after
entry, and what is converted comes of the row of all suggestions; failures and settings
without converter are listed beside it. The built-in converters suggest at most one setting
for an entry, and the entry and the suggestion are related by a few rules.
-/

namespace Relint

open Assoc EditorConverter

variable {converters : EditorRegistry} {settings : ConversionSettings} {entries : Fields}

/-- What becomes of an entry of a settings file. -/
inductive EditorAnswer where
  | passedOver
  | unsupported
  | refused (reason : String)
  | converted (additions : List EditorSetting)

def EditorRegistry.answer (converters : EditorRegistry) (settings : ConversionSettings)
    (entry : String × Value) : EditorAnswer :=
  if knownEditorSettings.contains entry.1 then
    match converters.lookup entry.1 with
    | none => .unsupported
    | some converter =>
        match converter settings entry.2 with
        | .ok additions => .converted additions
        | .error reason => .refused reason
  else .passedOver

namespace EditorAnswer

def suggestions : EditorAnswer → Fields
  | converted additions => additions.map fun setting => (setting.name, setting.value)
  | _ => []

def failures (name : String) : EditorAnswer → List RuleFailure
  | refused reason => [.converterFailed name reason]
  | _ => []

def missing (name : String) : EditorAnswer → List String
  | unsupported => [name]
  | _ => []

end EditorAnswer

/-- All settings that the converters suggest, one after the other. -/
def EditorRegistry.suggestions (converters : EditorRegistry) (settings : ConversionSettings)
    (entries : Fields) : Fields :=
  entries.flatMap fun entry => (converters.answer settings entry).suggestions

/-- The value of a setting once another one is suggested for it. -/
def joinSetting (found : Option Value) (addition : Value) : Value :=
  match found, addition with
  | some (.object existing), .object additions => .object (additions.foldl addOption existing)
  | _, v => v

/-- The value of an option once another one is suggested for it. -/
def joinOption (name : String) (found : Option Value) (addition : Value) : Value :=
  match found with
  | some previous => overwriteOption name previous addition
  | none => addition

theorem addSetting_eq (converted : Fields) (setting : EditorSetting) :
    addSetting converted setting =
      combineEntry (fun _ => joinSetting) converted (setting.name, setting.value) := by
  obtain ⟨name, value⟩ := setting
  simp only [addSetting, combineEntry]
  cases converted.lookup name with
  | none => rfl
  | some found => cases found <;> cases value <;> rfl

theorem addOption_eq (options : Fields) (entry : String × Value) :
    addOption options entry = combineEntry joinOption options entry := by
  simp only [addOption, combineEntry, joinOption]
  cases options.lookup entry.1 with
  | none => rfl
  | some previous => rfl

theorem foldl_addSetting (converted : Fields) (additions : List EditorSetting) :
    additions.foldl addSetting converted =
      (EditorAnswer.converted additions).suggestions.foldl (combineEntry fun _ => joinSetting)
        converted := by
  rw [EditorAnswer.suggestions, List.foldl_map]
  exact List.foldl_ext _ _ _ fun converted setting _ => addSetting_eq converted setting

/-- One entry adds what the answer to it says. -/
theorem convertEditorSetting_eq (results : EditorResults) (entry : String × Value) :
    let answer := converters.answer settings entry
    convertEditorSetting converters settings results entry =
      ⟨answer.suggestions.foldl (combineEntry fun _ => joinSetting) results.converted,
        results.failed ++ answer.failures entry.1, results.missing ++ answer.missing entry.1⟩ := by
  intro answer
  simp only [answer, convertEditorSetting, EditorRegistry.answer]
  split
  · cases converters.lookup entry.1 with
    | none => simp [EditorAnswer.suggestions, EditorAnswer.failures, EditorAnswer.missing]
    | some converter =>
        dsimp only
        cases converter settings entry.2 with
        | ok additions => simp [foldl_addSetting, EditorAnswer.failures, EditorAnswer.missing]
        | error reason =>
            simp [EditorAnswer.suggestions, EditorAnswer.failures, EditorAnswer.missing]
  · simp [EditorAnswer.suggestions, EditorAnswer.failures, EditorAnswer.missing]

/-- Several entries add what the answers to them say, one after the other. -/
theorem foldl_convertEditorSetting (results : EditorResults) (entries : Fields) :
    entries.foldl (convertEditorSetting converters settings) results =
      ⟨(converters.suggestions settings entries).foldl (combineEntry fun _ => joinSetting)
          results.converted,
        results.failed ++
          entries.flatMap fun entry => (converters.answer settings entry).failures entry.1,
        results.missing ++
          entries.flatMap fun entry => (converters.answer settings entry).missing entry.1⟩ := by
  induction entries generalizing results with
  | nil => simp [EditorRegistry.suggestions]
  | cons entry rest ih =>
      rw [List.foldl_cons, ih, convertEditorSetting_eq]
      simp [EditorRegistry.suggestions]

/-- What is converted comes of all suggestions, and what is listed of the answers. -/
theorem convertEditorSettings_eq (converters : EditorRegistry) (settings : ConversionSettings)
    (entries : Fields) :
    convertEditorSettings converters settings entries =
      ⟨(converters.suggestions settings entries).foldl (combineEntry fun _ => joinSetting) [],
        entries.flatMap fun entry => (converters.answer settings entry).failures entry.1,
        entries.flatMap fun entry => (converters.answer settings entry).missing entry.1⟩ :=
  foldl_convertEditorSetting .empty entries

section Builtin

/-- What the built-in converters suggest for an entry of a settings file. -/
inductive Suggests : String × Value → String × Value → Prop
  | configFile (path : String) : Suggests ("tslint.configFile", .string path)
      (optionsSetting, .object [(configOption, .string path)])
  | jsEnable (enabled : Bool) : Suggests ("tslint.jsEnable", .bool enabled)
      ("eslint.validate", .strings (languages enabled))
  | ignoreDefinitionFiles : Suggests ("tslint.ignoreDefinitionFiles", .bool true)
      (optionsSetting, .object [(ignoreOption, .string "*.d.ts")])
  | exclude {v : Value} (h : v.isString = true ∨ v.isArray = true) : Suggests ("tslint.exclude", v)
      (optionsSetting, .object [(ignoreOption, .strings (Value.stringList (some v)))])
  | alwaysShowRuleFailuresAsWarnings :
      Suggests ("tslint.alwaysShowRuleFailuresAsWarnings", .bool true)
        ("eslint.rules.customizations",
          .array [.object [("rule", .string "*"), ("severity", .string "warn")]])

/-- The built-in converters keep to the rules. -/
theorem mem_suggestions_answer {entry suggestion : String × Value} :
    suggestion ∈ (EditorRegistry.builtin.answer settings entry).suggestions ↔
      Suggests entry suggestion := by
  constructor
  · intro h
    obtain ⟨name, v⟩ := entry
    by_cases hknown : name ∈ knownEditorSettings
    · simp only [knownEditorSettings, List.mem_cons, List.not_mem_nil, or_false] at hknown
      rcases hknown with rfl | rfl | rfl | rfl | rfl | rfl
      · cases v with
        | string path =>
            obtain rfl := List.mem_singleton.mp h
            exact .configFile path
        | null | bool | number | array | object => cases h
      · cases v with
        | bool enabled =>
            obtain rfl := List.mem_singleton.mp h
            exact .jsEnable enabled
        | null | number | string | array | object => cases h
      · cases v with
        | bool on =>
            cases on with
            | true =>
                obtain rfl := List.mem_singleton.mp h
                exact .ignoreDefinitionFiles
            | false => cases h
        | null | number | string | array | object => cases h
      · cases v with
        | string glob =>
            obtain rfl := List.mem_singleton.mp h
            exact .exclude (.inl rfl)
        | array globs =>
            obtain rfl := List.mem_singleton.mp h
            exact .exclude (.inr rfl)
        | null | bool | number | object => cases h
      · cases v with
        | bool on =>
            cases on with
            | true =>
                obtain rfl := List.mem_singleton.mp h
                exact .alwaysShowRuleFailuresAsWarnings
            | false => cases h
        | null | number | string | array | object => cases h
      · cases h
    · simp [EditorRegistry.answer, hknown, EditorAnswer.suggestions] at h
  · intro h
    cases h with
    | configFile path => exact List.mem_cons_self
    | jsEnable enabled => exact List.mem_cons_self
    | ignoreDefinitionFiles => exact List.mem_cons_self
    | alwaysShowRuleFailuresAsWarnings => exact List.mem_cons_self
    | @exclude v hglobs =>
        cases v with
        | string glob => exact List.mem_cons_self
        | array globs => exact List.mem_cons_self
        | null | bool | number | object => cases hglobs <;> contradiction

theorem mem_suggestions_builtin {suggestion : String × Value} :
    suggestion ∈ EditorRegistry.builtin.suggestions settings entries ↔
      ∃ entry ∈ entries, Suggests entry suggestion := by
  simp only [EditorRegistry.suggestions, List.mem_flatMap, mem_suggestions_answer]

theorem Suggests.unique {entry first second : String × Value} (h : Suggests entry first)
    (h' : Suggests entry second) : first = second := by
  generalize hentry : entry = entry' at h'
  cases h <;> cases h' <;> simp_all

/-- Only the options can be suggested for several settings. -/
theorem Suggests.source_eq {entry entry' first second : String × Value}
    (h : Suggests entry first) (h' : Suggests entry' second) (hname : first.1 = second.1)
    (hother : first.1 ≠ optionsSetting) : entry.1 = entry'.1 := by
  cases h <;> cases h' <;> simp_all

/-- Options are suggested one at a time: the path of a configuration, or globs of files that
are left out. -/
theorem suggests_option_iff {entry : String × Value} {v : Value} :
    Suggests entry (optionsSetting, v) ↔
      (∃ path, entry = ("tslint.configFile", .string path) ∧
        v = .object [(configOption, .string path)]) ∨
      (entry = ("tslint.ignoreDefinitionFiles", .bool true) ∧
        v = .object [(ignoreOption, .string "*.d.ts")]) ∨
      ∃ globs : Value, (globs.isString = true ∨ globs.isArray = true) ∧
        entry = ("tslint.exclude", globs) ∧
        v = .object [(ignoreOption, .strings (Value.stringList (some globs)))] := by
  constructor
  · intro h
    generalize hsuggestion : (optionsSetting, v) = suggestion at h
    cases h with
    | configFile path => exact .inl ⟨path, rfl, congrArg Prod.snd hsuggestion⟩
    | ignoreDefinitionFiles => exact .inr (.inl ⟨rfl, congrArg Prod.snd hsuggestion⟩)
    | @exclude globs hglobs => exact .inr (.inr ⟨globs, hglobs, rfl, congrArg Prod.snd hsuggestion⟩)
    | jsEnable enabled => simp [optionsSetting] at hsuggestion
    | alwaysShowRuleFailuresAsWarnings => simp [optionsSetting] at hsuggestion
  · rintro (⟨path, rfl, rfl⟩ | ⟨rfl, rfl⟩ | ⟨globs, hglobs, rfl, rfl⟩)
    · exact .configFile path
    · exact .ignoreDefinitionFiles
    · exact .exclude hglobs

theorem Suggests.exists_option {entry : String × Value} {v : Value}
    (h : Suggests entry (optionsSetting, v)) : ∃ option, v = .object [option] := by
  rcases suggests_option_iff.mp h with ⟨path, _, rfl⟩ | ⟨_, rfl⟩ | ⟨globs, _, _, rfl⟩
  · exact ⟨_, rfl⟩
  · exact ⟨_, rfl⟩
  · exact ⟨_, rfl⟩

/-- No suggestion is for a setting of the TSLint extension. -/
theorem Suggests.name_mem {entry suggestion : String × Value} (h : Suggests entry suggestion) :
    suggestion.1 ∈ [optionsSetting, "eslint.validate", "eslint.rules.customizations"] := by
  cases h <;> simp

/-- The fields of an object. -/
def fieldsOf : Value → Fields
  | .object fields => fields
  | _ => []

theorem combined_joinSetting_object (options : Fields) {values : List Value}
    (h : ∀ v ∈ values, ∃ option, v = .object [option]) :
    combined joinSetting (some (.object options)) values =
      some (.object ((values.flatMap fieldsOf).foldl (combineEntry joinOption) options)) := by
  induction values generalizing options with
  | nil => rfl
  | cons v rest ih =>
      obtain ⟨⟨option, rfl⟩, hrest⟩ := List.forall_mem_cons.mp h
      change combined joinSetting (some (.object (addOption options option))) rest = _
      rw [ih _ hrest, addOption_eq]
      rfl

/-- Objects that are suggested for one setting become one object, field after field. -/
theorem combined_joinSetting {values : List Value}
    (h : ∀ v ∈ values, ∃ option, v = .object [option]) :
    combined joinSetting none values = if values = [] then none
      else some (.object ((values.flatMap fieldsOf).foldl (combineEntry joinOption) [])) := by
  cases values with
  | nil => rfl
  | cons v rest =>
      obtain ⟨⟨option, rfl⟩, hrest⟩ := List.forall_mem_cons.mp h
      rw [if_neg (List.cons_ne_nil _ _)]
      exact combined_joinSetting_object [option] hrest

/-- The options that the built-in converters suggest, one after the other. -/
def suggestedOptions (settings : ConversionSettings) (entries : Fields) : Fields :=
  (valuesAt optionsSetting (EditorRegistry.builtin.suggestions settings entries)).flatMap fieldsOf

theorem exists_option_of_mem_valuesAt {v : Value} (h : v ∈ valuesAt optionsSetting
    (EditorRegistry.builtin.suggestions settings entries)) : ∃ option, v = .object [option] := by
  obtain ⟨_, _, hsuggests⟩ := mem_suggestions_builtin.mp (mem_valuesAt.mp h)
  exact hsuggests.exists_option

theorem mem_suggestedOptions {option : String × Value} :
    option ∈ suggestedOptions settings entries ↔
      ∃ entry ∈ entries, Suggests entry (optionsSetting, .object [option]) := by
  rw [← mem_suggestions_builtin, suggestedOptions, List.mem_flatMap]
  constructor
  · rintro ⟨v, hv, hoption⟩
    obtain ⟨other, rfl⟩ := exists_option_of_mem_valuesAt hv
    obtain rfl := List.mem_singleton.mp hoption
    exact mem_valuesAt.mp hv
  · intro h
    exact ⟨_, mem_valuesAt.mpr h, List.mem_singleton_self option⟩

/-- An option of the new settings. -/
def EditorResults.option? (results : EditorResults) (name : String) : Option Value :=
  (results.converted.lookup optionsSetting).bind (·.field? name)

theorem lookup_optionsSetting (settings : ConversionSettings) (entries : Fields) :
    (convertEditorSettings .builtin settings entries).converted.lookup optionsSetting =
      if suggestedOptions settings entries = [] then none
      else some (.object
        ((suggestedOptions settings entries).foldl (combineEntry joinOption) [])) := by
  rw [convertEditorSettings_eq, lookup_foldl_combineEntry]
  refine (combined_joinSetting fun v => exists_option_of_mem_valuesAt).trans ?_
  have hnil : valuesAt optionsSetting (EditorRegistry.builtin.suggestions settings entries) = [] ↔
      suggestedOptions settings entries = [] := by
    rw [suggestedOptions, List.flatMap_eq_nil_iff]
    constructor
    · intro hnone
      simp [hnone]
    · intro hempty
      rw [List.eq_nil_iff_forall_not_mem]
      intro v hv
      obtain ⟨option, rfl⟩ := exists_option_of_mem_valuesAt hv
      exact List.cons_ne_nil _ _ (hempty _ hv)
  simp only [hnil]
  rfl

/-- An option comes of the values that are suggested for it. -/
theorem option?_builtin (settings : ConversionSettings) (entries : Fields) (name : String) :
    (convertEditorSettings .builtin settings entries).option? name =
      combined (joinOption name) none (valuesAt name (suggestedOptions settings entries)) := by
  rw [EditorResults.option?, lookup_optionsSetting]
  by_cases hnone : suggestedOptions settings entries = []
  · rw [if_pos hnone, hnone]
    rfl
  · rw [if_neg hnone]
    exact lookup_foldl_combineEntry joinOption [] _ name

end Builtin

end Relint
