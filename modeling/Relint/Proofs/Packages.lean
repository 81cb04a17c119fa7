import Relint.Packages
import Relint.Proofs.Assoc
import Relint.Proofs.Distinct

/-!
Which packages a configuration needs for its plugins. The name of a package of a plugin
stands for itself, and every plugin has such a name, so it does not matter how a
configuration spells its plugins.
-/

namespace Relint

/-- The plugins that the value of a configuration names. -/
def EslintConfig.pluginsIn (config : Value) : List String :=
  Value.stringList (config.field? "plugins")

/-- The presets that the value of a configuration names. -/
def EslintConfig.presetsIn (config : Value) : List String :=
  Value.stringList (config.field? "extends")

/-- The configuration with other plugins. -/
def EslintConfig.withPlugins (config : Value) (plugins : List Value) : Value :=
  match config with
  | .object fields => .object (Assoc.insert "plugins" (.array plugins) fields)
  | other => other

open EslintConfig

variable {config : Value} {kind name plugin package preset : String}

section Names

theorem occursIn_iff_infix {part text : List Char} :
    occursIn part text = true ↔ part <:+: text := by
  induction text with
  | nil => rw [occursIn, List.isEmpty_iff, List.infix_nil]
  | cons c rest ih =>
      rw [occursIn, Bool.or_eq_true, List.isPrefixOf_iff_prefix, ih, List.infix_cons_iff]

theorem isPackageOf_iff : isPackageOf kind name = true ↔
    (kind ++ "-").toList <+: name.toList ∨ ("/" ++ kind).toList <:+: name.toList := by
  rw [isPackageOf, Bool.or_eq_true, List.isPrefixOf_iff_prefix, occursIn_iff_infix]

/-- The name of a package of a plugin stands for itself. -/
theorem pluginPackage?_of_isPackageOf (h : isPackageOf "eslint-plugin" name = true) :
    pluginPackage? name = some name := by
  have htypescript : name ≠ typescriptPlugin := by
    rintro rfl
    revert h
    decide
  have htslint : name ≠ tslintPlugin := by
    rintro rfl
    revert h
    decide
  rw [pluginPackage?, if_neg htypescript, if_neg htslint, if_pos h]

theorem pluginPackage?_package (name : String) :
    pluginPackage? ("eslint-plugin-" ++ name) = some ("eslint-plugin-" ++ name) := by
  apply pluginPackage?_of_isPackageOf
  rw [isPackageOf_iff]
  refine Or.inl ⟨name.toList, ?_⟩
  simp [String.toList_append]

/-- Every plugin but that for TypeScript stands for a package of its own. -/
theorem exists_pluginPackage? (h : plugin ≠ typescriptPlugin) :
    ∃ package, pluginPackage? plugin = some package := by
  fun_cases pluginPackage? plugin with
  | case1 htypescript => exact absurd htypescript h
  | case2 | case3 | case4 | case5 | case6 => exact ⟨_, rfl⟩

/-- What a plugin stands for is the name of a package. -/
theorem isPackageOf_of_pluginPackage? (h : pluginPackage? plugin = some package) :
    isPackageOf "eslint-plugin" package = true := by
  rw [isPackageOf_iff]
  revert h
  fun_cases pluginPackage? plugin with
  | case1 => simp
  | case2 =>
      rintro ⟨⟩
      exact isPackageOf_iff.mp (by decide)
  | case3 _ _ hpackage =>
      rintro ⟨⟩
      exact isPackageOf_iff.mp hpackage
  | case4 _ _ _ scope name _ =>
      rintro ⟨⟩
      refine Or.inr ⟨scope.toList, '-' :: name.toList, ?_⟩
      simp [String.toList_append]
  | case5 =>
      rintro ⟨⟩
      refine Or.inr ⟨plugin.toList, [], ?_⟩
      simp [String.toList_append]
  | case6 =>
      rintro ⟨⟩
      refine Or.inl ⟨plugin.toList, ?_⟩
      simp [String.toList_append]

end Names

section Required

theorem mem_requiredPackages_of_plugin (hplugin : plugin ∈ pluginsIn config)
    (hpackage : pluginPackage? plugin = some package) : package ∈ requiredPackages config := by
  rw [requiredPackages, mem_distinct]
  apply List.mem_append_left
  apply List.mem_append_right
  exact List.mem_filterMap.mpr ⟨plugin, hplugin, hpackage⟩

theorem mem_requiredPackages_of_preset (hpreset : preset ∈ presetsIn config)
    (hpackage : presetPackage? preset = some package) : package ∈ requiredPackages config := by
  rw [requiredPackages, mem_distinct]
  apply List.mem_append_right
  exact List.mem_filterMap.mpr ⟨preset, hpreset, hpackage⟩

theorem basePackages_at_start (config : Value) : basePackages <+: requiredPackages config := by
  have hbase : distinct basePackages = basePackages := distinct_of_nodup (by decide)
  rw [requiredPackages, List.append_assoc, distinct_append, hbase, foldl_appendNew_eq_append]
  exact List.prefix_append _ _

/-- Packages are needed for plugins and presets only. -/
theorem requiredPackages_congr {other : Value}
    (hplugins : (pluginsIn config).filterMap pluginPackage? =
      (pluginsIn other).filterMap pluginPackage?)
    (hpresets : presetsIn config = presetsIn other) :
    requiredPackages config = requiredPackages other := by
  unfold pluginsIn at hplugins
  unfold presetsIn at hpresets
  rw [requiredPackages, requiredPackages, hplugins, hpresets]

theorem pluginsIn_withPlugins {fields : Fields} (plugins : List Value) :
    pluginsIn (withPlugins (.object fields) plugins) = plugins.filterMap Value.string? := by
  simp [pluginsIn, withPlugins, Value.field?, Value.object?, Value.stringList]

theorem presetsIn_withPlugins (config : Value) (plugins : List Value) :
    presetsIn (withPlugins config plugins) = presetsIn config := by
  cases config with
  | object fields =>
      have hlookup : (Assoc.insert "plugins" (.array plugins) fields).lookup "extends" =
          fields.lookup "extends" := Assoc.lookup_insert_of_ne (by decide)
      simp [presetsIn, withPlugins, Value.field?, Value.object?, hlookup]
  | null | bool | number | string | array => rfl

end Required

/-- The packages that a configuration needs begin with the base packages and have no
repetitions. Every plugin but that for TypeScript needs a package, and the name of this
package can take the place of the plugin without any effect. -/
theorem requiredPackages_respelled (config : Value) :
    basePackages <+: requiredPackages config ∧ (requiredPackages config).Nodup ∧
      ∀ (before after : List Value) (plugin : String),
        config.field? "plugins" = some (.array (before ++ .string plugin :: after)) →
        plugin ≠ typescriptPlugin →
        ∃ package, pluginPackage? plugin = some package ∧ package ∈ requiredPackages config ∧
          requiredPackages (withPlugins config (before ++ .string package :: after)) =
            requiredPackages config := by
  refine ⟨basePackages_at_start config, nodup_distinct, ?_⟩
  intro before after plugin hfield hother
  obtain ⟨package, hpackage⟩ := exists_pluginPackage? hother
  have hitself : pluginPackage? package = some package :=
    pluginPackage?_of_isPackageOf (isPackageOf_of_pluginPackage? hpackage)
  have hplugins : pluginsIn config =
      before.filterMap Value.string? ++ plugin :: after.filterMap Value.string? := by
    simp [pluginsIn, hfield, Value.stringList, Value.string?]
  refine ⟨package, hpackage, ?_, ?_⟩
  · refine mem_requiredPackages_of_plugin ?_ hpackage
    rw [hplugins]
    exact List.mem_append_right _ List.mem_cons_self
  · refine requiredPackages_congr ?_ (presetsIn_withPlugins config _)
    obtain ⟨fields, rfl⟩ : ∃ fields, config = .object fields := by
      cases config <;> simp_all [Value.field?, Value.object?]
    rw [pluginsIn_withPlugins, hplugins]
    simp [Value.string?, hpackage, hitself]

/-- The short name, the name of the package and the plugin that runs TSLint rules in one
configuration, of which the last is replaced. -/
theorem tslintPlugin_respelled :
    let items : List Value := [.string "react", .string "eslint-plugin-react", .null]
    let config : Value := .object [("plugins", .array (items ++ [.string tslintPlugin])),
      ("extends", .string "prettier")]
    config.field? "plugins" = some (.array (items ++ .string tslintPlugin :: [])) ∧
      tslintPlugin ≠ typescriptPlugin ∧
      requiredPackages (withPlugins config
        (items ++ [.string "@typescript-eslint/eslint-plugin-tslint"])) =
          requiredPackages config ∧
      requiredPackages config = basePackages ++ ["eslint-plugin-react",
        "@typescript-eslint/eslint-plugin-tslint", "eslint-config-prettier"] := by
  intro items config
  have hfield : config.field? "plugins" = some (.array (items ++ .string tslintPlugin :: [])) := rfl
  have hother : tslintPlugin ≠ typescriptPlugin := by decide
  obtain ⟨package, hpackage, _, hsame⟩ :=
    (requiredPackages_respelled config).2.2 items [] tslintPlugin hfield hother
  obtain rfl : "@typescript-eslint/eslint-plugin-tslint" = package := Option.some.inj hpackage
  exact ⟨hfield, hother, hsame, by decide +kernel⟩

end Relint
