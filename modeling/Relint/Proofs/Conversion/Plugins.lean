import Relint.Proofs.Conversion.Existing
import Relint.Proofs.Conversion.Targets
import Relint.Proofs.Converter.Names
import Relint.Proofs.OrderedSet
import Relint.Proofs.Packages

/-!
The plugins of the converted rules. A target rule reaches the new configuration through
the merges and its plugin through the contributions of the source rules that survive,
and these are the same source rules: whoever sets a rule of a plugin also names the
package of the plugin, down to the packages that have to be installed.
-/

namespace Relint

variable {registries : Registries} {settings : ConversionSettings} {tslint : TslintConfig}
  {before : Option EslintConfig} {rules : List SourceRule} {existing : Fields}

theorem ConfigConversion.pluginsIn_summarize (c : ConfigConversion) (settings : ConversionSettings)
    (before : Option EslintConfig) :
    EslintConfig.pluginsIn (c.summarize settings before) = c.plugins before := by
  unfold EslintConfig.pluginsIn ConfigConversion.summarize
  generalize c.presets settings before = presets
  generalize c.plugins before = plugins
  generalize c.rules before = rules
  cases presets <;> cases before.bind (·.globals) <;>
    simp [Value.field?, Value.object?, List.lookup_cons]

/-- A converted rule is a target rule of a contribution that survives. -/
theorem exists_survivor {target : String}
    (h : target ∈ (convertRules registries settings rules existing).converted.keys) :
    ∃ c ∈ survivors registries settings rules, ∃ t ∈ c.contribution.rules, t.name = target := by
  rw [keys_converted, List.mem_filter, keys_settledOf, mem_distinct, List.mem_flatMap] at h
  obtain ⟨⟨c, hc, htarget⟩, _⟩ := h
  exact ⟨c, hc, List.mem_map.mp htarget⟩

/-- The plugins and the target rules of a contribution are those of one profile. -/
theorem profile_of_survivor {c : NamedContribution}
    (hc : c ∈ survivors ⟨.builtin, .builtin⟩ settings rules) :
    ∃ row ∈ builtinProfiles, c.contribution.plugins = row.2.plugins ∧
      ∀ t ∈ c.contribution.rules, t.name ∈ row.2.targets := by
  obtain ⟨r, hr, _, hconverted, _⟩ := mem_survivors_iff.mp hc
  rw [(eq_of_mem_conversionsOf hr).2] at hconverted
  obtain ⟨profile, hrow, hplugins, hrules⟩ := profile_of_converted hconverted
  exact ⟨_, hrow, hplugins, fun t ht => (hrules t ht).1⟩

/-- The plugins of the contributions that survive are plugins of the conversion. -/
theorem mem_plugins_of_survivor (before : Option EslintConfig)
    (hdistinct : (tslint.rules.map (·.name)).Nodup) {c : NamedContribution}
    (hc : c ∈ survivors registries settings tslint.rules) {plugin : String}
    (hplugin : plugin ∈ c.contribution.plugins) :
    plugin ∈ (convertConfig registries settings tslint before).results.plugins.toList := by
  simp only [convertConfig, OrderedSet.toList_ofList, mem_distinct, List.mem_append,
    convertRules_eq _ hdistinct, List.mem_flatMap]
  exact Or.inr ⟨c, hc, hplugin⟩

theorem mem_plugins_of_conversion {c : ConfigConversion} (before : Option EslintConfig)
    {plugin : String} (h : plugin ∈ c.results.plugins.toList) : plugin ∈ c.plugins before := by
  simp only [ConfigConversion.plugins, mem_distinct, List.mem_append]
  exact Or.inl (Or.inl (Or.inr h))

theorem typescriptPlugin_mem_plugins (c : ConfigConversion) (before : Option EslintConfig) :
    typescriptPlugin ∈ c.plugins before := by
  simp [ConfigConversion.plugins]

/-- The part before the first slash is the plugin that a name begins with. -/
theorem pluginPart_append {scope name : String} (hscope : '/' ∉ scope.toList) :
    pluginPart (scope ++ "/" ++ name).toList = scope.toList := by
  have hparts : (scope ++ "/" ++ name).toList = scope.toList ++ '/' :: name.toList := by
    simp [String.toList_append]
  have hall : ∀ c ∈ scope.toList, decide (c ≠ '/') = true := by
    intro c hc
    rw [decide_eq_true_eq]
    rintro rfl
    exact hscope hc
  rw [pluginPart, hparts, List.takeWhile_append_of_pos hall]
  simp

/-- The plugin of every converted rule is declared. That for TypeScript is always there;
for every other plugin the conversion names the package, the new configuration has it
among its plugins, and it is one of the packages to be installed. -/
theorem used_plugins_declared (settings : ConversionSettings) (tslint : TslintConfig)
    (before : Option EslintConfig) (hdistinct : (tslint.rules.map (·.name)).Nodup) :
    let c := convertConfig ⟨.builtin, .builtin⟩ settings tslint before
    let config := c.summarize settings before
    ∀ scope name : String, '/' ∉ scope.toList → scope ++ "/" ++ name ∈ c.results.converted.keys →
      if scope = "@typescript-eslint" then scope ∈ EslintConfig.pluginsIn config
      else
        "eslint-plugin-" ++ scope ∈ c.results.plugins.toList ∧
        "eslint-plugin-" ++ scope ∈ EslintConfig.pluginsIn config ∧
        "eslint-plugin-" ++ scope ∈ requiredPackages config := by
  intro c config scope name hscope hconverted
  obtain ⟨contribution, hsurvives, t, ht, htarget⟩ := exists_survivor hconverted
  obtain ⟨row, hrow, hplugins, htargets⟩ := profile_of_survivor hsurvives
  obtain ⟨_, _, hdeclares⟩ := checks_target hrow (htargets t ht)
  have hslash : (scope ++ "/" ++ name).toList.contains '/' = true := by
    simp [String.toList_append]
  rw [htarget, declaresPlugin, pluginPart_append hscope, hslash] at hdeclares
  have hin : EslintConfig.pluginsIn config = c.plugins before :=
    ConfigConversion.pluginsIn_summarize c settings before
  split
  · rename_i htypescript
    rw [hin, htypescript]
    exact typescriptPlugin_mem_plugins c before
  · rename_i hother
    have htext : String.ofList ("eslint-plugin-".toList ++ scope.toList) =
        "eslint-plugin-" ++ scope := by
      rw [← String.toList_append, String.ofList_toList]
    have hpackage : "eslint-plugin-" ++ scope ∈ contribution.contribution.plugins := by
      simp only [htext, Bool.not_true, Bool.false_or, Bool.or_eq_true, beq_iff_eq,
        String.toList_inj, hother, false_or, List.contains_iff_mem] at hdeclares
      rwa [hplugins]
    have hnamed := mem_plugins_of_survivor before hdistinct hsurvives hpackage
    have hplugin : "eslint-plugin-" ++ scope ∈ EslintConfig.pluginsIn config := by
      rw [hin]
      exact mem_plugins_of_conversion before hnamed
    exact ⟨hnamed, hplugin, mem_requiredPackages_of_plugin hplugin (pluginPackage?_package scope)⟩

/-- The order of imports is checked by a plugin, which has to be installed also where the
source rule is off. -/
theorem import_plugin_declared :
    let tslint : TslintConfig :=
      ⟨[], .error, [⟨"no-any", [], .warn⟩, ⟨"ordered-imports", [], .off⟩], []⟩
    let c := convertConfig ⟨.builtin, .builtin⟩ disputeSettings tslint (some tslintRuleOff)
    (tslint.rules.map (·.name)).Nodup ∧ '/' ∉ "import".toList ∧
      "import" ++ "/" ++ "order" ∈ c.results.converted.keys ∧
      "eslint-plugin-import" ∈
        requiredPackages (c.summarize disputeSettings (some tslintRuleOff)) := by
  intro tslint c
  have hdistinct : (tslint.rules.map (·.name)).Nodup := by decide
  have hscope : '/' ∉ "import".toList := by simp
  have hconverted : "import" ++ "/" ++ "order" ∈ c.results.converted.keys := by
    rw [show c.results.converted.keys = _ from keys_converted _, keys_settledOf]
    decide +kernel
  have hdeclared := used_plugins_declared disputeSettings tslint (some tslintRuleOff) hdistinct
    "import" "order" hscope hconverted
  rw [if_neg (by decide)] at hdeclared
  exact ⟨hdistinct, hscope, hconverted, hdeclared.2.2⟩

end Relint
