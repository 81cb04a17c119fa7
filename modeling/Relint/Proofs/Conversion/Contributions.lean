import Relint.Conversion.Config
import Relint.Proofs.Conversion.Targets
import Relint.Proofs.OrderedSet

/-!
Where the presets and the plugins of a conversion come from. They are collected in three
steps: those that take the place of presets, those that the rules bring along, and the two
together. Repetitions are dropped in every step, and what comes of it is as if everything
were put in one row first, with each name at its first place in this row. A rule that failed
in the end brings nothing along, and one that was converted brings along everything, whatever
becomes of its target rules.
-/

namespace Relint

variable {registries : Registries} {settings : ConversionSettings} {tslint : TslintConfig}

/-- The presets that take the place of known presets, one after the other. -/
def replacingPresets (settings : ConversionSettings) (presets : List String) : List String :=
  (presets.filterMap replacePreset?).flatMap fun replacement =>
    replacement.presets.filter fun preset => !(settings.prettier && preset == prettierPreset)

/-- The plugins that presets need which take the place of known presets. -/
def replacingPlugins (presets : List String) : List String :=
  (presets.filterMap replacePreset?).flatMap (·.plugins)

/-- What the rules bring along that ended as converted, rule by rule. -/
def broughtAlong (registries : Registries) (settings : ConversionSettings)
    (rules : List SourceRule) (outcomes : List RuleOutcome)
    (part : Contribution → List String) : List String :=
  (rules.zip outcomes).flatMap fun (rule, outcome) =>
    match convertRule registries.converters settings rule, outcome.status with
    | .converted contribution, .converted => part contribution
    | _, _ => []

theorem presets_convertPresets (settings : ConversionSettings) (presets : List String) :
    (convertPresets settings presets).presets = (replacingPresets settings presets).eraseDups := by
  rw [replacingPresets, ← List.filter_flatMap, ← distinct_eq_eraseDups]
  rfl

theorem plugins_convertPresets (settings : ConversionSettings) (presets : List String) :
    (convertPresets settings presets).plugins = (replacingPlugins presets).eraseDups := by
  rw [replacingPlugins, ← distinct_eq_eraseDups]
  rfl

section Rules

variable {rules : List SourceRule} (existing : Fields)

/-- Every source rule stands at the place of its outcome. -/
theorem zip_outcomes (hdistinct : (rules.map (·.name)).Nodup) :
    rules.zip (convertRules registries settings rules existing).outcomes =
      (conversionsOf registries settings rules).map fun r =>
        (r.1, ⟨r.1.name, r.finalStatus (settledOf registries settings rules).failed⟩) := by
  have hrules : (conversionsOf registries settings rules).map (·.1) = rules := by
    simp [conversionsOf, Function.comp_def]
  rw [outcomes_convertRules existing hdistinct, ← List.zip_map', hrules]

/-- The contributions that are kept are those of the rules that ended as converted. -/
theorem flatMap_contributionsOf_convertRules (hdistinct : (rules.map (·.name)).Nodup)
    (part : Contribution → List String) :
    (contributionsOf (convertRules registries settings rules existing).outcomes
        (conversionsOf registries settings rules)).flatMap (part ·.contribution) =
      broughtAlong registries settings rules
        (convertRules registries settings rules existing).outcomes part := by
  rw [flatMap_contributionsOf, broughtAlong, zip_outcomes existing hdistinct, List.flatMap_map]
  apply List.flatMap_congr
  intro r hr
  dsimp only
  rw [statusIn_convertRules existing hdistinct hr, ← (eq_of_mem_conversionsOf hr).2,
    ConvertedRule.contribution?]
  cases r.2 <;> cases r.finalStatus (settledOf registries settings rules).failed <;> rfl

/-- What is brought along comes from a rule whose status is converted, and from each of
them. -/
theorem mem_broughtAlong_iff (hdistinct : (rules.map (·.name)).Nodup)
    {part : Contribution → List String} {name : String} :
    name ∈ broughtAlong registries settings rules
        (convertRules registries settings rules existing).outcomes part ↔
      ∃ rule ∈ rules,
        statusIn (convertRules registries settings rules existing).outcomes rule.name =
          some .converted ∧
        ∃ contribution, convertRule registries.converters settings rule =
          .converted contribution ∧ name ∈ part contribution := by
  rw [← flatMap_contributionsOf_convertRules existing hdistinct, flatMap_contributionsOf,
    List.mem_flatMap]
  constructor
  · rintro ⟨r, hr, hname⟩
    split at hname
    · rename_i hstatus
      obtain ⟨hrule, hconversion⟩ := eq_of_mem_conversionsOf hr
      cases hcontribution : r.contribution? with
      | none => simp [hcontribution] at hname
      | some contribution =>
          have hconverted := ConvertedRule.contribution?_eq_some_iff.mp hcontribution
          rw [hcontribution] at hname
          exact ⟨r.1, hrule, hstatus, contribution, hconversion.symm.trans hconverted, hname⟩
    · cases hname
  · rintro ⟨rule, hrule, hstatus, contribution, hconverted, hname⟩
    refine ⟨_, mem_conversionsOf registries settings hrule, ?_⟩
    have hcontribution : ConvertedRule.contribution?
        (rule, convertRule registries.converters settings rule) = some contribution :=
      ConvertedRule.contribution?_eq_some_iff.mpr hconverted
    rw [hcontribution]
    exact (if_pos hstatus).symm ▸ hname

/-- Presets or plugins that were collected: those that take the place of presets and then
those that the converted rules bring along, each where it first comes up. So each of them
takes the place of something or is brought along by a rule that was converted, and whatever
a converted rule brings along is there. -/
structure Collects (registries : Registries) (settings : ConversionSettings)
    (rules : List SourceRule) (outcomes : List RuleOutcome) (replacing : List String)
    (part : Contribution → List String) (collected : List String) : Prop where
  eq_eraseDups : collected =
    (replacing ++ broughtAlong registries settings rules outcomes part).eraseDups
  mem_iff : ∀ name, name ∈ collected ↔ name ∈ replacing ∨
    ∃ rule ∈ rules, statusIn outcomes rule.name = some .converted ∧
      ∃ contribution, convertRule registries.converters settings rule =
        .converted contribution ∧ name ∈ part contribution

theorem collects_ofList (hdistinct : (rules.map (·.name)).Nodup) (replacing : List String)
    (part : Contribution → List String) :
    let outcomes := (convertRules registries settings rules existing).outcomes
    Collects registries settings rules outcomes replacing part
      (OrderedSet.ofList (replacing ++ (OrderedSet.ofList
        ((contributionsOf outcomes (conversionsOf registries settings rules)).flatMap
          (part ·.contribution))).toList)).toList := by
  intro outcomes
  have hcollected : (OrderedSet.ofList (replacing ++ (OrderedSet.ofList
      ((contributionsOf outcomes (conversionsOf registries settings rules)).flatMap
        (part ·.contribution))).toList)).toList =
      distinct (replacing ++ broughtAlong registries settings rules outcomes part) := by
    rw [OrderedSet.toList_ofList, OrderedSet.toList_ofList,
      flatMap_contributionsOf_convertRules existing hdistinct, distinct_append,
      foldl_appendNew_distinct, ← distinct_append]
  rw [hcollected]
  refine ⟨distinct_eq_eraseDups _, ?_⟩
  intro name
  rw [mem_distinct, List.mem_append, mem_broughtAlong_iff existing hdistinct]

end Rules

/-- The presets and the plugins of a conversion are exactly those that take the place of
presets and those that the converted rules bring along. -/
theorem convertConfig_collects (registries : Registries) (settings : ConversionSettings)
    (tslint : TslintConfig) (before : Option EslintConfig)
    (hdistinct : (tslint.rules.map (·.name)).Nodup) :
    let replaced := convertPresets settings tslint.presets
    let results := (convertConfig registries settings tslint before).results
    Collects registries settings tslint.rules results.outcomes replaced.presets (·.presets)
        results.presets.toList ∧
      Collects registries settings tslint.rules results.outcomes replaced.plugins (·.plugins)
        results.plugins.toList ∧
      replaced.presets = (replacingPresets settings tslint.presets).eraseDups ∧
      replaced.plugins = (replacingPlugins tslint.presets).eraseDups := by
  intro replaced results
  let existing : Fields := (before.map (·.rules)).getD []
  refine ⟨?_, ?_, presets_convertPresets settings tslint.presets,
    plugins_convertPresets settings tslint.presets⟩
  · exact collects_ofList existing hdistinct replaced.presets (·.presets)
  · exact collects_ofList existing hdistinct replaced.plugins (·.plugins)

/-- Registries with a converter without target rules, one that refuses, and two that propose
for a target rule whose merger always refuses. -/
def contributingRegistries : Registries where
  converters := [
    ("jsx-key", fun _ => .ok (((Contribution.ofRule (.named "react/jsx-key")).withPlugin
      "eslint-plugin-react").withPreset "plugin:react/recommended")),
    ("prettier", fun _ => .ok (Contribution.nothing.withPreset "plugin:prettier/recommended")),
    ("jsx-wrap-multiline", fun _ => .ok (((Contribution.ofRule (.named "react/jsx-key")).withPlugin
      "eslint-plugin-jsx").withPreset "plugin:jsx/all")),
    ("indent", fun _ => .error "Unknown indent type.")]
  mergers := [("react/jsx-key", .ofArguments fun _ => .error "Only one rule can ask for keys.")]

/-- A configuration of which the third rule loses a merge, while the target of the first one
is set by the existing configuration and the second one has none. -/
theorem contributing_collects :
    let tslint : TslintConfig := ⟨["tslint-react", "tslint:latest"], .error,
      [⟨"jsx-key", [], .error⟩, ⟨"prettier", [], .error⟩, ⟨"jsx-wrap-multiline", [], .error⟩,
        ⟨"indent", [], .error⟩], []⟩
    let before : EslintConfig := ⟨[], [], none, [("react/jsx-key", .string "off")]⟩
    let replaced := convertPresets ⟨false, false⟩ tslint.presets
    let results := (convertConfig contributingRegistries ⟨false, false⟩ tslint before).results
    (tslint.rules.map (·.name)).Nodup ∧
      (Collects contributingRegistries ⟨false, false⟩ tslint.rules results.outcomes
          replaced.presets (·.presets) results.presets.toList ∧
        Collects contributingRegistries ⟨false, false⟩ tslint.rules results.outcomes
          replaced.plugins (·.plugins) results.plugins.toList ∧
        replaced.presets = (replacingPresets ⟨false, false⟩ tslint.presets).eraseDups ∧
        replaced.plugins = (replacingPlugins tslint.presets).eraseDups) ∧
      results.conflictNames = ["react/jsx-key"] ∧
      results.presets.toList = "plugin:react/recommended" :: recommendedPresets ++
        ["plugin:prettier/recommended"] ∧
      results.plugins.toList = ["eslint-plugin-react"] := by
  intro tslint before replaced results
  have hdistinct : (tslint.rules.map (·.name)).Nodup := by decide
  have hcollects := convertConfig_collects contributingRegistries ⟨false, false⟩ tslint
    (some before) hdistinct
  have hconflicts : results.conflictNames = ["react/jsx-key"] := by
    refine (conflictNames_convertRules before.rules).trans ?_
    rw [keys_settledOf]
    decide +kernel
  refine ⟨hdistinct, hcollects, hconflicts, hcollects.1.eq_eraseDups.trans ?_,
    hcollects.2.1.eq_eraseDups.trans ?_⟩
  · decide +kernel
  · decide +kernel

end Relint
