import Relint.Converter.Plugin
import Relint.Proofs.Converter.Profile

/-!
Profiles of the converters to rules of plugins. Every answer of such a converter
names the package of its plugin, and only Prettier's brings a preset.
-/

namespace Relint

namespace Converter

open ConverterProfile

theorem describes_inPlugin (plugin target : String) :
    (ofPlugin plugin [target]).Describes (inPlugin plugin target) := by
  intro ctx
  exact answers_ok.mpr (fits_withPlugin plugin (by simp))

theorem fits_inPluginWith (plugin target : String) (argument : Value) :
    (ofPlugin plugin [target]).Fits (inPluginWith plugin target argument) :=
  fits_withPlugin plugin (by simp)

theorem describes_fileNameCasing :
    (ofPlugin "eslint-plugin-unicorn" ["unicorn/filename-case"]).Describes fileNameCasing := by
  intro ctx
  unfold fileNameCasing
  split
  · exact answers_ok.mpr (fits_inPluginWith _ _ _)
  · exact answers_ok.mpr (fits_inPluginWith _ _ _)
  · exact answers_ok.mpr (fits_inPluginWith _ _ _)
  · exact answers_ok.mpr (fits_inPluginWith _ _ _)
  · exact answers_ok.mpr (fits_inPluginWith _ _ _)
  · exact answers_error _

theorem describes_jsdocFormat :
    (ofPlugin "eslint-plugin-jsdoc" ["jsdoc/check-alignment", "jsdoc/newline-after-description",
      "jsdoc/no-bad-blocks"]).Describes jsdocFormat := by
  intro ctx
  refine answers_ok.mpr (fits_withPlugin _ (fits_ofRules_iff.mpr ?_))
  intro t ht
  obtain ⟨name, hname, rfl⟩ := List.mem_map.mp ht
  refine ⟨?_, rfl⟩
  rw [TargetRule.name_named]
  rcases List.mem_append.mp hname with hbase | hblocks
  · rcases List.mem_pair.mp hbase with rfl | rfl
    · simp
    · simp
  · split at hblocks
    · simp [List.mem_singleton.mp hblocks]
    · exact absurd hblocks List.not_mem_nil

theorem describes_jsxBooleanValue :
    (ofPlugin "eslint-plugin-react" ["react/jsx-boolean-value"]).Describes jsxBooleanValue := by
  intro ctx
  unfold jsxBooleanValue
  dsimp only
  split
  · exact answers_ok.mpr (fits_inPluginWith _ _ _)
  · exact answers_error _

theorem describes_jsxCurlySpacing :
    (ofPlugin "eslint-plugin-react" ["react/jsx-curly-spacing"]).Describes jsxCurlySpacing := by
  intro ctx
  unfold jsxCurlySpacing
  dsimp only
  split
  · exact answers_ok.mpr (fits_inPluginWith _ _ _)
  · exact answers_error _

theorem describes_noDuplicateImports :
    (ofPlugin "eslint-plugin-import" ["import/no-duplicates"]).Describes noDuplicateImports := by
  intro ctx
  exact answers_ok.mpr (fits_withPlugin _ (by simp))

theorem describes_noImplicitDependencies :
    (ofPlugin "eslint-plugin-import" ["import/no-extraneous-dependencies"]).Describes
      noImplicitDependencies := by
  intro ctx
  exact answers_ok.mpr (fits_withPlugin _ (by simp))

theorem describes_noSubmoduleImports :
    (ofPlugin "eslint-plugin-import" ["import/no-internal-modules"]).Describes
      noSubmoduleImports := by
  intro ctx
  exact answers_ok.mpr (fits_withPlugin _ (by simp))

theorem describes_onlyArrowFunctions :
    (ofPlugin "eslint-plugin-prefer-arrow" ["prefer-arrow/prefer-arrow-functions"]).Describes
      onlyArrowFunctions := by
  intro ctx
  exact answers_ok.mpr (fits_withPlugin _ (by simp))

theorem describes_orderedImports :
    (ofPlugin "eslint-plugin-import" ["import/order"]).Describes orderedImports := by
  intro ctx
  exact answers_ok.mpr (fits_withPlugin _ (by simp))

/-- What running Prettier as a rule converts to. -/
def prettierProfile : ConverterProfile :=
  { targets := ["prettier/prettier"]
    plugins := ["eslint-plugin-prettier"]
    presets := ["plugin:prettier/recommended"] }

theorem describes_prettier : prettierProfile.Describes prettier := by
  intro ctx
  refine answers_ok.mpr ⟨?_, rfl, rfl⟩
  intro t ht
  rw [List.mem_singleton.mp ht]
  split
  · exact ⟨by simp [prettierProfile], Or.inl (by simp)⟩
  · exact ⟨by simp [prettierProfile], Or.inl (by simp)⟩
  · exact ⟨by simp [prettierProfile], Or.inl (by simp)⟩

/-- The target rules of plugins for source rules with converters of their own. -/
def thirdPartyProfiles : ProfileTable := [
  ("deprecation", .ofPlugin "eslint-plugin-deprecation" ["deprecation/deprecation"]),
  ("file-name-casing", .ofPlugin "eslint-plugin-unicorn" ["unicorn/filename-case"]),
  ("jsdoc-format",
    .ofPlugin "eslint-plugin-jsdoc" ["jsdoc/check-alignment", "jsdoc/newline-after-description",
      "jsdoc/no-bad-blocks"]),
  ("jsx-boolean-value", .ofPlugin "eslint-plugin-react" ["react/jsx-boolean-value"]),
  ("jsx-curly-spacing", .ofPlugin "eslint-plugin-react" ["react/jsx-curly-spacing"]),
  ("no-default-export", .ofPlugin "eslint-plugin-import" ["import/no-default-export"]),
  ("no-duplicate-imports", .ofPlugin "eslint-plugin-import" ["import/no-duplicates"]),
  ("no-implicit-dependencies",
    .ofPlugin "eslint-plugin-import" ["import/no-extraneous-dependencies"]),
  ("no-null-keyword", .ofPlugin "eslint-plugin-no-null" ["no-null/no-null"]),
  ("no-redundant-jsdoc", .ofPlugin "eslint-plugin-jsdoc" ["jsdoc/no-types"]),
  ("no-submodule-imports", .ofPlugin "eslint-plugin-import" ["import/no-internal-modules"]),
  ("only-arrow-functions",
    .ofPlugin "eslint-plugin-prefer-arrow" ["prefer-arrow/prefer-arrow-functions"]),
  ("ordered-imports", .ofPlugin "eslint-plugin-import" ["import/order"]),
  ("prettier", prettierProfile)]

/-- The target rules of plugins. -/
def pluginProfiles : ProfileTable :=
  thirdPartyProfiles ++
    reactRules.map fun row => (row.1, .ofPlugin "eslint-plugin-react" [row.2])

theorem pluginProfiles_describe : pluginProfiles.Describes plugins := by
  apply ProfileTable.describes_append
  · exact
      .cons (describes_inPlugin "eslint-plugin-deprecation" "deprecation/deprecation") <|
      .cons describes_fileNameCasing <|
      .cons describes_jsdocFormat <|
      .cons describes_jsxBooleanValue <|
      .cons describes_jsxCurlySpacing <|
      .cons (describes_inPlugin "eslint-plugin-import" "import/no-default-export") <|
      .cons describes_noDuplicateImports <|
      .cons describes_noImplicitDependencies <|
      .cons (describes_inPlugin "eslint-plugin-no-null" "no-null/no-null") <|
      .cons (describes_inPlugin "eslint-plugin-jsdoc" "jsdoc/no-types") <|
      .cons describes_noSubmoduleImports <|
      .cons describes_onlyArrowFunctions <|
      .cons describes_orderedImports <|
      .cons describes_prettier ProfileTable.describes_nil
  · exact ProfileTable.describes_rows fun row => describes_inPlugin "eslint-plugin-react" row.2

end Converter

end Relint
