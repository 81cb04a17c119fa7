import Relint.Proofs.Packages
import Mathlib.Data.List.TakeWhile

/-!
Packages for names with a scope. A plugin or a preset of a scope is in the package of that
scope whose name begins with the kind of package, whether the configuration names the scope
alone, the package or only what follows the kind. Plugins get this package unless their name
goes on behind the kind without a dash; presets get it only where the configuration names it
in full.
-/

namespace Relint

open EslintConfig

/-- A name with a scope: the scope alone, or one part behind it. -/
structure ScopedName where
  scope : String
  name? : Option String
  scope_ne : scope ≠ ""
  name_ne : name? ≠ some ""
  scope_free : '/' ∉ scope.toList
  name_free : ∀ name, name? = some name → '/' ∉ name.toList

namespace ScopedName

variable {entry : ScopedName} {config : Value} {kind : String}

/-- The entry of a configuration that the name is written as. -/
def text (entry : ScopedName) : String :=
  match entry.name? with
  | none => "@" ++ entry.scope
  | some name => "@" ++ entry.scope ++ "/" ++ name

/-- Whether the part behind the scope begins with the kind of package. -/
def beginsWith (kind : String) (entry : ScopedName) : Bool :=
  entry.name?.any fun name => kind.toList.isPrefixOf name.toList

/-- Whether the name is that of a package of the kind: nothing follows the kind, or a dash. -/
def namesPackage (kind : String) (entry : ScopedName) : Bool :=
  entry.name?.any fun name => name == kind || (kind ++ "-").toList.isPrefixOf name.toList

/-- The package of the scope that the name stands for. -/
def package (kind : String) (entry : ScopedName) : String :=
  if entry.namesPackage kind then entry.text
  else
    match entry.name? with
    | none => "@" ++ entry.scope ++ "/" ++ kind
    | some name => "@" ++ entry.scope ++ "/" ++ kind ++ "-" ++ name

/-- A slash occurs behind the scope only, so what begins with one stands there. -/
theorem infix_behind_slash {scope name : List Char} (part : List Char) (hscope : '/' ∉ scope)
    (hname : '/' ∉ name) : '/' :: part <:+: scope ++ '/' :: name ↔ part <+: name := by
  induction scope with
  | nil =>
      have hnone : ¬ '/' :: part <:+: name := fun h => hname (h.subset List.mem_cons_self)
      rw [List.nil_append, List.infix_cons_iff, List.cons_prefix_cons]
      simp [hnone]
  | cons c rest ih =>
      have hc : '/' ≠ c := fun heq => hscope (heq ▸ List.mem_cons_self)
      have hrest : '/' ∉ rest := fun hmem => hscope (List.mem_cons_of_mem c hmem)
      rw [List.cons_append, List.infix_cons_iff, List.cons_prefix_cons, ih hrest]
      simp [hc]

theorem slash_not_mem_scope (entry : ScopedName) : '/' ∉ '@' :: entry.scope.toList := by
  simpa using entry.scope_free

theorem exists_toList_text (entry : ScopedName) : ∃ rest, entry.text.toList = '@' :: rest := by
  unfold text
  split
  · exact ⟨entry.scope.toList, by simp [String.toList_append]⟩
  · rename_i name _
    exact ⟨entry.scope.toList ++ '/' :: name.toList, by simp [String.toList_append]⟩

theorem head?_package (kind : String) (entry : ScopedName) :
    (entry.package kind).toList.head? = some '@' := by
  unfold package
  split
  · obtain ⟨rest, hrest⟩ := entry.exists_toList_text
    rw [hrest]
    rfl
  · split <;> simp [String.toList_append]

/-- The test for names of packages does not look at what follows the kind. -/
theorem isPackageOf_text (hkind : kind.toList.head? = some 'e') (entry : ScopedName) :
    isPackageOf kind entry.text = entry.beginsWith kind := by
  obtain ⟨rest, hrest⟩ := entry.exists_toList_text
  have hstart : ¬ (kind ++ "-").toList <+: entry.text.toList := by
    rw [hrest, String.toList_append]
    cases hlist : kind.toList with
    | nil => simp [hlist] at hkind
    | cons c more =>
        obtain rfl : c = 'e' := by simpa [hlist] using hkind
        simp
  have hscope : '/' ∉ '@' :: entry.scope.toList := entry.slash_not_mem_scope
  rw [Bool.eq_iff_iff, isPackageOf_iff, or_iff_right hstart, beginsWith]
  unfold text
  cases hname : entry.name? with
  | none =>
      have hnone : ¬ '/' :: kind.toList <:+: '@' :: entry.scope.toList :=
        fun h => hscope (h.subset List.mem_cons_self)
      simpa [String.toList_append] using hnone
  | some name =>
      have hfree : '/' ∉ name.toList := entry.name_free name hname
      have hinfix := infix_behind_slash kind.toList hscope hfree
      simpa [String.toList_append, ← List.isPrefixOf_iff_prefix] using hinfix

theorem beginsWith_of_namesPackage (h : entry.namesPackage kind = true) :
    entry.beginsWith kind = true := by
  unfold namesPackage at h
  unfold beginsWith
  cases hname : entry.name? with
  | none => simp [hname] at h
  | some name =>
      simp only [hname, Option.any_some, Bool.or_eq_true, beq_iff_eq,
        List.isPrefixOf_iff_prefix, String.toList_append] at h ⊢
      rcases h with rfl | h
      · exact List.prefix_refl _
      · exact (List.prefix_append _ _).trans h

/-- No name is the package that it stands for, unless it is the name of a package. -/
theorem text_eq_package_iff : entry.text = entry.package kind ↔ entry.namesPackage kind = true := by
  constructor
  · intro h
    by_contra hnot
    have hlength := congrArg String.length h
    rw [package, if_neg hnot] at hlength
    have hslash : "/".length = 1 := rfl
    have hdash : "-".length = 1 := rfl
    unfold text at hlength
    cases hname : entry.name? with
    | none =>
        simp only [hname, String.length_append] at hlength
        omega
    | some name =>
        simp only [hname, String.length_append] at hlength
        omega
  · intro h
    rw [package, if_pos h]

theorem forall_ne_slash {part : List Char} (h : '/' ∉ part) :
    ∀ c ∈ part, decide (c ≠ '/') = true := by
  intro c hc
  rw [decide_eq_true_eq]
  rintro rfl
  exact h hc

theorem splitScope?_of_not_mem {name : List Char} (h : '/' ∉ name) : splitScope? name = none := by
  rw [splitScope?, List.dropWhile_eq_nil_iff.mpr (forall_ne_slash h)]

theorem splitScope?_append {scope : List Char} (h : '/' ∉ scope) (name : List Char) :
    splitScope? (scope ++ '/' :: name) = some (String.ofList scope, String.ofList name) := by
  have hall := forall_ne_slash h
  rw [splitScope?, List.dropWhile_append_of_pos hall, List.takeWhile_append_of_pos hall]
  simp

/-- A plugin of a scope gets the package that its name stands for, or keeps its name if this
begins with the kind. -/
theorem pluginPackage?_text (htypescript : entry.text ≠ typescriptPlugin)
    (htslint : entry.text ≠ tslintPlugin) :
    pluginPackage? entry.text = some (if entry.beginsWith "eslint-plugin" then entry.text
      else entry.package "eslint-plugin") := by
  have hscope : '/' ∉ '@' :: entry.scope.toList := entry.slash_not_mem_scope
  rw [pluginPackage?, if_neg htypescript, if_neg htslint,
    isPackageOf_text (by decide : "eslint-plugin".toList.head? = some 'e')]
  by_cases hbegins : entry.beginsWith "eslint-plugin" = true
  · rw [if_pos hbegins, if_pos hbegins]
  · rw [if_neg hbegins, if_neg hbegins, package,
      if_neg fun hnames => hbegins (beginsWith_of_namesPackage hnames)]
    unfold text
    cases hname : entry.name? with
    | none =>
        have hsplit := splitScope?_of_not_mem hscope
        simp [String.toList_append, hsplit, String.append_assoc]
    | some name =>
        have hsplit := splitScope?_append hscope name.toList
        have hparts : ("@" ++ entry.scope ++ "/" ++ name).toList =
            ('@' :: entry.scope.toList) ++ '/' :: name.toList := by
          simp [String.toList_append]
        rw [hparts, hsplit]
        refine congrArg some (String.toList_inj.mp ?_)
        simp [String.toList_append]

theorem presetPackage?_text (entry : ScopedName) :
    presetPackage? entry.text = some (if entry.beginsWith "eslint-config" then entry.text
      else "eslint-config-" ++ entry.text) := by
  obtain ⟨rest, hrest⟩ := entry.exists_toList_text
  have hbundled : isBundledPreset entry.text = false := by
    simp [isBundledPreset, hrest, List.isPrefixOf]
  rw [presetPackage?, hbundled,
    isPackageOf_text (by decide : "eslint-config".toList.head? = some 'e')]
  cases entry.beginsWith "eslint-config" <;> rfl

end ScopedName

/-- A plugin of a scope needs the package that its name stands for, unless the part behind the
scope begins with the kind of package and goes on without a dash; then the entry is taken for a
package itself. A preset of a scope needs the package that its name stands for only if it is
the name of a package already. -/
theorem scoped_packages_required (config : Value) (entry : ScopedName) :
    (entry.text ∈ pluginsIn config → entry.text ≠ typescriptPlugin → entry.text ≠ tslintPlugin →
      ∃ package ∈ requiredPackages config, pluginPackage? entry.text = some package ∧
        (package = entry.package "eslint-plugin" ↔
          (entry.beginsWith "eslint-plugin" = true → entry.namesPackage "eslint-plugin" = true))) ∧
      (entry.text ∈ presetsIn config →
        ∃ package ∈ requiredPackages config, presetPackage? entry.text = some package ∧
          (package = entry.package "eslint-config" ↔
            entry.namesPackage "eslint-config" = true)) := by
  constructor
  · intro hplugin htypescript htslint
    have hpackage := ScopedName.pluginPackage?_text htypescript htslint
    refine ⟨_, mem_requiredPackages_of_plugin hplugin hpackage, hpackage, ?_⟩
    cases hbegins : entry.beginsWith "eslint-plugin" with
    | true => simp [ScopedName.text_eq_package_iff]
    | false => simp
  · intro hpreset
    have hpackage := entry.presetPackage?_text
    refine ⟨_, mem_requiredPackages_of_preset hpreset hpackage, hpackage, ?_⟩
    cases hbegins : entry.beginsWith "eslint-config" with
    | true => simp [ScopedName.text_eq_package_iff]
    | false =>
        have hnot : ¬ entry.namesPackage "eslint-config" = true := by
          intro hnames
          rw [ScopedName.beginsWith_of_namesPackage hnames] at hbegins
          cases hbegins
        simp only [Bool.false_eq_true, if_false, hnot, iff_false]
        intro heq
        have hfirst := entry.head?_package "eslint-config"
        rw [← heq] at hfirst
        simp [String.toList_append] at hfirst

/-- A scope as a plugin and as a preset. -/
def scopeAlone : ScopedName where
  scope := "acme"
  name? := none
  scope_ne := by decide
  name_ne := by decide
  scope_free := by decide
  name_free := by simp

/-- The plugin of a scope is found in its package, and the preset is looked for elsewhere. -/
theorem scopeAlone_required :
    let config : Value := .object [("plugins", .strings ["@acme"]), ("extends", .string "@acme")]
    scopeAlone.text ∈ pluginsIn config ∧ scopeAlone.text ≠ typescriptPlugin ∧
      scopeAlone.text ≠ tslintPlugin ∧ scopeAlone.text ∈ presetsIn config ∧
      "@acme/eslint-plugin" ∈ requiredPackages config ∧
      ∃ package ∈ requiredPackages config, presetPackage? "@acme" = some package ∧
        package ≠ "@acme/eslint-config" := by
  intro config
  have hplugin : scopeAlone.text ∈ pluginsIn config := by decide
  have htypescript : scopeAlone.text ≠ typescriptPlugin := by decide
  have htslint : scopeAlone.text ≠ tslintPlugin := by decide
  have hpreset : scopeAlone.text ∈ presetsIn config := by decide
  have hrequired := scoped_packages_required config scopeAlone
  obtain ⟨plugin, hpackage, _, hconvention⟩ := hrequired.1 hplugin htypescript htslint
  obtain ⟨preset, hneeded, hnamed, hother⟩ := hrequired.2 hpreset
  have hnames : scopeAlone.namesPackage "eslint-config" ≠ true := by decide
  refine ⟨hplugin, htypescript, htslint, hpreset, ?_, preset, hneeded, hnamed, ?_⟩
  · rw [hconvention.mpr (by decide)] at hpackage
    exact hpackage
  · exact fun heq => hnames (hother.mp heq)

/-- Presets of a scope and a plugin whose name begins like that of a package: none of the
packages of the scope that they stand for is required. -/
theorem scoped_packages_missed :
    let config : Value := .object [("plugins", .strings ["@acme/eslint-plugins"]),
      ("extends", .strings ["@acme", "@acme/base"])]
    requiredPackages config = basePackages ++
        ["@acme/eslint-plugins", "eslint-config-@acme", "eslint-config-@acme/base"] ∧
      "@acme/eslint-plugin-eslint-plugins" ∉ requiredPackages config ∧
      "@acme/eslint-config" ∉ requiredPackages config ∧
      "@acme/eslint-config-base" ∉ requiredPackages config := by
  decide +kernel

end Relint
