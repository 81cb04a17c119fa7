import Relint.Proofs.Converter.Basic
import Mathlib.Data.List.Forall2

/-!
Profiles of converters: all that can be said of a converter's answers before its
arguments are known. A table of profiles describes a registry when it names the
same source rules in the same order and each profile holds of its converter.
-/

namespace Relint

/-- What the answers of a converter may contain: the target rules that can occur in
them, those that it may switch off by itself, and the plugins and presets that come
with every answer. -/
structure ConverterProfile where
  targets : List String
  silenced : List String := []
  plugins : List String := []
  presets : List String := []

namespace ConverterProfile

/-- The profile of a converter to some target rules without anything else. -/
def of (targets : List String) : ConverterProfile :=
  { targets := targets }

/-- The profile of a converter to some target rules of a plugin. -/
def ofPlugin (plugin : String) (targets : List String) : ConverterProfile :=
  { targets := targets, plugins := [plugin] }

/-- A target rule that is among those of the profile and leaves its severity open,
unless it is one of those that may be switched off. -/
structure Admits (profile : ConverterProfile) (t : TargetRule) : Prop where
  name_mem : t.name ∈ profile.targets
  severity_open : t.severity = none ∨ t.name ∈ profile.silenced ∧ t.severity = some .off

/-- A contribution as the profile says. -/
structure Fits (profile : ConverterProfile) (c : Contribution) : Prop where
  admits : ∀ t ∈ c.rules, profile.Admits t
  plugins_eq : c.plugins = profile.plugins
  presets_eq : c.presets = profile.presets

/-- The profile holds of the converter whatever it is told. -/
def Describes (profile : ConverterProfile) (convert : Converter) : Prop :=
  ∀ ctx, Answers profile.Fits (convert ctx)

end ConverterProfile

namespace ConverterProfile

variable {profile : ConverterProfile}

theorem admits_of_iff {targets : List String} {t : TargetRule} :
    (of targets).Admits t ↔ t.name ∈ targets ∧ t.severity = none := by
  constructor
  · rintro ⟨hname, hopen | ⟨hsilenced, _⟩⟩
    · exact ⟨hname, hopen⟩
    · exact absurd hsilenced List.not_mem_nil
  · rintro ⟨hname, hopen⟩
    exact ⟨hname, Or.inl hopen⟩

@[simp] theorem fits_ofRules_iff {targets : List String} {rules : List TargetRule} :
    (of targets).Fits (.ofRules rules) ↔
      ∀ t ∈ rules, t.name ∈ targets ∧ t.severity = none := by
  constructor
  · intro h t ht
    exact admits_of_iff.mp (h.admits t ht)
  · intro h
    exact ⟨fun t ht => admits_of_iff.mpr (h t ht), rfl, rfl⟩

@[simp] theorem fits_ofRule_iff {targets : List String} {t : TargetRule} :
    (of targets).Fits (.ofRule t) ↔ t.name ∈ targets ∧ t.severity = none := by
  rw [Contribution.ofRule, fits_ofRules_iff, List.forall_mem_singleton]

@[simp] theorem fits_nothing (targets : List String) : (of targets).Fits .nothing :=
  fits_ofRules_iff.mpr (by simp)

theorem fits_withPlugin {targets : List String} {c : Contribution} (plugin : String)
    (h : (of targets).Fits c) : (ofPlugin plugin targets).Fits (c.withPlugin plugin) := by
  refine ⟨?_, ?_, h.presets_eq⟩
  · intro t ht
    exact ⟨(h.admits t ht).name_mem, (h.admits t ht).severity_open⟩
  · simp [Contribution.withPlugin, h.plugins_eq, of, ofPlugin]

theorem admits_withNotice {t : TargetRule} (notice : String) (h : profile.Admits t) :
    profile.Admits (t.withNotice notice) :=
  ⟨h.name_mem, h.severity_open⟩

theorem fits_mapRules {c : Contribution} {f : TargetRule → TargetRule}
    (hf : ∀ t, profile.Admits t → profile.Admits (f t)) (h : profile.Fits c) :
    profile.Fits (c.mapRules f) := by
  refine ⟨?_, h.plugins_eq, h.presets_eq⟩
  intro t ht
  obtain ⟨t', ht', rfl⟩ := List.mem_map.mp ht
  exact hf t' (h.admits t' ht')

end ConverterProfile

/-- A table of profiles that describes a registry entry by entry. -/
abbrev ProfileTable := List (String × ConverterProfile)

/-- Both have the same source rules in the same order, and each profile holds of the
converter. -/
def ProfileTable.Describes (table : ProfileTable) (registry : ConverterRegistry) : Prop :=
  List.Forall₂ (fun row entry => row.1 = entry.1 ∧ row.2.Describes entry.2) table registry

namespace ProfileTable

variable {table : ProfileTable} {registry : ConverterRegistry}

theorem describes_nil : Describes [] [] :=
  .nil

theorem Describes.cons {source : String} {profile : ConverterProfile} {convert : Converter}
    (hconvert : profile.Describes convert) (h : table.Describes registry) :
    Describes ((source, profile) :: table) ((source, convert) :: registry) :=
  List.Forall₂.cons ⟨rfl, hconvert⟩ h

/-- Converters that come from the rows of a table by one scheme are described by
profiles that come from the rows by one scheme. -/
theorem describes_rows {rows : List (String × String)} {profile : String × String → ConverterProfile}
    {convert : String × String → Converter} (h : ∀ row, (profile row).Describes (convert row)) :
    Describes (rows.map fun row => (row.1, profile row))
      (rows.map fun row => (row.1, convert row)) := by
  induction rows with
  | nil => exact describes_nil
  | cons row rest ih => exact Describes.cons (h row) ih

/-- Converters that are all changed in one way keep their profiles if that way
does. -/
theorem Describes.map {change : Converter → Converter} (h : table.Describes registry)
    (hchange : ∀ row ∈ table, ∀ convert, row.2.Describes convert →
      row.2.Describes (change convert)) :
    table.Describes (registry.map fun entry => (entry.1, change entry.2)) := by
  induction h with
  | nil => exact describes_nil
  | @cons row entry table registry hrow _ ih =>
      refine List.Forall₂.cons ⟨hrow.1, hchange row List.mem_cons_self _ hrow.2⟩ (ih ?_)
      intro row' hrow'
      exact hchange row' (List.mem_cons_of_mem _ hrow')

theorem describes_append {table' : ProfileTable} {registry' : ConverterRegistry}
    (h : table.Describes registry) (h' : table'.Describes registry') :
    Describes (table ++ table') (registry ++ registry') :=
  List.rel_append h h'

/-- Every converter is described by the profile that stands in its place. -/
theorem Describes.exists_row (h : table.Describes registry) {entry : String × Converter}
    (hentry : entry ∈ registry) : ∃ row ∈ table, row.2.Describes entry.2 := by
  induction h with
  | nil => cases hentry
  | @cons row head table registry hrow _ ih =>
      rcases List.mem_cons.mp hentry with rfl | hentry
      · exact ⟨row, List.mem_cons_self, hrow.2⟩
      · obtain ⟨row', hrow', hdescribes⟩ := ih hentry
        exact ⟨row', List.mem_cons_of_mem _ hrow', hdescribes⟩

/-- The converter that is found for a source rule is described by the profile that is
found for it. -/
theorem Describes.lookup (h : table.Describes registry) {source : String} {convert : Converter}
    (hconvert : registry.lookup source = some convert) :
    ∃ profile, table.lookup source = some profile ∧ profile.Describes convert := by
  induction h with
  | nil => simp at hconvert
  | @cons row entry table registry hrow _ ih =>
      obtain ⟨source', profile⟩ := row
      obtain ⟨source'', convert'⟩ := entry
      obtain ⟨rfl, hdescribes⟩ := hrow
      rw [List.lookup_cons] at hconvert ⊢
      split at hconvert
      · rename_i heq
        cases hconvert
        rw [heq]
        exact ⟨profile, rfl, hdescribes⟩
      · rename_i hne
        simp only [hne]
        exact ih hconvert

end ProfileTable

end Relint
