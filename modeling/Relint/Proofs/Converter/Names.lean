import Relint.Text.Blank
import Relint.Proofs.Converter.Builtin
import Mathlib.Data.List.Pairwise

/-!
The names of the target rules that the built-in converters have. All are written with
small letters and hyphens; what stands before a slash is the plugin that the rule
belongs to, and a converter to a rule of a plugin also names the package of the plugin.
Few target rules are those of more than one source rule.
-/

namespace Relint

/-- Labelled names with these characters. The characters of a literal are known as soon
as it is matched with them, while decoding it would be slow. -/
inductive Spells {α : Type} : List (α × List Char) → List (α × String) → Prop
  | nil : Spells [] []
  | cons {label : α} {text : List Char} {texts : List (α × List Char)}
      {names : List (α × String)} (h : Spells texts names) :
      Spells ((label, text) :: texts) ((label, String.ofList text) :: names)

section Spells

variable {α : Type} {texts : List (α × List Char)} {names : List (α × String)}

theorem Spells.mem (h : Spells texts names) {label : α} {name : String}
    (hname : (label, name) ∈ names) : (label, name.toList) ∈ texts := by
  induction h with
  | nil => exact absurd hname List.not_mem_nil
  | cons _ ih =>
      rcases List.mem_cons.mp hname with heq | hname
      · cases heq
        rw [String.toList_ofList]
        exact List.mem_cons_self
      · exact List.mem_cons_of_mem _ (ih hname)

theorem Spells.names_eq (h : Spells texts names) :
    names.map (·.2) = (texts.map (·.2)).map String.ofList := by
  induction h with
  | nil => rfl
  | cons _ ih => simp [ih]

end Spells

/-- Whether the texts that occur more than once are all among the allowed ones. -/
def repeatsOnly (allowed : List Char → Bool) : List (List Char) → Bool
  | [] => true
  | text :: rest => (!rest.contains text || allowed text) && repeatsOnly allowed rest

theorem pairwise_of_repeatsOnly {allowed : List Char → Bool} {texts : List (List Char)}
    (h : repeatsOnly allowed texts = true) :
    texts.Pairwise fun first second => first = second → allowed first = true := by
  induction texts with
  | nil => exact List.Pairwise.nil
  | cons text rest ih =>
      rw [repeatsOnly, Bool.and_eq_true, Bool.or_eq_true, Bool.not_eq_true'] at h
      obtain ⟨hhead, hrest⟩ := h
      refine List.Pairwise.cons ?_ (ih hrest)
      rintro second hsecond rfl
      rcases hhead with hnew | hallowed
      · simp [hsecond] at hnew
      · exact hallowed

/-- Small letters, hyphens and the sign of a scope. A slash separates two parts, and
the second begins with a letter. -/
def isRuleName : List Char → Bool
  | [] => true
  | ['/'] => false
  | '/' :: c :: rest => c.isLower && isRuleName (c :: rest)
  | c :: rest => (c.isLower || c == '-' || c == '@') && isRuleName rest

/-- The plugin that the name of a target rule begins with. -/
def pluginPart (name : List Char) : List Char :=
  name.takeWhile (· ≠ '/')

/-- These packages have the plugin of the rule, if it is one of a plugin other than that
for TypeScript. -/
def declaresPlugin (packages : List String) (name : List Char) : Bool :=
  !name.contains '/' || pluginPart name == "@typescript-eslint".toList ||
    packages.contains (String.ofList ("eslint-plugin-".toList ++ pluginPart name))

/-- The target rules of several source rules. -/
def sharedTargets : List String :=
  ["@typescript-eslint/naming-convention", "@typescript-eslint/consistent-type-assertions",
    "no-restricted-globals", "react/jsx-no-bind"]

/-- The target rules of all built-in converters, each with the plugins that come with
it. -/
def builtinTargets : List (List String × String) :=
  builtinProfiles.flatMap fun row => row.2.targets.map fun target => (row.2.plugins, target)

/-- What is checked of the characters of the names. That names differ is seen soonest
from their ends. -/
theorem exists_builtinTexts : ∃ texts, Spells texts builtinTargets ∧
    (texts.all fun entry =>
      !Text.allBlank entry.2 && isRuleName entry.2 && declaresPlugin entry.1 entry.2) = true ∧
    repeatsOnly (fun text => sharedTargets.contains (String.ofList text.reverse))
      (texts.map fun entry => entry.2.reverse) = true := by
  apply Exists.intro
  refine ⟨?spells, ?named, ?shared⟩
  case spells => repeat first | exact Spells.nil | apply Spells.cons
  case named => decide +kernel
  case shared => decide +kernel

section Targets

variable {row row' : String × ConverterProfile} {target : String}

theorem mem_builtinTargets (hrow : row ∈ builtinProfiles) (htarget : target ∈ row.2.targets) :
    (row.2.plugins, target) ∈ builtinTargets :=
  List.mem_flatMap.mpr ⟨row, hrow, List.mem_map_of_mem htarget⟩

/-- The checks that the name of each target rule passes. -/
theorem checks_target (hrow : row ∈ builtinProfiles) (htarget : target ∈ row.2.targets) :
    Text.allBlank target.toList = false ∧ isRuleName target.toList = true ∧
      declaresPlugin row.2.plugins target.toList = true := by
  obtain ⟨texts, hspells, hnamed, _⟩ := exists_builtinTexts
  have hentry := List.all_eq_true.mp hnamed _ (hspells.mem (mem_builtinTargets hrow htarget))
  simpa only [Bool.and_eq_true, Bool.not_eq_true', and_assoc] using hentry

/-- The names that built-in converters answer with are not blank, and they are like those of
rules. -/
theorem names_builtin {entry : String × Converter} (hentry : entry ∈ ConverterRegistry.builtin)
    (ctx : Context) :
    Answers (fun c => ∀ t ∈ c.rules,
      Text.allBlank t.name.toList = false ∧ isRuleName t.name.toList = true) (entry.2 ctx) := by
  intro c hanswer t ht
  obtain ⟨row, hrow, hdescribes⟩ := builtinProfiles_describe.exists_row hentry
  have htarget := ((hdescribes ctx c hanswer).admits t ht).name_mem
  obtain ⟨hshows, hname, _⟩ := checks_target hrow htarget
  exact ⟨hshows, hname⟩

theorem pairwise_builtinTargets :
    (builtinTargets.map (·.2)).Pairwise fun first second =>
      first = second → first ∈ sharedTargets := by
  obtain ⟨texts, hspells, _, hshared⟩ := exists_builtinTexts
  have hpairwise := pairwise_of_repeatsOnly hshared
  rw [hspells.names_eq, List.pairwise_map, List.pairwise_map]
  rw [List.pairwise_map] at hpairwise
  refine hpairwise.imp ?_
  intro first second h heq
  have hsame : first.2.reverse = second.2.reverse := by
    rw [String.ofList_injective heq]
  simpa using h hsame

/-- Two different source rules have no target rule in common but the shared ones. -/
theorem mem_sharedTargets (hrow : row ∈ builtinProfiles) (hrow' : row' ∈ builtinProfiles)
    (hne : row ≠ row') (htarget : target ∈ row.2.targets) (htarget' : target ∈ row'.2.targets) :
    target ∈ sharedTargets := by
  have hnames : builtinTargets.map (·.2) = builtinProfiles.flatMap (·.2.targets) := by
    simp [builtinTargets, List.map_flatMap, Function.comp_def]
  have hpairwise := pairwise_builtinTargets
  rw [hnames, List.pairwise_flatMap] at hpairwise
  have hsymmetric : Std.Symm fun row row' : String × ConverterProfile =>
      ∀ first ∈ row.2.targets, ∀ second ∈ row'.2.targets,
        first = second → first ∈ sharedTargets := by
    constructor
    intro row row' h first hfirst second hsecond heq
    rw [heq]
    exact h second hsecond first hfirst heq.symm
  exact hpairwise.2.forall hrow hrow' hne target htarget target htarget' rfl

end Targets

end Relint
