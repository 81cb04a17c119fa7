import Relint.Converter.Limit
import Relint.Converter.Practice
import Relint.Converter.Restriction
import Relint.Proofs.Converter.Profile
import Relint.Proofs.Merge.Builtin

/-!
Profiles of the converters for forbidden names, for limits and for ways of writing
code. What the converters for forbidden types and forbidden imports propose can be
reconciled with any number of further proposals of the kind.
-/

namespace Relint

/-- Every rule of a contribution has arguments that can be reconciled with others. -/
def Contribution.Reconcilable (c : Contribution) : Prop :=
  ∀ t ∈ c.rules, Relint.Reconcilable t.name t.arguments

namespace Converter

open ConverterProfile

theorem mem_ruleUnlessEmpty {name : String} {arguments : List Value} {t : TargetRule}
    (h : t ∈ ruleUnlessEmpty name arguments) : t.name = name ∧ t.severity = none := by
  unfold ruleUnlessEmpty at h
  split at h
  · exact absurd h List.not_mem_nil
  · rw [List.mem_singleton.mp h]
    exact ⟨rfl, rfl⟩

theorem describes_ban :
    (of ["no-restricted-globals", "no-restricted-properties"]).Describes ban := by
  intro ctx
  apply answers_bind
  intro bans
  refine answers_ok.mpr (fits_ofRules_iff.mpr ?_)
  intro t ht
  rcases List.mem_append.mp ht with hglobal | hproperty
  · simp [mem_ruleUnlessEmpty hglobal]
  · simp [mem_ruleUnlessEmpty hproperty]

/-- The target rule for forbidden types has no argument or one with a map of types. -/
theorem answers_banTypes {property : Contribution → Prop} {ctx : Context}
    (hnone : property (.ofRule (.named "@typescript-eslint/ban-types")))
    (hmap : ∀ types : Fields, property
      (.ofRule ((TargetRule.named "@typescript-eslint/ban-types").withArgument
        (.object [("types", .object types)])))) :
    Answers property (banTypes ctx) := by
  apply answers_bind
  intro types
  dsimp only
  split
  · exact answers_ok.mpr hnone
  · exact answers_ok.mpr (hmap _)

theorem describes_banTypes : (of ["@typescript-eslint/ban-types"]).Describes banTypes := by
  intro ctx
  apply answers_banTypes
  · simp
  · simp

theorem reconcilable_banTypes (ctx : Context) :
    Answers Contribution.Reconcilable (banTypes ctx) := by
  apply answers_banTypes
  · intro t ht
    rw [List.mem_singleton.mp ht]
    exact ⟨by simp [TargetRule.named], by simp [TargetRule.named], by simp [TargetRule.named]⟩
  · intro types t ht
    rw [List.mem_singleton.mp ht]
    refine ⟨?_, by simp, by simp⟩
    intro _ options hoptions
    cases hoptions
    exact ⟨types, rfl⟩

theorem describes_importBlacklist : (of ["no-restricted-imports"]).Describes importBlacklist := by
  intro ctx
  apply answers_bind
  intro bans
  exact answers_ok.mpr (by simp)

/-- A list of arguments that is empty or grows by an object of options. -/
theorem arguments_withOptions {t : TargetRule} {options : Fields} (h : t.arguments = []) :
    ∀ argument ∈ (t.withOptions options).arguments, ∃ fields, argument = .object fields := by
  intro argument hargument
  unfold TargetRule.withOptions at hargument
  split at hargument
  · rw [h] at hargument
    exact absurd hargument List.not_mem_nil
  · simp only [TargetRule.withArgument, h, List.nil_append, List.mem_singleton] at hargument
    exact ⟨options, hargument⟩

theorem reconcilable_importBlacklist (ctx : Context) :
    Answers Contribution.Reconcilable (importBlacklist ctx) := by
  apply answers_bind
  intro bans
  refine answers_ok.mpr ?_
  intro t ht
  rw [List.mem_singleton.mp ht]
  refine ⟨by simp, by simp, ?_⟩
  intro _
  apply arguments_withOptions
  unfold TargetRule.withNoticeIf
  split <;> rfl

theorem describes_noRestrictedGlobals :
    (of ["no-restricted-globals"]).Describes noRestrictedGlobals := by
  intro ctx
  simp [noRestrictedGlobals]

theorem describes_limited (target : String) : (of [target]).Describes (limited target) := by
  intro ctx
  unfold limited
  split <;> simp

theorem describes_maxClassesPerFile :
    (of ["max-classes-per-file"]).Describes maxClassesPerFile := by
  intro ctx
  unfold maxClassesPerFile
  split <;> simp

theorem describes_commentFormat :
    (of ["spaced-comment", "capitalized-comments"]).Describes commentFormat := by
  intro ctx
  have hspaced : ∀ t ∈ (if ctx.hasFlag "check-space" then
      [((TargetRule.named "spaced-comment").withArgument (.string "always")).withArgument
        (.object [("markers", .strings ["/"])])] else []),
      t.name ∈ ["spaced-comment", "capitalized-comments"] ∧ t.severity = none := by
    split <;> simp
  simp only [commentFormat]
  split
  · exact answers_error _
  · refine answers_ok.mpr (fits_ofRules_iff.mpr (List.forall_mem_append.mpr ⟨hspaced, ?_⟩))
    simp
  · refine answers_ok.mpr (fits_ofRules_iff.mpr (List.forall_mem_append.mpr ⟨hspaced, ?_⟩))
    simp
  · exact answers_ok.mpr (fits_ofRules_iff.mpr hspaced)

theorem describes_curly : (of ["curly"]).Describes curly := by
  intro ctx
  simp [curly]

theorem describes_noConsole : (of ["no-console"]).Describes noConsole := by
  intro ctx
  simp [noConsole]

/-- What empty blocks and empty functions convert to. The rule for functions is the
only one of the program that may be switched off by its converter. -/
def emptyProfile : ConverterProfile :=
  { targets := ["no-empty", "@typescript-eslint/no-empty-function"]
    silenced := ["@typescript-eslint/no-empty-function"] }

theorem describes_noEmpty : emptyProfile.Describes noEmpty := by
  intro ctx
  refine answers_ok.mpr ⟨?_, rfl, rfl⟩
  intro t ht
  rcases List.mem_pair.mp ht with rfl | rfl
  · exact ⟨by simp [emptyProfile], Or.inl (by simp)⟩
  · split
    · exact ⟨by simp [emptyProfile], Or.inr (by simp [emptyProfile])⟩
    · exact ⟨by simp [emptyProfile], Or.inl (by simp)⟩

theorem describes_objectLiteralShorthand :
    (of ["object-shorthand"]).Describes objectLiteralShorthand := by
  intro ctx
  simp [objectLiteralShorthand]

theorem describes_oneVariablePerDeclaration :
    (of ["one-var"]).Describes oneVariablePerDeclaration := by
  intro ctx
  simp [oneVariablePerDeclaration]

theorem describes_preferConst : (of ["prefer-const"]).Describes preferConst := by
  intro ctx
  simp [preferConst]

theorem describes_tripleEquals : (of ["eqeqeq"]).Describes tripleEquals := by
  intro ctx
  simp [tripleEquals]

/-- The target rules for forbidden names. -/
def restrictionProfiles : ProfileTable := [
  ("ban", .of ["no-restricted-globals", "no-restricted-properties"]),
  ("ban-types", .of ["@typescript-eslint/ban-types"]),
  ("import-blacklist", .of ["no-restricted-imports"]),
  ("no-restricted-globals", .of ["no-restricted-globals"])]

theorem restrictionProfiles_describe : restrictionProfiles.Describes restrictions :=
  .cons describes_ban <|
  .cons describes_banTypes <|
  .cons describes_importBlacklist <|
  .cons describes_noRestrictedGlobals ProfileTable.describes_nil

/-- The target rules for limits. -/
def limitProfiles : ProfileTable := [
  ("cyclomatic-complexity", .of ["complexity"]),
  ("max-classes-per-file", .of ["max-classes-per-file"]),
  ("max-file-line-count", .of ["max-lines"])]

theorem limitProfiles_describe : limitProfiles.Describes limits :=
  .cons (describes_limited "complexity") <|
  .cons describes_maxClassesPerFile <|
  .cons (describes_limited "max-lines") ProfileTable.describes_nil

/-- The target rules for ways of writing code. -/
def practiceProfiles : ProfileTable := [
  ("comment-format", .of ["spaced-comment", "capitalized-comments"]),
  ("curly", .of ["curly"]),
  ("no-console", .of ["no-console"]),
  ("no-empty", emptyProfile),
  ("object-literal-shorthand", .of ["object-shorthand"]),
  ("one-variable-per-declaration", .of ["one-var"]),
  ("prefer-const", .of ["prefer-const"]),
  ("triple-equals", .of ["eqeqeq"])]

theorem practiceProfiles_describe : practiceProfiles.Describes practices :=
  .cons describes_commentFormat <|
  .cons describes_curly <|
  .cons describes_noConsole <|
  .cons describes_noEmpty <|
  .cons describes_objectLiteralShorthand <|
  .cons describes_oneVariablePerDeclaration <|
  .cons describes_preferConst <|
  .cons describes_tripleEquals ProfileTable.describes_nil

end Converter

end Relint
