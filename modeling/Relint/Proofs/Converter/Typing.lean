import Relint.Converter.Naming
import Relint.Converter.TypeAware
import Relint.Proofs.Converter.Practice

/-!
Profiles of the converters for rules about types and names. All that is proposed
for type assertions asks for one style.
-/

namespace Relint

namespace Converter

open ConverterProfile

theorem describes_arrayType : (of ["@typescript-eslint/array-type"]).Describes arrayType := by
  intro ctx
  unfold arrayType
  dsimp only
  split
  · exact answers_ok.mpr (by simp)
  · exact answers_error _

theorem describes_memberAccess :
    (of ["@typescript-eslint/explicit-member-accessibility"]).Describes memberAccess := by
  intro ctx
  unfold memberAccess
  dsimp only
  split
  · exact answers_ok.mpr (by simp)
  · exact answers_ok.mpr (by simp)

theorem describes_memberOrdering :
    (of ["@typescript-eslint/member-ordering"]).Describes memberOrdering := by
  intro ctx
  unfold memberOrdering
  dsimp only
  split
  · simp
  · apply answers_map
    intro order
    simp
  · simp
  · simp

theorem describes_noAngleBracketTypeAssertion :
    (of ["@typescript-eslint/consistent-type-assertions"]).Describes
      noAngleBracketTypeAssertion := by
  intro ctx
  simp [noAngleBracketTypeAssertion]

theorem describes_noInferrableTypes :
    (of ["@typescript-eslint/no-inferrable-types"]).Describes noInferrableTypes := by
  intro ctx
  simp [noInferrableTypes]

theorem describes_noNamespace :
    (of ["@typescript-eslint/no-namespace"]).Describes noNamespace := by
  intro ctx
  simp [noNamespace]

theorem describes_noObjectLiteralTypeAssertion :
    (of ["@typescript-eslint/consistent-type-assertions"]).Describes
      noObjectLiteralTypeAssertion := by
  intro ctx
  simp [noObjectLiteralTypeAssertion]

/-- Options for type assertions that ask for the style `as` can be reconciled. -/
theorem reconcilable_assertion {options : Fields}
    (h : options.lookup "assertionStyle" = some (.string "as")) :
    (Contribution.ofRule ((TargetRule.named
      "@typescript-eslint/consistent-type-assertions").withArgument (.object options))).Reconcilable := by
  intro t ht
  rw [List.mem_singleton.mp ht]
  refine ⟨by simp, ?_, by simp⟩
  intro _ argument hargument
  cases hargument
  simp [Value.field?, Value.object?, h, Value.string?]

theorem reconcilable_noAngleBracketTypeAssertion (ctx : Context) :
    Answers Contribution.Reconcilable (noAngleBracketTypeAssertion ctx) :=
  answers_ok.mpr (reconcilable_assertion rfl)

theorem reconcilable_noObjectLiteralTypeAssertion (ctx : Context) :
    Answers Contribution.Reconcilable (noObjectLiteralTypeAssertion ctx) :=
  answers_ok.mpr (reconcilable_assertion rfl)

theorem describes_noThisAssignment :
    (of ["@typescript-eslint/no-this-alias"]).Describes noThisAssignment := by
  intro ctx
  simp [noThisAssignment]

theorem describes_noUnusedExpression :
    (of ["@typescript-eslint/no-unused-expressions"]).Describes noUnusedExpression := by
  intro ctx
  simp [noUnusedExpression]

theorem describes_typedef :
    (of ["@typescript-eslint/typedef", "@typescript-eslint/explicit-function-return-type"]).Describes
      typedef := by
  intro ctx
  refine answers_ok.mpr (fits_ofRules_iff.mpr (List.forall_mem_cons.mpr ⟨by simp, ?_⟩))
  split
  · simp
  · split <;> simp

/-- The target rules for the syntax of types, members and declarations. -/
def typingProfiles : ProfileTable := [
  ("array-type", .of ["@typescript-eslint/array-type"]),
  ("member-access", .of ["@typescript-eslint/explicit-member-accessibility"]),
  ("member-ordering", .of ["@typescript-eslint/member-ordering"]),
  ("no-angle-bracket-type-assertion", .of ["@typescript-eslint/consistent-type-assertions"]),
  ("no-inferrable-types", .of ["@typescript-eslint/no-inferrable-types"]),
  ("no-namespace", .of ["@typescript-eslint/no-namespace"]),
  ("no-object-literal-type-assertion", .of ["@typescript-eslint/consistent-type-assertions"]),
  ("no-this-assignment", .of ["@typescript-eslint/no-this-alias"]),
  ("no-unused-expression", .of ["@typescript-eslint/no-unused-expressions"]),
  ("typedef",
    .of ["@typescript-eslint/typedef", "@typescript-eslint/explicit-function-return-type"])]

theorem typingProfiles_describe : typingProfiles.Describes typings :=
  .cons describes_arrayType <|
  .cons describes_memberAccess <|
  .cons describes_memberOrdering <|
  .cons describes_noAngleBracketTypeAssertion <|
  .cons describes_noInferrableTypes <|
  .cons describes_noNamespace <|
  .cons describes_noObjectLiteralTypeAssertion <|
  .cons describes_noThisAssignment <|
  .cons describes_noUnusedExpression <|
  .cons describes_typedef ProfileTable.describes_nil

/-- The notice that type information is missing changes nothing in a profile. -/
theorem describes_typeAware {profile : ConverterProfile} {convert : Converter}
    (h : profile.Describes convert) : profile.Describes (typeAware convert) := by
  intro ctx c hc
  cases hanswer : convert ctx with
  | error reason =>
      rw [typeAware, hanswer] at hc
      cases hc
  | ok answer =>
      rw [typeAware, hanswer] at hc
      cases hc
      split
      · exact h ctx answer hanswer
      · exact fits_mapRules (fun t => admits_withNotice _) (h ctx answer hanswer)

theorem describes_awaitPromise :
    (of ["@typescript-eslint/await-thenable"]).Describes awaitPromise := by
  intro ctx
  simp [awaitPromise]

theorem describes_noFloatingPromises :
    (of ["@typescript-eslint/no-floating-promises"]).Describes noFloatingPromises := by
  intro ctx
  simp [noFloatingPromises]

theorem describes_noUnboundMethod :
    (of ["@typescript-eslint/unbound-method"]).Describes noUnboundMethod := by
  intro ctx
  simp [noUnboundMethod]

theorem describes_noUnnecessaryTypeAssertion :
    (of ["@typescript-eslint/no-unnecessary-type-assertion"]).Describes
      noUnnecessaryTypeAssertion := by
  intro ctx
  simp [noUnnecessaryTypeAssertion]

theorem describes_noUnsafeAny : (of unsafeTypeRules).Describes noUnsafeAny := by
  intro ctx
  refine answers_ok.mpr (fits_ofRules_iff.mpr ?_)
  intro t ht
  obtain ⟨name, hname, rfl⟩ := List.mem_map.mp ht
  exact ⟨hname, rfl⟩

theorem describes_noVoidExpression :
    (of ["@typescript-eslint/no-confusing-void-expression"]).Describes noVoidExpression := by
  intro ctx
  simp [noVoidExpression]

theorem describes_preferReadonly :
    (of ["@typescript-eslint/prefer-readonly"]).Describes preferReadonly := by
  intro ctx
  simp [preferReadonly]

theorem describes_strictBooleanExpressions :
    (of ["@typescript-eslint/strict-boolean-expressions"]).Describes
      strictBooleanExpressions := by
  intro ctx
  simp [strictBooleanExpressions]

/-- The target rules that need type information. -/
def typeAwareProfiles : ProfileTable := [
  ("await-promise", .of ["@typescript-eslint/await-thenable"]),
  ("no-floating-promises", .of ["@typescript-eslint/no-floating-promises"]),
  ("no-unbound-method", .of ["@typescript-eslint/unbound-method"]),
  ("no-unnecessary-type-assertion", .of ["@typescript-eslint/no-unnecessary-type-assertion"]),
  ("no-unsafe-any", .of unsafeTypeRules),
  ("no-void-expression", .of ["@typescript-eslint/no-confusing-void-expression"]),
  ("prefer-readonly", .of ["@typescript-eslint/prefer-readonly"]),
  ("strict-boolean-expressions", .of ["@typescript-eslint/strict-boolean-expressions"])]

theorem typeAwareProfiles_describe : typeAwareProfiles.Describes typeAwares := by
  have hplain : typeAwareProfiles.Describes typeAwareConverters :=
    .cons describes_awaitPromise <|
    .cons describes_noFloatingPromises <|
    .cons describes_noUnboundMethod <|
    .cons describes_noUnnecessaryTypeAssertion <|
    .cons describes_noUnsafeAny <|
    .cons describes_noVoidExpression <|
    .cons describes_preferReadonly <|
    .cons describes_strictBooleanExpressions ProfileTable.describes_nil
  apply hplain.map
  intro row _ convert h
  exact describes_typeAware h

@[simp] theorem name_namingConvention (selector : Fields) :
    (namingConvention selector).name = "@typescript-eslint/naming-convention" :=
  rfl

@[simp] theorem severity_namingConvention (selector : Fields) :
    (namingConvention selector).severity = none :=
  rfl

theorem describes_className :
    (of ["@typescript-eslint/naming-convention"]).Describes className := by
  intro ctx
  simp [className]

theorem describes_interfaceName :
    (of ["@typescript-eslint/naming-convention"]).Describes interfaceName := by
  intro ctx
  unfold interfaceName
  split <;> simp

theorem describes_variableName :
    (of ["@typescript-eslint/naming-convention", "no-underscore-dangle", "id-denylist"]).Describes
      variableName := by
  intro ctx
  refine answers_ok.mpr (fits_ofRules_iff.mpr (List.forall_mem_cons.mpr ⟨by simp, ?_⟩))
  refine List.forall_mem_append.mpr ⟨?_, ?_⟩
  · split <;> simp
  · split <;> simp

/-- The target rules for names. -/
def namingProfiles : ProfileTable := [
  ("class-name", .of ["@typescript-eslint/naming-convention"]),
  ("interface-name", .of ["@typescript-eslint/naming-convention"]),
  ("variable-name",
    .of ["@typescript-eslint/naming-convention", "no-underscore-dangle", "id-denylist"])]

theorem namingProfiles_describe : namingProfiles.Describes namings :=
  .cons describes_className <|
  .cons describes_interfaceName <|
  .cons describes_variableName ProfileTable.describes_nil

end Converter

end Relint
