import Relint.Converter.Formatting
import Relint.Proofs.Converter.Profile

/-!
Profiles of the converters for rules about layout. Under Prettier they all answer
with nothing, which every profile without plugins and presets allows.
-/

namespace Relint

namespace Converter

open ConverterProfile

theorem describes_unlessPrettier {profile : ConverterProfile} {convert : Converter}
    (hplugins : profile.plugins = []) (hpresets : profile.presets = [])
    (h : profile.Describes convert) : profile.Describes (unlessPrettier convert) := by
  intro ctx
  unfold unlessPrettier
  split
  · rw [answers_ok]
    exact ⟨fun t ht => absurd ht List.not_mem_nil, hplugins.symm, hpresets.symm⟩
  · exact h ctx

theorem describes_named (target : String) :
    (of [target]).Describes fun _ => .ok (.ofRule (.named target)) := by
  intro ctx
  simp

theorem describes_arrowParens : (of ["arrow-parens"]).Describes arrowParens := by
  intro ctx
  unfold arrowParens
  rw [answers_ok, fits_ofRule_iff]
  split <;> simp

theorem describes_indent : (of ["@typescript-eslint/indent"]).Describes indent := by
  intro ctx
  unfold indent
  split
  · simp
  · simp
  · split <;> simp
  · simp

theorem describes_linebreakStyle : (of ["linebreak-style"]).Describes linebreakStyle := by
  intro ctx
  unfold linebreakStyle
  split <;> simp

theorem describes_maxLineLength : (of ["max-len"]).Describes maxLineLength := by
  intro ctx
  unfold maxLineLength
  split <;> simp

theorem describes_noConsecutiveBlankLines :
    (of ["no-multiple-empty-lines"]).Describes noConsecutiveBlankLines := by
  intro ctx
  simp [noConsecutiveBlankLines]

theorem describes_noTrailingWhitespace :
    (of ["no-trailing-spaces"]).Describes noTrailingWhitespace := by
  intro ctx
  simp [noTrailingWhitespace]

theorem describes_objectLiteralKeyQuotes :
    (of ["quote-props"]).Describes objectLiteralKeyQuotes := by
  intro ctx
  unfold objectLiteralKeyQuotes
  split
  · simp
  · split <;> simp

theorem describes_quotemark :
    (of ["@typescript-eslint/quotes", "jsx-quotes"]).Describes quotemark := by
  intro ctx
  unfold quotemark
  rw [answers_ok, fits_ofRules_iff, List.forall_mem_cons]
  refine ⟨by simp, ?_⟩
  split
  · simp
  · split <;> simp

/-- Notices that are added one after the other leave the rest of a target rule. -/
theorem foldl_withNotice {α : Type} (notice : α → String) (items : List α) (t : TargetRule) :
    (items.foldl (fun t item => t.withNotice (notice item)) t).name = t.name ∧
      (items.foldl (fun t item => t.withNotice (notice item)) t).severity = t.severity := by
  induction items generalizing t with
  | nil => exact ⟨rfl, rfl⟩
  | cons item rest ih => exact ih (t.withNotice (notice item))

theorem describes_semicolon :
    (of ["@typescript-eslint/semi", "@typescript-eslint/member-delimiter-style"]).Describes
      semicolon := by
  intro ctx
  have hmode (mode : String) (options : List String) :
      (of ["@typescript-eslint/semi", "@typescript-eslint/member-delimiter-style"]).Fits
        (.ofRules (options.foldl (fun t option => t.withNotice (unsupportedOption option))
            ((TargetRule.named "@typescript-eslint/semi").withArgument (.string mode)) ::
          if ctx.hasFlag "ignore-interfaces" then []
          else if mode = "always" then [.named "@typescript-eslint/member-delimiter-style"]
          else [(TargetRule.named "@typescript-eslint/member-delimiter-style").withArgument
            bareMemberDelimiters])) := by
    rw [fits_ofRules_iff, List.forall_mem_cons]
    refine ⟨by simp [foldl_withNotice unsupportedOption], ?_⟩
    split
    · simp
    · split <;> simp
  simp only [semicolon]
  split
  · exact answers_ok.mpr (hmode "always" _)
  · exact answers_ok.mpr (hmode "always" _)
  · exact answers_ok.mpr (hmode "never" _)
  · exact answers_error _

theorem describes_spaceBeforeFunctionParen :
    (of ["@typescript-eslint/space-before-function-paren"]).Describes
      spaceBeforeFunctionParen := by
  intro ctx
  unfold spaceBeforeFunctionParen
  split
  · simp
  · simp
  · rw [answers_ok, fits_ofRule_iff, TargetRule.name_withArgument, TargetRule.severity_withArgument,
      (foldl_withNotice _ _ _).1, (foldl_withNotice _ _ _).2]
    simp

theorem describes_trailingComma : (of ["comma-dangle"]).Describes trailingComma := by
  intro ctx
  unfold trailingComma
  split
  · simp
  · apply answers_bind
    intro multiline
    apply answers_bind
    intro singleline
    apply answers_bind
    intro mode
    exact answers_ok.mpr (by simp)

/-- The target rules for rules about layout. -/
def layoutProfiles : ProfileTable := [
  ("arrow-parens", .of ["arrow-parens"]),
  ("eofline", .of ["eol-last"]),
  ("indent", .of ["@typescript-eslint/indent"]),
  ("linebreak-style", .of ["linebreak-style"]),
  ("max-line-length", .of ["max-len"]),
  ("new-parens", .of ["new-parens"]),
  ("no-consecutive-blank-lines", .of ["no-multiple-empty-lines"]),
  ("no-trailing-whitespace", .of ["no-trailing-spaces"]),
  ("object-literal-key-quotes", .of ["quote-props"]),
  ("quotemark", .of ["@typescript-eslint/quotes", "jsx-quotes"]),
  ("semicolon",
    .of ["@typescript-eslint/semi", "@typescript-eslint/member-delimiter-style"]),
  ("space-before-function-paren", .of ["@typescript-eslint/space-before-function-paren"]),
  ("trailing-comma", .of ["comma-dangle"])]

theorem layoutProfiles_describe_layout : layoutProfiles.Describes layoutConverters :=
  .cons describes_arrowParens <|
  .cons (describes_named "eol-last") <|
  .cons describes_indent <|
  .cons describes_linebreakStyle <|
  .cons describes_maxLineLength <|
  .cons (describes_named "new-parens") <|
  .cons describes_noConsecutiveBlankLines <|
  .cons describes_noTrailingWhitespace <|
  .cons describes_objectLiteralKeyQuotes <|
  .cons describes_quotemark <|
  .cons describes_semicolon <|
  .cons describes_spaceBeforeFunctionParen <|
  .cons describes_trailingComma ProfileTable.describes_nil

theorem layoutProfiles_describe : layoutProfiles.Describes formatting := by
  apply layoutProfiles_describe_layout.map
  intro row hrow convert h
  have hbare : ∀ row ∈ layoutProfiles, row.2.plugins = [] ∧ row.2.presets = [] := by decide
  exact describes_unlessPrettier (hbare row hrow).1 (hbare row hrow).2 h

end Converter

end Relint
