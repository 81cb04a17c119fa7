import Relint.Comment.Conversion
import Relint.Proofs.Comment.Matches

/-!
When the conversion of comments changes a text. Only the directives of a text are touched,
and one that is replaced differs from what replaces it right behind its opening. So the
first directive that is replaced shows in the text, whatever becomes of those behind it, and
the number of replaced directives tells whether the text is still the same.
-/

namespace Relint

variable {converters : ConverterRegistry} {settings : ConversionSettings}

namespace Directive

variable {d : Directive}

/-- What stands where a directive was. -/
def translated (converters : ConverterRegistry) (settings : ConversionSettings)
    (d : Directive) : List Char :=
  (d.convert converters settings).replacement.getD d.text

theorem eslintStem_prefix {replacement : List Char}
    (h : (d.convert converters settings).replacement = some replacement) :
    d.eslintStem <+: replacement := by
  unfold convert at h
  split at h
  · cases h
    exact List.prefix_rfl
  · dsimp only at h
    split at h
    · cases h
      exact List.prefix_append _ _
    · split at h
      · cases h
      · cases h
        rw [List.append_assoc, List.append_assoc]
        exact List.prefix_append _ _

theorem head?_directiveMark : directiveMark.head? = some 't' := by
  decide

/-- A directive and what replaces it are told apart behind the opening, where the mark of the
one and the stem of the other begin with different letters. -/
theorem eslintStem_append_ne (d : Directive) (behind more : List Char) :
    d.eslintStem ++ behind ≠ d.text ++ more := by
  intro hsame
  have hmark : "eslint-".toList ++ (d.kind.keyword.toList ++ behind) =
      directiveMark ++ (d.kind.keyword.toList ++ (rulesText d.rules ++ more)) := by
    simpa only [eslintStem, text, List.append_assoc, List.append_cancel_left_eq] using hsame
  have hhead := congrArg List.head? hmark
  rw [List.head?_append, List.head?_append] at hhead
  exact absurd hhead (by simp [head?_directiveMark])

/-- Whatever comes behind, a directive is not mistaken for what replaces it. -/
theorem replacement_append_ne {replacement : List Char}
    (h : (d.convert converters settings).replacement = some replacement)
    (more more' : List Char) : replacement ++ more ≠ d.text ++ more' := by
  obtain ⟨behind, rfl⟩ := eslintStem_prefix h
  rw [List.append_assoc]
  exact d.eslintStem_append_ne (behind ++ more) more'

theorem translated_of_none (h : (d.convert converters settings).replacement = none) :
    d.translated converters settings = d.text := by
  rw [translated, h, Option.getD_none]

theorem translated_eq_text_iff :
    d.translated converters settings = d.text ↔
      (d.convert converters settings).replacement = none := by
  constructor
  · intro hsame
    cases hreplacement : (d.convert converters settings).replacement with
    | none => rfl
    | some replacement =>
        rw [translated, hreplacement, Option.getD_some] at hsame
        exact absurd (by rw [hsame]) (replacement_append_ne hreplacement [] [])
  · exact translated_of_none

end Directive

namespace Cut

/-- A text stays the same only where all its directives do. -/
theorem textWith_translated_eq_text_iff (cut : Cut) :
    cut.textWith (Directive.translated converters settings) = cut.text ↔
      ∀ d ∈ cut.directives, (d.convert converters settings).replacement = none := by
  obtain ⟨parts, last⟩ := cut
  induction parts with
  | nil => exact iff_of_true rfl (by simp [directives])
  | cons part rest ih =>
      obtain ⟨before, d⟩ := part
      have hdirectives : (⟨(before, d) :: rest, last⟩ : Cut).directives =
          d :: (⟨rest, last⟩ : Cut).directives := rfl
      have hwritten := textWith_cons (Directive.translated converters settings) before d ⟨rest, last⟩
      have htext := textWith_cons Directive.text before d ⟨rest, last⟩
      rw [text, hwritten, htext, List.append_cancel_left_eq, hdirectives, List.forall_mem_cons]
      cases hreplacement : (d.convert converters settings).replacement with
      | none =>
          rw [Directive.translated_of_none hreplacement, List.append_cancel_left_eq]
          simpa [text] using ih
      | some replacement =>
          have hne := Directive.replacement_append_ne hreplacement
            (textWith (Directive.translated converters settings) ⟨rest, last⟩)
            (textWith Directive.text ⟨rest, last⟩)
          rw [Directive.translated, hreplacement, Option.getD_some]
          exact iff_of_false hne (by simp)

end Cut

section Parts

variable {text : String} {cut : Cut}

theorem convertedText_eq_textWith :
    Piece.convertedText (Directive.convert converters settings) =
      Piece.textWith (Directive.translated converters settings) := by
  funext p
  cases p <;> rfl

/-- The new text is the old one with its directives translated. -/
theorem content_eq_textWith (h : cut.Cuts text.toList) :
    (convertComments converters settings text).content.toList =
      cut.textWith (Directive.translated converters settings) := by
  rw [Cut.cuts_iff.mp h, Cut.textWith_ofPieces, ← convertedText_eq_textWith]
  exact String.toList_ofList

theorem converted_eq_countP (h : cut.Cuts text.toList) :
    (convertComments converters settings text).converted = cut.directives.countP fun d =>
      (d.convert converters settings).replacement.isSome := by
  rw [Cut.cuts_iff.mp h, Cut.directives_ofPieces]
  exact List.countP_map

theorem unchanged_eq_countP (h : cut.Cuts text.toList) :
    (convertComments converters settings text).unchanged = cut.directives.countP fun d =>
      (d.convert converters settings).replacement.isNone := by
  rw [Cut.cuts_iff.mp h, Cut.directives_ofPieces]
  exact List.countP_map

theorem droppedRules_eq_distinct (h : cut.Cuts text.toList) :
    (convertComments converters settings text).droppedRules =
      distinct (cut.directives.flatMap fun d => (d.convert converters settings).dropped) := by
  rw [Cut.cuts_iff.mp h, Cut.directives_ofPieces]
  simp only [convertComments, List.flatMap_map]

end Parts

/-- The conversion of comments cuts a text at its directives, in the only way there is, and
leaves all between them as it is. It counts each directive, those that it replaces apart
from the others, and the text is changed exactly when any is replaced. -/
theorem convertComments_changed_iff (converters : ConverterRegistry)
    (settings : ConversionSettings) (text : String) :
    let result := convertComments converters settings text
    (result.content ≠ text ↔ 0 < result.converted) ∧
      (result.isChanged = true ↔ result.content ≠ text) ∧
      ∃ cut : Cut, (∀ other : Cut, other.Cuts text.toList ↔ other = cut) ∧
        result.converted + result.unchanged = cut.directives.length ∧
        ∃ write : Directive → List Char, result.content.toList = cut.textWith write ∧
          result.converted = cut.directives.countP fun d => write d != d.text := by
  intro result
  obtain ⟨cut, hcut, hunique⟩ := Cut.exists_cuts text.toList
  have hchanged : result.content ≠ text ↔ 0 < result.converted := by
    rw [Nat.pos_iff_ne_zero, not_iff_not, ← String.toList_inj, content_eq_textWith hcut,
      ← hcut.2, Cut.textWith_translated_eq_text_iff, converted_eq_countP hcut,
      List.countP_eq_zero]
    simp only [Option.not_isSome_iff_eq_none]
  refine ⟨hchanged, ?_, cut, hunique, ?_, Directive.translated converters settings,
    content_eq_textWith hcut, ?_⟩
  · rw [hchanged, CommentConversion.isChanged, decide_eq_true_eq]
  · rw [converted_eq_countP hcut, unchanged_eq_countP hcut,
      List.length_eq_countP_add_countP fun d : Directive =>
        (d.convert converters settings).replacement.isSome, Nat.add_left_cancel_iff]
    exact List.countP_congr fun d _ => by simp
  · rw [converted_eq_countP hcut]
    apply List.countP_congr
    intro d _
    rw [bne_iff_ne, ne_eq, Directive.translated_eq_text_iff, Option.isSome_iff_ne_none]

end Relint
