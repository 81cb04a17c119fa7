import Relint.Text.Blank

/-!
The words of a text: what is left between its blanks, without the empty pieces between
blanks that follow each other.
-/

namespace Relint

namespace Text

/-- The word that is being read goes on with the first piece of what is still to be read. -/
theorem wordsFrom_eq (word text : List Char) :
    wordsFrom word text =
      ((text.splitOnP isBlank).modifyHead (word.reverse ++ ·)).filter (!·.isEmpty) := by
  induction text generalizing word with
  | nil => cases word <;> simp [wordsFrom]
  | cons c rest ih =>
      rw [wordsFrom, List.splitOnP_cons_eq_if_modifyHead]
      cases hblank : isBlank c with
      | true =>
          have hrest : wordsFrom [] rest = (rest.splitOnP isBlank).filter (!·.isEmpty) := by
            rw [ih]
            cases rest.splitOnP isBlank <;> rfl
          cases word <;> simp [hrest]
      | false =>
          simp only [Bool.false_eq_true, ↓reduceIte]
          rw [ih, List.modifyHead_modifyHead]
          congr 2
          funext piece
          simp

theorem words_eq_splitOnP (text : List Char) :
    words text = (text.splitOnP isBlank).filter (!·.isEmpty) := by
  rw [words, wordsFrom_eq]
  cases text.splitOnP isBlank <;> rfl

end Text

end Relint
