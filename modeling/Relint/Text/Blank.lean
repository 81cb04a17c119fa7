import Relint.Text.Ranges

/-!
Blank characters, in the sense of the Unicode property White_Space, and the ways
of cutting a text at them.
-/

namespace Relint

namespace Text

def blankBoundaries : List Nat := [
  0x9, 0xE, 0x20, 0x21, 0x85, 0x86, 0xA0, 0xA1, 0x1680, 0x1681, 0x2000, 0x200B, 0x2028, 0x202A,
  0x202F, 0x2030, 0x205F, 0x2060, 0x3000, 0x3001]

/-- Whether a character is blank. The no-break space and the line separators are;
the zero-width characters are not. -/
def isBlank (c : Char) : Bool :=
  inRanges blankBoundaries c.toNat

def trimEnd (text : List Char) : List Char :=
  (text.reverse.dropWhile isBlank).reverse

def trailingBlanks (text : List Char) : List Char :=
  (text.reverse.takeWhile isBlank).reverse

/-- Cuts a text into its words. The word that is being read is kept in reverse. -/
def wordsFrom (word : List Char) : List Char → List (List Char)
  | [] => if word.isEmpty then [] else [word.reverse]
  | c :: rest =>
      if isBlank c then
        if word.isEmpty then wordsFrom [] rest else word.reverse :: wordsFrom [] rest
      else wordsFrom (c :: word) rest

def words (text : List Char) : List (List Char) :=
  wordsFrom [] text

def allBlank (text : List Char) : Bool :=
  text.all isBlank

theorem trimEnd_append_trailingBlanks (text : List Char) :
    trimEnd text ++ trailingBlanks text = text := by
  rw [trimEnd, trailingBlanks, ← List.reverse_append, List.takeWhile_append_dropWhile,
    List.reverse_reverse]

end Text

end Relint
