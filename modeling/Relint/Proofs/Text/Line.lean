import Mathlib.Data.List.Basic

/-!
Texts as lines, in the sense of ECMAScript: a line ends with a line feed, a carriage
return, the two of them together, or one of the two separators of Unicode. What ends the
lines of a text is what it has of these characters, and characters in front of a text that
are none of them belong to its first line.
-/

namespace Relint

namespace Text

/-- Whether a character ends a line. -/
def isLineEnd (c : Char) : Bool :=
  c == '\n' || c == '\r' || c == '\u2028' || c == '\u2029'

/-- The characters of a text that end lines. -/
def lineEnds (text : List Char) : List Char :=
  text.filter isLineEnd

/-- A line with what ends it, which is nothing for the last line of a text. -/
structure Line where
  content : List Char
  terminator : List Char
  deriving DecidableEq

/-- Puts a character in front of the first line. -/
def pushFront (c : Char) : List Line → List Line
  | [] => [⟨[c], []⟩]
  | line :: rest => ⟨c :: line.content, line.terminator⟩ :: rest

/-- The lines of a text. -/
def lines : List Char → List Line
  | [] => [⟨[], []⟩]
  | '\r' :: '\n' :: rest => ⟨[], ['\r', '\n']⟩ :: lines rest
  | c :: rest => if isLineEnd c then ⟨[], [c]⟩ :: lines rest else pushFront c (lines rest)

variable {text more : List Char} {c : Char}

@[simp] theorem lineEnds_nil : lineEnds [] = [] :=
  rfl

@[simp] theorem lineEnds_append (text more : List Char) :
    lineEnds (text ++ more) = lineEnds text ++ lineEnds more :=
  List.filter_append ..

theorem lineEnds_cons (h : isLineEnd c = false) (text : List Char) :
    lineEnds (c :: text) = lineEnds text := by
  simp [lineEnds, h]

theorem length_lineEnds_cons (c : Char) (text : List Char) :
    (lineEnds (c :: text)).length = (lineEnds [c]).length + (lineEnds text).length := by
  rw [← List.length_append, ← lineEnds_append]
  rfl

theorem lineEnds_eq_nil_iff : lineEnds text = [] ↔ ∀ c ∈ text, isLineEnd c = false := by
  simp [lineEnds]

theorem lines_cons (h : ¬(c = '\r' ∧ text.head? = some '\n')) :
    lines (c :: text) =
      if isLineEnd c then ⟨[], [c]⟩ :: lines text else pushFront c (lines text) := by
  rw [lines]
  rintro rest rfl rfl
  exact h ⟨rfl, rfl⟩

theorem exists_lines_eq_cons (text : List Char) : ∃ line rest, lines text = line :: rest := by
  fun_cases lines text with
  | case1 => exact ⟨_, _, rfl⟩
  | case2 => exact ⟨_, _, rfl⟩
  | case3 => exact ⟨_, _, rfl⟩
  | case4 c rest =>
      cases lines rest with
      | nil => exact ⟨_, _, rfl⟩
      | cons line others => exact ⟨_, _, rfl⟩

/-- Without a line end in front of it the first line only becomes longer. -/
theorem lines_append (h : lineEnds text = []) {line : Line} {rest : List Line}
    (hmore : lines more = line :: rest) :
    lines (text ++ more) = ⟨text ++ line.content, line.terminator⟩ :: rest := by
  induction text with
  | nil => exact hmore
  | cons c text ih =>
      obtain ⟨hc, htext⟩ := List.forall_mem_cons.mp (lineEnds_eq_nil_iff.mp h)
      have hreturn : ¬(c = '\r' ∧ (text ++ more).head? = some '\n') := by
        rintro ⟨rfl, _⟩
        exact absurd hc (by decide)
      rw [List.cons_append, lines_cons hreturn, ih (lineEnds_eq_nil_iff.mpr htext), hc]
      rfl

theorem terminators_pushFront (c : Char) (rest : List Line) :
    (pushFront c rest).flatMap (·.terminator) = rest.flatMap (·.terminator) := by
  cases rest <;> rfl

/-- What ends the lines of a text are its line ends in their order. -/
theorem terminators_lines (text : List Char) :
    (lines text).flatMap (·.terminator) = lineEnds text := by
  fun_induction lines text with
  | case1 => rfl
  | case2 rest ih =>
      rw [List.flatMap_cons, ih]
      rfl
  | case3 c rest _ hc ih =>
      rw [List.flatMap_cons, ih]
      simp [lineEnds, hc]
  | case4 c rest _ hc ih =>
      rw [terminators_pushFront, ih]
      simp [lineEnds, hc]

end Text

end Relint
