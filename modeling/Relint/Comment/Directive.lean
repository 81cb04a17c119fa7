/-!
Comment directives of TSLint. Scanning cuts a text into directives and the
characters between them, so that the pieces put together are the text again. Of
several directives that a text could be read as, the one that starts first counts,
and directives do not overlap.
-/

namespace Relint

/-- What a directive asks for. -/
inductive DirectiveKind where
  | disableNextLine
  | disableLine
  | disable
  | enable
  deriving DecidableEq, Repr

namespace DirectiveKind

def keyword : DirectiveKind → String
  | .disableNextLine => "disable-next-line"
  | .disableLine => "disable-line"
  | .disable => "disable"
  | .enable => "enable"

/-- All kinds, where a keyword that begins with another comes before it. -/
def all : List DirectiveKind :=
  [.disableNextLine, .disableLine, .disable, .enable]

end DirectiveKind

/-- A directive: the opening of the comment with the blanks behind it, the keyword,
and the text of the list of rules if there is a colon. -/
structure Directive where
  opening : List Char
  kind : DirectiveKind
  rules : Option (List Char)
  deriving DecidableEq

/-- What stands between the opening and the keyword of a directive. -/
def directiveMark : List Char :=
  "tslint:".toList

namespace Directive

def rulesText : Option (List Char) → List Char
  | none => []
  | some rules => ':' :: rules

def text (d : Directive) : List Char :=
  d.opening ++ directiveMark ++ d.kind.keyword.toList ++ rulesText d.rules

/-- Whether a character may stand between the opening and the mark. -/
def isGap (c : Char) : Bool :=
  c == ' ' || c == '\t'

def isRulesChar (c : Char) : Bool :=
  c != '\n' && c != '*'

def dropWord? : (word text : List Char) → Option (List Char)
  | [], text => some text
  | _ :: _, [] => none
  | w :: word, c :: text => if w = c then dropWord? word text else none

def readOpening? : List Char → Option (List Char × List Char)
  | '/' :: '/' :: rest => some ('/' :: '/' :: rest.takeWhile isGap, rest.dropWhile isGap)
  | '/' :: '*' :: rest => some ('/' :: '*' :: rest.takeWhile isGap, rest.dropWhile isGap)
  | _ => none

def readKind? (text : List Char) : Option (DirectiveKind × List Char) :=
  DirectiveKind.all.findSome? fun kind =>
    (dropWord? kind.keyword.toList text).map fun rest => (kind, rest)

/-- Reads a list of rules, which runs up to a line feed, a star or the end. -/
def readRules : List Char → Option (List Char) × List Char
  | ':' :: rest => (some (rest.takeWhile isRulesChar), rest.dropWhile isRulesChar)
  | text => (none, text)

def read? (text : List Char) : Option (Directive × List Char) := do
  let (opening, rest) ← readOpening? text
  let rest ← dropWord? directiveMark rest
  let (kind, rest) ← readKind? rest
  let (rules, rest) := readRules rest
  return (⟨opening, kind, rules⟩, rest)

theorem dropWord?_eq_some {word text rest : List Char} (h : dropWord? word text = some rest) :
    text = word ++ rest := by
  fun_induction dropWord? word text with
  | case1 text => simpa using h
  | case2 => cases h
  | case3 word text c ih => simp [ih h]
  | case4 => cases h

theorem readOpening?_eq_some {text opening rest : List Char}
    (h : readOpening? text = some (opening, rest)) :
    text = opening ++ rest ∧ opening ≠ [] := by
  unfold readOpening? at h
  split at h
  · cases h
    simp
  · cases h
    simp
  · cases h

theorem readKind?_eq_some {text rest : List Char} {kind : DirectiveKind}
    (h : readKind? text = some (kind, rest)) : text = kind.keyword.toList ++ rest := by
  obtain ⟨k, -, h⟩ := List.exists_of_findSome?_eq_some h
  obtain ⟨r, hr, h⟩ := Option.map_eq_some_iff.1 h
  cases h
  exact dropWord?_eq_some hr

theorem readRules_text (text : List Char) :
    rulesText (readRules text).1 ++ (readRules text).2 = text := by
  unfold readRules
  split <;> simp [rulesText]

theorem read?_eq_some {text rest : List Char} {d : Directive} (h : read? text = some (d, rest)) :
    text = d.text ++ rest ∧ d.opening ≠ [] := by
  simp only [read?, Option.bind_eq_bind, Option.pure_def, Option.bind_eq_some_iff,
    Option.some.injEq, Prod.mk.injEq, Prod.exists] at h
  obtain ⟨opening, r₁, h₁, r₂, h₂, kind, r₃, h₃, rfl, rfl⟩ := h
  obtain ⟨rfl, ho⟩ := readOpening?_eq_some h₁
  have h₂ := dropWord?_eq_some h₂
  have h₃ := readKind?_eq_some h₃
  have h₄ := readRules_text r₃
  refine ⟨?_, ho⟩
  simp only [text, List.append_assoc, h₄, ← h₃, ← h₂]

theorem read?_length_lt {text rest : List Char} {d : Directive}
    (h : read? text = some (d, rest)) : rest.length < text.length := by
  obtain ⟨rfl, ho⟩ := read?_eq_some h
  have := List.length_pos_iff.2 ho
  simp only [text, List.length_append]
  omega

end Directive

/-- A piece of a text: a directive, or one character that belongs to none. -/
inductive Piece where
  | plain (c : Char)
  | directive (d : Directive)
  deriving DecidableEq

namespace Piece

def text : Piece → List Char
  | .plain c => [c]
  | .directive d => d.text

def directive? : Piece → Option Directive
  | .plain _ => none
  | .directive d => some d

end Piece

def pieces (text : List Char) : List Piece :=
  match _h : Directive.read? text with
  | some (d, rest) => .directive d :: pieces rest
  | none =>
      match text with
      | [] => []
      | c :: rest => .plain c :: pieces rest
termination_by text.length
decreasing_by
  · exact Directive.read?_length_lt (by assumption)
  · simp

theorem pieces_text (text : List Char) : (pieces text).flatMap Piece.text = text := by
  fun_induction pieces text with
  | case1 text d rest h ih =>
    rw [List.flatMap_cons, ih]
    exact (Directive.read?_eq_some h).1.symm
  | case2 => rfl
  | case3 c rest h ih => simp [Piece.text, ih]

end Relint
