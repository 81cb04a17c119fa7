import Relint.Comment.Directive
import Relint.Converter.Basic
import Relint.Distinct
import Relint.Text.Blank

/-!
Converting comment directives. A list of rules is converted word by word, and a
directive none of whose rules has a target stays as it is, because without its
list it would speak of every rule.
-/

namespace Relint

def targetNames (converters : ConverterRegistry) (settings : ConversionSettings)
    (rule : String) : List String :=
  match convertRule converters settings ⟨rule, [], .error⟩ with
  | .converted c => c.rules.map (·.name)
  | .failed _ | .missing => []

/-- What becomes of one directive: its new text unless it stays as it is, and the
rules of its list that have no target. -/
structure DirectiveConversion where
  replacement : Option (List Char)
  dropped : List String
  deriving DecidableEq

namespace Directive

/-- The directive of ESLint that does the same, up to the list of rules. -/
def eslintStem (d : Directive) : List Char :=
  d.opening ++ "eslint-".toList ++ d.kind.keyword.toList

def ruleWords (rules : List Char) : List String :=
  (Text.words rules).map String.ofList

def joinNames (names : List String) : List Char :=
  [',', ' '].intercalate (names.map String.toList)

/-- Converts a directive. The blanks at the end of a list of rules are kept. -/
def convert (converters : ConverterRegistry) (settings : ConversionSettings) (d : Directive) :
    DirectiveConversion :=
  match d.rules with
  | none => ⟨some d.eslintStem, []⟩
  | some rules =>
      let words := ruleWords rules
      let targets := distinct (words.flatMap (targetNames converters settings))
      let dropped := words.filter fun word => (targetNames converters settings word).isEmpty
      if words.isEmpty then ⟨some (d.eslintStem ++ Text.trailingBlanks rules), dropped⟩
      else if targets.isEmpty then ⟨none, dropped⟩
      else
        ⟨some (d.eslintStem ++ [' '] ++ joinNames targets ++ Text.trailingBlanks rules), dropped⟩

end Directive

/-- What is known after the directives of a text have been converted. -/
structure CommentConversion where
  content : String
  converted : Nat
  unchanged : Nat
  droppedRules : List String
  deriving DecidableEq

namespace CommentConversion

def isChanged (c : CommentConversion) : Bool :=
  0 < c.converted

def toValue (c : CommentConversion) : Value :=
  .object [("content", .string c.content), ("converted", .ofNat c.converted),
    ("unchanged", .ofNat c.unchanged), ("droppedRules", .strings c.droppedRules)]

end CommentConversion

def Piece.convertedText (convert : Directive → DirectiveConversion) : Piece → List Char
  | .plain c => [c]
  | .directive d => (convert d).replacement.getD d.text

def convertComments (converters : ConverterRegistry) (settings : ConversionSettings)
    (text : String) : CommentConversion :=
  let convert := Directive.convert converters settings
  let parts := pieces text.toList
  let conversions := (parts.filterMap Piece.directive?).map convert
  { content := String.ofList (parts.flatMap (·.convertedText convert))
    converted := conversions.countP (·.replacement.isSome)
    unchanged := conversions.countP (·.replacement.isNone)
    droppedRules := distinct (conversions.flatMap (·.dropped)) }

end Relint
