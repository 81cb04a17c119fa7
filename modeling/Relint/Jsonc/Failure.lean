/-!
What can be wrong with JSON text that may hold comments, and how it is reported.
-/

namespace Relint

namespace Jsonc

/-- Why a text is not a value. -/
inductive Cause where
  | unterminatedObject
  | unterminatedArray
  | unterminatedComment
  | unterminatedString
  | unexpectedTokenInObject
  | expectedColon
  | expectedObjectValue
  | unexpectedCloseBracket
  | unexpectedCloseBrace
  | unexpectedComma
  | unexpectedColon
  | unexpectedWord
  | unexpectedToken
  | secondValue
  | invalidEscape
  | invalidEscapeInDoubleQuotes
  | invalidEscapeInSingleQuotes
  | expectedFourHexDigits
  | invalidCodeUnit (digits reason : String)
  | expectedDigitAfterSign
  | expectedDigit
  | expectedExponent
  deriving DecidableEq, Repr

def Cause.text : Cause → String
  | .unterminatedObject => "Unterminated object"
  | .unterminatedArray => "Unterminated array"
  | .unterminatedComment => "Unterminated comment block"
  | .unterminatedString => "Unterminated string literal"
  | .unexpectedTokenInObject => "Unexpected token in object"
  | .expectedColon => "Expected colon after the string or word in object property"
  | .expectedObjectValue => "Expected value after colon in object property"
  | .unexpectedCloseBracket => "Unexpected close bracket"
  | .unexpectedCloseBrace => "Unexpected close brace"
  | .unexpectedComma => "Unexpected comma"
  | .unexpectedColon => "Unexpected colon"
  | .unexpectedWord => "Unexpected word"
  | .unexpectedToken => "Unexpected token"
  | .secondValue => "Text cannot contain more than one JSON value"
  | .invalidEscape => "Invalid escape"
  | .invalidEscapeInDoubleQuotes => "Invalid escape in double quote string"
  | .invalidEscapeInSingleQuotes => "Invalid escape in single quote string"
  | .expectedFourHexDigits => "Expected four hex digits"
  | .invalidCodeUnit digits reason =>
      "Invalid unicode escape sequence. '" ++ digits ++ " (" ++ reason ++
        ")' is not a valid UTF8 character"
  | .expectedDigitAfterSign => "Expected digit following negative sign"
  | .expectedDigit => "Expected digit"
  | .expectedExponent => "Expected plus, minus, or digit in number literal"

/-- A cause and the number of characters before the place it is reported at. -/
structure Failure where
  offset : Nat
  cause : Cause
  deriving DecidableEq, Repr

/-- The line and the column of the place after some characters. Both count from
one, and only the line feed ends a line. -/
def place (before : List Char) : Nat × Nat :=
  before.foldl
    (fun (line, column) c => if c = '\n' then (line + 1, 1) else (line, column + 1)) (1, 1)

def Failure.message (f : Failure) (text : List Char) : String :=
  let (line, column) := place (text.take f.offset)
  f.cause.text ++ " on line " ++ toString line ++ " column " ++ toString column

end Jsonc

end Relint
