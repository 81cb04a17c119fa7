import Relint.Jsonc.Failure
import Relint.Text.Alphanumeric
import Relint.Text.Blank

/-!
The tokens of JSON text with comments. Comments and blanks separate tokens and
leave none themselves. A text has the tokens up to its end or up to the first
place at which no token can be read.
-/

namespace Relint

namespace Jsonc

/-- A token. Numbers and bare words keep their spelling. -/
inductive Token where
  | openBrace
  | closeBrace
  | openBracket
  | closeBracket
  | comma
  | colon
  | string (s : String)
  | number (text : String)
  | word (text : String)
  | bool (b : Bool)
  | null
  deriving DecidableEq, Repr

/-- The tokens of a text with their offsets, and what stands behind the last. -/
inductive Stream where
  | token (offset : Nat) (t : Token) (rest : Stream)
  | finish (offset : Nat)
  | failure (f : Failure)

def hexValue? (c : Char) : Option Nat :=
  if '0' ≤ c ∧ c ≤ '9' then some (c.toNat - '0'.toNat)
  else if 'a' ≤ c ∧ c ≤ 'f' then some (c.toNat - 'a'.toNat + 10)
  else if 'A' ≤ c ∧ c ≤ 'F' then some (c.toNat - 'A'.toNat + 10)
  else none

def isHexDigit (c : Char) : Bool :=
  (hexValue? c).isSome

def hexNat (digits : List Char) : Nat :=
  digits.foldl (fun n c => 16 * n + (hexValue? c).getD 0) 0

def fourHexDigits? : List Char → Option (List Char × List Char)
  | a :: b :: c :: d :: rest =>
      if [a, b, c, d].all isHexDigit then some ([a, b, c, d], rest) else none
  | _ => none

/-- Reads a character given by code units, behind its `\u`. A high surrogate must
be followed by the escape of a low one. -/
def scanCodeUnits (text : List Char) : Except Cause (Char × List Char) :=
  match fourHexDigits? text with
  | none => .error .expectedFourHexDigits
  | some (digits, rest) =>
      let unit := hexNat digits
      let invalid (reason : String) : Except Cause (Char × List Char) :=
        .error (.invalidCodeUnit (String.ofList digits) reason)
      if 0xD800 ≤ unit ∧ unit < 0xDC00 then
        match rest with
        | '\\' :: 'u' :: rest =>
            match fourHexDigits? rest with
            | none => .error .expectedFourHexDigits
            | some (low, rest) =>
                let unit' := hexNat low
                if 0xDC00 ≤ unit' ∧ unit' < 0xE000 then
                  .ok (Char.ofNat (0x10000 + (unit - 0xD800) * 0x400 + (unit' - 0xDC00)), rest)
                else invalid "high surrogate not followed by low surrogate"
        | _ => invalid "unpaired high surrogate"
      else if 0xDC00 ≤ unit ∧ unit < 0xE000 then invalid "unpaired low surrogate"
      else .ok (Char.ofNat unit, rest)

/-- Reads one escape behind its backslash. The quote that does not delimit the
string may not be escaped. -/
def scanEscape (delimiter : Char) : List Char → Except Cause (Char × List Char)
  | [] => .error .unterminatedString
  | c :: rest =>
      if c = '"' then
        if delimiter = '"' then .ok (c, rest) else .error .invalidEscapeInSingleQuotes
      else if c = '\'' then
        if delimiter = '\'' then .ok (c, rest) else .error .invalidEscapeInDoubleQuotes
      else if c = '\\' ∨ c = '/' then .ok (c, rest)
      else if c = 'b' then .ok ('\x08', rest)
      else if c = 'f' then .ok ('\x0c', rest)
      else if c = 'n' then .ok ('\n', rest)
      else if c = 'r' then .ok ('\r', rest)
      else if c = 't' then .ok ('\t', rest)
      else if c = 'u' then scanCodeUnits rest
      else .error .invalidEscape

/-- Reads a string behind its opening quote. The characters read so far are kept
in reverse, and the number of characters of the text that remain says where an
escape is at fault. -/
def scanString (delimiter : Char) (read : List Char) (text : List Char) :
    Except (Cause × Nat) (List Char × List Char) :=
  match text with
  | [] => .error (.unterminatedString, 0)
  | c :: rest =>
      if c = delimiter then .ok (read.reverse, rest)
      else if c = '\\' then
        match scanEscape delimiter rest with
        | .error cause => .error (cause, text.length)
        | .ok (d, after) =>
            if after.length ≤ rest.length then scanString delimiter (d :: read) after
            else .error (.unterminatedString, 0)
      else scanString delimiter (c :: read) rest
  termination_by text.length

def scanSomeDigits (text : List Char) : Except (Cause × Nat) (List Char × List Char) :=
  match text.takeWhile Char.isDigit with
  | [] => .error (.expectedDigit, text.length)
  | digits => .ok (digits, text.dropWhile Char.isDigit)

/-- Reads the fraction of a number, if there is one. -/
def scanFraction : List Char → Except (Cause × Nat) (List Char × List Char)
  | '.' :: rest => (scanSomeDigits rest).map fun (digits, rest) => ('.' :: digits, rest)
  | text => .ok ([], text)

/-- Reads the exponent of a number, if there is one. -/
def scanExponent : List Char → Except (Cause × Nat) (List Char × List Char)
  | [] => .ok ([], [])
  | c :: rest =>
      if c = 'e' ∨ c = 'E' then
        match rest with
        | [] => .error (.expectedExponent, 0)
        | d :: after =>
            if d = '+' ∨ d = '-' then
              (scanSomeDigits after).map fun (digits, rest) => (c :: d :: digits, rest)
            else if d.isDigit then
              (scanSomeDigits rest).map fun (digits, rest) => (c :: digits, rest)
            else .error (.expectedExponent, rest.length)
      else .ok ([], c :: rest)

def scanNumberEnd (start : List Char) (text : List Char) :
    Except (Cause × Nat) (List Char × List Char) := do
  let (fraction, text) ← scanFraction text
  let (exponent, text) ← scanExponent text
  return (start ++ fraction ++ exponent, text)

/-- Reads a number behind its sign: hexadecimal digits behind `0x`, or a decimal
whose whole part is zero or does not start with zero. -/
def scanUnsigned (text : List Char) : Except (Cause × Nat) (List Char × List Char) :=
  match text with
  | '0' :: x :: rest =>
      if x = 'x' ∨ x = 'X' then
        match rest.takeWhile isHexDigit with
        | [] => .error (.expectedDigit, rest.length)
        | digits => .ok ('0' :: x :: digits, rest.dropWhile isHexDigit)
      else scanNumberEnd ['0'] (x :: rest)
  | ['0'] => .ok (['0'], [])
  | _ =>
      match text.takeWhile Char.isDigit with
      | [] => .error (.expectedDigitAfterSign, text.length)
      | digits => scanNumberEnd digits (text.dropWhile Char.isDigit)

/-- Reads a number with its sign, if it has one. -/
def scanNumber (text : List Char) : Except (Cause × Nat) (List Char × List Char) :=
  match text with
  | c :: rest =>
      if c = '+' ∨ c = '-' then
        (scanUnsigned rest).map fun (digits, rest) => (c :: digits, rest)
      else scanUnsigned text
  | [] => scanUnsigned []

def scanKeyword? (word text : List Char) : Option (List Char) :=
  if word.isPrefixOf text then
    match text.drop word.length with
    | [] => some []
    | c :: rest => if Text.isAlphanumeric c then none else some (c :: rest)
  else none

def endsWord (c : Char) : Bool :=
  Text.isBlank c || c == ':'

def inWord (c : Char) : Bool :=
  Text.isAlphanumeric c || c == '-' || c == '_'

def scanWord (text : List Char) : Except (Cause × Nat) (Token × List Char) :=
  if let some rest := scanKeyword? "true".toList text then .ok (.bool true, rest)
  else if let some rest := scanKeyword? "false".toList text then .ok (.bool false, rest)
  else if let some rest := scanKeyword? "null".toList text then .ok (.null, rest)
  else
    let word := text.takeWhile (!endsWord ·)
    if word.isEmpty || !word.all inWord then .error (.unexpectedToken, text.length)
    else .ok (.word (String.ofList word), text.dropWhile (!endsWord ·))

/-- Skips a block comment behind its opening; nothing when it does not end. -/
def skipBlockComment? : List Char → Option (List Char)
  | [] => none
  | '*' :: '/' :: rest => some rest
  | _ :: rest => skipBlockComment? rest

/-- Skips a line comment. Its end is a line feed, and a carriage return before
that is a blank anyway. -/
def skipLineComment (text : List Char) : List Char :=
  text.dropWhile (· != '\n')

/-- What stands at the start of a text: a token, blank space or a comment. -/
inductive Lexeme where
  | token (t : Token)
  | gap

/-- Puts a lexeme in front of the tokens that follow it. A gap leaves no trace. -/
def Lexeme.before (place : Nat) (later : Stream) : Lexeme → Stream
  | .gap => later
  | .token t => .token place t later

/-- Reads one lexeme of a text that is not empty. A failure is placed by the
number of characters that remain behind its place. -/
def scanLexeme (c : Char) (rest : List Char) : Except (Cause × Nat) (Lexeme × List Char) :=
  let text := c :: rest
  let one (t : Token) : Except (Cause × Nat) (Lexeme × List Char) := .ok (.token t, rest)
  if Text.isBlank c then .ok (.gap, rest)
  else if c = '\x7b' then one .openBrace
  else if c = '\x7d' then one .closeBrace
  else if c = '[' then one .openBracket
  else if c = ']' then one .closeBracket
  else if c = ',' then one .comma
  else if c = ':' then one .colon
  else if c = '"' ∨ c = '\'' then
    match scanString c [] rest with
    | .ok (s, rest) => .ok (.token (.string (String.ofList s)), rest)
    | .error (.unterminatedString, _) => .error (.unterminatedString, text.length)
    | .error e => .error e
  else if c = '/' then
    match rest with
    | '/' :: rest => .ok (.gap, skipLineComment rest)
    | '*' :: rest =>
        match skipBlockComment? rest with
        | some rest => .ok (.gap, rest)
        | none => .error (.unterminatedComment, text.length)
    | _ => .error (.unexpectedToken, text.length)
  else if c = '+' ∨ c = '-' ∨ c.isDigit then
    (scanNumber text).map fun (digits, rest) => (.token (.number (String.ofList digits)), rest)
  else (scanWord text).map fun (t, rest) => (.token t, rest)

def scanFrom (size : Nat) (text : List Char) : Stream :=
  match text with
  | [] => .finish size
  | c :: rest =>
      match scanLexeme c rest with
      | .error (cause, remaining) => .failure ⟨size - remaining, cause⟩
      | .ok (lexeme, after) =>
          if after.length ≤ rest.length then
            lexeme.before (size - text.length) (scanFrom size after)
          else .finish size
  termination_by text.length

def scan (text : List Char) : Stream :=
  scanFrom text.length text

end Jsonc

end Relint
