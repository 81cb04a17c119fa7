import Relint.Decimal.Literal
import Relint.Jsonc.Token

/-!
The value of a JSON text with comments. Commas between items and fields may be
missing and one may follow the last, but none may stand where an item or a field
is due. Tokens are taken in one by one; what is still open is a stack.
-/

namespace Relint

namespace Jsonc

/-- A container that is not closed yet, with the offset of its bracket. An object
also has the name of the field whose value is due, if one is. -/
inductive Frame where
  | array (start : Nat) (items : List Value)
  | object (start : Nat) (fields : Fields) (key : Option String)

/-- What the next token must be. -/
inductive Expectation where
  /-- The value of the whole text. -/
  | root
  /-- An item, a field name, or the end of the innermost container. -/
  | entry
  /-- As `entry`, but a comma may come first. -/
  | separator
  /-- The colon behind a field name. -/
  | colon
  /-- The value of a field. -/
  | fieldValue
  /-- Nothing more: the value is complete. -/
  | done (v : Value)

/-- How far a text has been read. The innermost open container comes first. -/
structure State where
  stack : List Frame
  expectation : Expectation

/-- The value of a number as it is spelled. Hexadecimal digits are an integer
where they fit in 64 bits with a sign; a number that is too large, in either
notation, stays a string. -/
def numberValue (text : String) : Value :=
  let chars := text.toList
  let (negative, unsigned) :=
    match chars with
    | '-' :: rest => (true, rest)
    | '+' :: rest => (false, rest)
    | _ => (false, chars)
  match unsigned with
  | '0' :: x :: digits =>
      if x = 'x' ∨ x = 'X' then
        let n := hexNat digits
        if n < powerOfTwo 63 then .number (.integer (if negative then -n else n)) else .string text
      else decimal negative unsigned
  | _ => decimal negative unsigned
where
  decimal (negative : Bool) (unsigned : List Char) : Value :=
    match DecimalLiteral.scan? (if negative then '-' :: unsigned else unsigned) with
    | some (literal, []) =>
        match literal.number? with
        | some n => .number n
        | none => .string text
    | _ => .string text

def State.complete (stack : List Frame) (v : Value) : State :=
  match stack with
  | [] => ⟨[], .done v⟩
  | .array start items :: outer => ⟨.array start (items ++ [v]) :: outer, .separator⟩
  | .object start fields key :: outer =>
      ⟨.object start (Assoc.insert (key.getD "") v fields) none :: outer, .separator⟩

def State.startValue (stack : List Frame) (offset : Nat) : Token → Except Failure State
  | .openBrace => .ok ⟨.object offset [] none :: stack, .entry⟩
  | .openBracket => .ok ⟨.array offset [] :: stack, .entry⟩
  | .string s => .ok (complete stack (.string s))
  | .number text => .ok (complete stack (numberValue text))
  | .bool b => .ok (complete stack (.bool b))
  | .null => .ok (complete stack .null)
  | .closeBrace => .error ⟨offset, .unexpectedCloseBrace⟩
  | .closeBracket => .error ⟨offset, .unexpectedCloseBracket⟩
  | .comma => .error ⟨offset, .unexpectedComma⟩
  | .colon => .error ⟨offset, .unexpectedColon⟩
  | .word _ => .error ⟨offset, .unexpectedWord⟩

/-- Takes in a token where an item, a field name or the end of the innermost
container is due. -/
def State.startEntry (stack : List Frame) (offset : Nat) (t : Token) : Except Failure State :=
  match stack with
  | [] => .error ⟨offset, .secondValue⟩
  | .array _ items :: outer =>
      if t = .closeBracket then .ok (complete outer (.array items))
      else startValue stack offset t
  | .object start fields _ :: outer =>
      match t with
      | .closeBrace => .ok (complete outer (.object fields))
      | .string key | .word key | .number key =>
          .ok ⟨.object start fields (some key) :: outer, .colon⟩
      | _ => .error ⟨offset, .unexpectedTokenInObject⟩

def State.step (s : State) (offset : Nat) (t : Token) : Except Failure State :=
  match s.expectation with
  | .done _ => .error ⟨offset, .secondValue⟩
  | .root => startValue s.stack offset t
  | .colon => if t = .colon then .ok ⟨s.stack, .fieldValue⟩ else .error ⟨offset, .expectedColon⟩
  | .fieldValue => startValue s.stack offset t
  | .separator => if t = .comma then .ok ⟨s.stack, .entry⟩ else startEntry s.stack offset t
  | .entry => startEntry s.stack offset t

/-- The outcome when the text ends at an offset: its value, or nothing when it has
none. -/
def State.finish (s : State) (offset : Nat) : Except Failure (Option Value) :=
  match s.expectation, s.stack with
  | .done v, _ => .ok (some v)
  | .root, _ => .ok none
  | .colon, _ => .error ⟨offset, .expectedColon⟩
  | .fieldValue, _ => .error ⟨offset, .expectedObjectValue⟩
  | _, .array start _ :: _ => .error ⟨start, .unterminatedArray⟩
  | _, .object start _ _ :: _ => .error ⟨start, .unterminatedObject⟩
  | _, [] => .ok none

/-- Takes in all tokens. The first fault in the order of the text is reported. -/
def State.run (s : State) : Stream → Except Failure (Option Value)
  | .finish offset => s.finish offset
  | .failure f => .error f
  | .token offset t rest =>
      match s.step offset t with
      | .ok s => s.run rest
      | .error f => .error f

/-- The value of a text, or nothing when it has blanks and comments only; the
report of the fault when it has one. -/
def read (text : String) : Except String (Option Value) :=
  match State.run ⟨[], .root⟩ (scan text.toList) with
  | .ok v => .ok v
  | .error f => .error (f.message text.toList)

end Jsonc

end Relint
