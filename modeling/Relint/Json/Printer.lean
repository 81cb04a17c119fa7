import Relint.Decimal.Layout
import Relint.Value.Basic

/-!
JSON text of a value, on one line or indented. Only the quote, the backslash and
the control characters below U+0020 are escaped; every other character stands
for itself.
-/

namespace Relint

namespace Json

def hexDigit (n : Nat) : Char :=
  Nat.digitChar n

def escapeChar (c : Char) : List Char :=
  if c = '"' then ['\\', '"']
  else if c = '\\' then ['\\', '\\']
  else if c = '\n' then ['\\', 'n']
  else if c = '\r' then ['\\', 'r']
  else if c = '\t' then ['\\', 't']
  else if c = '\x08' then ['\\', 'b']
  else if c = '\x0c' then ['\\', 'f']
  else if c.toNat < 0x20 then
    ['\\', 'u', '0', '0', hexDigit (c.toNat / 16), hexDigit (c.toNat % 16)]
  else [c]

def quote (s : String) : String :=
  String.ofList ('"' :: s.toList.flatMap escapeChar ++ ['"'])

def numberText : Number → String
  | .integer n => toString n
  | .floating x => NumberLayout.json.text x

mutual

def compact : Value → String
  | .null => "null"
  | .bool b => if b then "true" else "false"
  | .number n => numberText n
  | .string s => quote s
  | .array items => "[" ++ compactItems items ++ "]"
  | .object fields => "\x7b" ++ compactFields fields ++ "\x7d"

def compactItems : List Value → String
  | [] => ""
  | [v] => compact v
  | v :: rest => compact v ++ "," ++ compactItems rest

def compactFields : Fields → String
  | [] => ""
  | [(key, v)] => quote key ++ ":" ++ compact v
  | (key, v) :: rest => quote key ++ ":" ++ compact v ++ "," ++ compactFields rest

end

def lineBreak (indent : String) (depth : Nat) : String :=
  "\n" ++ String.join (List.replicate depth indent)

mutual

/-- The text of a value over several lines, where `indent` is added for each
level and an empty array or object stays closed. -/
def pretty (indent : String) (depth : Nat) : Value → String
  | .array (v :: rest) =>
      "[" ++ prettyItems indent (depth + 1) (v :: rest) ++ lineBreak indent depth ++ "]"
  | .object (field :: rest) =>
      "\x7b" ++ prettyFields indent (depth + 1) (field :: rest) ++ lineBreak indent depth ++ "\x7d"
  | .array [] => "[]"
  | .object [] => "\x7b\x7d"
  | .null => "null"
  | .bool b => if b then "true" else "false"
  | .number n => numberText n
  | .string s => quote s

/-- The items of an array, each on a line of its own. -/
def prettyItems (indent : String) (depth : Nat) : List Value → String
  | [] => ""
  | [v] => lineBreak indent depth ++ pretty indent depth v
  | v :: rest =>
      lineBreak indent depth ++ pretty indent depth v ++ "," ++ prettyItems indent depth rest

/-- The fields of an object, each on a line of its own. -/
def prettyFields (indent : String) (depth : Nat) : Fields → String
  | [] => ""
  | [(key, v)] => lineBreak indent depth ++ quote key ++ ": " ++ pretty indent depth v
  | (key, v) :: rest =>
      lineBreak indent depth ++ quote key ++ ": " ++ pretty indent depth v ++ "," ++
        prettyFields indent depth rest

end

end Json

end Relint
