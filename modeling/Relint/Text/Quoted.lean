import Relint.Text.Visible

/-!
Texts written between double quotes for a reader: the quote and the backslash
are escaped, and characters that do not show are given by their code point.
-/

namespace Relint

namespace Text

def quoteChar (c : Char) : List Char :=
  if c = '"' ∨ c = '\\' then ['\\', c]
  else if c = '\x00' then ['\\', '0']
  else if c = '\t' then ['\\', 't']
  else if c = '\r' then ['\\', 'r']
  else if c = '\n' then ['\\', 'n']
  else if isVisible c then [c]
  else ['\\', 'u', '\x7b'] ++ Nat.toDigits 16 c.toNat ++ ['\x7d']

def quoted (s : String) : String :=
  String.ofList ('"' :: s.toList.flatMap quoteChar ++ ['"'])

def quotedList (items : List String) : String :=
  "[" ++ ", ".intercalate (items.map quoted) ++ "]"

def describe (thing field : String) (names : List String) : String :=
  thing ++ " \x7b " ++ field ++ ": " ++ quotedList names ++ " \x7d"

end Text

end Relint
