import Relint.Decimal.Layout
import Relint.Yaml.Break
import Relint.Yaml.Plain

/-!
YAML text of a value in block style. A sequence inside a mapping stands at the
depth of the mapping, everything else two columns deeper than what it is in. A
string is written without quotes wherever it then reads back as itself.
-/

namespace Relint

namespace Yaml

def isPrintable (c : Char) : Bool :=
  let n := c.toNat
  c == '\n' || (0x20 ≤ n && n ≤ 0x7E) ||
    (0xA0 ≤ n && n != 0xFEFF && n != 0xFFFE && n != 0xFFFF)

/-- Whether some character that passes `first` is followed by one that passes
`second`. -/
def hasPair (first second : Char → Bool) : List Char → Bool
  | a :: b :: rest => (first a && second b) || hasPair first second (b :: rest)
  | _ => false

def startsWithIndicator (text : List Char) : Bool :=
  match text with
  | [] => false
  | c :: rest =>
      "---".toList.isPrefixOf text || "...".toList.isPrefixOf text ||
        "#,[]{}&*!|>'\"%@`".toList.contains c ||
        ("?:-".toList.contains c && (rest.head?.map isGap).getD true)

/-- Whether a text has marks inside that have a meaning of their own. -/
def hasInnerIndicator (text : List Char) : Bool :=
  hasPair (· == ':') isGap text || text.getLast? == some ':' || hasPair isGap (· == '#') text

def hasSpaceBeforeBreak (text : List Char) : Bool :=
  hasPair (· == ' ') isBreak text

def plainAllowed (text : List Char) : Bool :=
  text.all isPrintable && !text.any isBreak && text.head? != some ' ' &&
    text.getLast? != some ' ' && !startsWithIndicator text && !hasInnerIndicator text

def singleAllowed (text : List Char) : Bool :=
  text.all isPrintable && !hasPair isBreak (· == ' ') text && !hasSpaceBeforeBreak text

def literalAllowed (text : List Char) : Bool :=
  text.all isPrintable && text.getLast? != some ' ' && !hasSpaceBeforeBreak text

def spaces (n : Nat) : List Char :=
  List.replicate n ' '

/-- Lays a text out over its lines: what follows the end of a line is indented. The
flag says that a line has just ended. -/
def layLines (indent : Nat) (each : Char → List Char) : Bool → List Char → List Char
  | _, [] => []
  | atStart, c :: rest =>
      if isBreak c then c :: layLines indent each true rest
      else (if atStart then spaces indent else []) ++ each c ++ layLines indent each false rest

/-- A text between single quotes, in which a quote is doubled. -/
def single (indent : Nat) (text : List Char) : List Char :=
  let body := layLines indent (fun c => if c = '\'' then ['\'', '\''] else [c]) false text
  let last := if (text.getLast?.map isBreak).getD false then spaces indent else []
  '\'' :: body ++ last ++ ['\'']

/-- The hexadecimal digits of a number, upper case and at least `width` many. -/
def upperHex (width n : Nat) : List Char :=
  let digits := (Nat.toDigits 16 n).map Char.toUpper
  List.replicate (width - digits.length) '0' ++ digits

def letterEscapes : List (Char × Char) :=
  [('\x00', '0'), ('\x07', 'a'), ('\x08', 'b'), ('\t', 't'), ('\n', 'n'), ('\x0b', 'v'),
    ('\x0c', 'f'), ('\r', 'r'), ('\x1b', 'e'), ('"', '"'), ('\\', '\\'), ('\u0085', 'N'),
    ('\u2028', 'L'), ('\u2029', 'P')]

def escapeChar (c : Char) : List Char :=
  match letterEscapes.lookup c with
  | some letter => ['\\', letter]
  | none =>
      if isPrintable c then [c]
      else if c.toNat ≤ 0xFF then ['\\', 'x'] ++ upperHex 2 c.toNat
      else if c.toNat ≤ 0xFFFF then ['\\', 'u'] ++ upperHex 4 c.toNat
      else ['\\', 'U'] ++ upperHex 8 c.toNat

def double (text : List Char) : List Char :=
  '"' :: text.flatMap escapeChar ++ ['"']

/-- What the header of a literal block says about the line ends behind the text. -/
def chomping (text : List Char) : List Char :=
  match text.reverse with
  | [] => ['-']
  | last :: before =>
      if !isBreak last then ['-']
      else if (before.head?.map isBreak).getD true then ['+']
      else []

/-- A literal block. The header gives the indentation where the text itself starts
with a blank. -/
def literal (indent : Nat) (text : List Char) : List Char :=
  let hint := if (text.head?.map fun c => c == ' ' || isBreak c).getD false then ['2'] else []
  '|' :: hint ++ chomping text ++ '\n' :: layLines indent (fun c => [c]) true text

/-- A string as a scalar whose further lines, if it has any, are indented. -/
def stringText (indent : Nat) (s : String) : List Char :=
  let text := s.toList
  if text.contains '\n' then
    if literalAllowed text then literal indent text else double text
  else
    let quoted := if singleAllowed text then single indent text else double text
    if Plain.ofText s != .string || hasIdleZero text then quoted
    else if plainAllowed text then text
    else quoted

def numberText : Number → String
  | .integer n => toString n
  | .floating x => NumberLayout.yaml.text x

/-- The text of a value without parts, or of an empty collection. -/
def scalarText (indent : Nat) : Value → List Char
  | .null => "null".toList
  | .bool b => (if b then "true" else "false").toList
  | .number n => (numberText n).toList
  | .string s => stringText indent s
  | .array _ => ['[', ']']
  | .object _ => ['\x7b', '\x7d']

def endLine (text : List Char) : List Char :=
  if (text.getLast?.map isBreak).getD false then text else text ++ ['\n']

/-- Whether a key may stand before its colon on one line: it has no line ends and at
most 128 bytes. -/
def isSimpleKey (key : String) : Bool :=
  !key.toList.any isBreak && key.utf8ByteSize ≤ 128

/-- A key with the mark behind it. A key that is not simple has a mark before it too
and a line of its own. -/
def keyText (indent : Nat) (key : String) : List Char :=
  if isSimpleKey key then stringText (indent + 2) key ++ [':']
  else '?' :: ' ' :: endLine (stringText (indent + 2) key) ++ spaces indent ++ [':']

mutual

/-- The text of a value from column `indent` on; it ends with its last line. -/
def nodeText (indent : Nat) : Value → List Char
  | .array (v :: rest) => itemsText indent (v :: rest)
  | .object (field :: rest) => fieldsText indent (field :: rest)
  | .array [] => endLine (scalarText indent (.array []))
  | .object [] => endLine (scalarText indent (.object []))
  | .null => endLine (scalarText indent .null)
  | .bool b => endLine (scalarText indent (.bool b))
  | .number n => endLine (scalarText indent (.number n))
  | .string s => endLine (stringText indent s)

/-- The items of a sequence, of which the first starts at the current place. -/
def itemsText (indent : Nat) : List Value → List Char
  | [] => []
  | [v] => '-' :: ' ' :: nodeText (indent + 2) v
  | v :: rest =>
      '-' :: ' ' :: nodeText (indent + 2) v ++ spaces indent ++ itemsText indent rest

/-- What follows a key: a collection starts on a line of its own, unless the key is
not simple. -/
def fieldText (indent : Nat) (simple : Bool) : Value → List Char
  | .array (v :: rest) =>
      if simple then '\n' :: spaces indent ++ itemsText indent (v :: rest)
      else ' ' :: itemsText (indent + 2) (v :: rest)
  | .object (field :: rest) =>
      if simple then '\n' :: spaces (indent + 2) ++ fieldsText (indent + 2) (field :: rest)
      else ' ' :: fieldsText (indent + 2) (field :: rest)
  | .array [] => ' ' :: endLine (scalarText (indent + 2) (.array []))
  | .object [] => ' ' :: endLine (scalarText (indent + 2) (.object []))
  | .null => ' ' :: endLine (scalarText (indent + 2) .null)
  | .bool b => ' ' :: endLine (scalarText (indent + 2) (.bool b))
  | .number n => ' ' :: endLine (scalarText (indent + 2) (.number n))
  | .string s => ' ' :: endLine (stringText (indent + 2) s)

/-- The fields of a mapping, of which the first starts at the current place. -/
def fieldsText (indent : Nat) : Fields → List Char
  | [] => []
  | [(key, v)] => keyText indent key ++ fieldText indent (isSimpleKey key) v
  | (key, v) :: rest =>
      keyText indent key ++ fieldText indent (isSimpleKey key) v ++ spaces indent ++
        fieldsText indent rest

end

def print (v : Value) : String :=
  match v with
  | .string s => String.ofList (endLine (stringText 2 s))
  | v => String.ofList (nodeText 0 v)

end Yaml

end Relint
