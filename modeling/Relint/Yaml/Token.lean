import Relint.Yaml.Plain
import Relint.Yaml.Scalar
import Relint.Yaml.Tag

/-!
The tokens of YAML text. Where blocks begin and end is a matter of indentation, so
tokens for it are put in; and that a scalar is a key comes to light only at the
colon behind it, so the place where it started is remembered.
-/

namespace Relint

namespace Yaml

/-- A token. Of a scalar it is kept whether it was written without quotes. -/
inductive Token where
  | directive (name : String)
  | documentStart
  | documentEnd
  | sequenceStart
  | mappingStart
  | blockEnd
  | flowSequenceStart
  | flowSequenceEnd
  | flowMappingStart
  | flowMappingEnd
  | entry
  | flowEntry
  | key
  | value
  | alias (name : String)
  | anchor (name : String)
  | tag (t : Tag)
  | scalar (plain : Bool) (text : String)
  deriving DecidableEq, Repr

/-- What remains of a text, and where that is. -/
structure Cursor where
  rest : List Char
  line : Nat
  column : Nat
  offset : Nat

def Cursor.pass (c : Cursor) (ch : Char) : Cursor :=
  if isBreak ch then ⟨c.rest.tail, c.line + 1, 0, c.offset + 1⟩
  else ⟨c.rest.tail, c.line, c.column + 1, c.offset + 1⟩

def Cursor.moveTo (c : Cursor) (rest : List Char) : Cursor :=
  (c.rest.take (c.rest.length - rest.length)).foldl Cursor.pass c

/-- A place where a key may have started: the number of tokens before it, and whether
nothing but a key can stand there. -/
structure KeyStart where
  index : Nat
  line : Nat
  column : Nat
  offset : Nat
  required : Bool

/-- How far a text has been scanned. There is one place for a key on each level of
flow collections, innermost first; indentations are those of the open blocks. -/
structure Scanner where
  tokens : Array Token
  handles : Handles
  cursor : Cursor
  keyStart : Option KeyStart
  outer : List (Option KeyStart)
  indents : List Nat
  keyAllowed : Bool

namespace Scanner

def inFlow (s : Scanner) : Bool :=
  !s.outer.isEmpty

def contentColumn (s : Scanner) : Nat :=
  (s.indents.head?.map (· + 1)).getD 0

def push (s : Scanner) (t : Token) : Scanner :=
  { s with tokens := s.tokens.push t }

def moveTo (s : Scanner) (rest : List Char) : Scanner :=
  { s with cursor := s.cursor.moveTo rest }

/-- Allows a key at the next token, or not. -/
def allowKey (s : Scanner) (allowed : Bool) : Scanner :=
  { s with keyAllowed := allowed }

/-- Forgets the place where a key may have started, unless one must. -/
def dropKey (s : Scanner) : Option Scanner :=
  match s.keyStart with
  | some k => if k.required then none else some { s with keyStart := none }
  | none => some s

def saveKey (s : Scanner) : Option Scanner :=
  if s.keyAllowed then do
    let s ← s.dropKey
    let c := s.cursor
    let required := !s.inFlow && s.indents.head? == some c.column
    return { s with keyStart := some ⟨s.tokens.size, c.line, c.column, c.offset, required⟩ }
  else some s

/-- Forgets a place that is too far behind for a key: on an earlier line, or more than
1024 characters away. -/
def freshKey (c : Cursor) : Option KeyStart → Option (Option KeyStart)
  | none => some none
  | some k =>
      if k.line < c.line ∨ k.offset + 1024 < c.offset then
        if k.required then none else some none
      else some (some k)

def dropStaleKeys (s : Scanner) : Option Scanner := do
  let keyStart ← freshKey s.cursor s.keyStart
  let outer ← s.outer.mapM (freshKey s.cursor)
  return { s with keyStart, outer }

/-- Opens a block at a column unless one is open there. The token for it goes before
the token of the given index. -/
def openBlock (s : Scanner) (column index : Nat) (t : Token) : Scanner :=
  let deeper :=
    match s.indents with
    | [] => true
    | indent :: _ => decide (indent < column)
  if s.inFlow || !deeper then s
  else { s with indents := column :: s.indents, tokens := s.tokens.insertIdxIfInBounds index t }

/-- Closes the blocks that are deeper than a column; all of them when there is none. -/
def closeBlocks (column : Option Nat) (tokens : Array Token) :
    List Nat → Array Token × List Nat
  | [] => (tokens, [])
  | indent :: rest =>
      if (column.map fun c => decide (c < indent)).getD true then
        closeBlocks column (tokens.push .blockEnd) rest
      else (tokens, indent :: rest)

/-- Closes the blocks that are deeper than a column, outside of flow collections. -/
def unroll (s : Scanner) (column : Option Nat) : Scanner :=
  if s.inFlow then s
  else
    let (tokens, indents) := closeBlocks column s.tokens s.indents
    { s with tokens, indents }

/-- Passes blanks, comments and line ends. A tab is a blank only where no key may
start; behind a line end outside of flow collections one may. -/
def passGap (flow : Bool) (comment keyAllowed : Bool) : List Char → Bool × List Char
  | [] => (keyAllowed, [])
  | c :: rest =>
      if isBreak c then passGap flow false (keyAllowed || !flow) rest
      else if comment || c == ' ' || ((flow || !keyAllowed) && c == '\t') then
        passGap flow comment keyAllowed rest
      else if c == '#' then passGap flow true keyAllowed rest
      else (keyAllowed, c :: rest)

def toNext (s : Scanner) : Scanner :=
  let (keyAllowed, rest) := passGap s.inFlow false s.keyAllowed s.cursor.rest
  (s.moveTo rest).allowKey keyAllowed

def documentMark (s : Scanner) (t : Token) (rest : List Char) : Option Scanner := do
  let s ← (s.unroll none).dropKey
  return ((s.push t).moveTo rest).allowKey false

def enterFlow (s : Scanner) (t : Token) (rest : List Char) : Option Scanner := do
  let s ← s.saveKey
  let s := { s with outer := s.keyStart :: s.outer, keyStart := none }
  return ((s.push t).moveTo rest).allowKey true

def leaveFlow (s : Scanner) (t : Token) (rest : List Char) : Option Scanner := do
  let s ← s.dropKey
  let s :=
    match s.outer with
    | [] => s
    | k :: outer => { s with keyStart := k, outer }
  return ((s.push t).moveTo rest).allowKey false

def flowEntry (s : Scanner) (rest : List Char) : Option Scanner := do
  let s ← s.dropKey
  return ((s.push .flowEntry).moveTo rest).allowKey true

def blockEntry (s : Scanner) (rest : List Char) : Option Scanner := do
  if !s.inFlow && !s.keyAllowed then none
  else
    let s ← (s.openBlock s.cursor.column s.tokens.size .sequenceStart).dropKey
    return ((s.push .entry).moveTo rest).allowKey true

def explicitKey (s : Scanner) (rest : List Char) : Option Scanner := do
  if !s.inFlow && !s.keyAllowed then none
  else
    let s ← (s.openBlock s.cursor.column s.tokens.size .mappingStart).dropKey
    return ((s.push .key).moveTo rest).allowKey (!s.inFlow)

/-- Takes in the colon before a value. What started at the remembered place turns out
to be a key. -/
def value (s : Scanner) (rest : List Char) : Option Scanner :=
  match s.keyStart with
  | some k =>
      let s := { s with tokens := s.tokens.insertIdxIfInBounds k.index .key, keyStart := none }
      let s := s.openBlock k.column k.index .mappingStart
      some (((s.push .value).moveTo rest).allowKey false)
  | none =>
      if !s.inFlow && !s.keyAllowed then none
      else
        let s := s.openBlock s.cursor.column s.tokens.size .mappingStart
        some (((s.push .value).moveTo rest).allowKey (!s.inFlow))

def named (s : Scanner) (token : String → Token) (text : List Char) : Option Scanner := do
  let name := text.takeWhile inName
  let rest := text.dropWhile inName
  let ended := atGap rest || (rest.head?.map ("?:,]\x7d%@\x60".toList.contains ·)).getD true
  if name.isEmpty || !ended then none
  else
    let s ← s.saveKey
    return ((s.push (token (String.ofList name))).moveTo rest).allowKey false

def tag (s : Scanner) (text : List Char) : Option Scanner := do
  let (t, rest) ← readTag s.handles text
  if atGap rest || (s.inFlow && rest.head? == some ',') then
    let s ← s.saveKey
    return ((s.push (.tag t)).moveTo rest).allowKey false
  else none

/-- Reads one of the two numbers of a version. -/
def versionNumber? (digits : List Char) : Option Nat :=
  if digits.length ≤ 9 then natIn? 10 digits else none

/-- Passes the version of the language behind the name of its directive. -/
def readVersion (text : List Char) : Option (List Char) :=
  let text := text.dropWhile isSpace
  match text.dropWhile Char.isDigit with
  | '.' :: minor =>
      match versionNumber? (text.takeWhile Char.isDigit),
        versionNumber? (minor.takeWhile Char.isDigit) with
      | some 1, some 1 | some 1, some 2 => some (minor.dropWhile Char.isDigit)
      | _, _ => none
  | _ => none

/-- Reads a directive from its name on, and what handles stand for behind it. -/
def readDirective (handles : Handles) (text : List Char) :
    Option (String × Handles × List Char) := do
  let name := String.ofList (text.takeWhile inName)
  let text := text.dropWhile inName
  if !atGap text then none
  else if name = "YAML" then return (name, handles, ← readVersion text)
  else if name = "TAG" then
    let (handle, meaning, rest) ← readDefinition text
    return (name, ← handles.define? handle meaning, rest)
  else none

/-- Takes in a directive behind its mark: the version of the language, or the meaning of
a handle. Nothing but a comment may follow on its line. -/
def directive (s : Scanner) (text : List Char) : Option Scanner := do
  let s ← (s.unroll none).dropKey
  let (name, handles, rest) ← readDirective s.handles text
  if (endHeader rest).isSome then
    let s := { s with handles }
    return ((s.push (.directive name)).moveTo (rest.dropWhile (!isBreak ·))).allowKey false
  else none

def blockScalar (s : Scanner) (folded : Bool) (text : List Char) : Option Scanner := do
  let s ← s.dropKey
  let (content, rest) ← readBlock folded s.contentColumn text
  return ((s.push (.scalar false (String.ofList content))).moveTo rest).allowKey true

def quotedScalar (s : Scanner) (quote : Char) (text : List Char) : Option Scanner := do
  let s ← s.saveKey
  let (content, rest) ← readQuoted quote [] text
  return ((s.push (.scalar false (String.ofList content))).moveTo rest).allowKey false

def plainScalar (s : Scanner) : Option Scanner := do
  let s ← s.saveKey
  let scalar ← readPlain s.inFlow s.contentColumn s.cursor.rest
  return ((s.push (.scalar true (String.ofList scalar.text))).moveTo scalar.rest).allowKey
    scalar.passedBreak

/-- Whether a plain scalar may start with a character that others follow. -/
def startsPlain (flow : Bool) (c : Char) (rest : List Char) : Bool :=
  if c == '-' then !((rest.head?.map isSpace).getD false)
  else if c == '?' || c == ':' then !flow && !atGap rest
  else !isGap c && !"-?:,[]\x7b\x7d#&*!|>'\"%@\x60".toList.contains c

/-- Takes in the token at the current place, which is not the end of the text. -/
def take (s : Scanner) (c : Char) (rest : List Char) : Option Scanner :=
  let flow := s.inFlow
  let atStart := s.cursor.column == 0
  let text := c :: rest
  if atStart && c == '%' then s.directive rest
  else if atStart && c == '-' && atDocumentMark text then
    s.documentMark .documentStart (text.drop 3)
  else if atStart && c == '.' && atDocumentMark text then
    s.documentMark .documentEnd (text.drop 3)
  else if c == '[' then s.enterFlow .flowSequenceStart rest
  else if c == '\x7b' then s.enterFlow .flowMappingStart rest
  else if c == ']' then s.leaveFlow .flowSequenceEnd rest
  else if c == '\x7d' then s.leaveFlow .flowMappingEnd rest
  else if c == ',' then s.flowEntry rest
  else if c == '-' && atGap rest then s.blockEntry rest
  else if c == '?' && (flow || atGap rest) then s.explicitKey rest
  else if c == ':' && (flow || atGap rest) then s.value rest
  else if c == '*' then s.named .alias rest
  else if c == '&' then s.named .anchor rest
  else if c == '!' then s.tag rest
  else if c == '|' && !flow then s.blockScalar false rest
  else if c == '>' && !flow then s.blockScalar true rest
  else if c == '\'' || c == '"' then s.quotedScalar c rest
  else if startsPlain flow c rest then s.plainScalar
  else none

def run (s : Scanner) : Option (List Token) :=
  match s.toNext.dropStaleKeys with
  | none => none
  | some next =>
      match next.cursor.rest with
      | [] => (next.unroll none).dropKey.map (·.tokens.toList)
      | c :: rest =>
          match (next.unroll (some next.cursor.column)).take c rest with
          | none => none
          | some after =>
              if after.cursor.rest.length < s.cursor.rest.length then after.run else none
  termination_by s.cursor.rest.length

end Scanner

def isAllowed (c : Char) : Bool :=
  let n := c.toNat
  c == '\t' || c == '\n' || c == '\r' || c == '\u0085' || (0x20 ≤ n && n ≤ 0x7E) ||
    (0xA0 ≤ n && n != 0xFFFE && n != 0xFFFF)

/-- The tokens of a text. A byte order mark at its start is passed over, but it takes
up a column. -/
def scan (text : String) : Option (List Token) :=
  let chars := text.toList
  if chars.all isAllowed then
    let cursor : Cursor :=
      if chars.head? == some '\uFEFF' then ⟨unifyBreaks chars.tail, 0, 1, 1⟩
      else ⟨unifyBreaks chars, 0, 0, 0⟩
    Scanner.run ⟨#[], [], cursor, none, [], [], true⟩
  else none

end Yaml

end Relint
