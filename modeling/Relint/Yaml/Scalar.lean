import Relint.Jsonc.Token
import Relint.Yaml.Break

/-!
Reading YAML scalars. Between words on one line blanks count; across lines they
fold: one line end becomes a space, and of several the first goes away. Every
reader gives the text of the scalar and what follows it, and nothing when the
scalar is malformed.
-/

namespace Relint

namespace Yaml

def foldGap (gap : List Char) : List Char :=
  match gap.filter isBreak with
  | [] => gap
  | ['\n'] => [' ']
  | '\n' :: more => more
  | breaks => breaks

def gapColumn (gap : List Char) : Nat :=
  (gap.reverse.takeWhile (!isBreak ·)).length

/-- Whether some tab stands in the indentation of a line, before a given column.
The flag says that a line end has been passed. -/
def hasIndentTab (indent : Nat) : Bool → Nat → List Char → Bool
  | _, _, [] => false
  | passed, column, c :: rest =>
      if isBreak c then hasIndentTab indent true 0 rest
      else (passed && c == '\t' && column < indent) || hasIndentTab indent passed (column + 1) rest

/-- The marks that end or refuse a plain scalar inside a flow collection. -/
def isFlowMark (c : Char) : Bool :=
  c == ',' || c == '[' || c == ']' || c == '\x7b' || c == '\x7d'

/-- Reads the characters of a plain scalar up to a gap or a mark that ends it. -/
def plainWord (inFlow : Bool) : List Char → Option (List Char × List Char)
  | [] => some ([], [])
  | c :: rest =>
      if isGap c then some ([], c :: rest)
      else if inFlow && c == ':' && rest.head?.any (fun d => d == '?' || isFlowMark d) then none
      else if (c == ':' && atGap rest) || (inFlow && isFlowMark c) then some ([], c :: rest)
      else (plainWord inFlow rest).map fun (word, rest) => (c :: word, rest)

/-- A plain scalar that has been read: its text, whether a line end was passed behind
it, and what follows. -/
structure PlainScalar where
  text : List Char
  passedBreak : Bool
  rest : List Char

/-- Reads a plain scalar from behind its first words on. Further lines must be
indented by `indent` columns outside of flow collections. -/
def plainFrom (inFlow : Bool) (indent : Nat) (read text : List Char) : Option PlainScalar :=
  let gap := text.takeWhile isGap
  let after := text.dropWhile isGap
  let broken := gap.any isBreak
  if gap.isEmpty then some ⟨read, false, text⟩
  else if hasIndentTab indent false 0 gap then none
  else if broken && !inFlow && gapColumn gap < indent then some ⟨read, true, after⟩
  else if broken && gapColumn gap == 0 && atDocumentMark after then some ⟨read, true, after⟩
  else if after.head? == some '#' then some ⟨read, broken, after⟩
  else
    match plainWord inFlow after with
    | none => none
    | some ([], _) => some ⟨read, broken, after⟩
    | some (word, rest) =>
        if rest.length < text.length then
          plainFrom inFlow indent (read ++ foldGap gap ++ word) rest
        else none
  termination_by text.length

def readPlain (inFlow : Bool) (indent : Nat) (text : List Char) : Option PlainScalar := do
  let (word, rest) ← plainWord inFlow text
  plainFrom inFlow indent word rest

def letterEscape? (c : Char) : Option Char :=
  [('0', '\x00'), ('a', '\x07'), ('b', '\x08'), ('t', '\t'), ('\t', '\t'), ('n', '\n'),
    ('v', '\x0b'), ('f', '\x0c'), ('r', '\r'), ('e', '\x1b'), (' ', ' '), ('"', '"'), ('/', '/'),
    ('\\', '\\'), ('N', '\u0085'), ('_', '\u00a0'), ('L', '\u2028'), ('P', '\u2029')].lookup c

def hexEscape? (count : Nat) (text : List Char) : Option (Char × List Char) :=
  let digits := text.take count
  let n := Jsonc.hexNat digits
  if digits.length = count ∧ digits.all Jsonc.isHexDigit ∧ n.isValidChar then
    some (Char.ofNat n, text.drop count)
  else none

def readEscape : List Char → Option (Char × List Char)
  | [] => none
  | c :: rest =>
      if c = 'x' then hexEscape? 2 rest
      else if c = 'u' then hexEscape? 4 rest
      else if c = 'U' then hexEscape? 8 rest
      else (letterEscape? c).map fun d => (d, rest)

/-- Reads a quoted scalar behind its opening quote. What has been read is kept in
reverse. -/
def readQuoted (quote : Char) (read text : List Char) : Option (List Char × List Char) :=
  match text with
  | [] => none
  | c :: rest =>
      if isGap c then
        match text.span isGap with
        | (gap, after) =>
            if gap.any isBreak && gapColumn gap == 0 && atDocumentMark after then none
            else if after.length ≤ rest.length then
              readQuoted quote ((foldGap gap).reverse ++ read) after
            else none
      else if c = quote then
        match quote, rest with
        | '\'', '\'' :: after => readQuoted quote ('\'' :: read) after
        | _, _ => some (read.reverse, rest)
      else if quote = '"' ∧ c = '\\' then
        if (rest.head?.map isBreak).getD false then
          match rest.tail.span isGap with
          | (gap, after) =>
              if gapColumn gap == 0 && atDocumentMark after then none
              else if after.length ≤ rest.length then
                readQuoted quote ((gap.filter isBreak).reverse ++ read) after
              else none
        else
          match readEscape rest with
          | none => none
          | some (d, after) =>
              if after.length ≤ rest.length then readQuoted quote (d :: read) after else none
      else readQuoted quote (c :: read) rest
  termination_by text.length

/-- What becomes of the line ends behind a block scalar. -/
inductive Chomping where
  | strip
  | clip
  | keep
  deriving DecidableEq

/-- The header of a block scalar. -/
structure BlockHeader where
  chomping : Chomping
  increment : Option Nat

/-- Reads the sign for line ends in a header, if there is one. -/
def readChomping : List Char → Option Chomping × List Char
  | '+' :: rest => (some .keep, rest)
  | '-' :: rest => (some .strip, rest)
  | text => (none, text)

/-- Reads the digit for the indentation in a header, if there is one. Zero is
refused. -/
def readIncrement : List Char → Option (Option Nat × List Char)
  | [] => some (none, [])
  | c :: rest =>
      if c = '0' then none
      else if c.isDigit then some (some (c.toNat - '0'.toNat), rest)
      else some (none, c :: rest)

/-- Reads the rest of a header line, which may have a comment only. -/
def endHeader (text : List Char) : Option (List Char) :=
  let text := text.dropWhile isSpace
  let text := if text.head? == some '#' then text.dropWhile (!isBreak ·) else text
  match text with
  | [] => some []
  | c :: rest => if isBreak c then some rest else none

/-- Reads the header of a block scalar. The two marks may come in either order. -/
def readBlockHeader (text : List Char) : Option (BlockHeader × List Char) := do
  match readChomping text with
  | (some chomping, rest) =>
      let (increment, rest) ← readIncrement rest
      return (⟨chomping, increment⟩, ← endHeader rest)
  | (none, rest) =>
      let (increment, rest) ← readIncrement rest
      let (chomping, rest) := if increment.isSome then readChomping rest else (none, rest)
      return (⟨chomping.getD .clip, increment⟩, ← endHeader rest)

/-- Where the next line with content starts: the line ends passed on the way, the
greatest indentation seen, and the column reached. -/
structure BlockGap where
  breaks : List Char
  deepest : Nat
  column : Nat
  rest : List Char

/-- Passes empty lines of a block scalar. At most `limit` spaces of each line are
indentation, and a tab among them is refused. -/
def passEmptyLines (limit : Option Nat) (breaks : List Char) (deepest : Nat)
    (text : List Char) : Option BlockGap :=
  let available := (text.takeWhile (· == ' ')).length
  let column := (limit.map (min available)).getD available
  let after := text.drop column
  let deepest := max deepest column
  let indenting := (limit.map fun n => decide (column < n)).getD true
  match after with
  | [] => some ⟨breaks, deepest, column, []⟩
  | c :: rest =>
      if indenting && c == '\t' then none
      else if isBreak c then
        if rest.length < text.length then passEmptyLines limit (breaks ++ [c]) deepest rest
        else none
      else some ⟨breaks, deepest, column, after⟩
  termination_by text.length

/-- What has been read of a block scalar: its text, the line end behind the last line,
and whether that line started with a blank. -/
structure BlockText where
  text : List Char
  lastBreak : List Char
  startedBlank : Bool

/-- What the line ends before a further line stand for. In a folded scalar one line
end between two lines that do not start with a blank is a space. -/
def joinLines (folded : Bool) (b : BlockText) (gap : BlockGap) (startsBlank : Bool) : List Char :=
  if folded && b.lastBreak == ['\n'] && !b.startedBlank && !startsBlank then
    if gap.breaks.isEmpty then [' '] else gap.breaks
  else b.lastBreak ++ gap.breaks

/-- Reads the lines of a block scalar that stand at its indentation. -/
def readBlockLines (folded : Bool) (chomping : Chomping) (indent : Nat) (b : BlockText)
    (gap : BlockGap) : Option (List Char × List Char) :=
  if gap.column = indent ∧ gap.rest ≠ [] then
    let startsBlank := (gap.rest.head?.map isSpace).getD false
    let line := gap.rest.takeWhile (!isBreak ·)
    let after := gap.rest.dropWhile (!isBreak ·)
    let text := b.text ++ joinLines folded b gap startsBlank ++ line
    match passEmptyLines (some indent) [] 0 after.tail with
    | none => none
    | some next =>
        if next.rest.length < gap.rest.length then
          readBlockLines folded chomping indent ⟨text, after.take 1, startsBlank⟩ next
        else none
  else
    some (b.text ++ (if chomping = .strip then [] else b.lastBreak) ++
      (if chomping = .keep then gap.breaks else []), gap.rest)
  termination_by gap.rest.length

/-- Reads a block scalar behind its mark. `parent` is the number of columns by which
its content must be indented at least. -/
def readBlock (folded : Bool) (parent : Nat) (text : List Char) :
    Option (List Char × List Char) := do
  let (header, rest) ← readBlockHeader text
  let fixed := header.increment.map fun n => n + (parent - 1)
  let gap ← passEmptyLines fixed [] 0 rest
  let indent := fixed.getD (max gap.deepest (max parent 1))
  readBlockLines folded header.chomping indent ⟨[], [], false⟩ gap

end Yaml

end Relint
