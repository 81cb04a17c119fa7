import Relint.Value.Basic
import Relint.Yaml.Plain
import Relint.Yaml.Token

/-!
Reading YAML text. The tokens of a document make a node, in which an alias is what it
stands for, and a node denotes a value unless its collections are nested too deeply or
too many aliases have to be followed. Any fault makes the whole text unreadable.
-/

namespace Relint

namespace Yaml

/-- A node of a document. -/
inductive Node where
  | scalar (plain : Bool) (tag : Option Tag) (text : String)
  | sequence (items : List Node)
  | mapping (entries : List (Node × Node))
  | alias (node : Node)
  deriving Inhabited

def Node.nothing : Node :=
  .scalar true none ""

/-- The nodes that anchors name, latest first. A node that is still being read is not
there yet. -/
abbrev Anchors := List (String × Option Node)

/-- A reader of nodes gives a node, the anchors known behind it, and the tokens that
follow. -/
abbrev NodeReader := Anchors → List Token → Option (Node × Anchors × List Token)

/-- What stands before a node: an anchor and a tag, in either order. -/
def readProperties : List Token → Option String × Option Tag × List Token
  | .anchor name :: .tag t :: rest => (some name, some t, rest)
  | .tag t :: .anchor name :: rest => (some name, some t, rest)
  | .anchor name :: rest => (some name, none, rest)
  | .tag t :: rest => (none, some t, rest)
  | tokens => (none, none, tokens)

/-- Reads a node unless the next token is among those before which nothing stands. -/
def readUnless (stops : List Token) (read : NodeReader) : NodeReader := fun anchors tokens =>
  match tokens with
  | [] => some (.nothing, anchors, [])
  | t :: _ => if stops.contains t then some (.nothing, anchors, tokens) else read anchors tokens

/-- A text has only so many tokens that each can open one level; `fuel` counts down
the steps that remain. -/
abbrev Fuel := Nat

mutual

/-- Reads a node. Blocks may open only where `block` says so, and a sequence may stand
at the depth of its mapping only as the value of a field. -/
def readNode (block fieldValue : Bool) : Fuel → NodeReader
  | 0, _, _ => none
  | fuel + 1, anchors, tokens =>
      match tokens with
      | .alias name :: rest =>
          (anchors.lookup name).join.map fun node => (.alias node, anchors, rest)
      | _ => do
          let (anchor, tag, rest) := readProperties tokens
          let (node, known, rest) ← readContent block fieldValue tag
            (anchor.isSome || tag.isSome) fuel (anchor.toList.map (·, none) ++ anchors) rest
          return (node, anchor.toList.map (·, some node) ++ known, rest)

def readContent (block fieldValue : Bool) (tag : Option Tag) (hasProperties : Bool) :
    Fuel → NodeReader
  | 0, _, _ => none
  | fuel + 1, anchors, tokens =>
      match tokens, tag with
      | .scalar plain text :: rest, _ => some (.scalar plain tag text, anchors, rest)
      | _, some .custom | _, some .unspecific => none
      | .flowSequenceStart :: rest, _ => readFlowItems [] fuel anchors rest
      | .flowMappingStart :: rest, _ => readFlowEntries [] fuel anchors rest
      | .sequenceStart :: rest, _ =>
          if block then readItems true [] fuel anchors rest else nothing tokens anchors
      | .mappingStart :: rest, _ =>
          if block then readEntries [] fuel anchors rest else nothing tokens anchors
      | .entry :: _, _ =>
          if fieldValue then readItems false [] fuel anchors tokens else nothing tokens anchors
      | _, _ => nothing tokens anchors
where
  nothing (tokens : List Token) (anchors : Anchors) : Option (Node × Anchors × List Token) :=
    if hasProperties then some (.scalar true tag "", anchors, tokens) else none

/-- Reads the items of a block sequence. One that stands at the depth of its mapping
has no token at its end. -/
def readItems (closed : Bool) (items : List Node) : Fuel → NodeReader
  | 0, _, _ => none
  | fuel + 1, anchors, tokens =>
      match tokens with
      | .entry :: rest =>
          let stops : List Token :=
            if closed then [.entry, .blockEnd] else [.entry, .key, .value, .blockEnd]
          match readUnless stops (readNode true false fuel) anchors rest with
          | none => none
          | some (item, anchors, rest) => readItems closed (items ++ [item]) fuel anchors rest
      | .blockEnd :: rest =>
          some (.sequence items, anchors, if closed then rest else tokens)
      | _ => if closed then none else some (.sequence items, anchors, tokens)

def readEntries (entries : List (Node × Node)) : Fuel → NodeReader
  | 0, _, _ => none
  | fuel + 1, anchors, tokens =>
      let stops : List Token := [.key, .value, .blockEnd]
      match tokens with
      | .blockEnd :: rest => some (.mapping entries, anchors, rest)
      | .key :: rest => do
          let (key, anchors, rest) ← readUnless stops (readNode true true fuel) anchors rest
          match rest with
          | .value :: rest =>
              let (v, anchors, rest) ← readUnless stops (readNode true true fuel) anchors rest
              readEntries (entries ++ [(key, v)]) fuel anchors rest
          | _ => readEntries (entries ++ [(key, .nothing)]) fuel anchors rest
      | _ => none

/-- Reads the items of a flow sequence. A key makes its item a mapping of one entry. -/
def readFlowItems (items : List Node) : Fuel → NodeReader
  | 0, _, _ => none
  | fuel + 1, anchors, tokens =>
      match tokens with
      | .flowSequenceEnd :: rest => some (.sequence items, anchors, rest)
      | .key :: rest => do
          let stops : List Token := [.value, .flowEntry, .flowSequenceEnd]
          let (key, anchors, rest) ← readUnless stops (readNode false false fuel) anchors rest
          let (v, anchors, rest) ←
            match rest with
            | .value :: rest =>
                readUnless [.flowEntry, .flowSequenceEnd] (readNode false false fuel) anchors rest
            | _ => some (Node.nothing, anchors, rest)
          endFlowItem (items ++ [.mapping [(key, v)]]) fuel anchors rest
      | _ => do
          let (item, anchors, rest) ← readNode false false fuel anchors tokens
          endFlowItem (items ++ [item]) fuel anchors rest

def endFlowItem (items : List Node) : Fuel → NodeReader
  | 0, _, _ => none
  | fuel + 1, anchors, tokens =>
      match tokens with
      | .flowSequenceEnd :: rest => some (.sequence items, anchors, rest)
      | .flowEntry :: rest => readFlowItems items fuel anchors rest
      | _ => none

def readFlowEntries (entries : List (Node × Node)) : Fuel → NodeReader
  | 0, _, _ => none
  | fuel + 1, anchors, tokens =>
      match tokens with
      | .flowMappingEnd :: rest => some (.mapping entries, anchors, rest)
      | .key :: rest => do
          let stops : List Token := [.value, .flowEntry, .flowMappingEnd]
          let (key, anchors, rest) ← readUnless stops (readNode false false fuel) anchors rest
          let (v, anchors, rest) ←
            match rest with
            | .value :: rest =>
                readUnless [.flowEntry, .flowMappingEnd] (readNode false false fuel) anchors rest
            | _ => some (Node.nothing, anchors, rest)
          endFlowEntry (entries ++ [(key, v)]) fuel anchors rest
      | _ => do
          let (key, anchors, rest) ← readNode false false fuel anchors tokens
          endFlowEntry (entries ++ [(key, .nothing)]) fuel anchors rest

def endFlowEntry (entries : List (Node × Node)) : Fuel → NodeReader
  | 0, _, _ => none
  | fuel + 1, anchors, tokens =>
      match tokens with
      | .flowMappingEnd :: rest => some (.mapping entries, anchors, rest)
      | .flowEntry :: rest => readFlowEntries entries fuel anchors rest
      | _ => none

end

/-- Passes the directives before a document. The version is given at most once, and a
document with directives must have a mark where it starts. -/
def passDirectives (tokens : List Token) : Option (List Token) :=
  let isDirective (t : Token) : Bool := t == .directive "YAML" || t == .directive "TAG"
  match tokens.takeWhile isDirective, tokens.dropWhile isDirective with
  | [], rest => some rest
  | directives, .documentStart :: rest =>
      if directives.count (.directive "YAML") ≤ 1 then some (.documentStart :: rest) else none
  | _, _ => none

def readDocument (tokens : List Token) : Option Node := do
  let tokens ← passDirectives tokens
  let fuel := 4 * tokens.length + 4
  let (node, _, rest) ←
    match tokens with
    | [] => some (Node.nothing, [], [])
    | .documentStart :: rest =>
        readUnless [.documentStart, .documentEnd] (readNode true false fuel) [] rest
    | _ => readNode true false fuel [] tokens
  if rest.all (· == .documentEnd) then return node else none

/-- The value of a scalar without a tag. Integers must fit in 64 bits, and what is no
finite number is null. -/
def plainValue (text : String) : Option Value :=
  match Plain.ofText text with
  | .null => some .null
  | .bool b => some (.bool b)
  | .integer n =>
      if -powerOfTwo 63 ≤ n ∧ n < powerOfTwo 64 then some (.number (.integer n)) else none
  | .floating x => some (.number (.floating x))
  | .notFinite => some .null
  | .string => some (.string text)

/-- The value of a scalar with a tag of the core schema. A tag of no known type is one
of text. -/
def coreValue (name text : String) : Option Value :=
  match name, Plain.ofText text with
  | "null", .null => if text = "" then none else some .null
  | "bool", .bool b => some (.bool b)
  | "int", .integer _ => plainValue text
  | "null", _ | "bool", _ | "int", _ => none
  | "float", _ =>
      match floating? text with
      | some (.floating x) => some (.number (.floating x))
      | some .notFinite => some .null
      | _ => none
  | _, _ => some (.string text)

/-- The value of a scalar that may have a tag. Without one, and with that of no type in
particular, only a scalar without quotes can be anything but a string. -/
def scalarValue (plain : Bool) (tag : Option Tag) (text : String) : Option Value :=
  match tag with
  | none | some .unspecific => if plain then plainValue text else some (.string text)
  | some (.core name) => coreValue name text
  | some .foreign => some (.string text)
  | some .custom => none

/-- Finding values, with the number of aliases that may still be followed. -/
abbrev Following := StateT Nat Option

def follow : Following Unit := do
  match ← get with
  | 0 => failure
  | count + 1 => set count

def Node.keyText : Node → Following String
  | .scalar _ _ text => return text
  | .alias node => do
      follow
      node.keyText
  | .sequence _ | .mapping _ => failure

mutual

/-- The value of a node whose collections are nested at most `depth` times. -/
def Node.valueWithin (depth : Nat) : Node → Following Value
  | .scalar plain tag text => scalarValue plain tag text
  | .sequence items =>
      match depth with
      | 0 => failure
      | depth + 1 => .array <$> itemValues depth items
  | .mapping entries =>
      match depth with
      | 0 => failure
      | depth + 1 => (.object ∘ Assoc.ofEntries) <$> entryValues depth entries
  | .alias node => do
      follow
      node.valueWithin depth

def itemValues (depth : Nat) : List Node → Following (List Value)
  | [] => return []
  | node :: rest => do
      let v ← node.valueWithin depth
      return v :: (← itemValues depth rest)

def entryValues (depth : Nat) : List (Node × Node) → Following (List (String × Value))
  | [] => return []
  | (key, node) :: rest => do
      let name ← key.keyText
      let v ← node.valueWithin depth
      return (name, v) :: (← entryValues depth rest)

end

mutual

/-- How many events a node is announced by: two for a collection, besides those of what
is in it, and one for any other node. What an alias stands for does not count again. -/
def Node.events : Node → Nat
  | .scalar _ _ _ | .alias _ => 1
  | .sequence items => itemEvents items + 2
  | .mapping entries => entryEvents entries + 2

def itemEvents : List Node → Nat
  | [] => 0
  | node :: rest => node.events + itemEvents rest

def entryEvents : List (Node × Node) → Nat
  | [] => 0
  | (key, node) :: rest => key.events + node.events + entryEvents rest

end

def depthLimit : Nat :=
  128

/-- How many aliases may be followed for each event. -/
def followLimit : Nat :=
  100

def Node.toValue? (node : Node) : Option Value :=
  (node.valueWithin depthLimit).run' (followLimit * node.events)

/-- The value of a text; nothing when the text has any fault. -/
def read (text : String) : Option Value := do
  (← readDocument (← scan text)).toValue?

end Yaml

end Relint
