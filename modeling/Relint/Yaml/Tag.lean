import Relint.Jsonc.Token
import Relint.Yaml.Break

/-!
Tags of YAML nodes. A tag is written in full between angles, or shortened by a handle that
stands for the beginning of its name. Two handles have a meaning from the start, and a
directive may give another one to a handle.
-/

namespace Relint

namespace Yaml

/-- A tag: that of no type in particular, one of the types of the core schema, one that
only the program knows that it was written for, or any other. -/
inductive Tag where
  | unspecific
  | core (name : String)
  | custom
  | foreign
  deriving DecidableEq, Repr

/-- The beginning of the full names of the types of the core schema. -/
def coreSchema : List Char :=
  "tag:yaml.org,2002:".toList

def Tag.ofName (name : List Char) : Tag :=
  if name = ['!'] then .unspecific
  else if name.head? = some '!' then .custom
  else if coreSchema.isPrefixOf name then .core (String.ofList (name.drop coreSchema.length))
  else .foreign

/-- The handles that directives gave a meaning to, with the beginnings of names that they
stand for. -/
abbrev Handles := List (List Char × List Char)

namespace Handles

def standard : Handles :=
  [(['!'], ['!']), (['!', '!'], coreSchema)]

/-- Gives a handle a meaning. No directive may have given it one yet. -/
def define? (handles : Handles) (handle meaning : List Char) : Option Handles :=
  if (handles.lookup handle).isSome then none else some ((handle, meaning) :: handles)

/-- The tag of a shortened name. -/
def tag? (handles : Handles) (handle name : List Char) : Option Tag :=
  ((handles ++ standard).lookup handle).map fun meaning => .ofName (meaning ++ name)

end Handles

def inName (c : Char) : Bool :=
  c.isAlphanum || c == '-' || c == '_'

def inShortTag (c : Char) : Bool :=
  inName c || ";/?:@&=+$.!~*'()".toList.contains c

def inFullTag (c : Char) : Bool :=
  inShortTag c || c == ',' || c == '[' || c == ']'

/-- The number of octets that a character has in UTF-8, by the first one of them. -/
def octetCount? (octet : Nat) : Option Nat :=
  if octet < 0x80 then some 1
  else if octet < 0xC0 then none
  else if octet < 0xE0 then some 2
  else if octet < 0xF0 then some 3
  else if octet < 0xF8 then some 4
  else none

/-- How many octets of a character remain behind one, of `pending` that had to come if
any. -/
def octetsBehind? (pending octet : Nat) : Option Nat :=
  if pending = 0 then (octetCount? octet).map (· - 1)
  else if 0x80 ≤ octet ∧ octet < 0xC0 then some (pending - 1)
  else none

/-- Reads a part of a tag. Escapes stand for octets, and all octets of a character have to
be escaped. -/
def readTagPart (allowed : Char → Bool) : Nat → List Char → Option (List Char × List Char)
  | pending, [] => if pending = 0 then some ([], []) else none
  | pending, c :: rest =>
      if c = '%' then
        match rest with
        | high :: low :: rest =>
            if Jsonc.isHexDigit high && Jsonc.isHexDigit low then do
              let octet := Jsonc.hexNat [high, low]
              let (part, rest) ← readTagPart allowed (← octetsBehind? pending octet) rest
              return (Char.ofNat octet :: part, rest)
            else none
        | _ => none
      else if pending ≠ 0 then none
      else if allowed c then
        (readTagPart allowed 0 rest).map fun (part, rest) => (c :: part, rest)
      else some ([], c :: rest)

/-- Reads a handle behind its first mark, if there is one that ends with a second mark. -/
def readHandle? (text : List Char) : Option (List Char × List Char) :=
  match text.dropWhile inName with
  | '!' :: rest => some ('!' :: text.takeWhile inName ++ ['!'], rest)
  | _ => none

/-- Reads a tag behind its mark. -/
def readTag (handles : Handles) (text : List Char) : Option (Tag × List Char) :=
  match text with
  | '<' :: text =>
      match readTagPart inFullTag 0 text with
      | some (c :: name, '>' :: rest) => some (.ofName (c :: name), rest)
      | _ => none
  | _ =>
      match readHandle? text with
      | some (handle, text) =>
          match readTagPart inShortTag 0 text with
          | some (c :: name, rest) =>
              (handles.tag? handle (c :: name)).map fun tag => (tag, rest)
          | _ => none
      | none =>
          match readTagPart inShortTag 0 text with
          | some ([], rest) => some (.unspecific, rest)
          | some (name, rest) => (handles.tag? ['!'] name).map fun tag => (tag, rest)
          | none => none

/-- Reads the meaning that a directive gives to a handle, behind the name of the
directive. -/
def readDefinition (text : List Char) : Option (List Char × List Char × List Char) :=
  match text.dropWhile isSpace with
  | '!' :: text => do
      let (handle, text) := (readHandle? text).getD (['!'], text)
      let after := text.dropWhile isSpace
      let (meaning, rest) ← readTagPart inFullTag 0 after
      if after.length < text.length && !meaning.isEmpty && atGap rest then
        return (handle, meaning, rest)
      else none
  | _ => none

end Yaml

end Relint
