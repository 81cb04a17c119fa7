import Relint.Distinct
import Relint.Glob.Token

/-!
When a glob matches a path. The whole path has to be matched, in terms of its
bytes in UTF-8: a question mark and a class stand for one byte, and a character
beyond ASCII in a class stands for its bytes. A slash is a byte like any other.
-/

namespace Relint

namespace Glob

/-- The ends of a text, from the whole down to nothing. -/
def endsOf : List UInt8 → List (List UInt8)
  | [] => [[]]
  | b :: rest => (b :: rest) :: endsOf rest

def slash : UInt8 :=
  0x2F

def endsBehindSlash : List UInt8 → List (List UInt8)
  | [] => []
  | b :: rest => if b = slash then rest :: endsBehindSlash rest else endsBehindSlash rest

/-- The pairs of lowest and highest bytes that a range of characters stands for. Of a
character beyond ASCII the bytes inside stand for themselves. -/
def byteRanges (low high : Char) : List (UInt8 × UInt8) :=
  let lows := String.utf8EncodeChar low
  if low = high then lows.map fun b => (b, b)
  else
    let highs := String.utf8EncodeChar high
    lows.dropLast.map (fun b => (b, b)) ++
      [(lows.getLastD 0, highs.headD 0)] ++ highs.tail.map fun b => (b, b)

def inClass (negated : Bool) (ranges : List (Char × Char)) (b : UInt8) : Bool :=
  negated != ranges.any fun (low, high) =>
    (byteRanges low high).any fun (first, last) => first ≤ b && b ≤ last

def dropBytes? : (bytes text : List UInt8) → Option (List UInt8)
  | [], text => some text
  | _ :: _, [] => none
  | b :: bytes, c :: text => if b = c then dropBytes? bytes text else none

mutual

def Token.isVoid : Token → Bool
  | .alternatives branches => allBranchesVoid branches
  | _ => false

def allVoid : List Token → Bool
  | [] => true
  | token :: rest => token.isVoid && allVoid rest

/-- Whether the tokens of all branches are made of empty groups only. -/
def allBranchesVoid : List (List Token) → Bool
  | [] => true
  | branch :: rest => allVoid branch && allBranchesVoid rest

end

mutual

/-- What may be left of a text behind a beginning that a token matches. A group
passes over its empty branches, and one that has no other matches nothing at all. -/
def Token.leftovers (token : Token) (text : List UInt8) : List (List UInt8) :=
  match token with
  | .literal c => (dropBytes? (String.utf8EncodeChar c) text).toList
  | .anyOne => text.tail?.toList
  | .anyRun => endsOf text
  | .charClass negated ranges =>
      match text with
      | [] => []
      | b :: rest => if inClass negated ranges b then [rest] else []
  | .leadingDirectories => text :: endsBehindSlash text
  | .trailingPath => (dropBytes? [slash] text).toList.flatMap endsOf
  | .innerDirectories =>
      (dropBytes? [slash] text).toList.flatMap fun rest => rest :: endsBehindSlash rest
  | .alternatives branches =>
      if allBranchesVoid branches then [text] else branchLeftovers branches text

def leftovers (tokens : List Token) (texts : List (List UInt8)) : List (List UInt8) :=
  match tokens with
  | [] => texts
  | token :: rest => leftovers rest (distinct (texts.flatMap token.leftovers))

def branchLeftovers (branches : List (List Token)) (text : List UInt8) : List (List UInt8) :=
  match branches with
  | [] => []
  | branch :: rest =>
      (if allVoid branch then [] else leftovers branch [text]) ++ branchLeftovers rest text

end

end Glob

/-- Whether a glob matches a path. A glob that is nothing but a run of directories
matches every path. -/
def Glob.matches (glob : Glob) (path : String) : Bool :=
  match glob.tokens with
  | [.leadingDirectories] => true
  | tokens => (leftovers tokens [path.toList.flatMap String.utf8EncodeChar]).any List.isEmpty

end Relint
