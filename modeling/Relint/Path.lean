/-!
Paths as they are spelled: names between slashes, of which empty ones and single
dots do not count.
-/

namespace Relint

namespace Path

def splitSlashes (text : List Char) : List (List Char) :=
  match text with
  | [] => [[]]
  | '/' :: rest => [] :: splitSlashes rest
  | c :: rest =>
      match splitSlashes rest with
      | [] => [[c]]
      | first :: others => (c :: first) :: others

/-- The names that a path goes through. A dot counts at the very beginning only,
where it keeps a path from being empty. -/
def names (path : String) : List String :=
  let pieces := (splitSlashes path.toList).map String.ofList
  match pieces with
  | [] => []
  | first :: rest =>
      (if first = "" then [] else [first]) ++ rest.filter fun name => name ≠ "" ∧ name ≠ "."

def isAbsolute (path : String) : Bool :=
  path.toList.head? == some '/'

/-- The steps that a path takes through directories. Behind a trailing slash stands
a dot, because only a directory can be meant. -/
def steps (path : String) : List String :=
  let pieces := (splitSlashes path.toList).map String.ofList
  pieces.filter (· ≠ "") ++ if path.toList.getLast? = some '/' then ["."] else []

def trimmed (path : String) : String :=
  let pieces := (splitSlashes path.toList).map String.ofList
  let idle (piece : String) : Bool := piece == "" || piece == "."
  "/".intercalate ((pieces.dropWhile idle).reverse.dropWhile idle).reverse

/-- Whether a name comes before another: the step to the parent comes first. -/
def nameBefore (a b : String) : Bool :=
  b != ".." && (a == ".." || a < b)

/-- Whether a list of names does not come behind another. A list comes before those
that it begins. -/
def namesLe : List String → List String → Bool
  | [], _ => true
  | _ :: _, [] => false
  | a :: as, b :: bs => if a = b then namesLe as bs else nameBefore a b

def fileName? (path : String) : Option String :=
  (names path).getLast?.filter fun name => name ≠ "." ∧ name ≠ ".."

/-- What follows the last dot of a name, unless that dot is its first character. -/
def extensionOf? (name : String) : Option String :=
  let chars := name.toList
  if chars.tail.contains '.' then
    some (String.ofList (chars.reverse.takeWhile (· ≠ '.')).reverse)
  else none

def extension? (path : String) : Option String :=
  (fileName? path).bind extensionOf?

end Path

end Relint
