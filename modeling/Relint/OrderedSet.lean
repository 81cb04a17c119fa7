import Std.Data.HashSet

/-!
Sets of names that keep the order of first insertion. A lookup set makes the test
for membership independent of their number.
-/

namespace Relint

/-- Names without repetition, each at the place where it first came up. -/
structure OrderedSet where
  items : Array String
  seen : Std.HashSet String

namespace OrderedSet

def empty : OrderedSet :=
  ⟨#[], ∅⟩

instance : Inhabited OrderedSet := ⟨empty⟩

def contains (s : OrderedSet) (item : String) : Bool :=
  s.seen.contains item

/-- Appends a name unless it is present, and tells whether it was appended. -/
def tryInsert (s : OrderedSet) (item : String) : Bool × OrderedSet :=
  if s.contains item then (false, s) else (true, ⟨s.items.push item, s.seen.insert item⟩)

def insert (s : OrderedSet) (item : String) : OrderedSet :=
  (s.tryInsert item).2

def extend (s : OrderedSet) (items : List String) : OrderedSet :=
  items.foldl insert s

def ofList (items : List String) : OrderedSet :=
  empty.extend items

def toList (s : OrderedSet) : List String :=
  s.items.toList

def size (s : OrderedSet) : Nat :=
  s.items.size

def isEmpty (s : OrderedSet) : Bool :=
  s.items.isEmpty

end OrderedSet

end Relint
