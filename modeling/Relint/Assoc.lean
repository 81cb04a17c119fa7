/-!
Lists of named entries that keep the order of first insertion. They stand for
the fields of an object and for every registry; `List.lookup` is their view as a
partial function, and writing an entry that is present keeps its place.
-/

namespace Relint

variable {α : Type}

namespace Assoc

def keys (entries : List (String × α)) : List String :=
  entries.map (·.1)

def sortedKeys (entries : List (String × α)) : List String :=
  (keys entries).mergeSort fun a b => !(b < a)

def contains (entries : List (String × α)) (key : String) : Bool :=
  (entries.lookup key).isSome

/-- Writes an entry: the first one of that name has its value replaced where it
stands, and a new name goes to the end. -/
def insert (key : String) (value : α) : List (String × α) → List (String × α)
  | [] => [(key, value)]
  | (name, old) :: rest =>
      if name = key then (key, value) :: rest else (name, old) :: insert key value rest

def insertAll (entries : List (String × α)) (additions : List (String × α)) :
    List (String × α) :=
  additions.foldl (fun done entry => insert entry.1 entry.2 done) entries

/-- The entries of a sequence in which a repeated name keeps its first place and
its last value. -/
def ofEntries (entries : List (String × α)) : List (String × α) :=
  insertAll [] entries

end Assoc

end Relint
