import Relint.Rule.Settings
import Std.Data.HashMap

/-!
Target rules and their settings in the order in which the rules first came up. An
index of positions makes looking up a rule independent of their number.
-/

namespace Relint

/-- A map from rule names to settings that keeps the order of first insertion. -/
structure RuleMap where
  entries : Array (String × RuleSettings)
  index : Std.HashMap String Nat

namespace RuleMap

def empty : RuleMap :=
  ⟨#[], ∅⟩

instance : Inhabited RuleMap := ⟨empty⟩

/-- Sets a rule. A rule that is present keeps its place. -/
def insert (m : RuleMap) (name : String) (settings : RuleSettings) : RuleMap :=
  match m.index[name]? with
  | some position => ⟨m.entries.setIfInBounds position (name, settings), m.index⟩
  | none => ⟨m.entries.push (name, settings), m.index.insert name m.entries.size⟩

def insertAll (m : RuleMap) (entries : List (String × RuleSettings)) : RuleMap :=
  entries.foldl (fun m entry => m.insert entry.1 entry.2) m

/-- The map of some rules, set one after the other. -/
def ofList (entries : List (String × RuleSettings)) : RuleMap :=
  empty.insertAll entries

def get? (m : RuleMap) (name : String) : Option RuleSettings :=
  (m.index[name]?).bind fun position => m.entries[position]?.map (·.2)

def contains (m : RuleMap) (name : String) : Bool :=
  m.index.contains name

def toList (m : RuleMap) : List (String × RuleSettings) :=
  m.entries.toList

def keys (m : RuleMap) : List String :=
  m.toList.map (·.1)

def size (m : RuleMap) : Nat :=
  m.entries.size

def isEmpty (m : RuleMap) : Bool :=
  m.entries.isEmpty

def toValue (m : RuleMap) : Value :=
  .object (m.toList.map fun (name, settings) => (name, settings.toValue))

end RuleMap

end Relint
