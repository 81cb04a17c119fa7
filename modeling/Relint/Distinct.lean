/-!
Lists without repetition, in which each item stands where it first came up.
-/

namespace Relint

variable {α : Type} [BEq α]

def appendNew (items : List α) (item : α) : List α :=
  if items.contains item then items else items ++ [item]

/-- The items of a list, each at its first place. -/
def distinct (items : List α) : List α :=
  items.foldl appendNew []

end Relint
