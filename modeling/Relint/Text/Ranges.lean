/-!
Sets of characters given by their boundaries: the code points, in rising order,
at which membership changes. The first boundary opens the first range.
-/

namespace Relint

namespace Text

/-- Whether a code point lies in one of the ranges `[a, b)` that a list of
boundaries `a, b, …` describes. -/
def inRanges : List Nat → Nat → Bool
  | [], _ => false
  | [a], n => a ≤ n
  | a :: b :: rest, n => if n < a then false else if n < b then true else inRanges rest n

end Text

end Relint
