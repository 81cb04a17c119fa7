import Relint.Severity

/-!
Mergers reconcile the arguments and the severities that several source rules
propose for one target rule.
-/

namespace Relint

/-- How proposals for one target rule become one. Both parts take what was
proposed in the order of the source rules, and the first may refuse. -/
structure Merger where
  mergeArguments : List (List Value) → Except String (List Value)
  mergeSeverity : List Severity → Severity

/-- The mergers by the names of their target rules. -/
abbrev MergerRegistry := List (String × Merger)

def Merger.ofArguments (mergeArguments : List (List Value) → Except String (List Value)) :
    Merger :=
  ⟨mergeArguments, Severity.escalate⟩

end Relint
