import Relint.Severity

/-!
The settings of one ESLint rule after everything that was proposed for it has
been put together.
-/

namespace Relint

/-- The final settings of a target rule. Notices tell the reader what did not
carry over; they are no part of the configuration. -/
structure RuleSettings where
  severity : Severity
  arguments : List Value
  notices : List String
  deriving DecidableEq, Inhabited

namespace RuleSettings

/-- The entry in a configuration: the level alone, or an array of the level and
the arguments. -/
def toEntry (s : RuleSettings) : Value :=
  if s.arguments.isEmpty then s.severity.toValue
  else .array (s.severity.toValue :: s.arguments)

/-- The record of the parts. Notices are left out when there are none. -/
def toValue (s : RuleSettings) : Value :=
  .object ([("severity", s.severity.toValue), ("arguments", .array s.arguments)] ++
    if s.notices.isEmpty then [] else [("notices", .strings s.notices)])

end RuleSettings

end Relint
