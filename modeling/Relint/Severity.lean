import Relint.Value.Basic

/-!
How severe a violation is. The two linters spell the same three levels in
different ways; here there is one type and its readings.
-/

namespace Relint

/-- The level at which violations of a rule are reported. -/
inductive Severity where
  | off
  | warn
  | error
  deriving DecidableEq, Inhabited, Repr

namespace Severity

def rank : Severity → Nat
  | .off => 0
  | .warn => 1
  | .error => 2

/-- The level that a word names. The word `default` names none, so that the level
of the whole configuration applies to it. -/
def ofWord? : String → Option Severity
  | "error" => some .error
  | "warning" | "warn" => some .warn
  | "off" | "none" => some .off
  | _ => none

def word : Severity → String
  | .off => "off"
  | .warn => "warn"
  | .error => "error"

/-- The level that a value denotes when it stands for a level and nothing else: a
word, or an object that has the word as its only field and null for its value. -/
def ofValue? : Value → Option Severity
  | .string s => ofWord? s
  | .object [(key, .null)] => ofWord? key
  | _ => none

def toValue (s : Severity) : Value :=
  .string s.word

/-- The level for several sources of one rule: any error makes it an error, and
otherwise the last one counts. -/
def escalate (severities : List Severity) : Severity :=
  if severities.contains .error then .error else severities.getLast?.getD .error

@[simp] theorem ofWord?_word (s : Severity) : ofWord? s.word = some s := by
  cases s <;> rfl

end Severity

end Relint
