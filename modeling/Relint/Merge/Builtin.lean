import Relint.Json.Printer
import Relint.Merge.Merger
import Relint.Value.Same

/-!
The mergers that come with the program. Those for lists of names keep the first of
several arguments that are the same; the others put options together.
-/

namespace Relint

namespace Merger

/-- All arguments of all proposals, each once. -/
def uniqueArguments (proposals : List (List Value)) : List Value :=
  Value.pushAllUnique [] proposals.flatten

def firstArguments (proposals : List (List Value)) : List Value :=
  proposals.filterMap List.head?

def bannedTypes (options : Value) : Except String Fields :=
  match (options.field? "types").bind Value.object? with
  | some types => .ok types
  | none => .error ("Expected a types map, got " ++ Json.compact options ++ ".")

/-- The union of the forbidden types. What a later proposal says about a type
replaces what an earlier one says. -/
def banTypes (proposals : List (List Value)) : Except String (List Value) := do
  let maps ← (firstArguments proposals).mapM bannedTypes
  if maps.isEmpty then return []
  else return [.object [("types", .object (maps.foldl Assoc.insertAll []))]]

def strictness (policy : String) : Nat :=
  if policy = "never" then 2
  else if policy = "allow-as-parameter" then 1
  else 0

/-- The choices about type assertions that have been made so far. -/
structure AssertionChoice where
  style : Option String
  policy : Option String

/-- Takes in the style of one more proposal. Two different styles exclude each
other. -/
def joinStyle : Option String → Option String → Except String (Option String)
  | chosen, none => .ok chosen
  | none, some style => .ok (some style)
  | some chosen, some style =>
      if chosen = style then .ok (some style)
      else .error ("Assertion style \"" ++ style ++ "\" conflicts with \"" ++ chosen ++ "\".")

/-- Takes in the policy of one more proposal. The stricter one stays, and of two
equally strict ones the earlier. -/
def joinPolicy : Option String → Option String → Option String
  | chosen, none => chosen
  | none, some policy => some policy
  | some chosen, some policy =>
      if strictness policy ≤ strictness chosen then some chosen else some policy

def AssertionChoice.join (choice : AssertionChoice) (options : Value) :
    Except String AssertionChoice :=
  (joinStyle choice.style ((options.field? "assertionStyle").bind Value.string?)).map fun style =>
    ⟨style, joinPolicy choice.policy
      ((options.field? "objectLiteralTypeAssertions").bind Value.string?)⟩

def AssertionChoice.joinAll (choice : AssertionChoice) :
    List Value → Except String AssertionChoice
  | [] => .ok choice
  | options :: rest => do (← choice.join options).joinAll rest

/-- A string field, where there is a string. -/
def stringField (name : String) : Option String → Fields
  | some s => [(name, .string s)]
  | none => []

/-- An object of options as the only argument, or no argument without options. -/
def optionArgument (options : Fields) : List Value :=
  if options.isEmpty then [] else [.object options]

def AssertionChoice.toArguments (choice : AssertionChoice) : List Value :=
  optionArgument (stringField "assertionStyle" choice.style ++
    stringField "objectLiteralTypeAssertions" choice.policy)

/-- One style of type assertions and the strictest policy on object literals. -/
def typeAssertions (proposals : List (List Value)) : Except String (List Value) :=
  (AssertionChoice.joinAll ⟨none, none⟩ (firstArguments proposals)).map
    AssertionChoice.toArguments

/-- Forbidden modules: paths and patterns, each once. -/
structure ImportRestriction where
  paths : List Value
  patterns : List Value

/-- The items of an array field, and none where there is no such field. -/
def arrayField (options : Value) (key : String) : List Value :=
  ((options.field? key).bind Value.array?).getD []

/-- Takes in one argument: a path, or an object of paths and patterns. -/
def ImportRestriction.join (r : ImportRestriction) (argument : Value) :
    Except String ImportRestriction :=
  match argument with
  | .string _ => .ok ⟨Value.pushUnique r.paths argument, r.patterns⟩
  | .object _ =>
      .ok ⟨Value.pushAllUnique r.paths (arrayField argument "paths"),
        Value.pushAllUnique r.patterns (arrayField argument "patterns")⟩
  | _ => .error ("Unsupported restricted import " ++ Json.compact argument ++ ".")

def ImportRestriction.joinAll (r : ImportRestriction) :
    List Value → Except String ImportRestriction
  | [] => .ok r
  | argument :: rest => do (← r.join argument).joinAll rest

def listOption (name : String) (items : List Value) : Fields :=
  if items.isEmpty then [] else [(name, .array items)]

def ImportRestriction.toArguments (r : ImportRestriction) : List Value :=
  optionArgument (listOption "paths" r.paths ++ listOption "patterns" r.patterns)

def restrictedImports (proposals : List (List Value)) : Except String (List Value) :=
  (ImportRestriction.joinAll ⟨[], []⟩ proposals.flatten).map ImportRestriction.toArguments

/-- The severity of a rule that one source rule may switch off for good. -/
def offWins (severities : List Severity) : Severity :=
  if severities.contains .off then .off else Severity.escalate severities

def unique : Merger :=
  .ofArguments fun proposals => .ok (uniqueArguments proposals)

/-- The merger of a rule that stays off once it is off. The last arguments count. -/
def disabling : Merger :=
  ⟨fun proposals => .ok (proposals.getLast?.getD []), offWins⟩

end Merger

namespace MergerRegistry

def builtin : MergerRegistry := [
  ("@typescript-eslint/ban-types", .ofArguments Merger.banTypes),
  ("@typescript-eslint/consistent-type-assertions", .ofArguments Merger.typeAssertions),
  ("@typescript-eslint/naming-convention", Merger.unique),
  ("@typescript-eslint/no-empty-function", Merger.disabling),
  ("id-denylist", Merger.unique),
  ("no-restricted-globals", Merger.unique),
  ("no-restricted-imports", .ofArguments Merger.restrictedImports),
  ("no-restricted-properties", Merger.unique)]

end MergerRegistry

end Relint
