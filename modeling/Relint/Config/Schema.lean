import Relint.Json.Printer

/-!
The shape that a TSLint configuration must have before it is read. A check goes
through the parts in a fixed order and reports the first that is not as it
should be, with the place of the offending value.
-/

namespace Relint

namespace Schema

/-- The kinds of values that the shape speaks of. -/
inductive Kind where
  | array
  | boolean
  | null
  | object
  | string
  deriving DecidableEq

def Kind.word : Kind → String
  | .array => "array"
  | .boolean => "boolean"
  | .null => "null"
  | .object => "object"
  | .string => "string"

/-- Whether a value is of a kind. Numbers are of none. -/
def Kind.holds : Kind → Value → Bool
  | .array, .array _ => true
  | .boolean, .bool _ => true
  | .null, .null => true
  | .object, .object _ => true
  | .string, .string _ => true
  | _, _ => false

/-- What is wrong with a value. -/
inductive Cause where
  | kind (allowed : List Kind)
  | noAlternative
  | noSeverityWord
  deriving DecidableEq

/-- A value that is not as it should be, and the names and positions that lead to
it from the root. -/
structure Violation where
  cause : Cause
  value : Value
  path : List String
  deriving DecidableEq

/-- One step of a pointer: the tilde and the slash are escaped. -/
def escapeStep (step : String) : String :=
  "/" ++ String.ofList (step.toList.flatMap fun c =>
    if c = '~' then ['~', '0'] else if c = '/' then ['~', '1'] else [c])

def Cause.text : Cause → String
  | .kind [k] => "is not of type \"" ++ k.word ++ "\""
  | .kind kinds =>
      "is not of types " ++ ", ".intercalate (kinds.map fun k => "\"" ++ k.word ++ "\"")
  | .noAlternative => "is not valid under any of the schemas listed in the 'oneOf' keyword"
  | .noSeverityWord => "is not one of \"error\", \"warning\" or 3 other candidates"

def Violation.message (v : Violation) : String :=
  Json.compact v.value ++ " " ++ v.cause.text ++ " at " ++ String.join (v.path.map escapeStep)

/-- A check of a value at a place: nothing when the value is as it should be. -/
abbrev Check := List String → Value → Option Violation

def ofKind (kinds : List Kind) : Check := fun path v =>
  if kinds.any (·.holds v) then none else some ⟨.kind kinds, v, path⟩

def stringOrStrings : Check := fun path v =>
  match v with
  | .string _ => none
  | .array items =>
      if items.all Value.isString then none else some ⟨.noAlternative, v, path⟩
  | _ => some ⟨.noAlternative, v, path⟩

def severityWord : Check := fun path v =>
  match v with
  | .string s =>
      if ["error", "warning", "warn", "off", "none"].contains s then none
      else some ⟨.noSeverityWord, v, path⟩
  | _ => some ⟨.kind [.string], v, path⟩

/-- A field, where the value has it, must pass a check. -/
def field (key : String) (check : Check) : Check := fun path v =>
  (v.field? key).bind (check (path ++ [key]))

def everyField (check : Check) : Check := fun path v =>
  (v.object?.getD []).findSome? fun (key, item) => check (path ++ [key]) item

def everyItem (check : Check) : Check := fun path v =>
  (v.array?.getD []).zipIdx.findSome? fun (item, i) => check (path ++ [toString i]) item

def inOrder (checks : List Check) : Check := fun path v =>
  checks.findSome? fun check => check path v

def tslint : Check :=
  inOrder [
    ofKind [.object],
    field "extends" stringOrStrings,
    field "defaultSeverity" severityWord,
    field "rulesDirectory" stringOrStrings,
    field "rules" (inOrder [
      ofKind [.object],
      everyField (ofKind [.array, .boolean, .null, .object])]),
    field "jsRules" (ofKind [.boolean, .object]),
    field "linterOptions" (inOrder [
      ofKind [.object],
      field "exclude" (inOrder [ofKind [.array], everyItem (ofKind [.string])]),
      field "format" (ofKind [.string])])]

/-- What is wrong with a TSLint configuration, if anything is. -/
def violation? (v : Value) : Option Violation :=
  tslint [] v

end Schema

end Relint
