import Relint.Converter.Basic

/-!
Rules that forbid names: globals, methods of objects, types and modules. Their
arguments are lists of entries in several shapes, and each entry is put into the
list of the target rule that can forbid it.
-/

namespace Relint

namespace Converter

/-- What one entry of `ban` forbids: a global name, or a property of an object. The
value is the entry of the target rule. -/
inductive Ban where
  | global (entry : Value)
  | property (entry : Value)
  deriving DecidableEq

/-- The entry for a global name, if it is one. -/
def Ban.global? : Ban → Option Value
  | .global entry => some entry
  | .property _ => none

/-- The entry for a property, if it is one. -/
def Ban.property? : Ban → Option Value
  | .global _ => none
  | .property entry => some entry

/-- The field for a message, where there is one. -/
def messageField : Option Value → Fields
  | some message => [("message", message)]
  | none => []

def propertyEntry (object property : String) (message : Option Value) : Value :=
  .object ([("object", .string object), ("property", .string property)] ++ messageField message)

def readBan (entry : Value) : Except String Ban :=
  match entry with
  | .string _ => .ok (.global entry)
  | .array [.string name] => .ok (.global (.string name))
  | .array (.string object :: .string method :: rest) =>
      .ok (.property (propertyEntry object method rest.head?))
  | .object fields =>
      match fields.lookup "name" with
      | none => .error ("Ban entry " ++ Json.compact entry ++ " is missing a name.")
      | some (.string name) =>
          .ok (.global (.object
            ([("name", .string name)] ++ messageField (fields.lookup "message"))))
      | some (.array [.string object, .string property]) =>
          .ok (.property (propertyEntry object property (fields.lookup "message")))
      | some (.array _) =>
          .error ("Ban entry " ++ Json.compact entry ++ " has an unsupported name path.")
      | some _ => .error ("Unsupported ban entry " ++ Json.compact entry ++ ".")
  | _ => .error ("Unsupported ban entry " ++ Json.compact entry ++ ".")

/-- A target rule with a list of arguments, or none where the list is empty. -/
def ruleUnlessEmpty (name : String) (arguments : List Value) : List TargetRule :=
  if arguments.isEmpty then [] else [(TargetRule.named name).withArguments arguments]

def ban : Converter := fun ctx => do
  let bans ← ctx.arguments.mapM readBan
  return .ofRules (ruleUnlessEmpty "no-restricted-globals" (bans.filterMap Ban.global?) ++
    ruleUnlessEmpty "no-restricted-properties" (bans.filterMap Ban.property?))

/-- Reads one entry of `ban-types`: the name of a type and what to say about it. -/
def readBannedType (entry : Value) : Except String (String × Value) :=
  match entry with
  | .array [.string name] => .ok (name, .bool true)
  | .array (.string name :: .string message :: _) =>
      .ok (name, .object [("message", .string message)])
  | _ => .error ("Unsupported ban-types entry " ++ Json.compact entry ++ ".")

/-- Forbidden types, each with its message where it has one. -/
def banTypes : Converter := fun ctx => do
  let types ← ctx.arguments.mapM readBannedType
  let rule := TargetRule.named "@typescript-eslint/ban-types"
  if types.isEmpty then return .ofRule rule
  else return .ofRule (rule.withArgument (.object [("types", .object (Assoc.ofEntries types))]))

/-- What one entry of `import-blacklist` forbids: paths of modules, and patterns
for them. -/
structure ImportBan where
  paths : List Value
  patterns : List Value

/-- Reads one entry of `import-blacklist`: a module, an array of patterns, or an
object that forbids some imports of modules. -/
def readImportBan (entry : Value) : Except String ImportBan :=
  match entry with
  | .string _ => .ok ⟨[entry], []⟩
  | .array patterns => .ok ⟨[], patterns.filter Value.isString⟩
  | .object modules =>
      .ok ⟨modules.map fun (name, imports) =>
        .object [("name", .string name), ("importNames", imports)], []⟩
  | _ => .error ("Unsupported import-blacklist entry " ++ Json.compact entry ++ ".")

/-- A field that holds a list, or no field where the list is empty. -/
def listField (name : String) (items : List Value) : Fields :=
  if items.isEmpty then [] else [(name, .array items)]

/-- Forbidden modules, as one object of paths and patterns. -/
def importBlacklist : Converter := fun ctx => do
  let bans ← ctx.arguments.mapM readImportBan
  let paths := bans.flatMap (·.paths)
  let patterns := bans.flatMap (·.patterns)
  return .ofRule (((TargetRule.named "no-restricted-imports").withNoticeIf (!patterns.isEmpty)
    ("ESLint matches restricted import patterns as gitignore-style globs, " ++
      "not regular expressions.")).withOptions
    (listField "paths" paths ++ listField "patterns" patterns))

def noRestrictedGlobals : Converter := fun ctx =>
  .ok (.ofRule ((TargetRule.named "no-restricted-globals").withArguments ctx.arguments))

def restrictions : ConverterRegistry := [
  ("ban", ban),
  ("ban-types", banTypes),
  ("import-blacklist", importBlacklist),
  ("no-restricted-globals", noRestrictedGlobals)]

end Converter

end Relint
