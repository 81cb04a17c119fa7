import Relint.Assoc
import Relint.Decimal.Binary64

/-!
The values of configuration files: the data that JSON and YAML texts denote.
Objects keep the order in which their fields were written, and an integer is
never the same number as a floating one.
-/

namespace Relint

/-- A number of a configuration file. Integers are those of 64 bits, with or
without a sign; everything else is floating. -/
inductive Number where
  | integer (n : Int)
  | floating (x : Binary64)
  deriving DecidableEq, Inhabited

/-- A value of a configuration file. -/
inductive Value where
  | null
  | bool (b : Bool)
  | number (n : Number)
  | string (s : String)
  | array (items : List Value)
  | object (fields : List (String × Value))
  deriving Inhabited

/-- The fields of an object in the order of first writing. -/
abbrev Fields := List (String × Value)

namespace Value

mutual

/-- Equality of all parts, the order of fields included. -/
def decEq : (a b : Value) → Decidable (a = b)
  | .null, .null => isTrue rfl
  | .bool a, .bool b =>
      if h : a = b then isTrue (h ▸ rfl) else isFalse fun e => h (by injection e)
  | .number a, .number b =>
      if h : a = b then isTrue (h ▸ rfl) else isFalse fun e => h (by injection e)
  | .string a, .string b =>
      if h : a = b then isTrue (h ▸ rfl) else isFalse fun e => h (by injection e)
  | .array as, .array bs =>
      match decEqList as bs with
      | isTrue h => isTrue (h ▸ rfl)
      | isFalse h => isFalse fun e => h (by injection e)
  | .object as, .object bs =>
      match decEqFields as bs with
      | isTrue h => isTrue (h ▸ rfl)
      | isFalse h => isFalse fun e => h (by injection e)
  | .null, .bool _ | .null, .number _ | .null, .string _ | .null, .array _ | .null, .object _
  | .bool _, .null | .bool _, .number _ | .bool _, .string _ | .bool _, .array _
  | .bool _, .object _ | .number _, .null | .number _, .bool _ | .number _, .string _
  | .number _, .array _ | .number _, .object _ | .string _, .null | .string _, .bool _
  | .string _, .number _ | .string _, .array _ | .string _, .object _ | .array _, .null
  | .array _, .bool _ | .array _, .number _ | .array _, .string _ | .array _, .object _
  | .object _, .null | .object _, .bool _ | .object _, .number _ | .object _, .string _
  | .object _, .array _ => isFalse nofun

def decEqList : (as bs : List Value) → Decidable (as = bs)
  | [], [] => isTrue rfl
  | [], _ :: _ | _ :: _, [] => isFalse nofun
  | a :: as, b :: bs =>
      match decEq a b, decEqList as bs with
      | isTrue h, isTrue h' => isTrue (h ▸ h' ▸ rfl)
      | isFalse h, _ => isFalse fun e => h (by injection e)
      | _, isFalse h => isFalse fun e => h (by injection e)

def decEqFields : (as bs : List (String × Value)) → Decidable (as = bs)
  | [], [] => isTrue rfl
  | [], _ :: _ | _ :: _, [] => isFalse nofun
  | (k, a) :: as, (l, b) :: bs =>
      if hk : k = l then
        match decEq a b, decEqFields as bs with
        | isTrue h, isTrue h' => isTrue (hk ▸ h ▸ h' ▸ rfl)
        | isFalse h, _ => isFalse fun e => h (by injection e with e _; injection e)
        | _, isFalse h => isFalse fun e => h (by injection e)
      else isFalse fun e => hk (by injection e with e _; injection e)

end

instance : DecidableEq Value := decEq

def string? : Value → Option String
  | .string s => some s
  | _ => none

def bool? : Value → Option Bool
  | .bool b => some b
  | _ => none

def array? : Value → Option (List Value)
  | .array items => some items
  | _ => none

def object? : Value → Option Fields
  | .object fields => some fields
  | _ => none

def nat? : Value → Option Nat
  | .number (.integer n) => if 0 ≤ n then some n.toNat else none
  | _ => none

def isNumber : Value → Bool
  | .number _ => true
  | _ => false

def isString : Value → Bool
  | .string _ => true
  | _ => false

def isArray : Value → Bool
  | .array _ => true
  | _ => false

/-- A field of an object; nothing when the field is absent or the value is not an
object. -/
def field? (v : Value) (key : String) : Option Value :=
  v.object?.bind (·.lookup key)

def ofNat (n : Nat) : Value :=
  .number (.integer n)

def strings (items : List String) : Value :=
  .array (items.map .string)

/-- The strings of a value that may be one string or an array; other items of the
array are passed over. -/
def stringList : Option Value → List String
  | some (.string s) => [s]
  | some (.array items) => items.filterMap string?
  | _ => []

@[simp] theorem stringList_none : stringList none = [] :=
  rfl

@[simp] theorem stringList_strings (items : List String) :
    stringList (some (strings items)) = items := by
  simp [stringList, strings, List.filterMap_map, Function.comp_def, string?]

end Value

end Relint
