import Relint.Value.Basic

/-!
When two values are the same data. The order of fields does not count and the
two floating zeros are one number, so values are compared in a form that sorts
the fields and has one zero. Being the same is therefore an equivalence on all
values, whatever their fields.
-/

namespace Relint

/-- The one spelling of a number: the negative zero becomes the positive one. -/
def Number.canonical : Number → Number
  | .integer n => .integer n
  | .floating x => if x.isZero then .floating ⟨0⟩ else .floating x

namespace Value

def insertField (field : String × Value) : Fields → Fields
  | [] => [field]
  | head :: rest =>
      if head.1 < field.1 then head :: insertField field rest else field :: head :: rest

/-- The fields in the order of their names; fields of one name keep their order. -/
def sortFields (fields : Fields) : Fields :=
  fields.foldr insertField []

mutual

def canonical : Value → Value
  | .null => .null
  | .bool b => .bool b
  | .number n => .number n.canonical
  | .string s => .string s
  | .array items => .array (canonicalItems items)
  | .object fields => .object (sortFields (canonicalFields fields))

def canonicalItems : List Value → List Value
  | [] => []
  | v :: rest => canonical v :: canonicalItems rest

def canonicalFields : Fields → Fields
  | [] => []
  | (key, v) :: rest => (key, canonical v) :: canonicalFields rest

end

def same (a b : Value) : Bool :=
  a.canonical == b.canonical

def containsSame (items : List Value) (v : Value) : Bool :=
  items.any (·.same v)

def sameList (as bs : List Value) : Bool :=
  Value.same (.array as) (.array bs)

def pushUnique (items : List Value) (v : Value) : List Value :=
  if containsSame items v then items else items ++ [v]

/-- Appends values one after the other, each unless it is there already. -/
def pushAllUnique (items additions : List Value) : List Value :=
  additions.foldl pushUnique items

@[simp] theorem same_refl (v : Value) : v.same v = true := by
  simp [same]

theorem same_comm (a b : Value) : a.same b = b.same a := by
  rw [same, same, Bool.eq_iff_iff, beq_iff_eq, beq_iff_eq, eq_comm]

theorem same_trans {a b c : Value} (hab : a.same b = true) (hbc : b.same c = true) :
    a.same c = true := by
  simp_all [same]

end Value

end Relint
