import Relint.Decimal.Shortest

/-!
How a finite number is laid out as text: the shortest decimal, written in place
for moderate exponents and with an exponent otherwise. What a format decides is
one record.
-/

namespace Relint

/-- The decisions of a format about number text. Exponents from `leastPlain` to
below `plainLimit` are written in place, and `positiveSign` stands before an
exponent that is not negative. -/
structure NumberLayout where
  leastPlain : Int
  plainLimit : Int
  positiveSign : String

namespace NumberLayout

/-- Numbers in JSON text are written in place from `0.00001` to below ten to the
sixteenth, and exponents carry their sign. -/
def json : NumberLayout := ⟨-5, 16, "+"⟩

def yaml : NumberLayout := ⟨-5, 16, ""⟩

def digitText (n : Nat) : String :=
  String.ofList (Nat.toDigits 10 n)

/-- A positive decimal in place, with at least one digit on either side of the
point. -/
def plain (d : ScientificDecimal) : String :=
  let digits := Nat.toDigits 10 d.digits
  if d.exponent < 0 then
    "0." ++ String.ofList (List.replicate ((-d.exponent).toNat - 1) '0' ++ digits)
  else
    let whole := d.exponent.toNat + 1
    let padded := digits ++ List.replicate (whole + 1 - digits.length) '0'
    String.ofList (padded.take whole) ++ "." ++ String.ofList (padded.drop whole)

/-- A positive decimal with one digit before the point and an exponent. -/
def scientific (layout : NumberLayout) (d : ScientificDecimal) : String :=
  let mantissa :=
    match Nat.toDigits 10 d.digits with
    | [] => ""
    | [digit] => String.ofList [digit]
    | digit :: rest => String.ofList (digit :: '.' :: rest)
  let exponent :=
    if d.exponent < 0 then "-" ++ digitText (-d.exponent).toNat
    else layout.positiveSign ++ digitText d.exponent.toNat
  mantissa ++ "e" ++ exponent

def text (layout : NumberLayout) (x : Binary64) : String :=
  let sign := if x.isNegative then "-" else ""
  if x.isZero then sign ++ "0.0"
  else
    let d := x.shortest
    if layout.leastPlain ≤ d.exponent ∧ d.exponent < layout.plainLimit then sign ++ plain d
    else sign ++ layout.scientific d

end NumberLayout

end Relint
