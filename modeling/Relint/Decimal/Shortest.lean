import Relint.Decimal.Binary64

/-!
The shortest decimal of a binary floating-point number: the fewest digits that
lie in the interval of reals which round to the number, of those the digits
nearest to it, and of two equally near ones the even.
-/

namespace Relint

/-- The positive decimal `d.ddd · 10 ^ exponent` whose digits are those of the
natural `digits`. -/
structure ScientificDecimal where
  digits : Nat
  exponent : Int
  deriving DecidableEq, Inhabited

namespace Binary64

/-- A half-open description of the reals that round to one magnitude, over the
common denominator `den`. The ends belong to it when `closed` holds. -/
structure RoundingInterval where
  low : Nat
  value : Nat
  high : Nat
  den : Nat
  closed : Bool

/-- The interval of a finite magnitude other than zero. It is narrower below a
power of two, where the numbers lie twice as dense. -/
def roundingInterval (x : Binary64) : RoundingInterval :=
  let (m, q) := x.significand
  let lowStep := if m = powerOfTwo 52 ∧ -1074 < q then 1 else 2
  let (scale, den) := if 0 ≤ q then (powerOfTwo q.toNat, 4) else (1, 4 * powerOfTwo (-q).toNat)
  ⟨(4 * m - lowStep) * scale, 4 * m * scale, (4 * m + 2) * scale, den, m % 2 = 0⟩

namespace RoundingInterval

def holds (i : RoundingInterval) (n d : Nat) : Bool :=
  let left := i.low * d
  let right := i.high * d
  let point := n * i.den
  if i.closed then left ≤ point && point ≤ right else left < point && point < right

/-- The grid of the multiples of `10 ^ unit`, written as a pair of naturals whose
quotient is the spacing. -/
def spacing (unit : Int) : Nat × Nat :=
  if 0 ≤ unit then (powerOfTen unit.toNat, 1) else (1, powerOfTen (-unit).toNat)

/-- The multiple of `10 ^ unit` that lies in the interval and is nearest to the
value, if one of the value's two neighbours on that grid does. -/
def nearestMultiple? (i : RoundingInterval) (unit : Int) : Option Nat :=
  let (up, down) := spacing unit
  let below := i.value * down / (i.den * up)
  let above := below + 1
  match i.holds (below * up) down, i.holds (above * up) down with
  | false, false => none
  | true, false => some below
  | false, true => some above
  | true, true =>
      let toBelow := i.value * down - below * up * i.den
      let toAbove := above * up * i.den - i.value * down
      if toBelow < toAbove then some below
      else if toAbove < toBelow then some above
      else if below % 2 = 0 then some below else some above

end RoundingInterval

/-- The exponent `e` with `10 ^ e ≤ num / den < 10 ^ (e + 1)`, found by counting
up from a lower bound given by the binary logarithms. -/
def decimalExponent (num den : Nat) : Int :=
  let bitDifference : Int := (num.log2 : Int) - (den.log2 : Int) - 1
  let start : Int := Int.fdiv (bitDifference * 30103) 100000 - 1
  let reaches (e : Int) : Bool :=
    if 0 ≤ e then den * powerOfTen e.toNat ≤ num else den ≤ num * powerOfTen (-e).toNat
  let rec climb : Nat → Int → Int
    | 0, e => e
    | fuel + 1, e => if reaches (e + 1) then climb fuel (e + 1) else e
  climb 6 start

/-- Removes the trailing zeros of a natural and counts them, up to a limit. -/
def stripZeros : Nat → Nat → Nat × Nat
  | 0, n => (n, 0)
  | limit + 1, n =>
      if n % 10 = 0 ∧ n ≠ 0 then
        let (m, zeros) := stripZeros limit (n / 10)
        (m, zeros + 1)
      else (n, 0)

def digitCount (n : Nat) : Nat :=
  (Nat.toDigits 10 n).length

/-- The shortest decimal of a finite magnitude other than zero. Seventeen digits
always suffice, so the search tries grids of one to seventeen digits. -/
def shortest (x : Binary64) : ScientificDecimal :=
  let interval := x.roundingInterval
  let lead := decimalExponent interval.value interval.den
  let rec search : Nat → Int → ScientificDecimal
    | 0, unit => ⟨interval.value / interval.den, unit⟩
    | grids + 1, unit =>
        match interval.nearestMultiple? unit with
        | some n =>
            let (digits, zeros) := stripZeros 400 n
            ⟨digits, unit + zeros + (digitCount digits - 1 : Nat)⟩
        | none => search grids (unit - 1)
  search 17 lead

end Binary64

end Relint
