/-!
The 64-bit binary floating-point numbers, kept as their bit patterns. A finite
pattern stands for `± m · 2 ^ q` with exact natural `m`, and every rounding is a
rounding of an exact quotient of naturals, so that nothing here depends on the
processor's arithmetic.
-/

namespace Relint

def powerOfTwo (n : Nat) : Nat :=
  Nat.pow 2 n

def powerOfTen (n : Nat) : Nat :=
  Nat.pow 10 n

/-- A binary floating-point number given by the bits of its sign, exponent and
fraction. Two numbers are the same record exactly when all their bits agree. -/
structure Binary64 where
  bits : UInt64
  deriving DecidableEq, Inhabited

namespace Binary64

def signWeight : Nat := powerOfTwo 63

/-- The bits below the sign of the first pattern that is not finite. -/
def infinityBits : Nat := 0x7FF * powerOfTwo 52

/-- Whether the sign bit is set. The negative zero is negative in this sense. -/
def isNegative (x : Binary64) : Bool :=
  decide (signWeight ≤ x.bits.toNat)

/-- The bits of exponent and fraction, which order the magnitudes. -/
def magnitude (x : Binary64) : Nat :=
  x.bits.toNat % signWeight

def isZero (x : Binary64) : Bool :=
  x.magnitude == 0

def ofMagnitude (negative : Bool) (magnitude : Nat) : Binary64 :=
  ⟨UInt64.ofNat ((if negative then signWeight else 0) + magnitude % signWeight)⟩

/-- The significand `m` and the binary exponent `q` of the magnitude `m · 2 ^ q`.
Below the first full exponent the significand has no hidden bit. -/
def significand (x : Binary64) : Nat × Int :=
  let exponent : Nat := x.magnitude / powerOfTwo 52
  let fraction : Nat := x.magnitude % powerOfTwo 52
  if exponent = 0 then (fraction, -1074) else (fraction + powerOfTwo 52, (exponent : Int) - 1075)

/-- The magnitude as an exact quotient of naturals with a positive denominator. -/
def ratio (x : Binary64) : Nat × Nat :=
  let (m, q) := x.significand
  if 0 ≤ q then (m * powerOfTwo q.toNat, 1) else (m, powerOfTwo (-q).toNat)

/-- The nearest natural to `num / den`; a half goes to the even neighbour. -/
def divNearest (num den : Nat) : Nat :=
  let whole := num / den
  let twice := 2 * (num % den)
  if twice < den then whole
  else if den < twice then whole + 1
  else if whole % 2 = 0 then whole else whole + 1

/-- The magnitude nearest to `num / den`, a half going to the even significand.
The result is at least `infinityBits` when the quotient is too large.

The exponent `q` is chosen so that the quotient by `2 ^ q` has 53 bits, or is
the least exponent there is; the carry of a significand that rounds up to
`2 ^ 53` moves into the exponent by itself. -/
def roundRatio (num den : Nat) : Nat :=
  if num = 0 then 0
  else
    let guess : Int := (num.log2 : Int) - (den.log2 : Int) - 52
    let scaled (q : Int) : Nat × Nat :=
      if 0 ≤ q then (num, den * powerOfTwo q.toNat) else (num * powerOfTwo (-q).toNat, den)
    let (n, d) := scaled guess
    let q := max (if n < d * powerOfTwo 52 then guess - 1 else guess) (-1074)
    let (n, d) := scaled q
    (q + 1074).toNat * powerOfTwo 52 + divNearest n d

def magnitudeRatio (magnitude : Nat) : Nat × Nat :=
  (ofMagnitude false magnitude).ratio

def product (a b : Nat) : Nat :=
  let (num, den) := magnitudeRatio a
  let (num', den') := magnitudeRatio b
  roundRatio (num * num') (den * den')

def quotient (a b : Nat) : Nat :=
  let (num, den) := magnitudeRatio a
  let (num', den') := magnitudeRatio b
  roundRatio (num * den') (den * num')

end Binary64

end Relint
