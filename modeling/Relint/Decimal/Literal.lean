import Relint.Value.Basic

/-!
Decimal literals and the numbers they denote. The grammar is that of JSON: a
sign, a whole part without leading zeros, and an optional fraction and exponent.
-/

namespace Relint

/-- The parts of a literal. Digits are kept as characters, and a part that is not
written is absent. -/
structure DecimalLiteral where
  negative : Bool
  whole : List Char
  fraction : Option (List Char)
  exponent : Option (Bool × List Char)
  deriving DecidableEq, Inhabited

namespace DecimalLiteral

def digitValue (c : Char) : Nat :=
  c.toNat - '0'.toNat

def natOf (digits : List Char) : Nat :=
  digits.foldl (fun n c => 10 * n + digitValue c) 0

/-- Reads a whole part: a single zero, or digits of which the first is not zero. -/
def scanWhole? : List Char → Option (List Char × List Char)
  | [] => none
  | '0' :: rest => some (['0'], rest)
  | c :: rest =>
      if c.isDigit then some (c :: rest.takeWhile Char.isDigit, rest.dropWhile Char.isDigit)
      else none

def scanDigits? (text : List Char) : Option (List Char × List Char) :=
  match text.takeWhile Char.isDigit with
  | [] => none
  | digits => some (digits, text.dropWhile Char.isDigit)

/-- Reads the fraction, if there is one. -/
def scanFraction? : List Char → Option (Option (List Char) × List Char)
  | '.' :: rest => (scanDigits? rest).map fun (digits, rest) => (some digits, rest)
  | text => some (none, text)

/-- Reads the exponent, if there is one. The flag says that it is negative. -/
def scanExponent? : List Char → Option (Option (Bool × List Char) × List Char)
  | c :: rest =>
      if c = 'e' ∨ c = 'E' then
        let (negative, rest) :=
          match rest with
          | '+' :: rest => (false, rest)
          | '-' :: rest => (true, rest)
          | rest => (false, rest)
        (scanDigits? rest).map fun (digits, rest) => (some (negative, digits), rest)
      else some (none, c :: rest)
  | [] => some (none, [])

/-- Reads a literal at the start of a text, and what follows it. -/
def scan? (text : List Char) : Option (DecimalLiteral × List Char) := do
  let (negative, text) :=
    match text with
    | '-' :: rest => (true, rest)
    | _ => (false, text)
  let (whole, text) ← scanWhole? text
  let (fraction, text) ← scanFraction? text
  let (exponent, text) ← scanExponent? text
  return (⟨negative, whole, fraction, exponent⟩, text)

/-- A significand of at most 64 bits and the power of ten it is to be multiplied
by. -/
structure Scaled where
  significand : Nat
  exponent : Int

/-- Whether a further digit keeps the significand below the limit of 64 bits. -/
def fits (significand digit : Nat) : Bool :=
  significand * 10 + digit < powerOfTwo 64

/-- Takes in the digits of a whole part. From the first digit that does not fit
on, digits only count as powers of ten. -/
def takeWhole : List Char → Scaled → Scaled
  | [], s => s
  | c :: rest, s =>
      if s.exponent = 0 ∧ fits s.significand (digitValue c) then
        takeWhole rest ⟨s.significand * 10 + digitValue c, 0⟩
      else takeWhole rest ⟨s.significand, s.exponent + 1⟩

/-- Takes in the digits of a fraction up to the first that does not fit. -/
def takeFraction : List Char → Scaled → Scaled
  | [], s => s
  | c :: rest, s =>
      if fits s.significand (digitValue c) then
        takeFraction rest ⟨s.significand * 10 + digitValue c, s.exponent - 1⟩
      else s

/-- The magnitude of a power of ten, rounded. -/
def tenPower (n : Nat) : Nat :=
  Binary64.roundRatio (powerOfTen n) 1

/-- The magnitude of a scaled significand, or nothing when it is too large. The
significand is rounded first, and then once more for each multiplication or
division by a power of ten; no power above `10 ^ 308` is used, so an exponent
below `-308` takes two divisions. -/
def Scaled.magnitude? (s : Scaled) : Option Nat :=
  let start := Binary64.roundRatio s.significand 1
  if 308 < s.exponent then
    if s.significand = 0 then some 0 else none
  else if 0 ≤ s.exponent then
    let result := Binary64.product start (tenPower s.exponent.toNat)
    if result < Binary64.infinityBits then some result else none
  else if -308 ≤ s.exponent then
    some (Binary64.quotient start (tenPower (-s.exponent).toNat))
  else
    let once := Binary64.quotient start (tenPower 308)
    if -616 ≤ s.exponent then
      some (Binary64.quotient once (tenPower (-s.exponent - 308).toNat))
    else some 0

/-- The floating number of a literal, or nothing when it is too large. -/
def floating? (l : DecimalLiteral) : Option Binary64 :=
  let s := takeFraction (l.fraction.getD []) (takeWhole l.whole ⟨0, 0⟩)
  let s :=
    match l.exponent with
    | none => s
    | some (negative, digits) =>
        let e : Int := min (natOf digits) (powerOfTwo 31)
        ⟨s.significand, if negative then s.exponent - e else s.exponent + e⟩
  s.magnitude?.map (Binary64.ofMagnitude l.negative)

/-- The number of a literal, or nothing when it is too large. A literal without
fraction and exponent is an integer where it fits in 64 bits, except that the
negative zero is floating. -/
def number? (l : DecimalLiteral) : Option Number :=
  match l.fraction, l.exponent with
  | none, none =>
      let n := natOf l.whole
      if l.negative then
        if 0 < n ∧ n ≤ powerOfTwo 63 then some (.integer (-n)) else l.floating?.map .floating
      else if n < powerOfTwo 64 then some (.integer n)
      else l.floating?.map .floating
  | _, _ => l.floating?.map .floating

end DecimalLiteral

end Relint
