import Relint.Decimal.Literal

/-!
What a YAML scalar without quotes denotes. Null, the truth values and numbers have
their spellings, and every other text is a string.
-/

namespace Relint

namespace Yaml

/-- What an unquoted scalar denotes. Integers may have up to 128 bits, although a
value holds 64 only. -/
inductive Plain where
  | null
  | bool (b : Bool)
  | integer (n : Int)
  | floating (x : Binary64)
  | notFinite
  | string
  deriving DecidableEq

def digitIn? (base : Nat) (c : Char) : Option Nat :=
  let value :=
    if '0' ≤ c ∧ c ≤ '9' then c.toNat - '0'.toNat
    else if 'a' ≤ c ∧ c ≤ 'f' then c.toNat - 'a'.toNat + 10
    else if 'A' ≤ c ∧ c ≤ 'F' then c.toNat - 'A'.toNat + 10
    else base
  if value < base then some value else none

/-- The natural that some digits denote; there must be at least one. -/
def natIn? (base : Nat) (digits : List Char) : Option Nat :=
  if digits.isEmpty then none
  else digits.foldlM (fun n c => (digitIn? base c).map (base * n + ·)) 0

/-- Whether a text is a zero with further digits behind it. Such a text is a string
although all of it are digits. -/
def hasIdleZero (text : List Char) : Bool :=
  let digits :=
    match text with
    | '+' :: rest | '-' :: rest => rest
    | _ => text
  match digits with
  | '0' :: c :: rest => (c :: rest).all Char.isDigit
  | _ => false

/-- The natural of a text without sign: decimal, or behind a mark for the base. -/
def unsigned? : List Char → Option Nat
  | '0' :: 'x' :: digits => natIn? 16 digits
  | '0' :: 'o' :: digits => natIn? 8 digits
  | '0' :: 'b' :: digits => natIn? 2 digits
  | digits => natIn? 10 digits

/-- The integer that a text denotes, if it is one of at most 128 bits. -/
def integer? (text : List Char) : Option Int :=
  if hasIdleZero text then none
  else
    match text with
    | '-' :: rest => do
        let n ← unsigned? rest
        if n ≤ powerOfTwo 127 then return -n else none
    | '+' :: rest => (unsigned? rest).bind fun n => if n < powerOfTwo 128 then some n else none
    | _ => (unsigned? text).bind fun n => if n < powerOfTwo 128 then some n else none

/-- The magnitude of a decimal, rounded once. Exponents that put it out of reach in
any case are cut off before a power of ten is computed. -/
def decimalMagnitude (significand : Nat) (exponent : Int) : Nat :=
  let digits : Int := (Nat.toDigits 10 significand).length
  if significand = 0 ∨ digits + exponent < -400 then 0
  else if 400 < digits + exponent then Binary64.infinityBits
  else if 0 ≤ exponent then Binary64.roundRatio (significand * powerOfTen exponent.toNat) 1
  else Binary64.roundRatio significand (powerOfTen (-exponent).toNat)

/-- The exponent at the end of a decimal, zero when there is none. -/
def exponentOf? : List Char → Option Int
  | [] => some 0
  | e :: rest =>
      if e = 'e' ∨ e = 'E' then
        match rest with
        | '-' :: digits => (natIn? 10 digits).map fun n => -n
        | '+' :: digits => (natIn? 10 digits).map fun n => n
        | digits => (natIn? 10 digits).map fun n => n
      else none

/-- The finite number that a text denotes: digits with a point anywhere among or
beside them, and an exponent. -/
def decimal? (text : List Char) : Option Binary64 := do
  let (negative, text) :=
    match text with
    | '-' :: rest => (true, rest)
    | _ => (false, text)
  let whole := text.takeWhile Char.isDigit
  let (fraction, text) :=
    match text.dropWhile Char.isDigit with
    | '.' :: rest => (rest.takeWhile Char.isDigit, rest.dropWhile Char.isDigit)
    | rest => ([], rest)
  let exponent ← exponentOf? text
  let significand ← natIn? 10 (whole ++ fraction)
  let magnitude := decimalMagnitude significand (exponent - fraction.length)
  if magnitude < Binary64.infinityBits then return Binary64.ofMagnitude negative magnitude
  else none

/-- The floating number that a text denotes, finite or not. -/
def floating? (text : String) : Option Plain :=
  if [".inf", ".Inf", ".INF", "+.inf", "+.Inf", "+.INF", "-.inf", "-.Inf", "-.INF", ".nan", ".NaN",
      ".NAN"].contains text then
    some .notFinite
  else
    let unsigned :=
      match text.toList with
      | '+' :: '-' :: _ => none
      | '+' :: rest => some rest
      | chars => some chars
    (unsigned.bind decimal?).map .floating

def Plain.ofText (text : String) : Plain :=
  if ["", "null", "Null", "NULL", "~"].contains text then .null
  else if ["true", "True", "TRUE"].contains text then .bool true
  else if ["false", "False", "FALSE"].contains text then .bool false
  else
    match integer? text.toList with
    | some n => .integer n
    | none =>
        if hasIdleZero text.toList then .string
        else (floating? text).getD .string

end Yaml

end Relint
