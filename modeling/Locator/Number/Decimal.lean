import Locator.Number.Double

/-!
# Decimal texts of numbers

Reading: `Double.ofText?` accepts digits with an optional point, sign and power of ten, and the words
for infinity and for not-a-number in any case.

Writing: `Double.text` uses the fewest digits that read back as the same number, and among these the
ones nearest to it (of two equally near ones, the larger). It never writes a power of ten.
-/

namespace Locator

/-! ## Whole numbers -/

/-- The value of a digit in a base of at most sixteen. -/
def digitValue? (base : Nat) (c : Char) : Option Nat :=
  let v : Option Nat :=
    if '0' ≤ c ∧ c ≤ '9' then some (c.toNat - '0'.toNat)
    else if 'a' ≤ c ∧ c ≤ 'f' then some (c.toNat - 'a'.toNat + 10)
    else if 'A' ≤ c ∧ c ≤ 'F' then some (c.toNat - 'A'.toNat + 10)
    else none
  v.filter (· < base)

/-- The number that digits stand for, after a number that stands before them. -/
def digitsFrom? (base : Nat) : Nat → List Char → Option Nat
  | acc, [] => some acc
  | acc, c :: r => do
    let d ← digitValue? base c
    digitsFrom? base (base * acc + d) r

/-- The number that digits stand for; there is at least one digit. -/
def natOfDigits? (base : Nat) : List Char → Option Nat
  | [] => none
  | cs => digitsFrom? base 0 cs

/-- A decimal digit. -/
def isDecimalDigit (c : Char) : Bool := decide ('0' ≤ c ∧ c ≤ '9')

/-- A text in lower case, as far as ASCII letters go. -/
def lowered (cs : List Char) : List Char := cs.map Char.toLower

/-! ## Reading -/

/-- The whole number after a sign. -/
def signedNumber? : List Char → Option Int
  | '-' :: r => (natOfDigits? 10 r).map fun n => -(n : Int)
  | '+' :: r => (natOfDigits? 10 r).map Int.ofNat
  | r => (natOfDigits? 10 r).map Int.ofNat

/-- The power of ten that ends a decimal text. -/
def powerSuffix? : List Char → Option Int
  | [] => some 0
  | c :: r => if c = 'e' ∨ c = 'E' then signedNumber? r else none

namespace Double

/-- The number of a decimal text without a sign. -/
def ofUnsigned? (negative : Bool) (cs : List Char) : Option Double :=
  let whole := cs.takeWhile isDecimalDigit
  let rest := cs.dropWhile isDecimalDigit
  let (fraction, rest) := match rest with
    | '.' :: r => (r.takeWhile isDecimalDigit, r.dropWhile isDecimalDigit)
    | _ => ([], rest)
  if lowered cs = "inf".toList ∨ lowered cs = "infinity".toList then some (.infinite negative)
  else if lowered cs = "nan".toList then some .nan
  else do
    let digits ← natOfDigits? 10 (whole ++ fraction)
    let power ← powerSuffix? rest
    pure (ofDecimal negative digits (power - fraction.length))

/-- The number of a decimal text. -/
def ofText? : List Char → Option Double
  | '-' :: r => ofUnsigned? true r
  | '+' :: r => ofUnsigned? false r
  | r => ofUnsigned? false r

/-! ## Writing -/

/-- The exponent of the first decimal digit of a positive ratio. -/
def leadingExponent (num den : Nat) : Int :=
  if den ≤ num then (digitCount (num / den) : Int) - 1
  else -(digitCount ((den - 1) / num) : Int)

/-- The numbers that round to a given one: the ends of the interval, and whether they belong to it;
all as multiples of a quarter of the last bit. -/
structure Neighbourhood where
  /-- The number itself. -/
  value : Nat
  /-- The lower end. -/
  low : Nat
  /-- The upper end. -/
  high : Nat
  /-- The ends round to the number too. -/
  closed : Bool

/-- The numbers that round to `mantissa · 2 ^ exponent`. -/
def neighbourhood (mantissa : Nat) (exponent : Int) : Neighbourhood where
  value := 4 * mantissa
  low :=
    if mantissa = Nat.pow 2 52 ∧ exponent > minExponent then 4 * mantissa - 1
    else 4 * mantissa - 2
  high := 4 * mantissa + 2
  closed := mantissa % 2 = 0

/-- A multiple of a ratio lies in the neighbourhood. -/
def Neighbourhood.holds (n : Neighbourhood) (num den : Nat) : Bool :=
  if n.closed then decide (n.low * den ≤ num ∧ num ≤ n.high * den)
  else decide (n.low * den < num ∧ num < n.high * den)

/-- The decimal with a given number of digits that reads back as the number, if there is one: its
digits and its power of ten. -/
def decimalOf? (mantissa : Nat) (exponent : Int) (count : Nat) : Option (Nat × Int) :=
  let n := neighbourhood mantissa exponent
  let (up, down) := powerOfTwo (exponent - 2)
  let lead := leadingExponent (n.value * up) down
  let place := lead - (count : Int) + 1
  let (tenUp, tenDown) := powerOfTen place
  -- the decimal `d · 10 ^ place` is `d · unit / scale` quarters of the last bit
  let unit := tenUp * down
  let scale := tenDown * up
  let d := n.value * scale / unit
  let below := n.holds (d * unit) scale
  let above := n.holds ((d + 1) * unit) scale
  let nearerAbove := 2 * (n.value * scale) ≥ (2 * d + 1) * unit
  let next := if d + 1 = Nat.pow 10 count then (1, lead + 1) else (d + 1, place)
  if below && above then some (if nearerAbove then next else (d, place))
  else if above then some next
  else if below then some (d, place)
  else none

/-- The shortest decimal that reads back as the number. -/
def shortest (mantissa : Nat) (exponent : Int) : Nat × Int :=
  ((List.range' 1 17).findSome? (decimalOf? mantissa exponent)).getD (0, 0)

/-- A decimal without a power of ten. -/
def positional (digits : Nat) (place : Int) : String :=
  let ds := Nat.toDigits 10 digits
  if place ≥ 0 then String.ofList (ds ++ List.replicate place.toNat '0')
  else
    let places := (-place).toNat
    let padded := List.replicate (places + 1 - ds.length) '0' ++ ds
    let whole := padded.take (padded.length - places)
    let fraction := padded.drop (padded.length - places)
    String.ofList (whole ++ '.' :: fraction)

/-- The number in decimal, with the fewest digits that read back. -/
def text : Double → String
  | finite negative mantissa exponent =>
    let sign := if negative then "-" else ""
    if mantissa = 0 then sign ++ "0"
    else let (digits, place) := shortest mantissa exponent; sign ++ positional digits place
  | infinite negative => if negative then "-inf" else "inf"
  | nan => "NaN"

/-- The number in decimal, with a point even if it is whole. -/
def textWithPoint (d : Double) : String :=
  let t := d.text
  if d.isFinite && !t.toList.contains '.' then t ++ ".0" else t

end Double

end Locator
