/-!
# Floating-point numbers, exactly

A number of 64 bits as a mantissa and a power of two, without rounding anywhere but in `ofDecimal`,
which takes the nearest number of the format (of two equally near ones, that with the even
mantissa).

* `roundedQuotient` is the one place where something is rounded.
* `ofRatio`, `ofDecimal`: the number of the format that is nearest to a given one.
-/

namespace Locator

/-- A floating-point number of 64 bits. -/
inductive Double where
  /-- The number `± mantissa · 2 ^ exponent`. -/
  | finite (negative : Bool) (mantissa : Nat) (exponent : Int)
  /-- Beyond all finite numbers. -/
  | infinite (negative : Bool)
  /-- Not a number. -/
  | nan
deriving DecidableEq, Repr

/-- A quotient rounded to the nearest whole number, a tie to the even one. -/
def roundedQuotient (num den : Nat) : Nat :=
  let q := num / den
  let r := num % den
  if 2 * r < den then q
  else if 2 * r > den then q + 1
  else if q % 2 = 0 then q else q + 1

/-- A power of two as a ratio of whole numbers. -/
def powerOfTwo (e : Int) : Nat × Nat := (Nat.pow 2 e.toNat, Nat.pow 2 (-e).toNat)

/-- A power of ten as a ratio of whole numbers. -/
def powerOfTen (e : Int) : Nat × Nat := (Nat.pow 10 e.toNat, Nat.pow 10 (-e).toNat)

namespace Double

/-- The exponent of the smallest numbers. -/
def minExponent : Int := -1074

/-- The exponent of the largest numbers. -/
def maxExponent : Int := 971

/-- The exponent at which a ratio fills a mantissa of 53 bits, or the smallest exponent. -/
def exponentOf (num den : Nat) : Int :=
  let guess : Int := (num.log2 : Int) - (den.log2 : Int) - 52
  let (up, down) := powerOfTwo guess
  let e := if Nat.pow 2 52 * den * up ≤ num * down then guess else guess - 1
  max e minExponent

/-- The number nearest to a positive ratio. -/
def ofRatio (negative : Bool) (num den : Nat) : Double :=
  let e := exponentOf num den
  let (up, down) := powerOfTwo e
  let m := roundedQuotient (num * down) (den * up)
  let (m, e) := if m = Nat.pow 2 53 then (Nat.pow 2 52, e + 1) else (m, e)
  if e > maxExponent then .infinite negative else .finite negative m e

/-- The number of decimal digits. -/
def digitCount (n : Nat) : Nat := (Nat.toDigits 10 n).length

/-- The number nearest to `± digits · 10 ^ exponent`. -/
def ofDecimal (negative : Bool) (digits : Nat) (exponent : Int) : Double :=
  let magnitude : Int := exponent + digitCount digits
  if digits = 0 ∨ magnitude < -330 then .finite negative 0 minExponent
  else if magnitude > 310 then .infinite negative
  else
    let (up, down) := powerOfTen exponent
    ofRatio negative (digits * up) down

/-- The number is finite. -/
def isFinite : Double → Bool
  | finite .. => true
  | _ => false

end Double

end Locator
