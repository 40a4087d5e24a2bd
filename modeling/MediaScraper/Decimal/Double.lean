/-!
# Numbers of double precision

A number of double precision is a significand of 53 bits times a power of two. Only what is at least
zero is held here; a sign is kept beside it. A ratio of natural numbers is rounded to the nearest
such number, and to the one with the even significand where two are equally near; all operations
round in this way.
-/

namespace MediaScraper

/-- The number `significand * 2 ^ exponent`. -/
structure Double where
  significand : Nat
  exponent : Int
deriving DecidableEq

namespace Double

/-- The exponent of the smallest numbers. -/
def minExponent : Int := -1074

/-- The exponent of the greatest numbers. -/
def maxExponent : Int := 971

def zero : Double := ⟨0, minExponent⟩

/-- A quotient, rounded to the nearest number, and to the even one of two. -/
def roundDiv (num den : Nat) : Nat :=
  let q := num / den
  let r := num % den
  if 2 * r < den then q else if den < 2 * r then q + 1 else q + q % 2

/-- The numerator and the denominator of `n * 2 ^ e`. -/
def ratio (n : Nat) : Int → Nat × Nat
  | .ofNat e => (n * Nat.pow 2 e, 1)
  | .negSucc e => (n, Nat.pow 2 (e + 1))

/-- The exponent that gives a ratio a quotient of 53 bits, or the smallest exponent. -/
def exponentOf (num den : Nat) : Int :=
  let e : Int := num.log2 - den.log2 - 52
  let (n, d) := ratio num (-e)
  max minExponent (if n / (d * den) < Nat.pow 2 52 then e - 1 else e)

/-- The nearest number to a ratio; there is none if the ratio is too great. -/
def ofRatio? (num den : Nat) : Option Double :=
  if num = 0 then some zero
  else
    let e := exponentOf num den
    let (n, d) := ratio num (-e)
    let m := roundDiv n (d * den)
    let x : Double := if m = Nat.pow 2 53 then ⟨Nat.pow 2 52, e + 1⟩ else ⟨m, e⟩
    if x.exponent ≤ maxExponent then some x else none

/-- The nearest number to a natural number. -/
def ofNat? (n : Nat) : Option Double := ofRatio? n 1

/-- The product with a power of ten. -/
def mulTen? (x : Double) (power : Nat) : Option Double := do
  let ten ← ofNat? (Nat.pow 10 power)
  let (num, den) := ratio (x.significand * ten.significand) (x.exponent + ten.exponent)
  ofRatio? num den

/-- The quotient by a power of ten. -/
def divTen? (x : Double) (power : Nat) : Option Double := do
  let ten ← ofNat? (Nat.pow 10 power)
  let (num, den) := ratio x.significand (x.exponent - ten.exponent)
  ofRatio? num (den * ten.significand)

/-- The greatest power of ten among the numbers. -/
def maxPower : Nat := 308

/-- The number that a decimal with these digits and this exponent is read as. The digits are rounded
first, and then the power of ten is applied, so that the result need not be the nearest one. A
number that is too great is refused. -/
def ofDecimal? (digits : Nat) (exponent : Int) : Option Double := do
  let x ← ofNat? digits
  match exponent with
  | .ofNat e => if e ≤ maxPower then x.mulTen? e else if x.significand = 0 then some zero else none
  | .negSucc e =>
    let e := e + 1
    if e ≤ maxPower then x.divTen? e
    else if e ≤ 2 * maxPower then (← x.divTen? maxPower).divTen? (e - maxPower)
    else some zero

end Double
end MediaScraper
