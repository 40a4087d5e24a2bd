import MediaScraper.Decimal.Double

/-!
# The shortest decimal of a number

Every decimal near a number of double precision is read as that number. Its text is the shortest
such decimal, of those with as many digits the nearest one, and of two that are equally near the
even one.

**How it is found.** In units of a quarter of the last place, the decimals that are read as `m` lie
from `4 m - 2` to `4 m + 2`; below a power of two the distance is half of that. The ends count if
`m` is even, because a tie goes to the even number. For one digit, two digits and so on, the two
neighbours of the number on the grid of decimals with so many digits are tried.
-/

namespace MediaScraper

/-- The decimal `coefficient * 10 ^ exponent`. -/
structure Decimal where
  coefficient : Nat
  exponent : Int
deriving DecidableEq

namespace Decimal

/-- How decimals are written out. -/
structure Style where
  /-- The least power of ten that a number written without an exponent may begin at. -/
  leastPower : Int
  /-- The least power of ten that is too great for this. -/
  greatPower : Int

/-- The digits of a decimal, without zeros at their end. -/
def digits (d : Decimal) : List Char :=
  ((toString d.coefficient).toList.reverse.dropWhile (· = '0')).reverse

/-- The power of ten that the first digit stands for. -/
def power (d : Decimal) : Int := d.exponent + (toString d.coefficient).length - 1

/-- The text of a decimal that is not zero. -/
def render (style : Style) (d : Decimal) : String :=
  let digits := d.digits
  let power := d.power
  let zeros (n : Int) : List Char := .replicate n.toNat '0'
  .ofList <|
    if style.leastPower ≤ power ∧ power < style.greatPower then
      if power < 0 then "0.".toList ++ zeros (-power - 1) ++ digits
      else
        let whole := digits.take (power.toNat + 1)
        let rest := digits.drop (power.toNat + 1)
        whole ++ zeros (power + 1 - digits.length) ++ '.' :: if rest.isEmpty then ['0'] else rest
    else
      let first := digits.take 1
      let rest := digits.drop 1
      let sign := if power < 0 then '-' else '+'
      first ++ (if rest.isEmpty then [] else '.' :: rest) ++
        'e' :: sign :: (toString power.natAbs).toList

end Decimal

namespace Double

/-- A number and the decimals that are read as it, in quarters of the last place. -/
structure Surroundings where
  low : Nat
  value : Nat
  high : Nat
  includesEnds : Bool

def surroundings (x : Double) : Surroundings :=
  let isEdge := x.significand = Nat.pow 2 52 ∧ minExponent < x.exponent
  let m := 4 * x.significand
  ⟨if isEdge then m - 1 else m - 2, m, m + 2, x.significand % 2 = 0⟩

/-- The greatest power of ten below a ratio that is less than one, counted from one down. -/
def powerBelow (num den : Nat) : Nat → Nat → Nat
  | 0, j => j
  | fuel + 1, j => if den ≤ num * Nat.pow 10 j then j else powerBelow num den fuel (j + 1)

/-- The power of ten that a ratio begins at. -/
def powerOf (num den : Nat) : Int :=
  if den ≤ num then (toString (num / den)).length - 1 else -powerBelow num den 400 1

/-- The nearest decimal to a number among those with `n` digits, the first one for `power`, if it is
read as that number. -/
def decimal? (x : Double) (power : Int) (n : Nat) : Option Decimal :=
  let s := x.surroundings
  let exponent := power - n + 1
  -- The decimal `c` is compared with `k` quarters as `c * a` with `k * b`.
  let (b, a) := ratio 1 (x.exponent - 2)
  let (a, b) := match exponent with
    | .ofNat e => (a * Nat.pow 10 e, b)
    | .negSucc e => (a, b * Nat.pow 10 (e + 1))
  let fits (c : Nat) : Bool :=
    if s.includesEnds then s.low * b ≤ c * a && c * a ≤ s.high * b
    else s.low * b < c * a && c * a < s.high * b
  let c := s.value * b / a
  let below := s.value * b - c * a
  let above := (c + 1) * a - s.value * b
  let isLowNearer := if below = above then c % 2 = 0 else below < above
  let choices := if isLowNearer then [c, c + 1] else [c + 1, c]
  (choices.find? fits).map fun c => ⟨c, exponent⟩

/-- The shortest decimal that is read as a number which is not zero. Seventeen digits are always
enough. -/
def shortest (x : Double) : Decimal :=
  let (num, den) := ratio x.significand x.exponent
  let power := powerOf num den
  (((List.range 17).map (· + 1)).findSome? (x.decimal? power)).getD ⟨x.significand, 0⟩

/-- The text of a number. -/
def render (style : Decimal.Style) (x : Double) : String :=
  if x.significand = 0 then "0.0" else x.shortest.render style

end Double
end MediaScraper
