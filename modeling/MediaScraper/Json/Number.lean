import MediaScraper.Decimal.Shortest
import MediaScraper.Json.Cursor
import MediaScraper.Text.Numeral

/-!
# Numbers in JSON

A whole number that a machine word can hold is kept as it is; every other number becomes one of
double precision. Of its digits those count that a machine word can hold.
-/

namespace MediaScraper.Json

inductive Number where
  | natural (n : Nat)
  | negative (n : Nat)
  | double (isNegative : Bool) (x : Double)

namespace Number

/-- Numbers from `0.00001` up to ten to the sixteenth are written without an exponent. -/
def style : Decimal.Style := ⟨-5, 16⟩

def render : Number → String
  | .natural n => toString n
  | .negative n => "-" ++ toString n
  | .double isNegative x => (if isNegative then "-" else "") ++ x.render style

/-- Append digits to a number while a machine word can hold it, and count the digits that could be
appended. -/
def extend (n count : Nat) : List Char → Nat × Nat
  | [] => (n, count)
  | c :: cs =>
    let m := n * 10 + (c.toNat - '0'.toNat)
    if m ≤ Numeral.maxWord then extend m (count + 1) cs else (n, count)

/-- The greatest exponent that is read in full. -/
def maxExponent : Nat := 0x7FFFFFFF

open Reader

/-- The number with these digits and this exponent. -/
def ofParts (isNegative : Bool) (digits : Nat) (exponent : Int) : Reader Number :=
  match Double.ofDecimal? digits exponent with
  | some x => pure (.double isNegative x)
  | none => faultHere .numberTooGreat

/-- Read the digits of an exponent on from `n`; `none` stands for an exponent that is too great. -/
def readExponentFrom (stopsWhenTooGreat : Bool) : Nat → Nat → Reader (Option Nat)
  | 0, n => pure (some n)
  | fuel + 1, n => do
    match ← peek with
    | some c =>
      if c.isDigit then
        skip
        let m := n * 10 + (c.toNat - '0'.toNat)
        if m ≤ maxExponent then readExponentFrom stopsWhenTooGreat fuel m
        else if stopsWhenTooGreat then faultHere .numberTooGreat
        else
          let _ ← takeWhile Char.isDigit
          return none
      else return some n
    | none => return some n

/-- Read an exponent, whose letter comes next. -/
def readExponent (isNegative : Bool) (digits : Nat) (exponent : Int) : Reader Number := do
  skip
  let sign ← peek
  if sign = some '+' ∨ sign = some '-' then skip
  let shrinks := sign = some '-'
  match ← next with
  | none => faultHere .endInValue
  | some c =>
    if c.isDigit then
      let fuel := (← get).rest.length
      match ← readExponentFrom (digits ≠ 0 ∧ ¬ shrinks) fuel (c.toNat - '0'.toNat) with
      | some n => ofParts isNegative digits (if shrinks then exponent - n else exponent + n)
      | none => return .double isNegative .zero
    else faultHere .badNumber

/-- Read what follows the digits of a decimal. -/
def readBehindDigits (isNegative : Bool) (digits : Nat) (exponent : Int) : Reader Number := do
  match ← peek with
  | some 'e' | some 'E' => readExponent isNegative digits exponent
  | _ => ofParts isNegative digits exponent

/-- Read the places behind a point, which comes next. -/
def readPlaces (isNegative : Bool) (digits : Nat) (exponent : Int) : Reader Number := do
  skip
  let places ← takeWhile Char.isDigit
  if places.isEmpty then
    match ← peek with
    | some _ => faultNext .badNumber
    | none => faultNext .endInValue
  else
    let (digits, count) := extend digits 0 places
    readBehindDigits isNegative digits (exponent - count)

/-- The number that digits without point and exponent stand for. -/
def ofWhole (isNegative : Bool) (n : Nat) : Reader Number :=
  if isNegative then
    if 0 < n ∧ n ≤ 0x8000000000000000 then pure (.negative n) else ofParts true n 0
  else pure (.natural n)

/-- Read a number behind its sign. -/
def read (isNegative : Bool) : Reader Number := do
  match ← peek with
  | none => faultHere .endInValue
  | some first =>
    if first.isDigit then
      let run ← if first = '0' then do skip; pure ['0'] else takeWhile Char.isDigit
      let (digits, count) := extend 0 0 run
      let dropped := run.length - count
      match ← peek with
      | some '.' => readPlaces isNegative digits dropped
      | some 'e' | some 'E' => readExponent isNegative digits dropped
      | some c =>
        if first = '0' ∧ c.isDigit then faultNext .badNumber
        else if dropped = 0 then ofWhole isNegative digits
        else ofParts isNegative digits dropped
      | none => if dropped = 0 then ofWhole isNegative digits else ofParts isNegative digits dropped
    else
      skip
      faultHere .badNumber

end Number
end MediaScraper.Json
