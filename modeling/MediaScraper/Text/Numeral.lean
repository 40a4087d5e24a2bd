/-!
# Numerals

Whole numbers written in digits. A number that a machine word of 64 bits cannot hold is refused,
and so is a text that holds anything but digits after an optional plus sign.
-/

namespace MediaScraper.Numeral

/-- The value of a digit in bases up to 36; letters of either case count from ten. -/
def digit? (base : Nat) (c : Char) : Option Nat :=
  let v :=
    if c.isDigit then c.toNat - '0'.toNat
    else if 'a' ≤ c ∧ c ≤ 'z' then c.toNat - 'a'.toNat + 10
    else if 'A' ≤ c ∧ c ≤ 'Z' then c.toNat - 'A'.toNat + 10
    else base
  if v < base then some v else none

/-- The number that the digits spell, read on from `n`. -/
def valueFrom? (base n : Nat) : List Char → Option Nat
  | [] => some n
  | c :: cs =>
    match digit? base c with
    | some d => valueFrom? base (n * base + d) cs
    | none => none

/-- The greatest number of a word of 64 bits. -/
def maxWord : Nat := 0xFFFFFFFFFFFFFFFF

/-- Why a numeral is refused. -/
inductive Fault where
  | empty
  | invalidDigit
  | tooLarge
deriving DecidableEq

def Fault.message : Fault → String
  | .empty => "cannot parse integer from empty string"
  | .invalidDigit => "invalid digit found in string"
  | .tooLarge => "number too large to fit in target type"

/-- Read on from `n` below a bound. A digit that does not belong is reported before the number it
would make too large. -/
def readFrom (base bound n : Nat) : List Char → Except Fault Nat
  | [] => .ok n
  | c :: cs =>
    match digit? base c with
    | none => .error .invalidDigit
    | some d =>
      if n * base + d ≤ bound then readFrom base bound (n * base + d) cs else .error .tooLarge

/-- Read digits without a sign. -/
def readUnsigned (base bound : Nat) (s : List Char) : Except Fault Nat :=
  if s.isEmpty then .error .empty else readFrom base bound 0 s

/-- Read a number of at most 64 bits in decimal, with an optional plus sign. -/
def readWord (s : List Char) : Except Fault Nat :=
  match s with
  | '+' :: rest => if rest.isEmpty then .error .invalidDigit else readUnsigned 10 maxWord rest
  | _ => readUnsigned 10 maxWord s

def word? (s : List Char) : Option Nat := (readWord s).toOption

end MediaScraper.Numeral
