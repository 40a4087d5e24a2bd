import MediaScraper.Entity.Names
import MediaScraper.Entity.Reference

/-!
# Character references in HTML

In HTML the semicolon behind a reference may be missing: behind a number always, behind a name if it
is one of the old names. The longest name counts. A name for two characters gives both. Numbers of
the C1 controls are taken as Windows-1252, and a number that is no scalar value gives the
replacement character.

In the value of an attribute an old name without its semicolon is no reference if a letter, a digit
or `=` follows it.
-/

namespace MediaScraper.Html

/-- The replacement character. -/
def replacement : Char := '\uFFFD'

/-- What the numbers from 128 to 159 stand for; zero where nothing is assigned. -/
def windows1252 : List Nat :=
  [0x20AC, 0, 0x201A, 0x192, 0x201E, 0x2026, 0x2020, 0x2021, 0x2C6, 0x2030, 0x160, 0x2039, 0x152, 0,
    0x17D, 0, 0, 0x2018, 0x2019, 0x201C, 0x201D, 0x2022, 0x2013, 0x2014, 0x2DC, 0x2122, 0x161,
    0x203A, 0x153, 0, 0x17E, 0x178]

/-- The character that a number stands for. -/
def ofNumber (n : Nat) : Char :=
  if n = 0 ∨ ¬ n.isValidChar then replacement
  else
    match windows1252[n - 0x80]? with
    | some m => if n < 0x80 ∨ m = 0 then Char.ofNat n else Char.ofNat m
    | none => Char.ofNat n

/-- The characters that a name with a semicolon stands for. -/
def named? (name : List Char) : Option (List Char) :=
  match Entity.predefined? name with
  | some c => some [c]
  | none =>
    let name := String.ofList name
    ((Entity.single.lookup name).map fun n => [Char.ofNat n]) <|>
      (Entity.double.lookup name).map fun p => [Char.ofNat p.1, Char.ofNat p.2]

/-- The longest old name at the beginning of a text, of at most `length` characters. -/
def oldName? (cs : List Char) : Nat → Option (List Char)
  | 0 => none
  | n + 1 =>
    let name := cs.take (n + 1)
    if name.length = n + 1 ∧ Entity.legacy.contains (.ofList name) then some name else oldName? cs n

/-- A letter or a digit of ASCII. -/
def isAlphanumeric (c : Char) : Bool := c.isAlphanum

/-- The reference by number that stands behind `#`. -/
def numbered? (base : Nat) (cs : List Char) : Option (List Char × Nat) :=
  let digits := cs.takeWhile fun c => (Numeral.digit? base c).isSome
  if digits.isEmpty then none
  else
    let value := ((Numeral.valueFrom? base 0 digits).getD 0)
    let length := digits.length + if (cs.drop digits.length).head? = some ';' then 1 else 0
    some ([ofNumber value], length)

/-- The reference by name that stands behind `&`. -/
def namedReference? (inAttribute : Bool) (cs : List Char) : Option (List Char × Nat) :=
  let (run, rest) := cs.span isAlphanumeric
  let closed := if rest.head? = some ';' then named? run else none
  match closed with
  | some value => some (value, run.length + 1)
  | none => do
    let name ← oldName? run 6
    let value ← named? name
    match (cs.drop name.length).head? with
    | some c =>
      if inAttribute ∧ (c = '=' ∨ isAlphanumeric c) then none else some (value, name.length)
    | none => some (value, name.length)

/-- The reference at the beginning of a text: what it stands for, and its length. -/
def reference? (inAttribute : Bool) : List Char → Option (List Char × Nat)
  | '&' :: '#' :: 'x' :: cs => (numbered? 16 cs).map fun r => (r.1, r.2 + 3)
  | '&' :: '#' :: 'X' :: cs => (numbered? 16 cs).map fun r => (r.1, r.2 + 3)
  | '&' :: '#' :: cs => (numbered? 10 cs).map fun r => (r.1, r.2 + 2)
  | '&' :: cs => (namedReference? inAttribute cs).map fun r => (r.1, r.2 + 1)
  | _ => none

/-- Write the characters in place of the references. -/
def unescape (inAttribute : Bool) (s : List Char) : List Char :=
  Text.replaceTokens (reference? inAttribute) id s

end MediaScraper.Html
