import MediaScraper.Entity.Escape
import MediaScraper.Entity.Names
import MediaScraper.Text.Numeral
import MediaScraper.Text.Segment

/-!
# Character references

A reference stands between `&` and `;` and names a character: by one of the names of HTML, or by its
number after `#` (in base sixteen after `#x`). A name that stands for two characters is read as the
first of them. What resolves to no character stays as it is written.
-/

namespace MediaScraper.Entity

/-- The character that a name stands for, or the first of two. -/
def named? (name : List Char) : Option Char :=
  predefined? name <|>
    (single.lookup (.ofList name)).map Char.ofNat <|>
    (double.lookup (.ofList name)).map fun p => Char.ofNat p.1

/-- A control character that no reference may name. -/
def isForbiddenControl (n : Nat) : Bool := n < 0x20 && !(n = 0x9 || n = 0xA || n = 0xC || n = 0xD)

/-- The character of this number, if it is a scalar value and no forbidden control. -/
def ofNumber? (n : Nat) : Option Char :=
  if n.isValidChar ∧ !isForbiddenControl n then some (Char.ofNat n) else none

/-- The character of the number that digits spell. -/
def numbered? (base : Nat) (digits : List Char) : Option Char :=
  (Numeral.readUnsigned base 0xFFFFFFFF digits).toOption.bind ofNumber?

/-- The character that the text between `&` and `;` stands for. -/
def resolve? : List Char → Option Char
  | '#' :: 'x' :: digits => numbered? 16 digits
  | '#' :: 'X' :: digits => numbered? 16 digits
  | '#' :: digits => numbered? 10 digits
  | name => named? name

/-- The reference that stands at the beginning of a text. -/
def reference? : List Char → Option (Char × Nat)
  | '&' :: cs =>
    let (body, rest) := cs.span fun c => c ≠ '&' && c ≠ ';'
    match rest with
    | ';' :: _ => (resolve? body).map fun c => (c, body.length + 2)
    | _ => none
  | _ => none

/-- Write the characters in place of the references. -/
def unescape (s : List Char) : List Char := Text.replaceTokens reference? (fun c => [c]) s

end MediaScraper.Entity
