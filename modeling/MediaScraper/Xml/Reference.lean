import MediaScraper.Entity.Escape
import MediaScraper.Text.Search
import MediaScraper.Xml.Error

/-!
# References in markup

Texts and attribute values write characters as references: by one of five names, or by number. A
number is decimal, or in base sixteen after a small `x`. Every `&` opens a reference, which the next
`;` closes; a `&` that comes before leaves the first one unclosed.
-/

namespace MediaScraper.Xml

/-- The character of the number that digits spell. -/
def numbered (base : Nat) (digits : List Char) : Except ReferenceError Char :=
  match digits with
  | '+' :: _ | '-' :: _ => .error .signedNumber
  | _ =>
    match Numeral.readUnsigned base 0xFFFFFFFF digits with
    | .error fault => .error (.badNumber fault)
    | .ok n =>
      if n = 0 then .error .zero
      else if n.isValidChar then .ok (Char.ofNat n) else .error (.notScalar n)

/-- The character that a reference at a place stands for, given what is between `&` and `;`. -/
def resolve (position : Nat) (body : List Char) : Except ReferenceError Char :=
  match body with
  | '#' :: 'x' :: digits => numbered 16 digits
  | '#' :: digits => numbered 10 digits
  | name =>
    match Entity.predefined? name with
    | some c => .ok c
    | none =>
      .error (.unknownName (position + 1) (position + 1 + Text.byteLength name) (.ofList name))

/-- Read on from a place of a text of `size` bytes. `skip` characters still belong to the last
reference; `out` is what has been read, in reverse. -/
def unescapeFrom (size position : Nat) (out : List Char) :
    Nat → List Char → Except ReferenceError (List Char)
  | _, [] => .ok out.reverse
  | skip + 1, c :: cs => unescapeFrom size (position + c.utf8Size) out skip cs
  | 0, c :: cs =>
    if c = '&' then
      let body := cs.takeWhile fun d => d ≠ '&' && d ≠ ';'
      match cs.drop body.length with
      | ';' :: _ =>
        match resolve position body with
        | .ok d => unescapeFrom size (position + 1) (d :: out) (body.length + 1) cs
        | .error e => .error e
      | _ => .error (.unclosed position size)
    else unescapeFrom size (position + c.utf8Size) (c :: out) 0 cs

/-- Write the characters in place of the references of a text. -/
def unescape (s : List Char) : Except ReferenceError (List Char) :=
  unescapeFrom (Text.byteLength s) 0 [] 0 s

end MediaScraper.Xml
