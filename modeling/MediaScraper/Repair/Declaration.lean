import MediaScraper.Unicode.Blank
import MediaScraper.Text.Search
import MediaScraper.Text.Segment
import MediaScraper.Unicode.Word

/-!
# The XML declaration

Libraries carry declarations such as `<?xml version="1.0" generator="…"?>`. The declaration knows
the attributes `version`, `encoding` and `standalone` only, so the others are dropped; the ones kept
are written as they were, one space apart. A declaration that keeps none becomes `<?xml
version="1.0"?>`.

A declaration is `<?xml`, then `?>`, with nothing between them or a blank and anything but a
question mark.
-/

namespace MediaScraper.Repair.Declaration

/-- The names of the attributes that are kept, in small letters. -/
def knownNames : List (List Char) :=
  ["version".toList, "encoding".toList, "standalone".toList]

/-! ## Attributes -/

/-- An attribute of a declaration: its name and all of its text. -/
structure Attribute where
  name : List Char
  source : List Char

def isNameStart (c : Char) : Bool := c.isAlpha || c = '_' || c = ':'

def isNameChar (c : Char) : Bool := c = '-' || isWordChar c || c = '.' || c = ':'

/-- The quoted value at the beginning of a text, with its quotes. -/
def quoted? : List Char → Option (List Char)
  | [] => none
  | q :: cs =>
    if q = '"' ∨ q = '\'' then
      let (value, rest) := cs.span (· ≠ q)
      match rest with
      | [] => none
      | _ :: _ => some (q :: value ++ [q])
    else none

/-- The attribute at the beginning of a text: a name, `=` and a quoted value, with blanks around
`=`. -/
def attribute? : List Char → Option (Attribute × Nat)
  | [] => none
  | c :: cs =>
    if isNameStart c then
      let (more, rest) := cs.span isNameChar
      let (gap, rest) := rest.span isBlank
      match rest with
      | '=' :: rest =>
        let (gap', rest) := rest.span isBlank
        match quoted? rest with
        | some value =>
          let source := c :: more ++ gap ++ '=' :: gap' ++ value
          some (⟨c :: more, source⟩, source.length)
        | none => none
      | _ => none
    else none

/-- Is the attribute one that a declaration knows? -/
def Attribute.isKnown (a : Attribute) : Bool := knownNames.any (Text.eqIgnoringCase a.name)

/-! ## Declarations -/

/-- The text between `<?xml` and `?>` of the declaration at the beginning of a text. -/
def declaration? (s : List Char) : Option (List Char × Nat) :=
  match "<?xml".toList.isPrefixOf? s with
  | none => none
  | some rest =>
    let (body, rest) := rest.span (· ≠ '?')
    let fits := match body with
      | [] => true
      | c :: _ => isBlank c
    match rest with
    | '?' :: '>' :: _ => if fits then some (body, body.length + 7) else none
    | _ => none

/-- A declaration with the known attributes among these. -/
def write (body : List Char) : List Char :=
  match (Text.tokens attribute? body).filter (·.isKnown) with
  | [] => "<?xml version=\"1.0\"?>".toList
  | kept => "<?xml ".toList ++ List.intercalate [' '] (kept.map (·.source)) ++ "?>".toList

/-- Repair every declaration of a text. -/
def fix (s : List Char) : List Char := Text.replaceTokens declaration? write s

end MediaScraper.Repair.Declaration
