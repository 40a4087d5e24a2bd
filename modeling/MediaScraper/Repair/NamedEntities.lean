import MediaScraper.Entity.Reference

/-!
# Named references that XML does not know

Libraries use the names of HTML, such as `&Iacute;`, which XML does not declare. The characters are
written in their place, escaped where they would open markup. The five names of XML stay.
-/

namespace MediaScraper.Repair.NamedEntities

/-- The named reference at the beginning of a text: a letter, then letters and digits. -/
def name? : List Char → Option (List Char × Nat)
  | '&' :: c :: cs =>
    if c.isAlpha then
      let (more, rest) := cs.span Char.isAlphanum
      match rest with
      | ';' :: _ => some (c :: more, more.length + 3)
      | _ => none
    else none
  | _ => none

/-- What is written for a named reference. -/
def write (name : List Char) : List Char :=
  let source := '&' :: name ++ [';']
  match Entity.predefined? name with
  | some _ => source
  | none =>
    match Entity.named? name with
    | some c => Entity.escapeChar c
    | none => source

/-- Write the characters of the named references of a text. -/
def decode (s : List Char) : List Char := Text.replaceTokens name? write s

end MediaScraper.Repair.NamedEntities
