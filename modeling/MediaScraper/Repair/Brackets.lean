/-!
# Brackets in attribute values

Libraries write `<` and `>` plainly in attribute values. A reading of the text from the left tells
where values are: outside of tags, comments, CDATA sections, instructions and declarations are
passed over verbatim; a `<` opens a tag, a quote in a tag opens a value, and the same quote closes
it. Brackets inside of values are escaped, and nothing else changes.
-/

namespace MediaScraper.Repair.Brackets

/-- Where the reading stands. -/
inductive Place where
  | text
  | tag
  /-- In a value that this quote closes. -/
  | value (quote : Char)
  /-- In a verbatim stretch, with so many characters behind the next one. -/
  | verbatim (left : Nat)

/-- The openers and closers of what is passed over verbatim; an earlier pair takes precedence. -/
def verbatimPairs : List (List Char × List Char) :=
  [("<!--".toList, "-->".toList), ("<![CDATA[".toList, "]]>".toList), ("<?".toList, "?>".toList),
    ("<!".toList, ">".toList)]

/-- The number of characters up to the end of the first `closer`, or to the end of the text. -/
def lengthThrough (closer : List Char) (seen : Nat) : List Char → Nat
  | [] => seen
  | c :: cs =>
    if closer.isPrefixOf (c :: cs) then seen + closer.length else lengthThrough closer (seen + 1) cs

/-- The length of the verbatim stretch at the beginning of a text. -/
def verbatim? (s : List Char) : Option Nat :=
  verbatimPairs.findSome? fun (opener, closer) =>
    (opener.isPrefixOf? s).map (lengthThrough closer opener.length)

/-- How a character of a value is written. -/
def escapeBracket : Char → List Char
  | '<' => ['&', 'l', 't', ';']
  | '>' => ['&', 'g', 't', ';']
  | c => [c]

/-- The place after a character outside of verbatim stretches, given what follows it. -/
def Place.next (c : Char) (cs : List Char) : Place → Place
  | .text =>
    if c = '<' then
      match verbatim? (c :: cs) with
      | some n => if n ≤ 1 then .text else .verbatim (n - 2)
      | none => .tag
    else .text
  | .tag => if c = '"' ∨ c = '\'' then .value c else if c = '>' then .text else .tag
  | .value quote => if c = quote then .tag else .value quote
  | .verbatim 0 => .text
  | .verbatim (n + 1) => .verbatim n

/-- How a character is written at a place. -/
def Place.write (c : Char) : Place → List Char
  | .value quote => if c = quote then [c] else escapeBracket c
  | _ => [c]

/-- Read on from a place; `out` is what has been written, in reverse. -/
def escapeFrom (out : List Char) (place : Place) : List Char → List Char
  | [] => out.reverse
  | c :: cs =>
    escapeFrom ((place.write c).reverse ++ out) (place.next c cs) cs

/-- Escape the brackets in the attribute values of a text. -/
def escape (s : List Char) : List Char := escapeFrom [] Place.text s

end MediaScraper.Repair.Brackets
