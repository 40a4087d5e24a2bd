import MediaScraper.Unicode.Blank
import MediaScraper.Text.Segment

/-!
# Split script tags

Pages write `"<sc" + "ript"` in a script, to hide a tag from readers that look for one. Such a tag
would open markup once the page is read, so its `<` becomes `&lt;`; the letters are written small.

The letters match in either case, and the long s (`ſ`) counts as an s.
-/

namespace MediaScraper.Repair.SplitScript

/-- Is `c` the small letter `letter` up to case? -/
def isLetter (letter c : Char) : Bool :=
  c = letter || c.toLower = letter || (letter = 's' && c = 'ſ')

/-- The rest of a text after a word in small letters, matched up to case. -/
def dropLetters? : List Char → List Char → Option (List Char)
  | [], s => some s
  | _ :: _, [] => none
  | l :: ls, c :: cs => if isLetter l c then dropLetters? ls cs else none

def isQuote (c : Char) : Bool := c = '"' || c = '\''

/-- The joint at the beginning of a text: a quote, blanks, `+`, blanks and a quote. -/
def joint? : List Char → Option (List Char × List Char)
  | q :: cs =>
    let (gap, rest) := cs.span isBlank
    match rest with
    | '+' :: rest =>
      let (gap', rest) := rest.span isBlank
      match rest with
      | q' :: rest =>
        if isQuote q && isQuote q' then some (q :: gap ++ '+' :: gap' ++ [q'], rest) else none
      | [] => none
    | _ => none
  | [] => none

/-- A split tag: whether it is an end tag, and the joint between its two parts. -/
structure Split where
  slash : Bool
  joint : List Char

/-- The split tag at the beginning of a text. -/
def split? : List Char → Option (Split × Nat)
  | '<' :: cs =>
    let (slash, rest) := match cs with
      | '/' :: rest => (true, rest)
      | rest => (false, rest)
    match (dropLetters? ['s', 'c'] rest).bind joint? with
    | none => none
    | some (joint, rest) =>
      match dropLetters? ['r', 'i', 'p', 't'] rest with
      | some _ => some (⟨slash, joint⟩, joint.length + (if slash then 8 else 7))
      | none => none
  | _ => none

/-- A split tag that opens nothing. -/
def write (t : Split) : List Char :=
  "&lt;".toList ++ (if t.slash then ['/'] else []) ++ "sc".toList ++ t.joint ++ "ript".toList

/-- Neutralise every split tag of a text. -/
def neutralize (s : List Char) : List Char := Text.replaceTokens split? write s

end MediaScraper.Repair.SplitScript
