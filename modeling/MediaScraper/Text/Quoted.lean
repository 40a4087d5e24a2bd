import MediaScraper.Unicode.Category
import MediaScraper.Unicode.Property

/-!
# Quoted texts

A text in a message stands between double quotes. Quotes and backslashes are escaped, and so is each
character that has no visible form of its own: controls, blanks other than the space, and marks that
join the character before them.
-/

namespace MediaScraper.Text

/-- The short escape of a character. -/
def shortEscape? (c : Char) : Option Char :=
  [('\x00', '0'), ('\t', 't'), ('\n', 'n'), ('\r', 'r'), ('"', '"'), ('\\', '\\')].lookup c

/-- Has the character no visible form of its own? -/
def isInvisible (c : Char) : Bool :=
  c ≠ ' ' &&
    ([Category.cc, Category.cf, Category.co, Category.zl, Category.zp, Category.zs,
        Property.graphemeExtend].any (fun runs => (CharSet.ofRuns runs).contains c) ||
      !Category.assigned.contains c)

/-- The number of a character in base sixteen. -/
def hexadecimal (n : Nat) : List Char := Nat.toDigits 16 n

/-- A character as it is written between quotes. -/
def quoteChar (c : Char) : List Char :=
  match shortEscape? c with
  | some e => ['\\', e]
  | none =>
    if ' ' ≤ c ∧ c ≤ '~' then [c]
    else if isInvisible c then '\\' :: 'u' :: '{' :: hexadecimal c.toNat ++ ['}']
    else [c]

/-- A text between quotes. -/
def quote (s : String) : String := .ofList ('"' :: s.toList.flatMap quoteChar ++ ['"'])

end MediaScraper.Text
