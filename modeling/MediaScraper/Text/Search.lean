/-!
# Finding one text in another

Texts are searched from the left. `before needle` and `breakAt? needle` cut at the first place
where the needle stands.
-/

namespace MediaScraper.Text

/-- Does `needle` stand somewhere in the text? -/
def occursIn (needle : List Char) : List Char → Bool
  | [] => needle.isEmpty
  | c :: cs => needle.isPrefixOf (c :: cs) || occursIn needle cs

/-- The number of characters up to the end of the first `needle`, counted on from `seen`. -/
def lengthThrough? (needle : List Char) (seen : Nat) : List Char → Option Nat
  | [] => if needle.isEmpty then some seen else none
  | c :: cs =>
    if needle.isPrefixOf (c :: cs) then some (seen + needle.length)
    else lengthThrough? needle (seen + 1) cs

/-- What stands before the first `needle` and what follows it; `before` holds, reversed, what has
been passed already. -/
def breakFrom? (needle before : List Char) : List Char → Option (List Char × List Char)
  | [] => if needle.isEmpty then some (before.reverse, []) else none
  | c :: cs =>
    match needle.isPrefixOf? (c :: cs) with
    | some rest => some (before.reverse, rest)
    | none => breakFrom? needle (c :: before) cs

/-- What stands before the first `needle` and what follows it. -/
def breakAt? (needle s : List Char) : Option (List Char × List Char) := breakFrom? needle [] s

/-- Cut a text at every occurrence of a character; there is one part more than there are cuts. -/
def splitAt (sep : Char) (s : List Char) : List (List Char) :=
  s.foldr (fun c parts => if c = sep then [] :: parts else
    match parts with
    | part :: rest => (c :: part) :: rest
    | [] => [[c]]) [[]]

/-- The number of bytes that a text takes in UTF-8. -/
def byteLength (s : List Char) : Nat := s.foldl (fun n c => n + c.utf8Size) 0

/-- Take the characters that start within so many bytes; `taken` are those before
them, in reverse. -/
def takeBytesFrom (taken : List Char) (bytes : Nat) : List Char → List Char
  | [] => taken.reverse
  | c :: cs =>
    if bytes = 0 then taken.reverse else takeBytesFrom (c :: taken) (bytes - c.utf8Size) cs

/-- The characters at the beginning of a text that start within so many bytes. -/
def takeBytes (bytes : Nat) (s : List Char) : List Char := takeBytesFrom [] bytes s

/-- Are two texts equal up to the case of the letters `a` to `z`? -/
def eqIgnoringCase (s t : List Char) : Bool := s.map Char.toLower == t.map Char.toLower

/-- Does the text start with `p`, up to the case of the letters `a` to `z`? -/
def startsIgnoringCase (p s : List Char) : Bool := eqIgnoringCase p (s.take p.length)

end MediaScraper.Text
