import MediaScraper.Unicode.CharSet

/-!
# Blanks

A *blank* is a character with the Unicode property `White_Space`. Trimming removes the blanks
at the two ends of a text and nothing else.
-/

namespace MediaScraper

/-- The characters with the property `White_Space`. -/
def blanks : CharSet :=
  ⟨[⟨0x9, 0xD⟩, ⟨0x20, 0x20⟩, ⟨0x85, 0x85⟩, ⟨0xA0, 0xA0⟩, ⟨0x1680, 0x1680⟩, ⟨0x2000, 0x200A⟩,
    ⟨0x2028, 0x2029⟩, ⟨0x202F, 0x202F⟩, ⟨0x205F, 0x205F⟩, ⟨0x3000, 0x3000⟩]⟩

def isBlank (c : Char) : Bool := blanks.contains c

namespace Blank

def trimStart (s : List Char) : List Char := s.dropWhile isBlank

def trimEnd (s : List Char) : List Char := (s.reverse.dropWhile isBlank).reverse

/-- The text without the blanks at its ends. -/
def trim (s : List Char) : List Char := trimEnd (trimStart s)

end Blank

/-- The text without the blanks at its ends. -/
def trimBlanks (s : String) : String := .ofList (Blank.trim s.toList)

def trimBlanksEnd (s : String) : String := .ofList (Blank.trimEnd s.toList)

/-- Does the text hold blanks only? -/
def allBlank (s : String) : Bool := s.toList.all isBlank

end MediaScraper
