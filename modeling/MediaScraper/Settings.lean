import MediaScraper.Unicode.Blank
import MediaScraper.Text.Search

/-!
# Settings

Settings give texts to keys. A setting can also be read as a flag, in the spellings `true`, `yes`,
`false` and `no`, in any case of letters and between blanks.
-/

namespace MediaScraper

/-- Read the spelling of a flag. -/
def parseFlag (value : String) : Option Bool :=
  let s := Blank.trim value.toList
  if Text.eqIgnoringCase s "true".toList || Text.eqIgnoringCase s "yes".toList then some true
  else if Text.eqIgnoringCase s "false".toList || Text.eqIgnoringCase s "no".toList then some false
  else none

/-- Texts by key; at most one entry of a key. -/
structure Settings where
  entries : List (String × String)
deriving DecidableEq

namespace Settings

def empty : Settings := ⟨[]⟩

def value? (s : Settings) (key : String) : Option String := s.entries.lookup key

/-- The value of a key, or the empty text. -/
def value (s : Settings) (key : String) : String := (s.value? key).getD ""

/-- The value of a key, read as a flag. -/
def flag? (s : Settings) (key : String) : Option Bool := (s.value? key).bind parseFlag

/-- The settings without a key. -/
def erase (s : Settings) (key : String) : Settings := ⟨s.entries.filter fun e => e.1 ≠ key⟩

/-- The settings with one key set anew. -/
def insert (s : Settings) (key value : String) : Settings :=
  ⟨(key, value) :: (s.erase key).entries⟩

def size (s : Settings) : Nat := s.entries.length

def ofList (entries : List (String × String)) : Settings :=
  entries.foldl (fun s e => s.insert e.1 e.2) empty

end Settings
end MediaScraper
