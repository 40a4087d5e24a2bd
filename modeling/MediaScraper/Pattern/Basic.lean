import MediaScraper.Pattern.Parser
import MediaScraper.Pattern.Search
import MediaScraper.Pattern.Size

/-!
# Patterns

A pattern is compiled once and then searched for in texts. A pattern that does not read as a regular
expression, or that is too large, is taken literally: its characters are escaped. If even that is
too large, the pattern matches nowhere.
-/

namespace MediaScraper

/-- A compiled pattern: the source that was compiled, and what to search for. -/
structure Pattern where
  source : String
  /-- The number of groups besides the whole match. -/
  groups : Nat
  program : Pattern.Program

namespace Pattern

/-- The expression of a pattern, if it reads and is small enough. -/
def accept? (fits : Regex → Bool) (source : List Char) : Option Regex := (parse? source).filter fits

/-- The source that matches a text literally. -/
def escape (s : List Char) : List Char := s.flatMap fun c => if isMeta c then ['\\', c] else [c]

/-- The source of the pattern that matches nowhere: an edge of a word that is none. -/
def nowhereSource : List Char := "\\b\\B".toList

/-- The expression that matches nowhere. -/
def nowhere : Regex := .cat (.look (.word .boundary true)) (.look (.word .interior true))

def ofRegex (source : List Char) (r : Regex) : Pattern :=
  ⟨.ofList source, r.groupCount, r.program⟩

/-- Compile a pattern, where `fits` says what is small enough. -/
def compileWith (fits : Regex → Bool) (source : String) : Pattern :=
  let source := source.toList
  match accept? fits source with
  | some r => ofRegex source r
  | none =>
    match accept? fits (escape source) with
    | some r => ofRegex (escape source) r
    | none => ofRegex nowhereSource nowhere

/-- Compile a pattern. -/
def compile (source : String) : Pattern := compileWith Size.fits source

/-- The first match in a text. -/
def firstMatch? (p : Pattern) (text : String) : Option Match :=
  p.program.find? p.groups text.utf8ByteSize (.start text.toList)

/-- The matches in a text, from the left, without overlaps. -/
def findAll (p : Pattern) (text : String) : List Match :=
  p.program.findAllFrom p.groups text.utf8ByteSize (text.utf8ByteSize + 2) (.start text.toList) none

end Pattern
end MediaScraper
