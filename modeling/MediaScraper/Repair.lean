import MediaScraper.Repair.Brackets
import MediaScraper.Repair.Declaration
import MediaScraper.Repair.NamedEntities
import MediaScraper.Repair.SplitScript

/-!
# Repairs

Known faults of scraper libraries and of pages, and how they are mended. A library is repaired
before it is read (`library`); a register is repaired whenever it is read (`buffer`), but there only
the declaration and split tags are mended, since brackets in the values of a page belong to the
page.
-/

namespace MediaScraper.Repair

/-- Drop the attributes that a declaration does not know. -/
def declaration (s : String) : String := .ofList (Declaration.fix s.toList)

/-- Keep split script tags from opening markup. -/
def splitScripts (s : String) : String := .ofList (SplitScript.neutralize s.toList)

/-- Escape the brackets in attribute values. -/
def brackets (s : String) : String := .ofList (Brackets.escape s.toList)

/-- Write out the named references that XML does not know. -/
def namedEntities (s : String) : String := .ofList (NamedEntities.decode s.toList)

/-- All repairs of a library: of its declarations, then of split tags, then of brackets. -/
def library (s : String) : String :=
  .ofList (Brackets.escape (SplitScript.neutralize (Declaration.fix s.toList)))

/-- The repairs of a register. A text without `<?xml` and `+` needs none. -/
def buffer (s : String) : String :=
  if Text.occursIn "<?xml".toList s.toList || s.toList.contains '+' then
    splitScripts (declaration s)
  else s

end MediaScraper.Repair
