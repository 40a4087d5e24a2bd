/-!
# Excerpts

A message shows at most the first 200 characters of a text, and says so when it shortens it.
-/

namespace MediaScraper.Text

/-- The greatest number of characters that an excerpt shows. -/
def excerptLimit : Nat := 200

/-- A text fit for a message: itself when it is short, else its beginning between marks. -/
def excerpt (s : String) : String :=
  let cs := s.toList
  if (cs.drop excerptLimit).isEmpty then s
  else "TRUNCATED(" ++ toString excerptLimit ++ "): " ++ .ofList (cs.take excerptLimit) ++ "..."

end MediaScraper.Text
