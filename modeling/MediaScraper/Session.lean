import MediaScraper.Document
import MediaScraper.Interpreter
import MediaScraper.SearchResult

/-!
# Sessions

A session asks three routines of a scraper in turn: one makes the address of a search page out of a
title and a year, one lists what a search page has found, and one describes a single find. The pages
come from a source; a session remembers which ones it has asked for.
-/

namespace MediaScraper

/-- A page that has been asked for: on behalf of which scraper, and where. -/
structure Request where
  provider : String
  address : String
deriving DecidableEq

/-- An interpreter with a source of pages. For a url that it cannot serve the source
gives a reason. -/
structure Session where
  interpreter : Interpreter
  source : Url → Except String ByteArray

/-- A step of a session: it may fail, and it notes the pages that it asks for. As a run does, it may
remain without an answer. -/
abbrev Visit := ExceptT Failure (StateT (List Request) Option)

namespace Session

/-- The routine that makes the address of a search page. -/
def searchUrlRoutine : String := "CreateSearchUrl"

/-- The routine that lists what a search page has found. -/
def resultsRoutine : String := "GetSearchResults"

/-- The routine that describes a find. -/
def detailsRoutine : String := "GetDetails"

/-- The result of a routine. -/
def ask (s : Session) (routine : String) (inputs : List String) : Visit String := fun requests =>
  (s.interpreter.result? routine inputs).map fun r => (r.mapError .interrupted, requests)

/-- The text of a page. -/
def fetch (s : Session) (url : Url) : Visit String := do
  modify fun requests => requests ++ [⟨s.interpreter.scraper.id, url.address⟩]
  match s.source url with
  | .ok page => ofExcept (Document.decode page)
  | .error reason => throw (.fetch url.address reason)

/-- The address of the search page for a title and a year. -/
def createSearchUrl (s : Session) (title : String) (year : Option String) : Visit Url := do
  let output ← s.ask searchUrlRoutine ["", title, year.getD ""]
  ofExcept (Url.parse output)

/-- What the search page of a url has found. The url may name a routine of its own for this. -/
def search (s : Session) (url : Url) : Visit (List SearchResult) := do
  let page ← s.fetch url
  let output ← s.ask (url.routine.getD resultsRoutine) ["", page, url.address]
  ofExcept (SearchResult.readAll output)

/-- The description of a find, from the page of a url. The url may name a routine of its own for
this. -/
def details (s : Session) (url : Url) (id : String) : Visit String := do
  let page ← s.fetch url
  s.ask (url.routine.getD detailsRoutine) ["", page, id, url.address]

end Session
end MediaScraper
