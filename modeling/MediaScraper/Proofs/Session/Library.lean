import MediaScraper.Proofs.Library.RoundTrip
import MediaScraper.Proofs.Session.Link
import MediaScraper.Session

/-!
# A library for pages of links

The library of a scraper for pages that list their entries by links, and the routines that are read
from it (`readText_text`). Reading goes event by event: the events of the text nest
(`nest_events`), and what follows from them one after the other are three routines
(`readLibrary_text`).
-/

namespace MediaScraper.LinkScraper

/-- The library. -/
def text : String := "<scraper>
  <CreateSearchUrl dest=\"3\">
    <RegExp input=\"$$1\" output=\"&lt;url&gt;http://example.com/find?q=\\1&amp;amp;y=$$2&lt;/url&gt;\" dest=\"3\">
      <expression noclean=\"1\">(.+)</expression>
    </RegExp>
  </CreateSearchUrl>
  <GetSearchResults dest=\"8\">
    <RegExp input=\"$$5\" output=\"&lt;results&gt;\\1&lt;/results&gt;\" dest=\"8\">
      <RegExp input=\"$$1\" output=\"&lt;entity&gt;&lt;title&gt;\\2&lt;/title&gt;&lt;year&gt;\\3&lt;/year&gt;&lt;id&gt;\\1&lt;/id&gt;&lt;url&gt;http://example.com/title/\\1&lt;/url&gt;&lt;/entity&gt;\" dest=\"5\">
        <expression repeat=\"yes\">&lt;a href=\"/title/(tt[0-9]+)\"&gt;([^&lt;]*)&lt;/a&gt; \\(([0-9]{4})\\)</expression>
      </RegExp>
      <expression noclean=\"1\"/>
    </RegExp>
  </GetSearchResults>
  <GetDetails dest=\"3\">
    <RegExp input=\"$$1\" output=\"&lt;details&gt;&lt;id&gt;$$2&lt;/id&gt;&lt;title&gt;\\1&lt;/title&gt;&lt;/details&gt;\" dest=\"3\">
      <expression>&lt;h1&gt;(.*?)&lt;/h1&gt;</expression>
    </RegExp>
  </GetDetails>
</scraper>"

/-! ## The routines -/

def addressOutput : String := "<url>http://example.com/find?q=\\1&amp;y=$$2</url>"

/-- What is written for a link: an entity with the title, the year, the id and the address. -/
def entityOutput : String :=
  "<entity><title>\\2</title><year>\\3</year><id>\\1</id><url>http://example.com/title/\\1</url></entity>"

def resultsOutput : String := "<results>\\1</results>"

def detailsOutput : String := "<details><id>$$2</id><title>\\1</title></details>"

/-- A link wherever it stands in the page. -/
def linkExpression : Expression := ⟨linkSource, false, true, []⟩

/-- Appends an entity to register 5 for each link. -/
def entityRule : Rule := .mk "$$1" entityOutput 5 false none [] (some linkExpression)

/-- Puts what register 5 holds between the tags of a document. -/
def resultsRule : Rule :=
  .mk "$$5" resultsOutput 8 false none [entityRule] (some ⟨"", false, false, [1]⟩)

def results : Routine := ⟨"GetSearchResults", true, 8, false, [resultsRule]⟩

/-- The three routines of the library. -/
def routines : List Routine :=
  [⟨"CreateSearchUrl", true, 3, false,
      [.mk "$$1" addressOutput 3 false none [] (some ⟨"(.+)", false, false, [1]⟩)]⟩,
    results,
    ⟨"GetDetails", true, 3, false,
      [.mk "$$1" detailsOutput 3 false none [] (some ⟨"<h1>(.*?)</h1>", false, false, []⟩)]⟩]

/-! ## Reading the library -/

def opens (tag : String) : Xml.Event := .opening (.ofSource tag.toList)

def closes (name : String) : Xml.Event := .closing name.toList

/-- A line break and spaces. -/
def indents (n : Nat) : Xml.Event := .text ('\n' :: List.replicate n ' ')

/-- The events of the library. -/
def events : List Xml.Event :=
  [opens "scraper", indents 2, opens "CreateSearchUrl dest=\"3\"", indents 4,
    opens "RegExp input=\"$$1\" output=\"&lt;url&gt;http://example.com/find?q=\\1&amp;amp;y=$$2&lt;/url&gt;\" dest=\"3\"",
    indents 6, opens "expression noclean=\"1\"", .text "(.+)".toList, closes "expression",
    indents 4, closes "RegExp", indents 2, closes "CreateSearchUrl", indents 2,
    opens "GetSearchResults dest=\"8\"", indents 4,
    opens "RegExp input=\"$$5\" output=\"&lt;results&gt;\\1&lt;/results&gt;\" dest=\"8\"",
    indents 6,
    opens "RegExp input=\"$$1\" output=\"&lt;entity&gt;&lt;title&gt;\\2&lt;/title&gt;&lt;year&gt;\\3&lt;/year&gt;&lt;id&gt;\\1&lt;/id&gt;&lt;url&gt;http://example.com/title/\\1&lt;/url&gt;&lt;/entity&gt;\" dest=\"5\"",
    indents 8, opens "expression repeat=\"yes\"",
    .text "&lt;a href=\"/title/(tt[0-9]+)\"&gt;([^&lt;]*)&lt;/a&gt; \\(([0-9]{4})\\)".toList,
    closes "expression", indents 6, closes "RegExp", indents 6,
    .selfClosed (.ofSource "expression noclean=\"1\"".toList), indents 4, closes "RegExp",
    indents 2, closes "GetSearchResults", indents 2, opens "GetDetails dest=\"3\"", indents 4,
    opens "RegExp input=\"$$1\" output=\"&lt;details&gt;&lt;id&gt;$$2&lt;/id&gt;&lt;title&gt;\\1&lt;/title&gt;&lt;/details&gt;\" dest=\"3\"",
    indents 6, opens "expression", .text "&lt;h1&gt;(.*?)&lt;/h1&gt;".toList, closes "expression",
    indents 4, closes "RegExp", indents 2, closes "GetDetails", indents 0, closes "scraper"]

set_option maxRecDepth 100000 in
theorem items_text : Text.items Xml.event text.toList = (events, none) := by
  refine Prod.ext ?_ ?_
  · rw [text, String.toList_ofList]
    simp only [events, opens, closes, indents]
    repeat rw [String.toList_ofList]
    decide
  · rw [text, String.toList_ofList]
    decide

set_option maxRecDepth 100000 in
theorem nest_events : Xml.nest events none = ⟨events, none⟩ := by
  simp only [events, opens, closes, indents]
  repeat rw [String.toList_ofList]
  rfl

set_option maxRecDepth 100000 in
theorem follow_events :
    events.foldlM Scraper.Progress.step .start = .ok ⟨"scraper", [], routines.reverse⟩ := by
  simp only [events, opens, closes, indents]
  repeat rw [String.toList_ofList]
  rfl

theorem readLibrary_text : Scraper.readLibrary text = .ok ⟨"scraper", routines⟩ := by
  have hread : Xml.read text = ⟨events, none⟩ := by
    rw [Xml.read, items_text]
    exact nest_events
  rw [Scraper.readLibrary, hread]
  show (events.foldlM Scraper.Progress.step .start >>= _) = _
  rw [follow_events]
  rfl

set_option maxRecDepth 100000 in
theorem library_text : Repair.library text = text := by
  rw [Repair.library, text, String.toList_ofList]
  refine congrArg String.ofList ?_
  decide

/-- **The scraper that is read from the library.** -/
theorem readText_text (id : String) : Scraper.readText id text = .ok ⟨id, routines⟩ := by
  have hmark : text.toList.head? ≠ some Charset.byteOrderMark := by
    rw [text, String.toList_ofList]
    decide
  have hbytes : Scraper.readBytes text.toUTF8 = .ok ⟨"scraper", routines⟩ := by
    refine Scraper.readBytes_toUTF8 ?_
    rw [Charset.unmarked_of_head? hmark, library_text, Scraper.readRepaired, readLibrary_text]
  rw [Scraper.readText, Scraper.read, hbytes]
  rfl

theorem find?_routines (id : String) :
    (Scraper.mk id routines).find? Session.resultsRoutine = some results := rfl

end MediaScraper.LinkScraper
