import MediaScraper.Proofs.Url.Options
import MediaScraper.Proofs.Xml.Section
import MediaScraper.SearchResult

/-!
# Search results as they are written

The other side of reading search results: which documents write a list of entries.

**Elements.** An entry is an element `entity`; each of its fields (`SearchResult.parts`) is an
element in it that holds the text of the field. The options of a url are attributes of its element
(`Url.Options`).

**Freedom.** The fields of an entry stand in any order, the text of a field in any pieces
(`WritesText`), and there may be spaces between elements. An element without content may close
itself. An option that is not set needs no attribute, and attributes of other names may be added.

**Domain** (`SearchResult.Writable`). Fields are trimmed, and not empty apart from the title; a url
does not ask for a blank routine. Every list of such entries can be written
(`exists_writesResults`).
-/

namespace MediaScraper

open Xml

namespace SearchResult

/-! ## What can be written -/

/-- A text that is not empty, without blanks at its ends. -/
def Trimmed (s : String) : Prop := trimBlanks s = s ∧ s ≠ ""

/-- An entry that a document can hold. -/
structure Writable (r : SearchResult) : Prop where
  title : trimBlanks r.title = r.title
  year : ∀ y ∈ r.year, Trimmed y
  id : ∀ i ∈ r.id, Trimmed i
  address : ∀ u ∈ r.url, Trimmed u.address
  routine : ∀ u ∈ r.url, ∀ f ∈ u.routine, allBlank f = false

/-! ## Writing -/

/-- A field of an entry: a text with its name, or the url. -/
inductive Part where
  | text (name : List Char) (value : String)
  | url (u : Url)

/-- The fields that an entry has. -/
def parts (r : SearchResult) : List Part :=
  .text "title".toList r.title ::
    ((r.year.map (Part.text "year".toList)).toList ++ (r.id.map (Part.text "id".toList)).toList ++
      (r.url.map Part.url).toList)

inductive WritesPart : Part → List Char → Prop
  | text {name content element : List Char} {value : String} : WritesText value.toList content →
      Encloses name [] content element → WritesPart (.text name value) element
  | url {u : Url} {values : List (List Char × String)} {content element : List Char} :
      u.Options values → WritesText u.address.toList content →
      Encloses Url.elementName values content element → WritesPart (.url u) element

/-- An entry: its fields, in any order, between two tags. -/
inductive WritesEntity (r : SearchResult) : List Char → Prop
  | mk {ps : List Part} {content : List Char} : ps.Perm r.parts → InSequence WritesPart ps content →
      WritesEntity r (startTag "entity".toList [] ++ content ++ endTag "entity".toList)

/-- A document: one root element that holds the entries. -/
inductive WritesResults (rs : List SearchResult) : List Char → Prop
  | mk {before after content element : List Char} :
      (∀ c ∈ before, isSpace c = true) → (∀ c ∈ after, isSpace c = true) →
      InSequence WritesEntity rs content → Encloses "results".toList [] content element →
      WritesResults rs (before ++ element ++ after)

/-! ## Every list of entries can be written -/

theorem exists_writesPart (part : Part) : ∃ element, WritesPart part element := by
  cases part with
  | text name value =>
    obtain ⟨content, hcontent⟩ := exists_writesText value.toList
    obtain ⟨element, helement⟩ := exists_encloses name [] content
    exact ⟨element, .text hcontent helement⟩
  | url u =>
    obtain ⟨content, hcontent⟩ := exists_writesText u.address.toList
    obtain ⟨element, helement⟩ := exists_encloses Url.elementName u.values content
    exact ⟨element, .url u.options_values hcontent helement⟩

theorem exists_writesEntity (r : SearchResult) : ∃ s, WritesEntity r s := by
  obtain ⟨content, hcontent⟩ := exists_inSequence fun part _ => exists_writesPart part
  exact ⟨_, .mk (.refl r.parts) hcontent⟩

/-- **Every list of entries has a document.** -/
theorem exists_writesResults (rs : List SearchResult) : ∃ s, WritesResults rs s := by
  obtain ⟨content, hcontent⟩ := exists_inSequence fun r _ => exists_writesEntity r
  obtain ⟨element, helement⟩ := exists_encloses "results".toList [] content
  exact ⟨[] ++ element ++ [], .mk (by simp) (by simp) hcontent helement⟩

end SearchResult
end MediaScraper
