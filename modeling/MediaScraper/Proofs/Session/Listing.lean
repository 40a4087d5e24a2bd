import MediaScraper.Proofs.Html.Cleaning
import MediaScraper.Proofs.Interpreter.Traversal
import MediaScraper.Proofs.Repair.Joining
import MediaScraper.Proofs.SearchResult.Written
import MediaScraper.Proofs.Session.Link

/-!
# Pages that list what was found

A page lists entries by links (`IsPage`), with the titles escaped, so that it needs no repair
whatever the titles are (`IsPage.unbroken`). The pattern of a link matches these links, one after the
other (`IsPage.finds`), and the groups of a match are the parts of the entry, once their markup is
taken out (`Listing.IsMatch.groupTexts_eq`).
-/

namespace MediaScraper

open Pattern

/-- An entry of a search page: an id of `tt` and a number, a title and a year. -/
structure Listing where
  number : List Char
  title : String
  year : List Char
  number_ne_nil : number ≠ []
  isDigit_number : ∀ c ∈ number, c.isDigit = true
  trimmed_title : SearchResult.Trimmed title
  length_year : year.length = 4
  isDigit_year : ∀ c ∈ year, c.isDigit = true

namespace Listing

def id (l : Listing) : List Char := Link.idWord ++ l.number

/-- The link by which a page lists an entry. -/
def link (l : Listing) : Link :=
  ⟨Link.openerWord, Link.idWord, l.number, Link.middleWord, Entity.escape l.title.toList,
    Link.closerWord, l.year, Link.lastWord⟩

theorem fits_link (l : Listing) : l.link.Fits where
  opener := show Link.openerWord.map Char.toLower = Link.openerWord by decide
  letters := show Link.idWord.map Char.toLower = Link.idWord by decide
  number_ne_nil := l.number_ne_nil
  number := l.isDigit_number
  middle := show Link.middleWord.map Char.toLower = Link.middleWord by decide
  title := Entity.bracket_not_mem_escape _
  closer := show Link.closerWord.map Char.toLower = Link.closerWord by decide
  length_year := l.length_year
  year := l.isDigit_year
  last := show Link.lastWord.map Char.toLower = Link.lastWord by decide

end Listing

/-! ## Pages -/

/-- What may stand between the links of a page: text without links, in which nothing is mended. -/
structure IsGap (s : List Char) : Prop where
  linkless : Link.Linkless s
  unbroken : Repair.Unbroken s

/-- A page that lists these entries in order. -/
inductive IsPage : List Listing → List Char → Prop
  | nil {gap : List Char} : IsGap gap → IsPage [] gap
  | cons {l : Listing} {ls : List Listing} {gap rest : List Char} : IsGap gap →
      IsPage ls rest → IsPage (l :: ls) (gap ++ (l.link.text ++ rest))

/-- The tags of a link are no split tags, and its title holds no bracket. -/
theorem Listing.unbroken_link (l : Listing) {rest : List Char} (h : Repair.Unbroken rest) :
    Repair.Unbroken (l.link.text ++ rest) := by
  have hnumber : '<' ∉ l.number := Text.not_mem_of_isDigit l.isDigit_number rfl
  have hyear : '<' ∉ l.year := Text.not_mem_of_isDigit l.isDigit_year rfl
  have hname : Xml.IsName ['a'] := by decide
  have hlast : Repair.Unbroken (l.year ++ (Link.lastWord ++ rest)) :=
    (h.append (by decide)).append hyear
  have hcloser : Repair.Unbroken (Link.closerWord ++ (l.year ++ (Link.lastWord ++ rest))) :=
    Repair.unbroken_endTag hname (hlast.append (s := [' ', '(']) (by decide))
  have hmiddle : Repair.Unbroken (Link.middleWord ++ (Entity.escape l.title.toList ++
      (Link.closerWord ++ (l.year ++ (Link.lastWord ++ rest))))) :=
    (hcloser.append (Entity.bracket_not_mem_escape _)).append (by decide)
  simp only [Link.text, Link.id, List.append_assoc]
  exact Repair.unbroken_tag hname (by decide)
    (.append (s := " href=\"/title/tt".toList) (hmiddle.append hnumber) (by decide))

/-- **No title breaks the page** that lists it. -/
theorem IsPage.unbroken {ls : List Listing} {page : List Char} (h : IsPage ls page) :
    Repair.Unbroken page := by
  induction h with
  | nil hgap => exact hgap.unbroken
  | @cons l ls gap rest hgap _ ih => exact hgap.unbroken.append_markup (l.unbroken_link ih)

/-- The match is that of the link of an entry. -/
def Listing.IsMatch (l : Listing) (m : Match) : Prop :=
  ∃ before behind, m = l.link.toMatch before behind

theorem IsPage.finds {ls : List Listing} {page : List Char} (h : IsPage ls page)
    (before : List Char) :
    ∃ ms, Link.regex.Finds 3 before page ms ∧ List.Forall₂ Listing.IsMatch ls ms := by
  induction h generalizing before with
  | @nil gap hgap =>
    exact ⟨[], .nil (hgap.linkless.not_remembers before), .nil⟩
  | @cons l ls gap rest hgap _ ih =>
    obtain ⟨ms, hfinds, hms⟩ := ih (before ++ gap ++ l.link.text)
    have htext : ∃ t, l.link.text = '<' :: t := ⟨_, rfl⟩
    refine ⟨_ :: ms, .cons (hgap.linkless.silentUpTo ?_ before) (fun w => l.fits_link.remembers_iff)
      (Link.ofSaves?_saves _ _ _) rfl ?_ hfinds, .cons ⟨_, _, rfl⟩ hms⟩
    · obtain ⟨t, ht⟩ := htext
      rw [ht]
      rintro c ⟨⟩
      rfl
    · obtain ⟨t, ht⟩ := htext
      rw [ht]
      exact List.cons_ne_nil _ _

/-! ## Groups -/

theorem clean_digits {s : List Char} (h : ∀ c ∈ s, c.isDigit = true) {front : List Char}
    (hfront : '<' ∉ front ∧ '&' ∉ front) :
    Html.clean (.ofList (front ++ s)) = .ofList (front ++ s) := by
  refine Html.clean_of_plain ?_ ?_
  · rw [List.mem_append, not_or]
    exact ⟨hfront.1, Text.not_mem_of_isDigit h rfl⟩
  · rw [List.mem_append, not_or]
    exact ⟨hfront.2, Text.not_mem_of_isDigit h rfl⟩

/-- **The groups of a match** are the parts of the entry. -/
theorem Listing.IsMatch.groupTexts_eq {l : Listing} {m : Match} (h : l.IsMatch m) {e : Expression}
    (he : e.rawGroups = []) :
    ∃ whole, Interpreter.groupTexts e m = [whole, .ofList l.id, l.title, .ofList l.year] := by
  obtain ⟨before, behind, rfl⟩ := h
  have hid : Html.clean (.ofList l.id) = .ofList l.id := clean_digits l.isDigit_number (by decide)
  have hyear : Html.clean (.ofList ([] ++ l.year)) = .ofList ([] ++ l.year) :=
    clean_digits l.isDigit_year (by decide)
  rw [List.nil_append] at hyear
  have htitle : Html.clean (.ofList (Entity.escape l.title.toList)) = l.title := by
    rw [Html.clean_escape, String.ofList_toList]
  refine ⟨Html.clean (.ofList l.link.text), ?_⟩
  rw [Interpreter.groupTexts_of_rawGroups_eq_nil he]
  simp only [Link.toMatch, Link.idSpan, Link.titleSpan, Link.yearSpan, List.map_cons, List.map_nil,
    Option.map_some, Option.getD_some, Span.text_between]
  rw [← htitle, ← hid, ← hyear]
  rfl

end MediaScraper
