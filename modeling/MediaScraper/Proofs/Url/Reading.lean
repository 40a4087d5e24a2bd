import MediaScraper.Proofs.Url.Finding
import MediaScraper.Proofs.Xml.Forest

/-!
# Urls are read as they are written

A url stands in markup as the first element of its name: the attributes of the element give the
options, and texts and sections together the address (`Holds`). Around the element there may be any
elements and texts, also around the element that it stands in.

Reading such markup gives the url (`parse_of_holds`), since the blanks at the ends of a text do not
matter for its elements. Where there is no markup, the text itself is the address
(`parse_of_trimmed`).

A document type in which brackets do not come in pairs is no part of such markup: its end is not
found, and with it no url (`parse_unpaired`).
-/

namespace MediaScraper

open Xml

/-! ## Texts in pieces -/

namespace Xml.Content

variable {c : Content} {s : List Char}

/-- No element stands in the tree, and its texts and sections together say `s`. -/
def Writes : Content → List Char → Prop
  | nil, s => s = []
  | text raw next, s => ∃ front behind, s = front ++ behind ∧ Denotes raw front ∧ next.Writes behind
  | cdata content next, s => ∃ behind, s = content ++ behind ∧ next.Writes behind
  | aside _ next, s => next.Writes s
  | empty _ _, _ | element _ _ _ _, _ => False

theorem exists_writes (s : List Char) : ∃ c : Content, c.WellFormed ∧ c.Writes s := by
  obtain ⟨w, hw⟩ := exists_spelling mem_namedChars_of_plainInText s
  have hdenotes : Denotes w s := unescape_eq_ok_iff.1 (unescape_of_spelling (by decide) hw)
  by_cases hnil : w = []
  · subst hnil
    cases hdenotes
    exact ⟨nil, trivial, rfl⟩
  · have hbracket : '<' ∉ w := hw.not_mem (by decide) (by decide)
    exact ⟨text w nil, ⟨⟨hnil, hbracket, id⟩, trivial⟩, s, [], (List.append_nil s).symm, hdenotes,
      rfl⟩

theorem bracket_mem_source {name : List Char} {element : Tag × Option Content}
    (h : c.first? name = some element) : '<' ∈ c.source := by
  induction c with
  | nil => cases h
  | text raw next ih | cdata content next ih | aside w next ih =>
    exact List.mem_append_right _ (ih h)
  | _ => exact List.mem_cons_self

end Xml.Content

namespace Url

variable {c : Content} {u : Url}

/-! ## Elements -/

theorem says_of_writes {s : List Char} (h : c.Writes s) :
    Says c.events s ∧ Event.closing elementName ∉ c.events := by
  induction c generalizing s with
  | nil =>
    obtain rfl : s = [] := h
    exact ⟨.nil, List.not_mem_nil⟩
  | text raw next ih =>
    obtain ⟨front, behind, rfl, hraw, hnext⟩ := h
    obtain ⟨hsaid, hclose⟩ := ih hnext
    exact ⟨.text (unescape_eq_ok_iff.2 hraw) hsaid,
      List.not_mem_cons_of_ne_of_not_mem nofun hclose⟩
  | cdata content next ih =>
    obtain ⟨behind, rfl, hnext⟩ := h
    obtain ⟨hsaid, hclose⟩ := ih hnext
    exact ⟨.cdata hsaid, List.not_mem_cons_of_ne_of_not_mem nofun hclose⟩
  | aside w next ih =>
    obtain ⟨hsaid, hclose⟩ := ih h
    exact ⟨.silent nofun nofun hsaid, List.not_mem_cons_of_ne_of_not_mem nofun hclose⟩
  | empty _ _ _ | element _ _ _ _ _ _ => exact h.elim

/-- The first url element of the markup is this url: its attributes give the options, and what is
written between its tags is the address, with blanks around it at most. -/
def Holds (c : Content) (u : Url) : Prop :=
  ∃ tag content values s, c.first? elementName = some (tag, some content) ∧ tag.Gives values ∧
    u.Options values ∧ content.Writes s ∧ trimBlanks (.ofList s) = u.address

theorem exists_holds (haddress : trimBlanks u.address = u.address) :
    ∃ c : Content, c.WellFormed ∧ Holds c u := by
  have hoptions := u.options_values
  obtain ⟨as, has⟩ := exists_spells u.values
  obtain ⟨htag, hgives⟩ := gives_of_spells (by decide : IsName elementName) hoptions.fit has
  obtain ⟨content, hcontent, hwrites⟩ := Content.exists_writes u.address.toList
  refine ⟨.element _ content [] .nil, ⟨⟨htag, List.forall_mem_nil _⟩, hcontent, trivial⟩, ?_⟩
  exact ⟨_, content, u.values, u.address.toList, if_pos rfl, hgives, hoptions, hwrites, by
    rw [String.ofList_toList, haddress]⟩

theorem ofTag_of_gives {tag : Tag} {values : List (List Char × String)} (htag : tag.Gives values)
    (hoptions : u.Options values) (hroutine : ∀ f ∈ u.routine, allBlank f = false) :
    ofTag tag = .ok { u with address := "" } := by
  obtain ⟨as, has, hvalues⟩ := htag.attributes_eq hoptions.fit
  exact ofTag_of_attributes has (hvalues.imp fun _ _ hav => ⟨hav.name, hav.value_eq⟩) hoptions
    hroutine

/-- **A url in markup is read**, wherever its element stands. -/
theorem parse_of_holds (hc : c.WellFormed) (h : Holds c u)
    (hroutine : ∀ f ∈ u.routine, allBlank f = false) : parse (.ofList c.source) = .ok u := by
  obtain ⟨tag, content, values, s, hfirst, hgives, hoptions, hwrites, haddress⟩ := h
  obtain ⟨d, hd, hsource, hsame⟩ := Content.exists_trim hc
  obtain ⟨hname, before, behind, hevents, hbefore⟩ :=
    Content.exists_events_of_first? ((hsame elementName).trans hfirst)
  obtain ⟨hsaid, hclose⟩ := says_of_writes hwrites
  have hread : read (trimBlanks (.ofList c.source)) = ⟨d.events, none⟩ := by
    rw [trimBlanks, String.toList_ofList, ← hsource, read_source hd]
  have hmarkup : '<' ∈ (String.ofList c.source).toList := by
    rw [String.toList_ofList]
    exact Content.bracket_mem_source hfirst
  rw [parse_markup hmarkup, hread]
  refine find_eq_ok_iff.2 ⟨before, tag, content.events, behind, { u with address := "" }, s,
    ⟨hevents, hname, hbefore, hclose⟩, hsaid, ofTag_of_gives hgives hoptions hroutine, ?_⟩
  rw [trimmed, addText, String.empty_append, haddress]

/-! ## Addresses without markup -/

/-- **A bare address is read**, with blanks around it. -/
theorem parse_of_trimmed {address : String} {before behind : List Char}
    (hbracket : '<' ∉ address.toList) (htrimmed : trimBlanks address = address)
    (hne : address ≠ "") (hbefore : ∀ c ∈ before, isBlank c = true)
    (hbehind : ∀ c ∈ behind, isBlank c = true) :
    parse (.ofList (before ++ address.toList ++ behind)) = .ok (ofAddress address) := by
  have hself : Blank.trim address.toList = address.toList := by
    rw [← String.toList_ofList (l := Blank.trim _)]
    exact congrArg String.toList htrimmed
  have htrim : trimBlanks (.ofList (before ++ address.toList ++ behind)) = address := by
    rw [trimBlanks, String.toList_ofList, Blank.trim_eq hbefore hbehind
      (hself ▸ Blank.head?_trim address.toList) (hself ▸ Blank.getLast?_trim address.toList),
      String.ofList_toList]
  have hbare : '<' ∉ (String.ofList (before ++ address.toList ++ behind)).toList := by
    rw [← bracket_mem_trimBlanks, htrim]
    exact hbracket
  rw [parse_bare hbare, htrim, if_neg hne]

/-! ## Both ways -/

/-- **A url is read as it is written**: as an element anywhere in markup, or, if it has no options,
as a bare address. -/
theorem parse_written :
    (∀ u : Url, trimBlanks u.address = u.address → (∀ f ∈ u.routine, allBlank f = false) →
      (∃ c : Content, c.WellFormed ∧ Holds c u) ∧
        ∀ c : Content, c.WellFormed → Holds c u → parse (.ofList c.source) = .ok u) ∧
    ∀ (address : String) (before behind : List Char), '<' ∉ address.toList →
      trimBlanks address = address → address ≠ "" → (∀ c ∈ before, isBlank c = true) →
      (∀ c ∈ behind, isBlank c = true) →
        parse (.ofList (before ++ address.toList ++ behind)) = .ok (ofAddress address) := by
  constructor
  · intro u haddress hroutine
    exact ⟨exists_holds haddress, fun c hc h => parse_of_holds hc h hroutine⟩
  · intro address before behind hbracket htrimmed hne hbefore hbehind
    exact parse_of_trimmed hbracket htrimmed hne hbefore hbehind

/-! ## Samples -/

/-- A url with options, whose address needs references. -/
def sampleUrl : Url := ⟨"http://a?b=1&c=<2>", some "Get", true, none, some "", false⟩

def sampleValues : List (List Char × String) :=
  [("cache".toList, ""), ("post".toList, "yes"), ("function".toList, "Get")]

/-- What its element holds: the address in two pieces, with a comment in between. -/
def samplePieces : Content :=
  .text "http://a?b=1&amp;".toList <| .aside (comment " - ".toList) <| .cdata "c=<2>".toList .nil

/-- A document in which its element stands below another one, behind a title. -/
def sampleDocument : Content :=
  .aside (instruction "xml".toList) <| .text ['\n'] <|
    .element (.bare "entity".toList)
      (.element (.bare "title".toList) (.text ['A'] .nil) [] <|
        .element (.plain elementName sampleValues) samplePieces [] .nil) [] <|
    .text ['\n'] .nil

theorem wellFormed_sampleDocument : sampleDocument.WellFormed := by
  have hfit : NamesFit sampleValues := by unfold NamesFit; decide
  have hbare : ∀ name ∈ ["entity".toList, "title".toList], (Tag.bare name).WellFormed :=
    fun name hname => Tag.wellFormed_bare ((show ∀ name ∈ _, IsName name by decide) name hname)
  have htag : (Tag.plain elementName sampleValues).WellFormed :=
    (gives_plain _ (by decide) hfit (by decide)).1
  have hpieces : samplePieces.WellFormed :=
    ⟨⟨by decide, by decide, not_false⟩, .comment (by decide), by decide, trivial⟩
  refine ⟨.instruction (by decide), ⟨by decide, by decide, not_false⟩, ⟨hbare _ (by decide), nofun⟩,
    ⟨⟨hbare _ (by decide), nofun⟩, ⟨⟨by decide, by decide, not_false⟩, trivial⟩, ?_⟩,
    ⟨by decide, by decide, not_false⟩, trivial⟩
  exact ⟨⟨htag, nofun⟩, hpieces, trivial⟩

theorem holds_sampleDocument : Holds sampleDocument sampleUrl := by
  have hfit : NamesFit sampleValues := by unfold NamesFit; decide
  have htag := gives_plain elementName (by decide) hfit (by decide)
  have hdenotes : Denotes "http://a?b=1&amp;".toList "http://a?b=1&".toList :=
    unescape_eq_ok_iff.1 rfl
  have hwrites : samplePieces.Writes sampleUrl.address.toList :=
    ⟨"http://a?b=1&".toList, "c=<2>".toList, by decide, hdenotes, [], by decide, rfl⟩
  exact ⟨_, samplePieces, sampleValues, sampleUrl.address.toList, rfl, htag.2,
    ⟨hfit, by decide, by decide, by decide, by decide, by decide⟩, hwrites, by decide⟩

theorem parse_written_sample :
    sampleDocument.WellFormed ∧ Holds sampleDocument sampleUrl ∧
      sampleDocument.source = "<?xml?>\n<entity><title>A</title>".toList ++
        "<url cache=\"\" post=\"yes\" function=\"Get\">http://a?b=1&amp;<!-- - -->".toList ++
        "<![CDATA[c=<2>]]></url></entity>\n".toList ∧
      parse (.ofList sampleDocument.source) = .ok sampleUrl ∧
      parse " http://a\n" = .ok (ofAddress "http://a") :=
  ⟨wellFormed_sampleDocument, holds_sampleDocument, by decide,
    (parse_written.1 sampleUrl (by decide) (by decide)).2 sampleDocument
      wellFormed_sampleDocument holds_sampleDocument,
    parse_written.2 "http://a" [' '] ['\n'] (by decide) (by decide) (by decide) (by decide)
      (by decide)⟩

/-- **The end of a document type is not found** if a bracket in it stands alone, here in a comment:
with it no url is read. -/
theorem parse_unpaired :
    parse "<!DOCTYPE r [<!-- < -->]><r><url>http://a</url></r>" =
        .error (.unreadable (.markup (.unclosed .doctype))) ∧
      parse "<r><url>http://a</url></r>" = .ok (ofAddress "http://a") := by
  decide

end Url
end MediaScraper
