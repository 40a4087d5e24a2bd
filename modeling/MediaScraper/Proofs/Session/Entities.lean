import MediaScraper.Proofs.SearchResult.Bare
import MediaScraper.Proofs.SearchResult.Reading
import MediaScraper.Proofs.Session.Library
import MediaScraper.Proofs.Session.Listing
import MediaScraper.Proofs.Template.Setting

/-!
# Entities of listed entries

What the scraper writes for the links of a page: an entity for each entry (`render_entityOutput`),
with the title as it is read from the page. No call comes of entities unless a title holds a bracket
(`isBare_document`), and no setting is put into them if none is put into the page
(`IsPage.quiet_entities`). Where titles hold neither brackets nor references, the document of the
entities is one of the results (`readAll_document`).
-/

namespace MediaScraper

open Xml

namespace Listing

/-! ## The document -/

/-- An element without attributes. -/
def element (name content : List Char) : List Char :=
  startTag name [] ++ content ++ endTag name

/-- What the ids of entries are put behind in their addresses. -/
def addressFront : List Char := "http://example.com/title/".toList

def address (l : Listing) : List Char := addressFront ++ l.id

/-- The fields of an entry behind its title. -/
def details (l : Listing) : List Char :=
  element "year".toList l.year ++
    (element "id".toList l.id ++ (element "url".toList l.address ++ []))

/-- The entity of an entry, with the title as it stands. -/
def entity (l : Listing) : List Char :=
  element "entity".toList (element "title".toList l.title.toList ++ l.details)

/-- The entities of entries. -/
def entities (ls : List Listing) : List Char := ls.flatMap entity

/-- The document of the results. -/
def document (ls : List Listing) : List Char := element "results".toList (entities ls)

/-- What a search is to deliver for an entry. -/
def result (l : Listing) : SearchResult :=
  ⟨l.title, some (.ofList l.year), some (.ofList l.id), some (.ofAddress (.ofList l.address))⟩

/-! ## Rendering -/

theorem segments_entityOutput :
    Template.segments LinkScraper.entityOutput.toList =
      [.literal (startTag "entity".toList [] ++ startTag "title".toList []), .group 2,
        .literal (endTag "title".toList ++ startTag "year".toList []), .group 3,
        .literal (endTag "year".toList ++ startTag "id".toList []), .group 1,
        .literal (endTag "id".toList ++ (startTag "url".toList [] ++ addressFront)), .group 1,
        .literal (endTag "url".toList ++ endTag "entity".toList)] := by
  delta LinkScraper.entityOutput
  conv_lhs => rw [String.toList_ofList]
  rfl

theorem segments_resultsOutput :
    Template.segments LinkScraper.resultsOutput.toList =
      [.literal (startTag "results".toList []), .group 1,
        .literal (endTag "results".toList)] := by rfl

/-- **The groups of a link are rendered as the entity of its entry**, whatever registers and
settings hold. -/
theorem render_entityOutput (l : Listing) (whole : String) (src : Template.Source) :
    Template.render LinkScraper.entityOutput [whole, .ofList l.id, l.title, .ofList l.year] src =
      .ofList l.entity := by
  rw [← String.toList_inj, Template.toList_render, segments_entityOutput,
    String.toList_ofList (l := l.entity)]
  simp only [List.flatMap_cons, List.flatMap_nil, Template.Segment.text, List.getElem?_cons_succ,
    List.getElem?_cons_zero, Option.getD_some, String.toList_ofList, entity, details, address, element,
    List.append_assoc, List.append_nil]

theorem render_resultsOutput (ls : List Listing) (src : Template.Source) :
    Template.render LinkScraper.resultsOutput ["", .ofList (entities ls)] src =
      .ofList (document ls) := by
  rw [← String.toList_inj, Template.toList_render, segments_resultsOutput,
    String.toList_ofList (l := document ls)]
  simp only [List.flatMap_cons, List.flatMap_nil, Template.Segment.text, List.getElem?_cons_succ,
    List.getElem?_cons_zero, Option.getD_some, String.toList_ofList, document, element,
    List.append_assoc, List.append_nil]

/-! ## Calls and repairs -/

theorem bracket_not_mem_id (l : Listing) : '<' ∉ l.id := by
  rw [id, List.mem_append, not_or]
  exact ⟨by decide, Text.not_mem_of_isDigit l.isDigit_number rfl⟩

theorem isBare_entity {l : Listing} (h : '<' ∉ l.title.toList) : SearchResult.IsBare l.entity := by
  have helement {name s : List Char} (hname : name ∈ SearchResult.elementNames) (hs : '<' ∉ s) :
      SearchResult.IsBare (element name s) := (SearchResult.IsBare.of_not_mem hs).element hname
  have haddress : '<' ∉ l.address := by
    rw [address, List.mem_append, not_or]
    exact ⟨by decide, l.bracket_not_mem_id⟩
  have hyear : '<' ∉ l.year := Text.not_mem_of_isDigit l.isDigit_year rfl
  have hdetails : SearchResult.IsBare l.details :=
    (helement (by decide) hyear).append <| (helement (by decide) l.bracket_not_mem_id).append <|
      (helement (by decide) haddress).append .nil
  exact ((helement (by decide) h).append hdetails).element (by decide)

theorem isBare_entities {ls : List Listing} (h : ∀ l ∈ ls, '<' ∉ l.title.toList) :
    SearchResult.IsBare (entities ls) := by
  induction ls with
  | nil => exact .nil
  | cons l ls ih =>
    obtain ⟨hl, hls⟩ := List.forall_mem_cons.1 h
    exact (isBare_entity hl).append (ih hls)

theorem isBare_document {ls : List Listing} (h : ∀ l ∈ ls, '<' ∉ l.title.toList) :
    SearchResult.IsBare (document ls) :=
  (isBare_entities h).element (by decide)

/-! ## Settings -/

theorem escape_append (s t : List Char) : Entity.escape (s ++ t) = Entity.escape s ++ Entity.escape t :=
  List.flatMap_append

theorem mem_escape {s : List Char} {c : Char} (hc : c ∉ ['&', '<', '>']) (h : c ∈ s) :
    c ∈ Entity.escape s :=
  List.mem_flatMap.2 ⟨c, h, by rw [Entity.escapeChar_of_not_mem hc]; exact List.mem_cons_self⟩

theorem head?_escape {s : List Char} {c : Char} (hc : c ∉ ['&', '<', '>'])
    (h : (Entity.escape s).head? = some c) : s.head? = some c := by
  cases s with
  | nil => exact h
  | cons d s =>
    by_cases hd : d ∈ ['&', '<', '>']
    · have hamp : (Entity.escape (d :: s)).head? = some '&' := by
        simp only [List.mem_cons, List.not_mem_nil, or_false] at hd
        rcases hd with rfl | rfl | rfl <;> rfl
      have heq : c = '&' := Option.some.inj (h.symm.trans hamp)
      exact absurd (heq ▸ List.mem_cons_self) hc
    · rwa [Entity.escape, List.flatMap_cons, Entity.escapeChar_of_not_mem hd] at h

/-- The parts of an entity around the title hold neither a dollar nor a bracket. -/
theorem entity_eq (l : Listing) : ∃ front behind, l.entity = front ++ (l.title.toList ++ behind) ∧
    '$' ∉ front ∧ ']' ∉ front ∧ '$' ∉ behind ∧ ']' ∉ behind ∧ behind.head? = some '<' := by
  have hnot {d : Char} (hdigit : d.isDigit = false) (hword : d ∉ Link.idWord ++ addressFront ++
      startTag "year".toList [] ++ endTag "year".toList ++ startTag "id".toList [] ++
      endTag "id".toList ++ startTag "url".toList [] ++ endTag "url".toList ++
      endTag "title".toList ++ endTag "entity".toList) :
      d ∉ endTag "title".toList ++ (l.details ++ endTag "entity".toList) := by
    have hnumber := Text.not_mem_of_isDigit l.isDigit_number hdigit
    have hyear := Text.not_mem_of_isDigit l.isDigit_year hdigit
    simp only [List.mem_append, not_or] at hword
    simp only [details, element, address, id, List.mem_append, List.not_mem_nil, not_or,
      not_false_eq_true, and_true]
    tauto
  refine ⟨startTag "entity".toList [] ++ startTag "title".toList [],
    endTag "title".toList ++ (l.details ++ endTag "entity".toList), ?_, by decide,
    by decide, hnot rfl (by decide), hnot rfl (by decide), rfl⟩
  simp only [entity, element, List.append_assoc]

theorem bracket_mem_of_mem_entities {ls : List Listing} {page : List Char} (h : IsPage ls page)
    (hmem : ']' ∈ entities ls) : ']' ∈ page := by
  induction h with
  | nil => cases hmem
  | @cons l ls gap rest _ _ ih =>
    obtain ⟨front, tail, hentity, -, hfront, -, htail, -⟩ := l.entity_eq
    simp only [entities, List.flatMap_cons, hentity, List.mem_append, hfront, htail, or_false,
      false_or] at hmem
    refine List.mem_append_right _ (List.mem_append.2 (hmem.imp (fun htitle => ?_) ih))
    have hlink : ']' ∈ l.link.title := mem_escape (by decide) htitle
    simp only [Link.text, List.mem_append, hlink, true_or, or_true]

/-- An opening in a title stands in its link, too, and the rest of the title is escaped behind it. -/
theorem opening_link {l : Listing} {behind : List Char}
    (h : Template.settingStart ++ behind <:+ l.title.toList) (rest : List Char) :
    Template.settingStart ++ (Entity.escape behind ++
      (l.link.closer ++ (l.link.year ++ (l.link.last ++ rest)))) <:+ l.link.text ++ rest := by
  obtain ⟨u, hu⟩ := h
  have hescape : l.link.title =
      Entity.escape u ++ (Template.settingStart ++ Entity.escape behind) := by
    show Entity.escape l.title.toList = _
    rw [← hu, escape_append, escape_append]
    rfl
  refine ⟨l.link.opener ++ (l.link.id ++ (l.link.middle ++ Entity.escape u)), ?_⟩
  simp only [Link.text, hescape, List.append_assoc]

/-- An escaped text before a tag begins with a closing bracket only if the text does. -/
theorem head?_of_escape_append {s rest : List Char}
    (h : (Entity.escape s ++ '<' :: rest).head? = some ']') : s.head? = some ']' := by
  refine head?_escape (by decide) ?_
  cases hs : Entity.escape s with
  | nil =>
    rw [hs] at h
    cases h
  | cons c t => rwa [hs] at h

/-- **An opening in the entities** stands in the page, too, with a bracket behind it if there is one
in the entities. -/
theorem exists_opening {ls : List Listing} {page : List Char} (h : IsPage ls page)
    {behind : List Char} (hopen : Template.settingStart ++ behind <:+ entities ls) :
    ∃ behind', Template.settingStart ++ behind' <:+ page ∧
      (behind'.head? = some ']' → behind.head? = some ']') ∧ (']' ∈ behind → ']' ∈ behind') := by
  induction h with
  | nil =>
    cases List.append_eq_nil_iff.1 (List.suffix_nil.1 hopen) |>.1
  | @cons l ls gap rest hgap hrest ih =>
    obtain ⟨front, tail, hentity, hfront, -, htail, hbracket, hhead⟩ := l.entity_eq
    have hsplit : entities (l :: ls) = front ++ l.title.toList ++ (tail ++ entities ls) := by
      rw [entities, List.flatMap_cons, hentity, ← entities]
      simp only [List.append_assoc]
    have hbegin : ∀ c ∈ (tail ++ entities ls).head?, c ∉ Template.settingStart := by
      rw [List.head?_append, hhead]
      rintro c ⟨⟩
      decide
    rw [hsplit] at hopen
    rcases Template.suffix_or_exists_of_suffix_append hbegin hopen with hopen | ⟨z, hz, rfl⟩
    · -- the opening stands behind this entry
      obtain ⟨behind', hopen', hend, hmem⟩ := ih (Template.suffix_of_suffix_append htail hopen)
      exact ⟨behind', (hopen'.trans (List.suffix_append _ _)).trans (List.suffix_append _ _),
        hend, hmem⟩
    · -- the opening stands in the title
      refine ⟨_, (opening_link (Template.suffix_of_suffix_append hfront hz) rest).trans
        (List.suffix_append gap _), ?_, ?_⟩
      · intro hend
        rw [List.head?_append, head?_of_escape_append hend]
        rfl
      · intro hmem
        simp only [List.mem_append, hbracket, false_or] at hmem ⊢
        refine hmem.imp (mem_escape (by decide)) fun hmem => ?_
        simp only [bracket_mem_of_mem_entities hrest hmem, or_true]

end Listing

/-- **No setting is put into the entities** of a page into which none is put. -/
theorem IsPage.quiet_entities {ls : List Listing} {page : List Char} (h : IsPage ls page)
    (hquiet : Text.Quiet Template.property? page) :
    Text.Quiet Template.property? (Listing.entities ls) := by
  rw [Template.quiet_property?_iff] at hquiet ⊢
  intro behind hopen
  obtain ⟨behind', hopen', hhead, hbracket⟩ := Listing.exists_opening h hopen
  exact (hquiet behind' hopen').imp hhead fun hnot hmem => hnot (hbracket hmem)

namespace Listing

theorem quiet_document {ls : List Listing}
    (h : Text.Quiet Template.property? (entities ls)) :
    Text.Quiet Template.property? (document ls) := by
  rw [Template.quiet_property?_iff] at h ⊢
  intro behind hopen
  have hopen' : Template.settingStart ++ behind <:+ entities ls ++ endTag "results".toList := by
    rw [document, element, List.append_assoc] at hopen
    exact Template.suffix_of_suffix_append (by decide) hopen
  have hbegin : ∀ c ∈ (endTag "results".toList).head?, c ∉ Template.settingStart := by
    rintro c ⟨⟩
    decide
  rcases Template.suffix_or_exists_of_suffix_append hbegin hopen' with hopen | ⟨z, hz, rfl⟩
  · have hend : Template.settingStart ++ behind <:+ [] := by
      rw [← List.append_nil (endTag _)] at hopen
      exact Template.suffix_of_suffix_append (by decide) hopen
    cases List.append_eq_nil_iff.1 (List.suffix_nil.1 hend) |>.1
  · refine (h z hz).imp (fun hhead => ?_) fun hnot => ?_
    · rw [List.head?_append, hhead]
      rfl
    · rw [List.mem_append, not_or]
      exact ⟨hnot, by decide⟩

/-! ## Reading the document -/

theorem trimmed_of_forall {s : List Char} (hne : s ≠ []) (h : ∀ c ∈ s, isBlank c = false) :
    SearchResult.Trimmed (.ofList s) := by
  refine ⟨?_, fun hnil => hne ?_⟩
  · rw [trimBlanks, String.toList_ofList, Blank.trim_of_forall h]
  · rw [← String.toList_ofList (l := s), hnil]
    rfl

theorem isBlank_of_mem_id (l : Listing) : ∀ c ∈ l.id, isBlank c = false :=
  List.forall_mem_append.2 ⟨by decide, fun c hc => isBlank_of_isDigit (l.isDigit_number c hc)⟩

theorem writable_result (l : Listing) : l.result.Writable where
  title := l.trimmed_title.1
  year := by
    rintro _ ⟨⟩
    refine trimmed_of_forall (fun hnil => ?_) fun c hc => isBlank_of_isDigit (l.isDigit_year c hc)
    have hlength := l.length_year
    rw [hnil] at hlength
    cases hlength
  id := by
    rintro _ ⟨⟩
    exact trimmed_of_forall (List.cons_ne_nil _ _) l.isBlank_of_mem_id
  address := by
    rintro _ ⟨⟩
    exact trimmed_of_forall (List.cons_ne_nil _ _)
      (List.forall_mem_append.2 ⟨by decide, l.isBlank_of_mem_id⟩)
  routine := by
    rintro _ ⟨⟩ _ ⟨⟩

theorem encloses_element (name content : List Char) :
    Encloses name [] content (element name content) := .tags content .nil

theorem writesText_self {s : List Char} (hs : ∀ c ∈ s, plainInText c = true) :
    WritesText (String.ofList s).toList s := by
  rw [String.toList_ofList]
  exact .last (spelling_self hs)

theorem writesPart_text (name : List Char) {s : List Char} (hs : ∀ c ∈ s, plainInText c = true) :
    SearchResult.WritesPart (.text name (.ofList s)) (element name s) :=
  .text (writesText_self hs) (encloses_element name s)

theorem options_ofAddress (address : String) : (Url.ofAddress address).Options [] :=
  ⟨by unfold NamesFit; decide, rfl, rfl, rfl, rfl, rfl⟩

theorem plainInText_of_isDigit {c : Char} (h : c.isDigit = true) : plainInText c = true := by
  have hamp : c ≠ '&' := by
    rintro rfl
    cases h
  have hbracket : c ≠ '<' := by
    rintro rfl
    cases h
  simp [plainInText, hamp, hbracket]

theorem writesEntity_entity {l : Listing} (h : ∀ c ∈ l.title.toList, plainInText c = true) :
    SearchResult.WritesEntity l.result l.entity := by
  have hid : ∀ c ∈ l.id, plainInText c = true :=
    List.forall_mem_append.2 ⟨by decide, fun c hc => plainInText_of_isDigit (l.isDigit_number c hc)⟩
  have haddress : ∀ c ∈ l.address, plainInText c = true :=
    List.forall_mem_append.2 ⟨by decide, hid⟩
  have hyear : ∀ c ∈ l.year, plainInText c = true :=
    fun c hc => plainInText_of_isDigit (l.isDigit_year c hc)
  have htitle := writesPart_text "title".toList h
  rw [String.ofList_toList] at htitle
  have hurl : SearchResult.WritesPart (.url (.ofAddress (.ofList l.address)))
      (element "url".toList l.address) :=
    .url (options_ofAddress _) (writesText_self haddress) (encloses_element _ _)
  exact .mk (.refl _) (.item htitle (.item (writesPart_text _ hyear) (.item (writesPart_text _ hid)
    (.item hurl .nil))))

/-- **The document of the entities** holds what a search is to deliver. -/
theorem readAll_document {ls : List Listing}
    (h : ∀ l ∈ ls, ∀ c ∈ l.title.toList, plainInText c = true) :
    SearchResult.readAll (.ofList (document ls)) = .ok (ls.map result) := by
  have hentities : InSequence SearchResult.WritesEntity (ls.map result) (entities ls) := by
    induction ls with
    | nil => exact .nil
    | cons l ls ih =>
      obtain ⟨hl, hls⟩ := List.forall_mem_cons.1 h
      exact .item (writesEntity_entity hl) (ih hls)
  refine SearchResult.readAll_of_writesResults (fun r hr => ?_) ?_
  · obtain ⟨l, -, rfl⟩ := List.mem_map.1 hr
    exact l.writable_result
  · have hwritten : SearchResult.WritesResults (ls.map result) ([] ++ document ls ++ []) :=
      .mk (by simp) (by simp) hentities (encloses_element "results".toList (entities ls))
    rwa [List.nil_append, List.append_nil, ← String.toList_ofList (l := document ls)]
      at hwritten

end Listing
end MediaScraper
