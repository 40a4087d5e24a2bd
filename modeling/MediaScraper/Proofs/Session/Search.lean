import MediaScraper.Proofs.Interpreter.Writing
import MediaScraper.Proofs.Session.Entities
import MediaScraper.Proofs.Session.Visit
import MediaScraper.Proofs.Text.Charset

/-!
# Searching a page of links

What comes of a search, step by step:

1. The rule for links appends an entity for each link of the page to register 5
   (`act_entityRule`).
2. The rule above it puts these into a document (`runRules_results`), which is the result of the
   routine (`result?_results`).
3. The document is read (`search_eq`).

The titles stand in the document as they are read from the page, without references. Where no title
holds a bracket or an ampersand, and no setting is put into the page, each listed entry is delivered
(`search_of_isPage`). Other titles get lost (`search_lost`).
-/

namespace MediaScraper

open Listing LinkScraper

namespace Interpreter

/-- What a register reads as that holds this text. -/
def reading (t : Interpreter) (s : String) : String :=
  Template.fillProperties (Repair.buffer s) ⟨fun _ => "", t.settings.value⟩

/-- A page reads as one that lists these entries. No call comes of what is written for them, and it
is read as it is written. -/
structure Lists (t : Interpreter) (page : String) (ls : List Listing) : Prop where
  isPage : ∃ text, t.reading page = .ofList text ∧ IsPage ls text
  entity : ∀ l ∈ ls, ¬ Call.Asks (.ofList l.entity)
  document : ¬ Call.Asks (.ofList (document ls))
  reading_entities : t.reading (.ofList (entities ls)) = .ofList (entities ls)
  reading_document : t.reading (.ofList (Listing.document ls)) = .ofList (Listing.document ls)

variable {t : Interpreter} {page : String} {ls : List Listing}

theorem readRegister_eq (registers : Registers) (i : Nat) :
    t.readRegister registers i = t.reading (registers.get i) := rfl

theorem resolveInput_register {input : String} {i : Nat} (h : Template.references input = [i])
    (registers : Registers) : t.resolveInput registers input = t.reading (registers.get i) := by
  simp [resolveInput, h, readRegister_eq]

/-! ## The rules -/

/-- **Each link becomes the entity of its entry.** -/
theorem renders_entity {l : Listing} {found : Pattern.Match} (h : l.IsMatch found)
    (hquiet : ¬ Call.Asks (.ofList l.entity)) :
    t.Renders entityOutput (groupTexts linkExpression found) l.entity := by
  obtain ⟨whole, hgroups⟩ := h.groupTexts_eq (e := linkExpression) rfl
  exact ⟨fun registers => by rw [hgroups, render_entityOutput], hquiet⟩

/-- **The rule for links** leaves the entities of all entries in register 5. -/
theorem act_entityRule (hlimits : t.limits.interruption? = none) (h : t.Lists page ls) {m : Machine}
    (hpage : m.registers.get 1 = page) (hempty : m.registers.get 5 = "") (call : Caller) :
    t.act call "$$1" entityOutput 5 false (some linkExpression) m =
      some (.ok (), { m with registers := m.registers.append 5 (.ofList (entities ls)) }) := by
  obtain ⟨text, hread, htext⟩ := h.isPage
  obtain ⟨ms, hfinds, hms⟩ := htext.finds []
  have hpattern : Template.fillRegisters linkExpression.pattern (t.source m.registers) =
      linkSource := by
    rw [Template.fillRegisters, if_neg]
    · rfl
    · decide
  have hfound : (Pattern.compile linkSource).findAll (.ofList text) = ms := by
    rw [Link.compile_linkSource]
    refine Pattern.findAll_ofRegex _ ?_
    rwa [Link.groupCount_regex, String.toList_ofList]
  have hrenders : List.Forall₂
      (fun l found => t.Renders entityOutput (groupTexts linkExpression found) l.entity) ls ms :=
    ((List.forall₂_and_left _ _).2 ⟨h.entity, hms⟩).imp fun _ _ h =>
      renders_entity h.2 h.1
  have hinput : t.resolveInput m.registers "$$1" = .ofList text := by
    rw [resolveInput_register (i := 1) (by decide), hpage, hread]
  have hexpression : (some linkExpression).filter (fun e => !e.isBlank) = some linkExpression := by
    decide
  rw [act, get_bind_apply, hexpression, hinput]
  exact writeMatches_of_renders hlimits hrenders rfl rfl hempty (by rw [hpattern, hfound]) call false

/-- **The rule above it** puts the entities into a document. -/
theorem act_resultsRule (h : t.Lists page ls) {m : Machine}
    (hentities : m.registers.get 5 = .ofList (entities ls)) (call : Caller) :
    t.act call "$$5" resultsOutput 8 false (some ⟨"", false, false, [1]⟩) m =
      some (.ok (), { m with registers := m.registers.set 8 (.ofList (document ls)) }) := by
  have hinput : t.resolveInput m.registers "$$5" = .ofList (entities ls) := by
    rw [resolveInput_register (i := 5) (by decide), hentities, h.reading_entities]
  have htakes : t.Takes m.registers "$$5" (some ⟨"", false, false, [1]⟩)
      [["", t.resolveInput m.registers "$$5"]] := .whole (by decide)
  have hrenders : t.Renders resultsOutput ["", .ofList (entities ls)] (document ls) :=
    ⟨fun registers => render_resultsOutput ls _, h.document⟩
  rw [hinput] at htakes
  rw [act_of_takes_singleton htakes, hrenders.writeMatch]
  rfl

/-- **The rules of the routine** leave the document of the entities in register 8. -/
theorem runRules_results (hlimits : t.limits.interruption? = none) (h : t.Lists page ls)
    {m : Machine} (hpage : m.registers.get 1 = page) (hempty : m.registers.get 5 = "")
    (call : Caller) :
    t.runRules call results.rules m = some (.ok (), { m with
      registers := (m.registers.append 5 (.ofList (entities ls))).set 8
        (.ofList (document ls)) }) := by
  have hentities : (m.registers.append 5 (.ofList (entities ls))).get 5 =
      .ofList (entities ls) := by
    rw [Registers.get_append_self (by decide), hempty, String.empty_append]
  rw [results, runRules_singleton hlimits, resultsRule, runRule_unconditional,
    runRules_singleton hlimits, entityRule, runRule_unconditional, runRules, pure_bind,
    Run.bind_apply, act_entityRule hlimits h hpage hempty]
  exact act_resultsRule h hentities call

/-- **The result of the routine** is the document of the entities. -/
theorem result?_results (hfind : t.scraper.find? Session.resultsRoutine = some results)
    (hlimits : t.limits.interruption? = none) (h : t.Lists page ls) (address : String) :
    t.result? Session.resultsRoutine ["", page, address] = some (.ok (.ofList (document ls))) := by
  have hentry : (Registers.empty.load ["", page, address]).get 1 = page ∧
      (Registers.empty.load ["", page, address]).get 5 = "" := by
    rw [Registers.get_load (by decide), Registers.get_load (by decide), Registers.get_empty]
    exact ⟨rfl, rfl⟩
  have hrun := runRules_results hlimits h (m := ⟨.load .empty ["", page, address], [], 0⟩) hentry.1
    hentry.2 (t.answer 0 t.reserve)
  have hread : t.readRegister (((Registers.load .empty ["", page, address]).append 5
      (.ofList (entities ls))).set 8 (.ofList (document ls))) 8 = .ofList (document ls) := by
    rw [readRegister_eq, Registers.get_set_self (by decide), h.reading_document]
  have hroutine : t.runRoutine (t.answer 0 t.reserve) results ["", page, address] ⟨.empty, [], 0⟩ =
      some (.ok (t.readRegister _ 8), _) := runRoutine_of_runRules rfl hrun
  rw [result?_of_find? hfind, hroutine, Option.map_some, hread]

/-! ## Pages that list entries -/

theorem reading_of_quiet {s : String} (hunbroken : Repair.Unbroken s.toList)
    (hquiet : Text.Quiet Template.property? s.toList) : t.reading s = s := by
  rw [reading, Repair.buffer_of_unbroken hunbroken, Template.fillProperties_of_quiet hquiet]

theorem reading_of_isPage (hpage : IsPage ls page.toList)
    (hquiet : Text.Quiet Template.property? page.toList) :
    t.reading page = .ofList page.toList := by
  rw [reading_of_quiet hpage.unbroken hquiet, String.ofList_toList]

/-- Where no title holds a bracket and no setting is put into the page, nothing else than the
entities comes of it. -/
theorem lists_of_isPage {text : List Char} (hread : t.reading page = .ofList text)
    (hpage : IsPage ls text) (hquiet : Text.Quiet Template.property? text)
    (htitles : ∀ l ∈ ls, '<' ∉ l.title.toList) : t.Lists page ls where
  isPage := ⟨text, hread, hpage⟩
  entity l hl := (isBare_entity (htitles l hl)).not_asks
  document := (isBare_document htitles).not_asks
  reading_entities := by
    refine reading_of_quiet ?_ ?_ <;> rw [String.toList_ofList]
    · exact (isBare_entities htitles).unbroken
    · exact hpage.quiet_entities hquiet
  reading_document := by
    refine reading_of_quiet ?_ ?_ <;> rw [String.toList_ofList]
    · exact (isBare_document htitles).unbroken
    · exact quiet_document (hpage.quiet_entities hquiet)

end Interpreter

namespace Session

variable {s : Session} {url : Url} {bytes : ByteArray} {page : String} {ls : List Listing}

theorem fetch_eq (hsource : s.source url = .ok bytes) (hdecode : Document.decode bytes = .ok page)
    (requests : List Request) : s.fetch url requests =
      some (.ok page, requests ++ [⟨s.interpreter.scraper.id, url.address⟩]) := by
  rw [fetch, hsource]
  simp only [hdecode]
  rfl

/-- **A search reads the document of the entities.** It asks for one page. -/
theorem search_eq (hfind : s.interpreter.scraper.find? resultsRoutine = some results)
    (hlimits : s.interpreter.limits.interruption? = none)
    (hroutine : ∀ routine ∈ url.routine, routine = resultsRoutine)
    (hsource : s.source url = .ok bytes) (hdecode : Document.decode bytes = .ok page)
    (h : s.interpreter.Lists page ls) (requests : List Request) :
    s.search url requests = some (SearchResult.readAll (.ofList (document ls)),
      requests ++ [⟨s.interpreter.scraper.id, url.address⟩]) := by
  have hname : url.routine.getD resultsRoutine = resultsRoutine := by
    cases hurl : url.routine with
    | none => rfl
    | some routine => exact hroutine routine hurl
  have hresult := Interpreter.result?_results hfind hlimits h url.address
  rw [search, hname, bind_of_ok (fetch_eq hsource hdecode requests),
    bind_of_ok (ask_eq hresult _), ofExcept_apply]

/-- **Every listed entry is delivered**, in order and with its id, its title and its year, if no title
holds an ampersand or a bracket and no setting is put into the page. -/
theorem search_of_isPage {id : String}
    (hscraper : Scraper.readText id LinkScraper.text = .ok s.interpreter.scraper)
    (hlimits : s.interpreter.limits.interruption? = none)
    (hroutine : ∀ routine ∈ url.routine, routine = resultsRoutine)
    (hsource : s.source url = .ok bytes) (hdecode : Document.decode bytes = .ok page)
    (hpage : IsPage ls page.toList) (hquiet : Text.Quiet Template.property? page.toList)
    (htitles : ∀ l ∈ ls, '&' ∉ l.title.toList ∧ '<' ∉ l.title.toList) (requests : List Request) :
    s.search url requests =
      some (.ok (ls.map Listing.result), requests ++ [⟨id, url.address⟩]) := by
  have hid : ⟨id, routines⟩ = s.interpreter.scraper :=
    Except.ok.inj ((readText_text id).symm.trans hscraper)
  have hfind : s.interpreter.scraper.find? resultsRoutine = some results :=
    hid ▸ find?_routines id
  have hlists : s.interpreter.Lists page ls :=
    Interpreter.lists_of_isPage (Interpreter.reading_of_isPage hpage hquiet) hpage hquiet
      fun l hl => (htitles l hl).2
  have hplain : ∀ l ∈ ls, ∀ c ∈ l.title.toList, Xml.plainInText c = true := by
    intro l hl c hc
    obtain ⟨hamp, hbracket⟩ := htitles l hl
    have hne : c ≠ '&' ∧ c ≠ '<' := ⟨fun h => hamp (h ▸ hc), fun h => hbracket (h ▸ hc)⟩
    simp [Xml.plainInText, hne]
  rw [search_eq hfind hlimits hroutine hsource hdecode hlists, readAll_document hplain, ← hid]

/-! ## Samples -/

/-- An entry of this title. -/
def entryOf (title : String) (h : SearchResult.Trimmed title) : Listing where
  number := ['7']
  title := title
  year := "1979".toList
  number_ne_nil := by decide
  isDigit_number := by decide
  trimmed_title := h
  length_year := by decide
  isDigit_year := by decide

/-- A session that is given the same page at every address. -/
def sampleSession (page : String) : Session :=
  ⟨⟨⟨"sample", routines⟩, .empty, .none⟩, fun _ => .ok page.toUTF8⟩

def sampleUrl : Url := .ofAddress "http://example.com/find"

/-- A page with two entries. -/
def samplePage : String :=
  "<a href=\"/title/tt7\">Alien</a> (1979), <a href=\"/title/tt7\">A &gt; B</a> (1979)<hr>"

def alien : Listing := entryOf "Alien" ⟨by decide, by decide⟩

def greater : Listing := entryOf "A > B" ⟨by decide, by decide⟩

/-- Both entries are delivered. -/
theorem search_samplePage :
    (sampleSession samplePage).search sampleUrl [] =
      some (.ok [alien.result, greater.result], [⟨"sample", "http://example.com/find"⟩]) := by
  have htext : samplePage.toList =
      [] ++ (alien.link.text ++ (", ".toList ++ (greater.link.text ++ "<hr>".toList))) := by
    decide
  have hpage : IsPage [alien, greater] samplePage.toList := by
    rw [htext]
    exact .cons ⟨by decide, by decide⟩ (.cons ⟨by decide, by decide⟩ (.nil ⟨by decide, by decide⟩))
  have hquiet : Text.Quiet Template.property? samplePage.toList := by
    rw [htext]
    exact Template.quiet_property?_of_not_mem (by decide)
  have hscraper : Scraper.readText "sample" LinkScraper.text =
      .ok (sampleSession samplePage).interpreter.scraper := readText_text "sample"
  have hdecode : Document.decode samplePage.toUTF8 = .ok samplePage :=
    Document.decode_toUTF8 (by
      rw [htext]
      rintro ⟨⟩)
  exact search_of_isPage hscraper rfl (by rintro _ ⟨⟩) rfl hdecode hpage hquiet (by decide) []

/-- A title with an ampersand, one with a bracket, and one with the token of a setting. -/
def ampersand : Listing := entryOf "A & B" ⟨by decide, by decide⟩

def bracket : Listing := entryOf "A < B" ⟨by decide, by decide⟩

def token : Listing := entryOf "A$INFO[b]" ⟨by decide, by decide⟩

/-- What is left of the last one. -/
def stripped : Listing := entryOf "A" ⟨by decide, by decide⟩

theorem isPage_link (l : Listing) : IsPage [l] l.link.text := by
  have hpage : IsPage [l] ([] ++ (l.link.text ++ [])) :=
    .cons ⟨by decide, by decide⟩ (.nil ⟨by decide, by decide⟩)
  rwa [List.nil_append, List.append_nil] at hpage

theorem reading_link {l : Listing} (h : '$' ∉ l.link.text) :
    (sampleSession (.ofList l.link.text)).interpreter.reading (.ofList l.link.text) =
      .ofList l.link.text := by
  refine Interpreter.reading_of_quiet ?_ ?_ <;> rw [String.toList_ofList]
  · exact (isPage_link l).unbroken
  · exact Template.quiet_property?_of_not_mem h

theorem lists_link {l : Listing} (h : '$' ∉ l.link.text) (hbracket : '<' ∉ l.title.toList) :
    (sampleSession (.ofList l.link.text)).interpreter.Lists (.ofList l.link.text) [l] :=
  Interpreter.lists_of_isPage (reading_link h) (isPage_link l)
    (Template.quiet_property?_of_not_mem h) (by simpa using hbracket)

theorem search_link {l k : Listing}
    (h : (sampleSession (.ofList l.link.text)).interpreter.Lists (.ofList l.link.text) [k]) :
    (sampleSession (.ofList l.link.text)).search sampleUrl [] =
      some (SearchResult.readAll (.ofList (document [k])),
        [⟨"sample", "http://example.com/find"⟩]) := by
  have hdecode : Document.decode (String.ofList l.link.text).toUTF8 = .ok (.ofList l.link.text) :=
    Document.decode_toUTF8 (by
      rw [String.toList_ofList]
      rintro ⟨⟩)
  exact search_eq (s := sampleSession (.ofList l.link.text)) rfl rfl (by rintro _ ⟨⟩) rfl hdecode h []

/-- A title with a bracket is listed: no call comes of it, and its document needs no repair. -/
theorem lists_bracket : (sampleSession (.ofList bracket.link.text)).interpreter.Lists
    (.ofList bracket.link.text) [bracket] where
  isPage := ⟨_, reading_link (by decide), isPage_link bracket⟩
  entity := by
    unfold Call.Asks Call.isHinted Call.chain?
    simp only [String.toList_ofList]
    decide
  document := by
    unfold Call.Asks Call.isHinted Call.chain?
    rw [String.toList_ofList]
    decide
  reading_entities := by
    refine Interpreter.reading_of_quiet ?_ ?_ <;> rw [String.toList_ofList]
    · decide
    · exact Template.quiet_property?_of_not_mem (by decide)
  reading_document := by
    refine Interpreter.reading_of_quiet ?_ ?_ <;> rw [String.toList_ofList]
    · decide +kernel
    · exact Template.quiet_property?_of_not_mem (by decide)

/-- The page of a title with a token reads as the page of what is left of the title. -/
theorem lists_token : (sampleSession (.ofList token.link.text)).interpreter.Lists
    (.ofList token.link.text) [stripped] := by
  refine Interpreter.lists_of_isPage ?_ (isPage_link stripped)
    (Template.quiet_property?_of_not_mem (by decide)) (by decide)
  have hunbroken : Repair.Unbroken (String.ofList token.link.text).toList := by
    rw [String.toList_ofList]
    exact (isPage_link token).unbroken
  rw [Interpreter.reading, Repair.buffer_of_unbroken hunbroken, ← String.toList_inj,
    Template.fillProperties_eq_join, Template.toList_join_fill, String.toList_ofList,
    String.toList_ofList]
  decide

/-- **Other titles get lost**: their references are gone when they are put into the document, and
settings are put into the page before it is searched. -/
theorem search_lost :
    Scraper.readText "sample" LinkScraper.text = .ok ⟨"sample", routines⟩ ∧
      IsPage [ampersand] ampersand.link.text ∧ IsPage [bracket] bracket.link.text ∧
      IsPage [token] token.link.text ∧
      (sampleSession (.ofList ampersand.link.text)).search sampleUrl [] =
        some (.error (.unreadable (.markup (.reference (.unclosed 2 5)))),
          [⟨"sample", "http://example.com/find"⟩]) ∧
      (sampleSession (.ofList bracket.link.text)).search sampleUrl [] =
        some (.error (.unreadable (.markup (.mismatchedEnd "" "entity"))),
          [⟨"sample", "http://example.com/find"⟩]) ∧
      (sampleSession (.ofList token.link.text)).search sampleUrl [] =
        some (.ok [stripped.result],
          [⟨"sample", "http://example.com/find"⟩]) := by
  have hampersand : (sampleSession (.ofList ampersand.link.text)).interpreter.Lists
      (.ofList ampersand.link.text) [ampersand] :=
    lists_link (by decide) (by decide)
  refine ⟨readText_text _, isPage_link _, isPage_link _, isPage_link _, ?_, ?_, ?_⟩
  · rw [search_link hampersand, SearchResult.readAll, Xml.read, String.toList_ofList]
    decide
  · rw [search_link lists_bracket, SearchResult.readAll, Xml.read, String.toList_ofList]
    decide
  · rw [search_link lists_token, SearchResult.readAll, Xml.read, String.toList_ofList]
    decide

end Session
end MediaScraper
