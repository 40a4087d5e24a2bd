import MediaScraper.Manifest
import MediaScraper.Proofs.Except
import MediaScraper.Proofs.Xml.Forest

/-!
# What a manifest describes

A manifest is read event by event, with the names of the open elements as a path. Behind the markup
of some elements the path is what it was before, so each element is visited with the name of the
element around it, in the order of the start tags (`foldlM_events`), and how it is spelled does not
matter. So what is read is told from the elements (`parse_ofTree`): the root says what the addon is,
an import that it has in a list of requirements is one of its imports, and of its extensions
that are scrapers the last one counts (`described`).
-/

namespace MediaScraper.Manifest

open Xml

/-! ## The meaning of elements -/

/-- What an element has as its attribute, or nothing at all. -/
def valueOf (values : List (List Char × String)) (name : List Char) : String :=
  (values.lookup name).getD ""

/-- The addon that an element asks for, if it stands in a list of requirements. -/
def import? (e : Element) : Option String :=
  if e.name = "import".toList ∧ e.parent = some "requires".toList then
    (e.values.lookup "addon".toList).filter fun addon => !frameworkImports.contains addon
  else none

/-- The element is an extension of an addon, and a scraper. -/
def IsScraperExtension (e : Element) : Prop :=
  (e.name = "extension".toList ∧ e.parent = some "addon".toList) ∧
    scraperPoint.isPrefixOf (valueOf e.values "point".toList).toList = true

instance : DecidablePred IsScraperExtension := fun _ => inferInstanceAs (Decidable (_ ∧ _))

/-- The last scraper among the extensions. -/
def scraper? (elements : List Element) : Option Element :=
  (elements.filter (IsScraperExtension ·)).getLast?

/-- What a root says, with the elements in it. -/
def described (values : List (List Char × String)) (elements : List Element) : Manifest where
  id := valueOf values "id".toList
  name := valueOf values "name".toList
  version := valueOf values "version".toList
  library := (scraper? elements).bind fun e => e.values.lookup "library".toList
  kind := (scraper? elements).map fun e => .ofPoint (valueOf e.values "point".toList)
  imports := elements.filterMap import?

/-! ## One element -/

theorem attribute?_eq {tag : Tag} {values : List (List Char × String)} (h : tag.Gives values)
    (hfit : NamesFit values) (name : List Char) :
    attribute? tag name = .ok (values.lookup name) := by
  obtain ⟨as, hattributes, hvalues⟩ := h.attributes_eq hfit
  rw [attribute?, hattributes]
  clear hattributes hfit h
  induction hvalues with
  | nil => rfl
  | @cons a v as values hav _ ih =>
    obtain ⟨n, value⟩ := v
    by_cases hname : a.name = name
    · have hn : name = n := hname.symm.trans hav.name
      simp only [List.find?_cons_of_pos (p := fun b : Attribute => b.name = name)
        (decide_eq_true hname), hav.value_eq]
      rw [List.lookup_cons, hn, beq_self_eq_true]
    · have hn : name ≠ n := fun heq => hname (hav.name.trans heq.symm)
      simp only [List.find?_cons_of_neg (p := fun b : Attribute => b.name = name)
        (by simpa using hname)]
      rw [List.lookup_cons, beq_false_of_ne hn]
      exact ih

/-- The manifest with an element taken in. -/
def take (m : Manifest) (e : Element) : Manifest :=
  if e.name = "addon".toList ∧ e.parent = none then
    { m with
      id := valueOf e.values "id".toList
      name := valueOf e.values "name".toList
      version := valueOf e.values "version".toList }
  else
    { m with
      imports := m.imports ++ (import? e).toList
      kind := if IsScraperExtension e then some (.ofPoint (valueOf e.values "point".toList))
        else m.kind
      library := if IsScraperExtension e then e.values.lookup "library".toList else m.library }

section
variable {tag : Tag} {values : List (List Char × String)} (h : tag.Gives values)
  (hfit : NamesFit values) (m : Manifest) {parent : Option (List Char)}
include h hfit

/-- What an import asks for is one of the imports, unless it brings no routines. -/
theorem visit_import (himport : tag.name = "import".toList ∧ parent = some "requires".toList) :
    m.visit parent tag =
      .ok { m with imports := m.imports ++ (import? ⟨parent, tag.name, values⟩).toList } := by
  have haddon : ¬ (tag.name = "addon".toList ∧ parent = none) := fun haddon =>
    absurd (himport.1.symm.trans haddon.1) (by decide)
  rw [visit, if_neg haddon, if_pos himport, import?, if_pos himport]
  simp only [attribute?_eq h hfit]
  cases values.lookup "addon".toList with
  | none => exact congrArg (fun imports => Except.ok { m with imports }) (List.append_nil _).symm
  | some addon =>
    cases hframework : frameworkImports.contains addon with
    | true =>
      simp only [bind, Except.bind, Option.filter_some, hframework, if_true, Bool.not_true,
        Bool.false_eq_true, if_false, Option.toList_none, List.append_nil]
      rfl
    | false =>
      simp only [bind, Except.bind, Option.filter_some, hframework, if_true, Bool.not_false,
        Bool.false_eq_true, if_false, Option.toList_some]
      rfl

theorem visit_extension
    (hextension : tag.name = "extension".toList ∧ parent = some "addon".toList) :
    m.visit parent tag =
      .ok (if IsScraperExtension ⟨parent, tag.name, values⟩ then
        { m with
          kind := some (.ofPoint (valueOf values "point".toList))
          library := values.lookup "library".toList }
      else m) := by
  have haddon : ¬ (tag.name = "addon".toList ∧ parent = none) := fun haddon =>
    absurd (hextension.1.symm.trans haddon.1) (by decide)
  have himport : ¬ (tag.name = "import".toList ∧ parent = some "requires".toList) := fun himport =>
    absurd (hextension.1.symm.trans himport.1) (by decide)
  rw [visit, if_neg haddon, if_neg himport, if_pos hextension]
  simp only [attribute?_eq h hfit]
  cases hpoint : scraperPoint.isPrefixOf (valueOf values "point".toList).toList with
  | true =>
    rw [if_pos (show IsScraperExtension ⟨parent, tag.name, values⟩ from ⟨hextension, hpoint⟩)]
    rw [valueOf] at hpoint
    simp only [bind, Except.bind, hpoint, if_true]
    rfl
  | false =>
    rw [if_neg fun hscraper => Bool.false_ne_true (hpoint.symm.trans hscraper.2)]
    rw [valueOf] at hpoint
    simp only [bind, Except.bind, hpoint, Bool.false_eq_true, if_false]
    rfl

/-- **An element is taken in** as what its tag says. -/
theorem visit_eq : m.visit parent tag = .ok (m.take ⟨parent, tag.name, values⟩) := by
  by_cases haddon : tag.name = "addon".toList ∧ parent = none
  · rw [visit, if_pos haddon, take, if_pos haddon]
    simp only [attribute?_eq h hfit]
    rfl
  rw [take, if_neg haddon]
  by_cases himport : tag.name = "import".toList ∧ parent = some "requires".toList
  · have hother : ¬ IsScraperExtension ⟨parent, tag.name, values⟩ := fun hscraper =>
      absurd (himport.1.symm.trans hscraper.1.1) (by decide)
    rw [visit_import h hfit m himport, if_neg hother, if_neg hother]
  rw [import?, if_neg himport, Option.toList_none, List.append_nil]
  by_cases hextension : tag.name = "extension".toList ∧ parent = some "addon".toList
  · rw [visit_extension h hfit m hextension]
    split_ifs <;> rfl
  · have hother : ¬ IsScraperExtension ⟨parent, tag.name, values⟩ := fun hscraper =>
      hextension hscraper.1
    rw [visit, if_neg haddon, if_neg himport, if_neg hextension, if_neg hother, if_neg hother]
    rfl

end

/-! ## The elements of a document -/

/-- **Each element is visited once**, with the name of the element around it, however it is spelled:
behind the markup of some elements the path is as before. -/
theorem foldlM_events {c : Content} {f : Forest} (h : c.Shows f) (hfit : f.NamesFit) (m : Manifest)
    (path : List (List Char)) :
    c.events.foldlM step (m, path) = .ok ((f.elements path.head?).foldl take m, path) := by
  induction c generalizing f m path with
  | nil =>
    cases h
    rfl
  | text raw next ih => exact ih h hfit m path
  | cdata content next ih => exact ih h hfit m path
  | aside w next ih => exact ih h hfit m path
  | empty tag next ih =>
    obtain ⟨values, behind, rfl, hgives, hnext⟩ := h
    obtain ⟨⟨-, hvalues⟩, -, hbehind⟩ := hfit
    have hstep : step (m, path) (.selfClosed tag) =
        .ok (m.take ⟨path.head?, tag.name, values⟩, path) := by
      rw [step, visit_eq hgives hvalues]
      rfl
    rw [Content.events, List.foldlM_cons, hstep]
    exact ih hnext hbehind _ path
  | element tag content spaces next ihcontent ih =>
    obtain ⟨values, inside, behind, rfl, hgives, hcontent, hnext⟩ := h
    obtain ⟨⟨-, hvalues⟩, hinside, hbehind⟩ := hfit
    have hopen : step (m, path) (.opening tag) =
        .ok (m.take ⟨path.head?, tag.name, values⟩, tag.name :: path) := by
      rw [step, visit_eq hgives hvalues]
      rfl
    have hrest (m : Manifest) : (content.events ++ Event.closing tag.name :: next.events).foldlM step
        (m, tag.name :: path) = .ok ((inside.elements (some tag.name) ++
          behind.elements path.head?).foldl take m, path) := by
      rw [List.foldlM_append, ihcontent hcontent hinside, List.foldl_append]
      exact ih hnext hbehind _ path
    rw [Content.events, List.foldlM_cons, hopen]
    exact hrest _

theorem scraper?_cons (e : Element) (elements : List Element) :
    scraper? (e :: elements) =
      (scraper? elements).or (if IsScraperExtension e then some e else none) := by
  rw [scraper?, scraper?, List.filter_cons]
  by_cases he : IsScraperExtension e
  · rw [if_pos (decide_eq_true he), if_pos he, List.getLast?_cons]
    cases (elements.filter (IsScraperExtension ·)).getLast? <;> rfl
  · rw [if_neg (by simpa using he), if_neg he, Option.or_none]

/-- **What is taken in below the root**: the imports one after the other, and the last scraper. -/
theorem foldl_take {elements : List Element} (h : ∀ e ∈ elements, e.parent ≠ none) (m : Manifest) :
    elements.foldl take m =
      { m with
        imports := m.imports ++ elements.filterMap import?
        kind := (scraper? elements).elim m.kind fun e =>
          some (.ofPoint (valueOf e.values "point".toList))
        library := (scraper? elements).elim m.library fun e =>
          e.values.lookup "library".toList } := by
  induction elements generalizing m with
  | nil =>
    rw [List.filterMap_nil, List.append_nil]
    rfl
  | cons e elements ih =>
    obtain ⟨he, hrest⟩ := List.forall_mem_cons.1 h
    have himports : (e :: elements).filterMap import? =
        (import? e).toList ++ elements.filterMap import? := by
      rw [List.filterMap_cons]
      cases import? e <;> rfl
    rw [List.foldl_cons, ih hrest, take, if_neg fun hroot => he hroot.2, himports, scraper?_cons]
    cases scraper? elements with
    | some last => simp only [List.append_assoc, Option.elim_some, Option.some_or]
    | none =>
      simp only [List.append_assoc, Option.elim_none, Option.none_or]
      split_ifs <;> rfl

/-! ## Documents -/

section
variable {elements : List Element} (h : ∀ e ∈ elements, e.parent ≠ none)
  (values : List (List Char × String))
include h

theorem foldl_take_addon :
    (⟨none, "addon".toList, values⟩ :: elements).foldl take empty = described values elements := by
  rw [List.foldl_cons, foldl_take h, take, if_pos ⟨rfl, rfl⟩, described]
  cases scraper? elements <;> rfl

theorem id_foldl_take {root : List Char} (hroot : root ≠ "addon".toList) :
    ((⟨none, root, values⟩ :: elements).foldl take empty).id = "" := by
  rw [List.foldl_cons, foldl_take h, take, if_neg fun haddon => hroot haddon.1]
  rfl

end

theorem parse_source {c : Content} (hc : c.WellFormed) {f : Forest} (h : c.Shows f)
    (hfit : f.NamesFit) {m : Manifest} (hm : (f.elements none).foldl take empty = m) :
    parse (.ofList c.source) = if m.id = "" then .error (.manifest .noId) else .ok m := by
  rw [parse, read_source hc]
  simp only [foldlM_events h hfit empty []]
  rw [List.head?_nil, hm]
  simp only [bind, Except.bind, String.isEmpty_iff]
  rfl

/-- **A manifest is read as what its elements mean.** Every tree of elements can be written, and each
of its texts gives the same manifest: the one that the root describes with the elements in it, in the
order of the document. It is refused if the root is no addon, or has no id. -/
theorem parse_ofTree {root : List Char} {values : List (List Char × String)} {inside : Forest}
    (hfit : (Forest.cons root values inside .nil).NamesFit) :
    (∃ c : Content, c.WellFormed ∧ c.Shows (.cons root values inside .nil)) ∧
    ∀ c : Content, c.WellFormed → c.Shows (.cons root values inside .nil) →
      parse (.ofList c.source) =
        if root ≠ "addon".toList ∨ valueOf values "id".toList = "" then .error (.manifest .noId)
        else .ok (described values (inside.elements (some root))) := by
  refine ⟨exists_shows hfit, fun c hc h => ?_⟩
  have hbelow : ∀ e ∈ inside.elements (some root), e.parent ≠ none :=
    Forest.parent_of_mem_elements
  have hread := parse_source hc h hfit rfl
  rw [Forest.elements, Forest.elements, List.append_nil] at hread
  rw [hread]
  by_cases hroot : root = "addon".toList
  · subst hroot
    rw [foldl_take_addon hbelow]
    exact if_congr (by rw [described, ne_self_iff_false, false_or]) rfl rfl
  · rw [if_pos (id_foldl_take hbelow values hroot), if_pos (.inl hroot)]

/-! ## A document -/

def addonValues : List (List Char × String) :=
  [("id".toList, "metadata.a"), ("version".toList, "1.0")]

def importValues (addon : String) : List (List Char × String) := [("addon".toList, addon)]

def scraperValues : List (List Char × String) :=
  [("point".toList, "xbmc.metadata.scraper.movies"), ("library".toList, "a.xml")]

/-- The elements of an addon with two imports, one of which brings no routines, and a scraper. -/
def sampleForest : Forest :=
  .cons "requires".toList []
    (.cons "import".toList (importValues "xbmc.metadata") .nil <|
      .cons "import".toList (importValues "common") .nil .nil) <|
  .cons "extension".toList scraperValues .nil .nil

/-- A document of these, in which an element without content is one tag or two. -/
def sampleContent : Content :=
  .element (.plain "addon".toList addonValues)
    (.element (.plain "requires".toList [])
      (.empty (.plain "import".toList (importValues "xbmc.metadata")) <| .text ['\n'] <|
        .element (.plain "import".toList (importValues "common")) .nil [] .nil) [] <|
    .empty (.plain "extension".toList scraperValues) .nil) [] .nil

theorem parse_ofTree_sample :
    (Forest.cons "addon".toList addonValues sampleForest .nil).NamesFit ∧
    sampleContent.WellFormed ∧
    sampleContent.Shows (.cons "addon".toList addonValues sampleForest .nil) ∧
    sampleContent.source = "<addon id=\"metadata.a\" version=\"1.0\"><requires>".toList ++
      "<import addon=\"xbmc.metadata\"/>\n<import addon=\"common\"></import></requires>".toList ++
      "<extension point=\"xbmc.metadata.scraper.movies\" library=\"a.xml\"/></addon>".toList ∧
    parse (.ofList sampleContent.source) =
      .ok ⟨"metadata.a", "", "1.0", some "a.xml", some .movies, ["common"]⟩ := by
  have hrequires : NamesFit [] := ⟨nofun, .nil⟩
  have haddon : NamesFit addonValues := by unfold NamesFit; decide
  have himport (addon : String) : NamesFit (importValues addon) :=
    show (∀ n ∈ ["addon".toList], IsName n) ∧ ["addon".toList].Nodup by decide
  have hscraper : NamesFit scraperValues := by unfold NamesFit; decide
  have hfit : (Forest.cons "addon".toList addonValues sampleForest .nil).NamesFit :=
    ⟨⟨by decide, haddon⟩, ⟨⟨by decide, hrequires⟩, ⟨⟨by decide, himport _⟩, trivial,
      ⟨by decide, himport _⟩, trivial, trivial⟩, ⟨by decide, hscraper⟩, trivial, trivial⟩, trivial⟩
  obtain ⟨hroot, hroot'⟩ := gives_plain "addon".toList (by decide) haddon (by decide)
  obtain ⟨hlist, hlist'⟩ := gives_plain "requires".toList (by decide) hrequires nofun
  obtain ⟨hmeta, hmeta'⟩ := gives_plain "import".toList (by decide)
    (himport "xbmc.metadata") (by decide)
  obtain ⟨hcommon, hcommon'⟩ := gives_plain "import".toList (by decide)
    (himport "common") (by decide)
  obtain ⟨hmovies, hmovies'⟩ := gives_plain "extension".toList (by decide) hscraper
    (by decide)
  have hwell : sampleContent.WellFormed :=
    ⟨⟨hroot, nofun⟩, ⟨⟨hlist, nofun⟩, ⟨hmeta, ⟨by decide, by decide, not_false⟩,
      ⟨hcommon, nofun⟩, trivial, trivial⟩, hmovies, trivial⟩, trivial⟩
  have hshows : sampleContent.Shows (.cons "addon".toList addonValues sampleForest .nil) :=
    ⟨_, _, _, rfl, hroot', ⟨_, _, _, rfl, hlist', ⟨_, _, rfl, hmeta', _, _, _, rfl, hcommon', rfl,
      rfl⟩, _, _, rfl, hmovies', rfl⟩, rfl⟩
  refine ⟨hfit, hwell, hshows, ?_, ?_⟩
  · conv_rhs => rw [String.toList_ofList, String.toList_ofList, String.toList_ofList]
    decide +kernel
  · rw [(parse_ofTree hfit).2 sampleContent hwell hshows]
    decide

end MediaScraper.Manifest
