import MediaScraper.Proofs.Xml.Content
import MediaScraper.Proofs.Xml.Reference

/-!
# Elements that markup shows

The elements of a document are a tree, which does not tell how they are spelled (`Forest`). Markup
shows such elements (`Content.Shows`) if its tags have their names and values, in the same order and
the same nesting; texts, comments and the like may stand anywhere between the tags, a value may be
written with any references, and an element in which there is no other one may be a single tag. Every
tree whose names fit is shown by some markup (`exists_shows`).

Reading the text of a tree gives its events, without a fault (`read_source`), and the attributes of
its tags are read as the values that they stand for (`Tag.Gives.attributes_eq`).
-/

namespace MediaScraper.Xml

/-! ## Attributes -/

/-- The attribute has this name, and what is written as its value stands for this text. -/
structure Attribute.Means (a : Attribute) (v : List Char × String) : Prop where
  name : a.name = v.1
  raw : Denotes a.raw v.2.toList

theorem Attribute.Means.value_eq {a : Attribute} {v : List Char × String} (h : a.Means v) :
    a.value = .ok v.2 := by
  rw [Attribute.value, unescape_eq_ok_iff.2 h.raw]
  exact congrArg Except.ok String.ofList_toList

/-- The tag lists attributes with these values. -/
def Tag.Gives (tag : Tag) (values : List (List Char × String)) : Prop :=
  ∃ s as, tag.source = tag.name ++ s ∧ Lists s as ∧ List.Forall₂ Attribute.Means as values

theorem map_name_of_means {as : List Attribute} {values : List (List Char × String)}
    (h : List.Forall₂ Attribute.Means as values) :
    as.map Attribute.name = values.map Prod.fst := by
  induction h with
  | nil => rfl
  | cons hav _ ih => rw [List.map_cons, List.map_cons, hav.name, ih]

/-- **The attributes of a tag are read**, if no name comes twice. -/
theorem Tag.Gives.attributes_eq {tag : Tag} {values : List (List Char × String)}
    (h : tag.Gives values) (hfit : NamesFit values) :
    ∃ as, tag.attributes = (as, none) ∧ List.Forall₂ Attribute.Means as values := by
  obtain ⟨s, as, hsource, hlists, hvalues⟩ := h
  refine ⟨as, ?_, hvalues⟩
  rw [Tag.attributes, hsource, List.drop_left]
  exact attributesFrom_eq_none_iff.2
    ⟨as, hlists, rfl, map_name_of_means hvalues ▸ hfit.2, fun _ _ => rfl⟩

theorem gives_of_spells {name : List Char} {as : List Attribute}
    {values : List (List Char × String)} (hname : IsName name) (hfit : NamesFit values)
    (h : List.Forall₂ Attribute.Spells as values) :
    Tag.WellFormed ⟨name, tagSource name as⟩ ∧ Tag.Gives ⟨name, tagSource name as⟩ values := by
  have hmeans : List.Forall₂ Attribute.Means as values := h.imp fun a v hav =>
    ⟨hav.name, unescape_eq_ok_iff.1 (unescape_of_spelling (by decide) hav.raw)⟩
  have hwritten := written_of_spells h hfit.isName
  have hlists := lists_attributesText hwritten
  have hspace : ∀ c ∈ (attributesText as).head?, isSpace c = true := by
    cases as with
    | nil => exact nofun
    | cons a as =>
      rintro c ⟨⟩
      rfl
  exact ⟨⟨hname, attributesText as, as, rfl, hspace, hlists, fun a ha => (hwritten a ha).name,
    map_name_of_means hmeans ▸ hfit.2⟩, attributesText as, as, rfl, hlists, hmeans⟩

/-- The tag of a name with values that are written as they are. -/
def Tag.plain (name : List Char) (values : List (List Char × String)) : Tag :=
  ⟨name, tagSource name (values.map fun v => ⟨v.1, v.2.toList⟩)⟩

theorem gives_plain (name : List Char) {values : List (List Char × String)} (hname : IsName name)
    (hfit : NamesFit values) (h : ∀ v ∈ values, ∀ c ∈ v.2.toList, plainInValue c = true) :
    (Tag.plain name values).WellFormed ∧ (Tag.plain name values).Gives values := by
  refine gives_of_spells hname hfit ?_
  rw [List.forall₂_map_left_iff, List.forall₂_same]
  exact fun v hv => ⟨rfl, spelling_self (h v hv)⟩

/-! ## Elements -/

/-- Elements beside one another: the first, with its attributes and what stands in it, and those
behind it. -/
inductive Forest where
  | nil
  | cons (name : List Char) (values : List (List Char × String)) (inside behind : Forest)

/-- Elements and attributes have names, and no attribute of an element comes twice. -/
def Forest.NamesFit : Forest → Prop
  | nil => True
  | cons name values inside behind =>
    (IsName name ∧ Xml.NamesFit values) ∧ inside.NamesFit ∧ behind.NamesFit

/-- The markup shows these elements. -/
def Content.Shows : Content → Forest → Prop
  | nil, f => f = .nil
  | text _ next, f | cdata _ next, f | aside _ next, f => next.Shows f
  | empty tag next, f =>
    ∃ values behind, f = .cons tag.name values .nil behind ∧ tag.Gives values ∧ next.Shows behind
  | element tag content _ next, f =>
    ∃ values inside behind, f = .cons tag.name values inside behind ∧ tag.Gives values ∧
      content.Shows inside ∧ next.Shows behind

/-- **Every tree of elements can be written.** -/
theorem exists_shows {f : Forest} (h : f.NamesFit) :
    ∃ c : Content, c.WellFormed ∧ c.Shows f := by
  induction f with
  | nil => exact ⟨.nil, trivial, rfl⟩
  | cons name values inside behind ihinside ihbehind =>
    obtain ⟨⟨hname, hvalues⟩, hinside, hbehind⟩ := h
    obtain ⟨as, has⟩ := exists_spells values
    obtain ⟨htag, hgives⟩ := gives_of_spells hname hvalues has
    obtain ⟨content, hcontent, hshown⟩ := ihinside hinside
    obtain ⟨next, hnext, hshows⟩ := ihbehind hbehind
    exact ⟨.element _ content [] next, ⟨⟨htag, List.forall_mem_nil _⟩, hcontent, hnext⟩,
      values, inside, behind, rfl, hgives, hshown, hshows⟩

/-- An element with its attributes, and the name of the element around it. -/
structure Element where
  parent : Option (List Char)
  name : List Char
  values : List (List Char × String)

/-- The elements of a tree in the order of their start tags. -/
def Forest.elements (parent : Option (List Char)) : Forest → List Element
  | nil => []
  | cons name values inside behind =>
    ⟨parent, name, values⟩ :: (inside.elements (some name) ++ behind.elements parent)

theorem Forest.parent_of_mem_elements {f : Forest} {name : List Char} :
    ∀ e ∈ f.elements (some name), e.parent ≠ none := by
  induction f generalizing name with
  | nil => exact List.forall_mem_nil _
  | cons _ _ _ _ ihinside ihbehind =>
    exact List.forall_mem_cons.2 ⟨nofun, List.forall_mem_append.2 ⟨ihinside, ihbehind⟩⟩

/-! ## Reading -/

/-- Put an event behind those before it. -/
def collect (passed : List Event) (e : Event) : Except Failure (List Event) := .ok (passed ++ [e])

theorem foldlM_collect (passed es : List Event) :
    es.foldlM collect passed = .ok (passed ++ es) := by
  induction es generalizing passed with
  | nil => rw [List.append_nil]; rfl
  | cons e es ih =>
    rw [List.foldlM_cons, collect]
    exact (ih (passed ++ [e])).trans (by rw [List.append_assoc, List.singleton_append])

theorem Reading.eq_of_follow_collect {reading : Reading} {es : List Event}
    (h : reading.follow collect [] = .ok es) : reading = ⟨es, none⟩ := by
  obtain ⟨events, fault⟩ := reading
  rw [Reading.follow, foldlM_collect] at h
  cases fault with
  | none =>
    cases h
    rfl
  | some e => cases h

/-- **The text of a tree is read** as its events. -/
theorem read_source {c : Content} (hc : c.WellFormed) :
    read (.ofList c.source) = ⟨c.events, none⟩ := by
  have hend : ∀ d ∈ ([] : List Char).head?, d = '<' := nofun
  have hfollow := followFrom_source collect hc hend [] []
  rw [List.append_nil, foldlM_collect] at hfollow
  rw [read, String.toList_ofList]
  exact Reading.eq_of_follow_collect hfollow

end MediaScraper.Xml
