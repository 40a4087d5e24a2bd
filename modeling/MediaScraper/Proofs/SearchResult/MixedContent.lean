import MediaScraper.Proofs.SearchResult.Entities

/-!
# Fields with elements inside

The reader of search results keeps the name of one open field. Text goes to the field whose start
tag came last, and an end tag closes whichever field is open. So of a field that has elements inside
it keeps the texts up to the first inner element with an end tag (`leading_prefix`). What a field
holds is only added to afterwards, but a second url begins anew (`foldlM_grows`), so the field that
is stored holds these texts one after the other (`leading_infix`, `readAll_keeps`).

If the inner elements close themselves, this is all the text of the field; what stands behind an
inner end tag is lost (`readAll_mixed`).
-/

namespace MediaScraper.SearchResult

open Xml

/-! ## Fields -/

/-- The fields of an entry. -/
inductive Field where
  | title
  | year
  | id
  | url
deriving DecidableEq

/-- The name of the element that holds the field. -/
def Field.name : Field → List Char
  | title => "title".toList
  | year => "year".toList
  | id => "id".toList
  | url => Url.elementName

/-- What an entry holds of a field. -/
def held (r : SearchResult) : Field → List Char
  | .title => r.title.toList
  | .year => (r.year.getD "").toList
  | .id => (r.id.getD "").toList
  | .url => (r.url.elim "" Url.address).toList

/-- The names of the elements with two tags, in the order of their start tags. -/
def openings : Content → List (List Char)
  | .nil => []
  | .text _ next | .cdata _ next | .aside _ next | .empty _ next => openings next
  | .element tag content _ next => tag.name :: (openings content ++ openings next)

/-- An element between two tags, with what stands inside of it and behind it. -/
structure Child where
  name : List Char
  inside : Content
  behind : Content

/-- The elements with two tags that stand directly in a tree. -/
def children : Content → List Child
  | .nil => []
  | .text _ next | .cdata _ next | .aside _ next | .empty _ next => children next
  | .element tag content _ next => ⟨tag.name, content, next⟩ :: children next

/-- What a text stands for, if its references resolve. -/
def meaning (raw : List Char) : List Char :=
  match unescape raw with
  | .ok s => s
  | .error _ => []

/-- The texts and sections that stand directly in a tree. -/
def direct : Content → List Char
  | .nil => []
  | .text raw next => meaning raw ++ direct next
  | .cdata content next => content ++ direct next
  | .aside _ next | .empty _ next | .element _ _ _ next => direct next

/-- Those before the first element with two tags. -/
def leading : Content → List Char
  | .nil | .element _ _ _ _ => []
  | .text raw next => meaning raw ++ leading next
  | .cdata content next => content ++ leading next
  | .aside _ next | .empty _ next => leading next

theorem leading_eq_direct {c : Content} (h : openings c = []) : leading c = direct c := by
  induction c with
  | nil => rfl
  | text raw next ih => exact congrArg (meaning raw ++ ·) (ih h)
  | cdata content next ih => exact congrArg (content ++ ·) (ih h)
  | aside w next ih => exact ih h
  | empty tag next ih => exact ih h
  | element tag content spaces next _ _ => cases h

/-! ## Adding text -/

/-- There is something to add text to: a url is there once its start tag has been read. -/
def CanHold (r : SearchResult) (field : Field) : Prop := field = .url → r.url.isSome = true

theorem held_addText {r : SearchResult} {field : Field} (h : r.CanHold field) (s : List Char) :
    (r.addText field.name (.ofList s)).held field = r.held field ++ s := by
  cases field with
  | title => exact (String.toList_append ..).trans (by rw [String.toList_ofList]; rfl)
  | year => exact (String.toList_append ..).trans (by rw [String.toList_ofList]; rfl)
  | id => exact (String.toList_append ..).trans (by rw [String.toList_ofList]; rfl)
  | url =>
    obtain ⟨u, hu⟩ := Option.isSome_iff_exists.1 (h rfl)
    have hadd : r.addText Field.url.name (.ofList s) =
        { r with url := r.url.map (·.addText (.ofList s)) } := rfl
    rw [hadd, held, held, hu]
    exact (String.toList_append ..).trans (by rw [String.toList_ofList]; rfl)

theorem toList_prefix_append (s t : String) : s.toList <+: (s ++ t).toList := by
  rw [String.toList_append]
  exact List.prefix_append _ _

/-- Whatever text is added, no field loses what it holds. -/
theorem held_prefix_addText (r : SearchResult) (name : List Char) (s : String) (field : Field) :
    r.held field <+: (r.addText name s).held field := by
  unfold addText
  split_ifs
  · cases field with
    | title => exact toList_prefix_append _ _
    | _ => exact List.prefix_rfl
  · cases field with
    | year => exact toList_prefix_append _ _
    | _ => exact List.prefix_rfl
  · cases field with
    | id => exact toList_prefix_append _ _
    | _ => exact List.prefix_rfl
  · cases field with
    | url =>
      rw [held, held]
      cases r.url with
      | none => exact List.prefix_rfl
      | some u => exact toList_prefix_append _ _
    | _ => exact List.prefix_rfl
  · exact List.prefix_rfl

theorem held_prefix_gather (r : SearchResult) (opened : Option (List Char)) (s : List Char)
    (field : Field) : r.held field <+: (r.gather opened s).held field := by
  cases opened with
  | none => exact List.prefix_rfl
  | some name => exact held_prefix_addText r name _ field

theorem CanHold.addText {r : SearchResult} {field : Field} (h : r.CanHold field)
    (name : List Char) (s : String) : (r.addText name s).CanHold field := by
  intro hurl
  have hsome := h hurl
  unfold SearchResult.addText
  split_ifs
  · exact hsome
  · exact hsome
  · exact hsome
  · exact Option.isSome_map.trans hsome
  · exact hsome

/-! ## Reading a field -/

section
variable {finished : List SearchResult} {field : Field}

/-- A start tag takes nothing from the fields, unless it begins another url. -/
theorem of_step_opening_held (field : Field) {tag : Tag} (hname : tag.name ≠ "entity".toList)
    {r : SearchResult} {opened : Option (List Char)} {p : Progress}
    (h : Progress.step ⟨some r, opened, finished⟩ (.opening tag) = .ok p) :
    ∃ r', p = ⟨some r', some tag.name, finished⟩ ∧ (tag.name = field.name → r'.CanHold field) ∧
      ((field = .url → tag.name ≠ Url.elementName) → r'.held field = r.held field) := by
  obtain ⟨r', rfl, hother, hurl⟩ := of_step_opening hname h
  refine ⟨r', rfl, ?_, ?_⟩
  · rintro hfield rfl
    obtain ⟨u, rfl⟩ := hurl hfield
    rfl
  · intro hne
    by_cases heq : tag.name = Url.elementName
    · obtain ⟨u, rfl⟩ := hurl heq
      cases field with
      | url => exact absurd heq (hne rfl)
      | _ => rfl
    · rw [hother heq]

theorem of_foldlM_inner (field : Field) {tag : Tag} {content next : Content}
    (hname : tag.name ≠ "entity".toList) (hcontent : entities content = []) {spaces : List Char}
    {r : SearchResult} {opened : Option (List Char)} {p : Progress}
    (h : (Content.element tag content spaces next).events.foldlM Progress.step
      ⟨some r, opened, finished⟩ = .ok p) :
    ∃ r₁ r₂ opened₂, (tag.name = field.name → r₁.CanHold field) ∧
      ((field = .url → tag.name ≠ Url.elementName) → r₁.held field = r.held field) ∧
      content.events.foldlM Progress.step ⟨some r₁, some tag.name, finished⟩ =
        .ok ⟨some r₂, opened₂, finished⟩ ∧
      next.events.foldlM Progress.step ⟨some r₂, none, finished⟩ = .ok p := by
  obtain ⟨_, _, _, hopen, hinner, hclose, hnext⟩ := of_foldlM_element h
  obtain ⟨r₁, rfl, hhold, hheld⟩ := of_step_opening_held field hname hopen
  obtain ⟨r₂, opened₂, rfl, -⟩ := foldlM_inside hcontent hinner
  cases (step_closing_inside hname).symm.trans hclose
  exact ⟨r₁, r₂, opened₂, hhold, hheld, hinner, hnext⟩

/-- **Inside of an entity** no field loses what it holds, unless another url begins. -/
theorem foldlM_grows {c : Content} (hc : entities c = [])
    (hurl : field = .url → Url.elementName ∉ openings c) {r r' : SearchResult}
    {opened opened' : Option (List Char)}
    (h : c.events.foldlM Progress.step ⟨some r, opened, finished⟩ =
      .ok ⟨some r', opened', finished⟩) : r.held field <+: r'.held field := by
  induction c generalizing r r' opened opened' with
  | nil =>
    cases h
    exact List.prefix_rfl
  | text raw next ih =>
    obtain ⟨_, hstep, h⟩ := bind_eq_ok_iff.1 h
    obtain ⟨s, -, rfl⟩ := of_step_text hstep
    exact (held_prefix_gather r opened s field).trans (ih hc hurl h)
  | cdata content next ih =>
    rw [Content.events, List.foldlM_cons, step_cdata] at h
    exact (held_prefix_gather r opened content field).trans (ih hc hurl h)
  | aside w next ih => exact ih hc hurl h
  | empty tag next ih => exact ih (List.append_eq_nil_iff.1 hc).2 hurl h
  | element tag content spaces next ihcontent ih =>
    obtain ⟨hname, hcontent, hnext⟩ := entities_cons_eq_nil.1 hc
    obtain ⟨r₁, r₂, opened₂, -, hheld, hinner, h⟩ := of_foldlM_inner field hname hcontent h
    simp only [openings, List.mem_cons, List.mem_append, not_or] at hurl
    rw [← hheld fun hfield => Ne.symm (hurl hfield).1]
    exact (ihcontent hcontent (fun hfield => (hurl hfield).2.1) hinner).trans
      (ih hnext (fun hfield => (hurl hfield).2.2) h)

/-- **In its own element** a field is given the text before the first inner element. -/
theorem leading_prefix {c : Content} (hc : entities c = [])
    (hurl : field = .url → Url.elementName ∉ openings c) {r r' : SearchResult}
    (hr : r.CanHold field) {opened' : Option (List Char)}
    (h : c.events.foldlM Progress.step ⟨some r, some field.name, finished⟩ =
      .ok ⟨some r', opened', finished⟩) : r.held field ++ leading c <+: r'.held field := by
  induction c generalizing r with
  | nil =>
    cases h
    rw [leading, List.append_nil]
  | text raw next ih =>
    obtain ⟨_, hstep, h⟩ := bind_eq_ok_iff.1 h
    obtain ⟨s, hs, rfl⟩ := of_step_text hstep
    have hmeaning : meaning raw = s := by rw [meaning, hs rfl]
    have hrest := ih hc hurl (hr.addText _ _) h
    rwa [held_addText hr, List.append_assoc, ← hmeaning] at hrest
  | cdata content next ih =>
    rw [Content.events, List.foldlM_cons, step_cdata] at h
    have hrest := ih hc hurl (hr.addText _ _) h
    rwa [held_addText hr, List.append_assoc] at hrest
  | aside w next ih => exact ih hc hurl hr h
  | empty tag next ih => exact ih (List.append_eq_nil_iff.1 hc).2 hurl hr h
  | element tag content spaces next _ _ =>
    rw [leading, List.append_nil]
    exact foldlM_grows hc hurl h

/-- **The field of an entity** holds the text that comes first in its element. -/
theorem leading_infix {c : Content} (hc : entities c = []) {child : Child}
    (hchild : child ∈ children c) (hname : child.name = field.name)
    (hurl : field = .url → Url.elementName ∉ openings child.inside ∧
      Url.elementName ∉ openings child.behind) {r r' : SearchResult}
    {opened opened' : Option (List Char)}
    (h : c.events.foldlM Progress.step ⟨some r, opened, finished⟩ =
      .ok ⟨some r', opened', finished⟩) : leading child.inside <:+: r'.held field := by
  induction c generalizing r opened with
  | nil => cases hchild
  | text raw next ih =>
    obtain ⟨_, hstep, h⟩ := bind_eq_ok_iff.1 h
    obtain ⟨s, -, rfl⟩ := of_step_text hstep
    exact ih hc hchild h
  | cdata content next ih =>
    rw [Content.events, List.foldlM_cons, step_cdata] at h
    exact ih hc hchild h
  | aside w next ih => exact ih hc hchild h
  | empty tag next ih => exact ih (List.append_eq_nil_iff.1 hc).2 hchild h
  | element tag content spaces next _ ih =>
    obtain ⟨htag, hcontent, hnext⟩ := entities_cons_eq_nil.1 hc
    obtain ⟨r₁, r₂, opened₂, hhold, -, hinner, h⟩ := of_foldlM_inner field htag hcontent h
    obtain _ | ⟨_, hchild⟩ := hchild
    · simp only at hname hurl ⊢
      rw [hname] at hinner
      have hlead := leading_prefix hcontent (fun hfield => (hurl hfield).1) (hhold hname) hinner
      have hgrow := foldlM_grows hnext (fun hfield => (hurl hfield).2) h
      obtain ⟨behind, hbehind⟩ := hlead.trans hgrow
      exact ⟨r₁.held field, behind, hbehind⟩
    · exact ih hnext hchild h

end

/-! ## The fields of a document -/

/-- The entry holds the text of each field that stands directly in the tree: what comes before the
first inner element with two tags, and all of it if there is no such element. No url may begin in or
behind the element of the url. -/
def Keeps (c : Content) (r : SearchResult) : Prop :=
  ∀ child ∈ children c, ∀ field : Field, child.name = field.name →
    (field = .url → Url.elementName ∉ openings child.inside ∧
      Url.elementName ∉ openings child.behind) →
    leading child.inside <:+: r.held field ∧
      (openings child.inside = [] → direct child.inside <:+: r.held field)

theorem Stores.keeps {e : Content} {r : SearchResult} (h : Stores e r) : Keeps (inside e) r := by
  cases h with
  | mk _ hcontent hrun =>
    intro child hchild field hname hurl
    have hlead := leading_infix hcontent hchild hname hurl hrun
    refine ⟨hlead, fun hnone => ?_⟩
    rwa [← leading_eq_direct hnone]

/-- **The text of a field is kept** up to the first end tag in it. An entity in which no other one
stands stores one entry, which holds the text of its fields; trimmed, it is the result. -/
theorem readAll_keeps {c : Content} (hc : c.WellFormed) {rs : List SearchResult}
    (h : readAll (.ofList c.source) = .ok rs) :
    ∃ groups : List (List SearchResult), rs = groups.flatten ∧
      List.Forall₂ (fun e group => entities (inside e) = [] →
          ∃ r, Stores e r ∧ Keeps (inside e) r ∧ group = [r.finish])
        ((entities c).filter isOpened) groups := by
  obtain ⟨groups, hgroups, rfl⟩ := exists_of_readAll hc h
  refine ⟨groups, rfl, hgroups.imp fun e group hgives hnone => ?_⟩
  obtain ⟨r, hr, rfl⟩ := hgives hnone
  exact ⟨r, hr, hr.keeps, rfl⟩

/-- An entity with a title in which there are other elements. -/
def mixed : Content :=
  .element (.bare "results".toList)
    (.element (.bare "entity".toList)
      (.element (.bare "title".toList)
        (.text ['a'] <| .empty (.bare "br".toList) <| .text ['b'] <|
          .element (.bare "i".toList) (.text ['c'] .nil) [] <| .cdata ['d'] .nil) [] .nil) [] .nil)
    [] .nil

theorem wellFormed_mixed : mixed.WellFormed := by
  have hbare : ∀ name ∈ ["results".toList, "entity".toList, "title".toList, "br".toList,
      "i".toList], (Tag.bare name).WellFormed := fun name hname =>
    Tag.wellFormed_bare ((show ∀ name ∈ _, IsName name by decide) name hname)
  have htext (c : Char) (hc : c ≠ '<') {next : Content} (hnext : next.WellFormed)
      (hstop : ¬ next.IsText) : (Content.text [c] next).WellFormed :=
    ⟨⟨List.cons_ne_nil _ _, fun h => hc (List.mem_singleton.1 h).symm, hstop⟩, hnext⟩
  have helement {name : List Char} {content next : Content} (hname : (Tag.bare name).WellFormed)
      (hcontent : content.WellFormed) (hnext : next.WellFormed) :
      (Content.element (.bare name) content [] next).WellFormed :=
    ⟨⟨hname, List.forall_mem_nil _⟩, hcontent, hnext⟩
  refine helement (hbare _ (by decide)) (helement (hbare _ (by decide)) (helement
    (hbare _ (by decide)) (htext 'a' (by decide) ⟨hbare _ (by decide), ?_⟩ not_false) trivial)
    trivial) trivial
  refine htext 'b' (by decide) (helement (hbare _ (by decide)) ?_ ⟨by decide, trivial⟩) not_false
  exact htext 'c' (by decide) trivial not_false

theorem readAll_source_mixed :
    readAll (.ofList mixed.source) = .ok [⟨"ab", none, none, none⟩] := by
  rw [readAll_source wellFormed_mixed]
  rfl

theorem readAll_keeps_mixed : mixed.WellFormed ∧
    readAll (.ofList mixed.source) = .ok [⟨"ab", none, none, none⟩] ∧
    ∃ groups : List (List SearchResult), [⟨"ab", none, none, none⟩] = groups.flatten ∧
      List.Forall₂ (fun e group => entities (inside e) = [] →
          ∃ r, Stores e r ∧ Keeps (inside e) r ∧ group = [r.finish])
        ((entities mixed).filter isOpened) groups :=
  ⟨wellFormed_mixed, readAll_source_mixed, readAll_keeps wellFormed_mixed readAll_source_mixed⟩

/-- **Behind an inner end tag** the text of a field is lost. -/
theorem readAll_mixed : mixed.WellFormed ∧ Apart mixed ∧
    mixed.source =
      "<results><entity><title>a<br/>b<i>c</i><![CDATA[d]]></title></entity></results>".toList ∧
    ((entities mixed).flatMap fun e => (children (inside e)).map fun child =>
      (child.name, direct child.inside)) = [("title".toList, ['a', 'b', 'd'])] ∧
    readAll (.ofList mixed.source) = .ok [⟨"ab", none, none, none⟩] :=
  ⟨wellFormed_mixed, List.forall_mem_singleton.2 rfl, rfl, rfl, readAll_source_mixed⟩

end MediaScraper.SearchResult
