import MediaScraper.Proofs.Except
import MediaScraper.Proofs.SearchResult.Reading
import MediaScraper.Proofs.Xml.Content

/-!
# One result for each entity

The reader of search results keeps the entry whose element is open, and finishes it at the end tag.
Inside of an entity that holds no other one, the entry stays open, and no inner element leaves its
field open (`foldlM_inside`); what is finished already does not matter (`foldlM_behind`). So such an
entity is one entry, the same wherever it stands (`stores_of_foldlM`). Between entities nothing is
kept, so a document gives the results of its entities one after the other (`foldlM_between`), which
is one for each (`readAll_entities`).

An entity that closes itself is passed over, so there must be none (`readAll_selfClosed`).
-/

namespace MediaScraper.SearchResult

open Xml

/-! ## Entities of a tree -/

/-- The outermost entities of a tree in their order, each as a tree of its own. -/
def entities : Content → List Content
  | .nil => []
  | .text _ next | .cdata _ next | .aside _ next => entities next
  | .empty tag next =>
    (if tag.name = "entity".toList then [.empty tag .nil] else []) ++ entities next
  | .element tag content spaces next =>
    (if tag.name = "entity".toList then [.element tag content spaces .nil] else entities content) ++
      entities next

/-- What stands inside of an element that a tree begins with. -/
def inside : Content → Content
  | .element _ content _ _ => content
  | _ => .nil

/-- No entity stands inside of another one. -/
def Apart (c : Content) : Prop := ∀ e ∈ entities c, entities (inside e) = []

/-- Does the tree begin with an element between two tags? -/
def isOpened : Content → Bool
  | .element _ _ _ _ => true
  | _ => false

/-- The references in the texts of a tree resolve. -/
def TextsResolve : Content → Prop
  | .nil => True
  | .text raw next => (∃ s, unescape raw = .ok s) ∧ TextsResolve next
  | .cdata _ next | .aside _ next | .empty _ next => TextsResolve next
  | .element _ content _ next => TextsResolve content ∧ TextsResolve next

/-- The references in the attributes of url elements resolve. -/
def UrlsResolve : Content → Prop
  | .nil => True
  | .text _ next | .cdata _ next | .aside _ next | .empty _ next => UrlsResolve next
  | .element tag content _ next =>
    (tag.name = Url.elementName → ∀ a ∈ tag.attributes.1, ∃ s, unescape a.raw = .ok s) ∧
      UrlsResolve content ∧ UrlsResolve next

/-! ## Reading without a fault -/

/-- The reader can take the event in any state. -/
def Readable : Event → Prop
  | .text raw => ∃ s, unescape raw = .ok s
  | .opening tag => tag.name = Url.elementName → ∃ u, Url.ofTag tag = .ok u
  | _ => True

theorem exists_ofTag {tag : Tag} (h : tag.WellFormed)
    (hvalues : ∀ a ∈ tag.attributes.1, ∃ s, unescape a.raw = .ok s) :
    ∃ u, Url.ofTag tag = .ok u := by
  obtain ⟨as, has⟩ := h.attributes_eq
  obtain ⟨values, hvalues⟩ : ∃ values : List (List Char × String),
      List.Forall₂ (fun a v => a.name = v.1 ∧ a.value = .ok v.2) as values := by
    rw [has] at hvalues
    clear has
    induction as with
    | nil => exact ⟨[], .nil⟩
    | cons a as ih =>
      obtain ⟨⟨s, hs⟩, hvalues⟩ := List.forall_mem_cons.1 hvalues
      obtain ⟨values, ih⟩ := ih hvalues
      exact ⟨(a.name, .ofList s) :: values, .cons ⟨rfl, by rw [Attribute.value, hs]; rfl⟩ ih⟩
  rw [Url.ofTag, has]
  simp only
  rw [Url.foldlM_of_forall₂ hvalues (g := fun u v => u.withAttribute v.1 v.2)]
  · exact ⟨_, rfl⟩
  · rintro url a v ⟨hname, hvalue⟩
    rw [hvalue, hname]

theorem readable_events {c : Content} (hc : c.WellFormed) (htexts : TextsResolve c)
    (hurls : UrlsResolve c) : ∀ e ∈ c.events, Readable e := by
  induction c with
  | nil => exact List.forall_mem_nil _
  | text raw next ih => exact List.forall_mem_cons.2 ⟨htexts.1, ih hc.2 htexts.2 hurls⟩
  | cdata content next ih => exact List.forall_mem_cons.2 ⟨trivial, ih hc.2 htexts hurls⟩
  | aside w next ih => exact List.forall_mem_cons.2 ⟨trivial, ih hc.2 htexts hurls⟩
  | empty tag next ih => exact List.forall_mem_cons.2 ⟨trivial, ih hc.2 htexts hurls⟩
  | element tag content spaces next ihcontent ih =>
    obtain ⟨⟨htag, -⟩, hcontent, hnext⟩ := hc
    obtain ⟨hvalues, hurlscontent, hurlsnext⟩ := hurls
    refine List.forall_mem_cons.2 ⟨fun hname => exists_ofTag htag (hvalues hname), ?_⟩
    refine List.forall_mem_append.2 ⟨ihcontent hcontent htexts.1 hurlscontent, ?_⟩
    exact List.forall_mem_cons.2 ⟨trivial, ih hnext htexts.2 hurlsnext⟩

theorem step_of_readable {e : Event} (h : Readable e) (p : Progress) :
    ∃ next, p.step e = .ok next := by
  cases e with
  | opening tag =>
    rw [Progress.step]
    split
    · exact ⟨_, rfl⟩
    · split
      · exact ⟨_, rfl⟩
      · split
        · next hname =>
          obtain ⟨u, hu⟩ := h hname
          rw [hu]
          exact ⟨_, rfl⟩
        · exact ⟨_, rfl⟩
  | text raw =>
    obtain ⟨s, hs⟩ := h
    rw [Progress.step]
    split
    · rw [hs]
      exact ⟨_, rfl⟩
    · exact ⟨_, rfl⟩
  | closing name =>
    rw [Progress.step]
    split
    · split <;> exact ⟨_, rfl⟩
    · exact ⟨_, rfl⟩
  | _ => exact ⟨_, rfl⟩

/-- **Events that can be taken** are taken to the last. -/
theorem foldlM_of_readable {es : List Event} (h : ∀ e ∈ es, Readable e) (p : Progress) :
    ∃ last, es.foldlM Progress.step p = .ok last := by
  induction es generalizing p with
  | nil => exact ⟨p, rfl⟩
  | cons e es ih =>
    obtain ⟨he, hes⟩ := List.forall_mem_cons.1 h
    obtain ⟨next, hnext⟩ := step_of_readable he p
    rw [List.foldlM_cons, hnext]
    exact ih hes next

/-- An element is a step into it, its content and a step out of it. -/
theorem foldlM_element {tag : Tag} {content : Content} {p opened inner closed : Progress}
    (hopen : p.step (.opening tag) = .ok opened)
    (hinner : content.events.foldlM Progress.step opened = .ok inner)
    (hclose : inner.step (.closing tag.name) = .ok closed) (spaces : List Char) (next : Content) :
    (Content.element tag content spaces next).events.foldlM Progress.step p =
      next.events.foldlM Progress.step closed := by
  have hend : (Event.closing tag.name :: next.events).foldlM Progress.step inner =
      next.events.foldlM Progress.step closed := by
    rw [List.foldlM_cons, hclose]
    rfl
  have hrest : (content.events ++ Event.closing tag.name :: next.events).foldlM Progress.step
      opened = next.events.foldlM Progress.step closed := by
    rw [List.foldlM_append, hinner]
    exact hend
  rw [Content.events, List.foldlM_cons, hopen]
  exact hrest

theorem of_foldlM_element {tag : Tag} {content next : Content} {spaces : List Char}
    {p q : Progress}
    (h : (Content.element tag content spaces next).events.foldlM Progress.step p = .ok q) :
    ∃ opened inner closed, p.step (.opening tag) = .ok opened ∧
      content.events.foldlM Progress.step opened = .ok inner ∧
      inner.step (.closing tag.name) = .ok closed ∧
      next.events.foldlM Progress.step closed = .ok q := by
  obtain ⟨opened, hopen, h⟩ := bind_eq_ok_iff.1 h
  obtain ⟨inner, hinner, h⟩ := bind_eq_ok_iff.1 (List.foldlM_append.symm.trans h)
  obtain ⟨closed, hclose, h⟩ := bind_eq_ok_iff.1 h
  exact ⟨opened, inner, closed, hopen, hinner, hclose, h⟩

/-! ## What is finished -/

/-- Behind entries that are finished already. -/
def Progress.behind (p : Progress) (finished : List SearchResult) : Progress :=
  { p with finished := p.finished ++ finished }

theorem step_behind (p : Progress) (e : Event) (finished : List SearchResult) :
    (p.behind finished).step e = (p.step e).map (·.behind finished) := by
  obtain ⟨current, field, before⟩ := p
  cases e with
  | opening tag =>
    simp only [Progress.behind, Progress.step]
    split
    · rfl
    · cases current with
      | none => rfl
      | some r =>
        simp only
        split
        · cases Url.ofTag tag <;> rfl
        · rfl
  | text raw =>
    cases current with
    | none => rfl
    | some r =>
      cases field with
      | none => rfl
      | some field =>
        simp only [Progress.behind, Progress.step]
        cases unescape raw <;> rfl
  | cdata content => cases current <;> cases field <;> rfl
  | closing name =>
    simp only [Progress.behind, Progress.step]
    split
    · cases current <;> rfl
    · rfl
  | _ => rfl

/-- **What is finished already does not matter.** -/
theorem foldlM_behind (es : List Event) (p : Progress) (finished : List SearchResult) :
    es.foldlM Progress.step (p.behind finished) =
      (es.foldlM Progress.step p).map (·.behind finished) := by
  induction es generalizing p with
  | nil => rfl
  | cons e es ih =>
    rw [List.foldlM_cons, List.foldlM_cons, step_behind]
    cases p.step e with
    | error _ => rfl
    | ok next => exact ih next

theorem exists_finished {es : List Event} {p q : Progress}
    (h : es.foldlM Progress.step p = .ok q) : ∃ more, q.finished = more ++ p.finished := by
  have hbehind := foldlM_behind es { p with finished := [] } p.finished
  rw [Progress.behind, List.nil_append, h] at hbehind
  cases hrun : es.foldlM Progress.step { p with finished := [] } with
  | error _ =>
    rw [hrun] at hbehind
    cases hbehind
  | ok last =>
    rw [hrun] at hbehind
    cases hbehind
    exact ⟨last.finished, rfl⟩

/-! ## Inside of an entity -/

theorem entities_cons_eq_nil {tag : Tag} {content next : Content} {spaces : List Char} :
    entities (.element tag content spaces next) = [] ↔
      tag.name ≠ "entity".toList ∧ entities content = [] ∧ entities next = [] := by
  rw [entities, List.append_eq_nil_iff, ← and_assoc]
  refine and_congr_left fun _ => ?_
  split
  · next hname => exact iff_of_false (List.cons_ne_nil _ _) fun h => h.1 hname
  · next hname => exact (and_iff_right hname).symm

/-- The entry with text added to the field that is open, if there is one. -/
def gather (r : SearchResult) (field : Option (List Char)) (text : List Char) : SearchResult :=
  field.elim r fun field => r.addText field (.ofList text)

section
variable {r : SearchResult} {field : Option (List Char)} {finished : List SearchResult}
  {p : Progress}

/-- The start tag of an element in an entity opens its field, and one of a url begins a new url. -/
theorem of_step_opening {tag : Tag} (hname : tag.name ≠ "entity".toList)
    (h : Progress.step ⟨some r, field, finished⟩ (.opening tag) = .ok p) :
    ∃ r', p = ⟨some r', some tag.name, finished⟩ ∧
      (tag.name ≠ Url.elementName → r' = r) ∧
      (tag.name = Url.elementName → ∃ u, r' = { r with url := some u }) := by
  rw [Progress.step, if_neg hname] at h
  simp only at h
  split at h
  · next hurl =>
    split at h
    · cases h
      exact ⟨_, rfl, fun hne => absurd hurl hne, fun _ => ⟨_, rfl⟩⟩
    · cases h
  · next hurl =>
    cases h
    exact ⟨r, rfl, fun _ => rfl, fun heq => absurd heq hurl⟩

theorem of_step_text {raw : List Char}
    (h : Progress.step ⟨some r, field, finished⟩ (.text raw) = .ok p) :
    ∃ s, (field.isSome = true → unescape raw = .ok s) ∧
      p = ⟨some (r.gather field s), field, finished⟩ := by
  cases field with
  | none =>
    cases h
    exact ⟨[], nofun, rfl⟩
  | some field =>
    simp only [Progress.step] at h
    split at h
    · next s hs =>
      cases h
      exact ⟨s, fun _ => hs, rfl⟩
    · cases h

theorem step_cdata (content : List Char) :
    Progress.step ⟨some r, field, finished⟩ (.cdata content) =
      .ok ⟨some (r.gather field content), field, finished⟩ := by
  cases field <;> rfl

theorem step_closing_inside {name : List Char} (hname : name ≠ "entity".toList) :
    Progress.step ⟨some r, field, finished⟩ (.closing name) = .ok ⟨some r, none, finished⟩ := by
  rw [Progress.step, if_neg hname]

end

/-- **Inside of an entity** the entry stays open, and no inner element leaves its field open. -/
theorem foldlM_inside {c : Content} (hc : entities c = []) {r : SearchResult}
    {field : Option (List Char)} {finished : List SearchResult} {p : Progress}
    (h : c.events.foldlM Progress.step ⟨some r, field, finished⟩ = .ok p) :
    ∃ r' field', p = ⟨some r', field', finished⟩ ∧ (field = none → field' = none) := by
  induction c generalizing r field p with
  | nil =>
    cases h
    exact ⟨r, field, rfl, fun h => h⟩
  | text raw next ih =>
    obtain ⟨_, hstep, h⟩ := bind_eq_ok_iff.1 h
    obtain ⟨s, -, rfl⟩ := of_step_text hstep
    exact ih hc h
  | cdata content next ih =>
    rw [Content.events, List.foldlM_cons, step_cdata] at h
    exact ih hc h
  | aside w next ih => exact ih hc h
  | empty tag next ih => exact ih (List.append_eq_nil_iff.1 hc).2 h
  | element tag content spaces next ihcontent ih =>
    obtain ⟨hname, hcontent, hnext⟩ := entities_cons_eq_nil.1 hc
    obtain ⟨_, _, _, hopen, hinner, hclose, h⟩ := of_foldlM_element h
    obtain ⟨r₁, rfl, -⟩ := of_step_opening hname hopen
    obtain ⟨r₂, field₂, rfl, -⟩ := ihcontent hcontent hinner
    cases (step_closing_inside hname).symm.trans hclose
    obtain ⟨r', field', rfl, hfield⟩ := ih hnext h
    exact ⟨r', field', rfl, fun _ => hfield rfl⟩

/-- No element leaves its field open, also if it holds entities. -/
theorem field_of_foldlM {c : Content} {p q : Progress} (hp : p.field = none)
    (h : c.events.foldlM Progress.step p = .ok q) : q.field = none := by
  induction c generalizing p q with
  | nil =>
    cases h
    exact hp
  | text raw next ih =>
    have hstep : p.step (.text raw) = .ok p := by
      rw [Progress.step, hp]
      cases p.current <;> rfl
    rw [Content.events, List.foldlM_cons, hstep] at h
    exact ih hp h
  | cdata content next ih =>
    have hadd : p.addText (.ofList content) = p := by
      rw [Progress.addText, hp]
      cases p.current <;> rfl
    rw [Content.events, List.foldlM_cons, Progress.step, hadd] at h
    exact ih hp h
  | aside w next ih => exact ih hp h
  | empty tag next ih => exact ih hp h
  | element tag content spaces next ihcontent ih =>
    obtain ⟨_, inner, _, hopen, hinner, hclose, h⟩ := of_foldlM_element h
    refine ih ?_ h
    by_cases hname : tag.name = "entity".toList
    · cases (if_pos hname).symm.trans hopen
      have hfield := ihcontent (p := { p with current := some empty }) hp hinner
      obtain ⟨current, field, finished⟩ := inner
      cases current <;> cases (if_pos hname).symm.trans hclose <;> exact hfield
    · cases (if_neg hname).symm.trans hclose
      rfl

/-! ## Entities -/

/-- `Stores e r`: what is read inside of the entity is the entry `r`. -/
inductive Stores : Content → SearchResult → Prop
  | mk {tag : Tag} {content : Content} {spaces : List Char} {r : SearchResult} :
      tag.name = "entity".toList → entities content = [] →
      content.events.foldlM Progress.step ⟨some empty, none, []⟩ = .ok ⟨some r, none, []⟩ →
      Stores (.element tag content spaces .nil) r

/-- `Gives e rs`: the entity gives these results; one if no other entity stands inside. -/
def Gives (e : Content) (rs : List SearchResult) : Prop :=
  entities (inside e) = [] → ∃ r, Stores e r ∧ rs = [r.finish]

theorem stores_of_foldlM {tag : Tag} {content : Content} (hname : tag.name = "entity".toList)
    (hcontent : entities content = []) (spaces : List Char) {finished : List SearchResult}
    {p : Progress}
    (h : content.events.foldlM Progress.step ⟨some empty, none, finished⟩ = .ok p) :
    ∃ r, Stores (.element tag content spaces .nil) r ∧ p = ⟨some r, none, finished⟩ := by
  have hbehind := foldlM_behind content.events ⟨some empty, none, []⟩ finished
  rw [Progress.behind, List.nil_append, h] at hbehind
  cases hrun : content.events.foldlM Progress.step ⟨some empty, none, []⟩ with
  | error e =>
    rw [hrun] at hbehind
    cases hbehind
  | ok inner =>
    rw [hrun] at hbehind
    obtain ⟨r, field, rfl, hfield⟩ := foldlM_inside hcontent hrun
    obtain rfl := hfield rfl
    cases hbehind
    exact ⟨r, .mk hname hcontent hrun, rfl⟩

/-- What an entity adds to what is finished, behind its end tag. -/
theorem exists_group {tag : Tag} {content : Content} (hname : tag.name = "entity".toList)
    (spaces : List Char) {finished : List SearchResult} {inner closed : Progress}
    (hinner : content.events.foldlM Progress.step ⟨some empty, none, finished⟩ = .ok inner)
    (hclose : inner.step (.closing tag.name) = .ok closed) :
    ∃ group, Gives (.element tag content spaces .nil) group ∧
      closed = ⟨none, none, group.reverse ++ finished⟩ := by
  by_cases hcontent : entities content = []
  · obtain ⟨r, hr, rfl⟩ := stores_of_foldlM hname hcontent spaces hinner
    cases (if_pos hname).symm.trans hclose
    exact ⟨[r.finish], fun _ => ⟨r, hr, rfl⟩, rfl⟩
  · have hfield : inner.field = none := field_of_foldlM rfl hinner
    obtain ⟨more, hmore⟩ := exists_finished hinner
    obtain ⟨current, field, _⟩ := inner
    obtain rfl := hfield
    obtain rfl := hmore
    have hgives (group : List SearchResult) : Gives (.element tag content spaces .nil) group :=
      fun hnone => absurd hnone hcontent
    cases current with
    | none =>
      cases (if_pos hname).symm.trans hclose
      exact ⟨more.reverse, hgives _, by simp⟩
    | some r =>
      cases (if_pos hname).symm.trans hclose
      exact ⟨(r.finish :: more).reverse, hgives _, by simp⟩

/-- **Between entities** nothing is kept, and each entity adds its results to what is finished. -/
theorem foldlM_between {c : Content} {finished : List SearchResult} {p : Progress}
    (h : c.events.foldlM Progress.step ⟨none, none, finished⟩ = .ok p) :
    ∃ groups : List (List SearchResult), List.Forall₂ Gives ((entities c).filter isOpened) groups ∧
      p = ⟨none, none, groups.flatten.reverse ++ finished⟩ := by
  induction c generalizing finished p with
  | nil =>
    cases h
    exact ⟨[], .nil, rfl⟩
  | text raw next ih => exact ih h
  | cdata content next ih => exact ih h
  | aside w next ih => exact ih h
  | empty tag next ih =>
    obtain ⟨groups, hgroups, rfl⟩ := ih h
    refine ⟨groups, ?_, rfl⟩
    rw [entities, List.filter_append]
    split <;> exact hgroups
  | element tag content spaces next ihcontent ih =>
    obtain ⟨_, inner, closed, hopen, hinner, hclose, h⟩ := of_foldlM_element h
    rw [entities, List.filter_append]
    by_cases hname : tag.name = "entity".toList
    · cases (if_pos hname).symm.trans hopen
      obtain ⟨group, hgroup, rfl⟩ := exists_group hname spaces hinner hclose
      obtain ⟨groups, hgroups, rfl⟩ := ih h
      rw [if_pos hname]
      exact ⟨group :: groups, .cons hgroup hgroups, by simp⟩
    · cases (if_neg hname).symm.trans hopen
      obtain ⟨groups, hgroups, rfl⟩ := ihcontent hinner
      cases (if_neg hname).symm.trans hclose
      obtain ⟨groups', hgroups', rfl⟩ := ih h
      rw [if_neg hname]
      exact ⟨groups ++ groups', List.rel_append hgroups hgroups', by simp⟩

/-- Where the entities can be read, everything can: between entities no event is a fault. -/
theorem exists_foldlM_between {c : Content} (h : ∀ e ∈ entities c, ∀ x ∈ e.events, Readable x)
    (finished : List SearchResult) :
    ∃ more, c.events.foldlM Progress.step ⟨none, none, finished⟩ = .ok ⟨none, none, more⟩ := by
  induction c generalizing finished with
  | nil => exact ⟨finished, rfl⟩
  | text raw next ih => exact ih h finished
  | cdata content next ih => exact ih h finished
  | aside w next ih => exact ih h finished
  | empty tag next ih => exact ih (List.forall_mem_append.1 h).2 finished
  | element tag content spaces next ihcontent ih =>
    obtain ⟨hentity, hnext⟩ := List.forall_mem_append.1 h
    by_cases hname : tag.name = "entity".toList
    · rw [if_pos hname, List.forall_mem_singleton] at hentity
      have hcontent : ∀ x ∈ content.events, Readable x := fun x hx =>
        hentity x (List.mem_cons_of_mem _ (List.mem_append_left _ hx))
      obtain ⟨inner, hinner⟩ := foldlM_of_readable hcontent ⟨some empty, none, finished⟩
      obtain ⟨closed, hclose⟩ := step_of_readable (e := .closing tag.name) trivial inner
      obtain ⟨group, -, rfl⟩ := exists_group hname spaces hinner hclose
      obtain ⟨more, hmore⟩ := ih hnext (group.reverse ++ finished)
      exact ⟨more, (foldlM_element (if_pos hname) hinner hclose spaces next).trans hmore⟩
    · rw [if_neg hname] at hentity
      obtain ⟨inner, hinner⟩ := ihcontent hentity finished
      obtain ⟨more, hmore⟩ := ih hnext inner
      have hopen : Progress.step ⟨none, none, finished⟩ (.opening tag) =
          .ok ⟨none, none, finished⟩ := if_neg hname
      have hclose : Progress.step ⟨none, none, inner⟩ (.closing tag.name) =
          .ok ⟨none, none, inner⟩ := if_neg hname
      exact ⟨more, (foldlM_element hopen hinner hclose spaces next).trans hmore⟩

/-! ## Documents -/

theorem readAll_source {c : Content} (hc : c.WellFormed) :
    readAll (.ofList c.source) = c.events.foldlM Progress.step .start >>= fun p =>
      match p.current with
      | some _ => .error (.unreadable .unterminatedEntity)
      | none => .ok p.finished.reverse := by
  have hstop : ∀ d ∈ ([] : List Char).head?, d = '<' := nofun
  have hread := followFrom_source Progress.step hc hstop [] .start
  rw [List.append_nil] at hread
  rw [readAll_eq, String.toList_ofList, hread, bind_assoc]
  rfl

/-- **The results of a document** are those of its entities. -/
theorem exists_of_readAll {c : Content} (hc : c.WellFormed) {rs : List SearchResult}
    (h : readAll (.ofList c.source) = .ok rs) :
    ∃ groups : List (List SearchResult),
      List.Forall₂ Gives ((entities c).filter isOpened) groups ∧ rs = groups.flatten := by
  rw [readAll_source hc] at h
  obtain ⟨p, hp, h⟩ := bind_eq_ok_iff.1 h
  obtain ⟨groups, hgroups, rfl⟩ := foldlM_between hp
  cases h
  exact ⟨groups, hgroups, by simp⟩

theorem exists_readAll {c : Content} (hc : c.WellFormed)
    (h : ∀ e ∈ entities c, ∀ x ∈ e.events, Readable x) :
    ∃ rs, readAll (.ofList c.source) = .ok rs := by
  obtain ⟨more, hmore⟩ := exists_foldlM_between h []
  rw [readAll_source hc, Progress.start, hmore]
  exact ⟨_, rfl⟩

theorem flatten_of_gives {es : List Content} {groups : List (List SearchResult)}
    (h : List.Forall₂ Gives es groups) (hapart : ∀ e ∈ es, entities (inside e) = []) :
    ∃ stored, List.Forall₂ Stores es stored ∧ groups.flatten = stored.map finish := by
  induction h with
  | nil => exact ⟨[], .nil, rfl⟩
  | cons hgives _ ih =>
    obtain ⟨hfirst, hapart⟩ := List.forall_mem_cons.1 hapart
    obtain ⟨r, hr, rfl⟩ := hgives hfirst
    obtain ⟨stored, hstored, hflat⟩ := ih hapart
    exact ⟨r :: stored, .cons hr hstored, by rw [List.flatten_cons, hflat]; rfl⟩

/-- An entity alone is a document with its entry as the result. -/
theorem Stores.readAll_eq {e : Content} {r : SearchResult} (h : Stores e r) (he : e.WellFormed) :
    readAll (.ofList e.source) = .ok [r.finish] := by
  cases h with
  | @mk tag content spaces r hname hcontent hrun =>
    have hopen : Progress.step .start (.opening tag) = .ok ⟨some empty, none, []⟩ := if_pos hname
    have hclose : Progress.step ⟨some r, none, []⟩ (.closing tag.name) =
        .ok ⟨none, none, [r.finish]⟩ := if_pos hname
    rw [readAll_source he, foldlM_element hopen hrun hclose]
    rfl

theorem wellFormed_of_mem_entities {c : Content} (hc : c.WellFormed) :
    ∀ e ∈ entities c, e.WellFormed := by
  induction c with
  | nil => exact List.forall_mem_nil _
  | text raw next ih => exact ih hc.2
  | cdata content next ih => exact ih hc.2
  | aside w next ih => exact ih hc.2
  | empty tag next ih =>
    refine List.forall_mem_append.2 ⟨?_, ih hc.2⟩
    split
    · exact List.forall_mem_singleton.2 ⟨hc.1, trivial⟩
    · exact List.forall_mem_nil _
  | element tag content spaces next ihcontent ih =>
    obtain ⟨htag, hcontent, hnext⟩ := hc
    refine List.forall_mem_append.2 ⟨?_, ih hnext⟩
    split
    · exact List.forall_mem_singleton.2 ⟨htag, hcontent, trivial⟩
    · exact ihcontent hcontent

/-- **One result for each entity**, in the order of the document: the one that the entity alone
gives. -/
theorem readAll_entities {c : Content} (hc : c.WellFormed) (hapart : Apart c)
    (hresolve : ∀ e ∈ entities c, TextsResolve e ∧ UrlsResolve e)
    (hopened : ∀ e ∈ entities c, isOpened e = true) :
    ∃ rs, readAll (.ofList c.source) = .ok rs ∧
      List.Forall₂ (fun e r => readAll (.ofList e.source) = .ok [r]) (entities c) rs := by
  have hwell := wellFormed_of_mem_entities hc
  obtain ⟨rs, hrs⟩ := exists_readAll hc fun e he =>
    readable_events (hwell e he) (hresolve e he).1 (hresolve e he).2
  obtain ⟨groups, hgroups, rfl⟩ := exists_of_readAll hc hrs
  rw [List.filter_eq_self.2 hopened] at hgroups
  obtain ⟨stored, hstored, hflat⟩ := flatten_of_gives hgroups hapart
  refine ⟨_, hrs, ?_⟩
  rw [hflat, List.forall₂_map_right_iff]
  exact ((List.forall₂_and_left _ _).2 ⟨hwell, hstored⟩).imp fun e r ⟨he, hr⟩ => hr.readAll_eq he

/-- A document with two entities: one with an element that closes itself, and one further inside. -/
def twoEntities : Content :=
  .aside (instruction "xml version='1.0'".toList) <|
  .aside (doctype ("DOCTYPE".toList ++ " results [<!ELEMENT results ANY>]".toList)) <|
  .element ⟨"results".toList, "results total='2'".toList⟩
    (.text [' '] <| .element (.bare "entity".toList)
      (.element (.bare "title".toList) (.text ['A'] .nil) [] <| .empty (.bare "url".toList) .nil)
      [] <|
    .element (.bare "more".toList) (.element (.bare "entity".toList) .nil [' '] .nil) [] .nil)
    [] .nil

theorem wellFormed_twoEntities : twoEntities.WellFormed := by
  have hbare : ∀ name ∈ ["entity".toList, "title".toList, "url".toList, "more".toList],
      (Tag.bare name).WellFormed := fun name hname =>
    Tag.wellFormed_bare ((show ∀ name ∈ _, IsName name by decide) name hname)
  have htotal : Tag.WellFormed ⟨"results".toList, "results total='2'".toList⟩ := by
    have hspace : ∀ c ∈ " total='2'".toList.head?, isSpace c = true := fun c hc =>
      Option.some.inj hc ▸ rfl
    refine ⟨by decide, " total='2'".toList, [⟨"total".toList, ['2']⟩], rfl, hspace,
      .space (by decide) ?_, by decide, by decide⟩
    show Lists ('t' :: ("otal".toList ++ ([] ++ '=' :: ([] ++ '\'' :: (['2'] ++ '\'' :: [])))))
      [⟨'t' :: "otal".toList, ['2']⟩]
    exact .item (by decide) (by decide) (by decide) (by decide) (.inr rfl) (by decide) .nil
  have htitle : (Content.text ['A'] .nil).WellFormed := ⟨⟨by decide, by decide, not_false⟩, trivial⟩
  have hfirst : (Content.element (.bare "title".toList) (.text ['A'] .nil) [] <|
      .empty (.bare "url".toList) .nil).WellFormed :=
    ⟨⟨hbare _ (by decide), by decide⟩, htitle, hbare _ (by decide), trivial⟩
  have hmore : (Content.element (.bare "more".toList)
      (.element (.bare "entity".toList) .nil [' '] .nil) [] .nil).WellFormed :=
    ⟨⟨hbare _ (by decide), by decide⟩, ⟨⟨hbare _ (by decide), by decide⟩, trivial, trivial⟩,
      trivial⟩
  refine ⟨.instruction (by decide), .doctype (by decide) ⟨'r', by decide, rfl⟩, ⟨htotal, by decide⟩,
    ⟨⟨by decide, by decide, not_false⟩, ?_⟩, trivial⟩
  exact ⟨⟨hbare _ (by decide), by decide⟩, hfirst, hmore⟩

theorem readAll_twoEntities : twoEntities.WellFormed ∧ Apart twoEntities ∧
    (∀ e ∈ entities twoEntities, TextsResolve e ∧ UrlsResolve e) ∧
    (∀ e ∈ entities twoEntities, isOpened e = true) ∧ (entities twoEntities).length = 2 ∧
    ∃ rs, readAll (.ofList twoEntities.source) = .ok rs ∧
      List.Forall₂ (fun e r => readAll (.ofList e.source) = .ok [r]) (entities twoEntities) rs := by
  have hapart : Apart twoEntities := by
    simp [twoEntities, Apart, entities, inside, Tag.bare]
  have hresolve : ∀ e ∈ entities twoEntities, TextsResolve e ∧ UrlsResolve e := by
    have hletter : ∃ s, unescape ['A'] = .ok s := ⟨['A'], rfl⟩
    simp [twoEntities, entities, TextsResolve, UrlsResolve, Tag.bare, Url.elementName, hletter]
  have hopened : ∀ e ∈ entities twoEntities, isOpened e = true := by
    simp [twoEntities, entities, Tag.bare, isOpened]
  exact ⟨wellFormed_twoEntities, hapart, hresolve, hopened, rfl,
    readAll_entities wellFormed_twoEntities hapart hresolve hopened⟩

/-- A document with one entity, which closes itself. -/
def selfClosed : Content :=
  .element (.bare "results".toList) (.empty (.bare "entity".toList) .nil) [] .nil

/-- **An entity that closes itself is lost.** -/
theorem readAll_selfClosed : selfClosed.WellFormed ∧ Apart selfClosed ∧
    (∀ e ∈ entities selfClosed, TextsResolve e ∧ UrlsResolve e) ∧
    (entities selfClosed).length = 1 ∧
    selfClosed.source = "<results><entity/></results>".toList ∧
    readAll (.ofList selfClosed.source) = .ok [] := by
  have hwell : selfClosed.WellFormed :=
    ⟨⟨Tag.wellFormed_bare (by decide), by decide⟩, ⟨Tag.wellFormed_bare (by decide), trivial⟩,
      trivial⟩
  have hapart : Apart selfClosed := List.forall_mem_singleton.2 rfl
  refine ⟨hwell, hapart, List.forall_mem_singleton.2 ⟨trivial, trivial⟩, rfl, rfl, ?_⟩
  rw [readAll_source hwell]
  rfl

end MediaScraper.SearchResult
