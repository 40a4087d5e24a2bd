import MediaScraper.Proofs.Except
import MediaScraper.Proofs.Url.Options
import MediaScraper.Proofs.Xml.FirstElement

/-!
# Which url is found

In the events of a text the first url element counts, up to the first end tag of its name
(`IsFirst`). Elements of other names say nothing, and what the texts and sections in between say is
the address (`Says`). So a url is found where there is such an element, whose attributes give the
options (`find_eq_ok_iff`).

**Addresses** that are read are trimmed (`trimBlanks_address`). They may be empty: neither a bare
address nor an element of a single tag is read without one, but an element between two tags is, if it
says nothing but blanks (`address_eq_empty_iff`).
-/

namespace MediaScraper.Url

open Xml

/-! ## The first url element -/

/-- The first url element among events: the events before it, its tag, what stands in it up to the
first end tag of a url, and what stands behind that. -/
structure IsFirst (es before : List Event) (tag : Tag) (inner behind : List Event) : Prop where
  events_eq : es = before ++ .opening tag :: (inner ++ .closing elementName :: behind)
  name_eq : tag.name = elementName
  not_begins : ∀ e ∈ before, ¬ e.Begins elementName
  closing_not_mem : Event.closing elementName ∉ inner

/-- `Says es s`: the texts and sections among the events, with their references resolved, are
`s`. -/
inductive Says : List Event → List Char → Prop
  | nil : Says [] []
  | text {raw s t : List Char} {es : List Event} :
      unescape raw = .ok s → Says es t → Says (.text raw :: es) (s ++ t)
  | cdata {content t : List Char} {es : List Event} :
      Says es t → Says (.cdata content :: es) (content ++ t)
  | silent {e : Event} {t : List Char} {es : List Event} :
      (∀ raw, e ≠ .text raw) → (∀ content, e ≠ .cdata content) → Says es t → Says (e :: es) t

theorem addText_addText (u : Url) (s t : List Char) :
    (u.addText (.ofList s)).addText (.ofList t) = u.addText (.ofList (s ++ t)) := by
  simp only [addText, String.ofList_append, String.append_assoc]

/-! ## Finding it -/

section
variable {fault : Option Xml.Error} {url u : Url} {es : List Event}

theorem find_append {before : List Event} (h : ∀ e ∈ before, ¬ e.Begins elementName)
    (es : List Event) : find fault none (before ++ es) = find fault none es := by
  induction before with
  | nil => rfl
  | cons e before ih =>
    obtain ⟨he, hbefore⟩ := List.forall_mem_cons.1 h
    rw [List.cons_append, ← ih hbefore]
    cases e with
    | opening tag | selfClosed tag =>
      rw [find]
      exact if_neg he
    | _ => rfl

theorem find_opening {tag : Tag} (h : tag.name = elementName) (es : List Event) :
    find fault none (.opening tag :: es) = ofTag tag >>= fun url => find fault (some url) es := by
  rw [find, if_pos h]
  cases ofTag tag <;> rfl

/-- What an element says is added to the address of the url, up to the end tag. -/
theorem find_inner {inner : List Event} {s : List Char} (h : Says inner s)
    (hclose : Event.closing elementName ∉ inner) (url : Url) (behind : List Event) :
    find fault (some url) (inner ++ .closing elementName :: behind) =
      .ok (some (url.addText (.ofList s)).trimmed) := by
  induction h generalizing url with
  | nil =>
    have hnil : url.addText (.ofList []) = url := by
      rw [addText, String.ofList_nil, String.append_empty]
    rw [List.nil_append, find, if_pos rfl, hnil]
  | @text raw s t es hs _ ih =>
    rw [List.cons_append, find, hs]
    exact (ih (fun hmem => hclose (List.mem_cons_of_mem _ hmem)) _).trans
      (by rw [addText_addText])
  | @cdata content t es _ ih =>
    rw [List.cons_append, find]
    exact (ih (fun hmem => hclose (List.mem_cons_of_mem _ hmem)) _).trans
      (by rw [addText_addText])
  | @silent e t es htext hcdata _ ih =>
    obtain ⟨he, hclose⟩ := List.ne_and_not_mem_of_not_mem_cons hclose
    rw [List.cons_append, ← ih hclose]
    cases e with
    | closing name => rw [find, if_neg fun hname => he (by rw [hname])]
    | text raw => exact absurd rfl (htext raw)
    | cdata content => exact absurd rfl (hcdata content)
    | _ => rfl

/-- A url that is found begins with the first start tag of its name. -/
theorem exists_of_find_none (h : find fault none es = .ok (some u)) :
    ∃ before tag rest, es = before ++ .opening tag :: rest ∧ tag.name = elementName ∧
      ∀ e ∈ before, ¬ e.Begins elementName := by
  induction es with
  | nil => cases fault <;> cases h
  | cons e es ih =>
    have hpass (hbegins : ¬ e.Begins elementName) (h : find fault none es = .ok (some u)) :
        ∃ before tag rest, e :: es = before ++ .opening tag :: rest ∧ tag.name = elementName ∧
          ∀ e ∈ before, ¬ e.Begins elementName := by
      obtain ⟨before, tag, rest, rfl, hname, hbefore⟩ := ih h
      exact ⟨e :: before, tag, rest, rfl, hname, List.forall_mem_cons.2 ⟨hbegins, hbefore⟩⟩
    cases e with
    | opening tag =>
      by_cases hname : tag.name = elementName
      · exact ⟨[], tag, es, rfl, hname, List.forall_mem_nil _⟩
      · rw [find, if_neg hname] at h
        exact hpass hname h
    | selfClosed tag =>
      rw [find] at h
      split at h
      · cases h
      · next hname => exact hpass hname h
    | _ => exact hpass not_false h

/-- It ends with the first end tag of its name, and what it says resolves. -/
theorem exists_of_find_some (h : find fault (some url) es = .ok (some u)) :
    ∃ inner s behind, es = inner ++ .closing elementName :: behind ∧
      Event.closing elementName ∉ inner ∧ Says inner s := by
  induction es generalizing url with
  | nil => cases fault <;> cases h
  | cons e es ih =>
    have hpass {url : Url} (he : e ≠ .closing elementName) {s : List Char}
        (hsay : ∀ {inner t}, Says inner t → Says (e :: inner) (s ++ t))
        (h : find fault (some url) es = .ok (some u)) :
        ∃ inner s behind, e :: es = inner ++ .closing elementName :: behind ∧
          Event.closing elementName ∉ inner ∧ Says inner s := by
      obtain ⟨inner, t, behind, rfl, hclose, hsaid⟩ := ih h
      exact ⟨e :: inner, s ++ t, behind, rfl,
        List.not_mem_cons_of_ne_of_not_mem he.symm hclose, hsay hsaid⟩
    cases e with
    | text raw =>
      rw [find] at h
      split at h
      · next s hs => exact hpass nofun (.text hs) h
      · cases h
    | cdata content => exact hpass nofun .cdata h
    | closing name =>
      rw [find] at h
      split at h
      · next hname => exact ⟨[], [], es, by rw [hname]; rfl, List.not_mem_nil, .nil⟩
      · next hname =>
        exact hpass (fun heq => hname (Event.closing.inj heq)) (s := []) (.silent nofun nofun) h
    | _ => exact hpass nofun (s := []) (.silent nofun nofun) h

theorem IsFirst.find_eq {before inner behind : List Event} {tag : Tag} {s : List Char}
    (h : IsFirst es before tag inner behind) (hs : Says inner s) :
    find fault none es = ofTag tag >>= fun url => .ok (some (url.addText (.ofList s)).trimmed) := by
  rw [h.events_eq, find_append h.not_begins, find_opening h.name_eq]
  exact bind_congr fun url => find_inner hs h.closing_not_mem url behind

/-- **A url is found** where there is a first element whose attributes and texts can be read. -/
theorem find_eq_ok_iff :
    find fault none es = .ok (some u) ↔
      ∃ before tag inner behind url s, IsFirst es before tag inner behind ∧ Says inner s ∧
        ofTag tag = .ok url ∧ u = (url.addText (.ofList s)).trimmed := by
  constructor
  · intro h
    obtain ⟨before, tag, rest, rfl, hname, hbefore⟩ := exists_of_find_none h
    rw [find_append hbefore, find_opening hname] at h
    cases htag : ofTag tag with
    | error e =>
      rw [htag] at h
      cases h
    | ok url =>
      rw [htag] at h
      obtain ⟨inner, s, behind, rfl, hclose, hs⟩ := exists_of_find_some h
      have hfound := (find_inner hs hclose url behind).symm.trans h
      exact ⟨before, tag, inner, behind, url, s, ⟨rfl, hname, hbefore, hclose⟩, hs, htag,
        (Option.some.inj (Except.ok.inj hfound)).symm⟩
  · rintro ⟨before, tag, inner, behind, url, s, hfirst, hs, htag, rfl⟩
    rw [hfirst.find_eq hs, htag]
    rfl

end

/-! ## Addresses -/

section
variable {text : String} {u : Url}

theorem address_ofTag {tag : Tag} (h : ofTag tag = .ok u) : u.address = "" := by
  obtain ⟨url, hurl, h⟩ := bind_eq_ok_iff.1 h
  have haddress : url.address = "" := by
    refine foldlM_keeps (P := fun url => url.address = "") ?_ rfl hurl
    intro url a next haddress hnext
    split at hnext
    · cases hnext
      rw [withAttribute_eq]
      exact haddress
    · cases hnext
  split at h
  · cases h
    exact haddress
  · cases h

theorem address_addText_ofTag {tag : Tag} {url : Url} (h : ofTag tag = .ok url) (s : List Char) :
    (url.addText (.ofList s)).trimmed.address = .ofList (Blank.trim s) := by
  rw [trimmed, addText, address_ofTag h, String.empty_append, trimBlanks, String.toList_ofList]

theorem trimBlanks_trimBlanks (s : String) : trimBlanks (trimBlanks s) = trimBlanks s := by
  rw [trimBlanks, trimBlanks, String.toList_ofList, Blank.trim_trim]

theorem bracket_mem_trimBlanks : '<' ∈ (trimBlanks text).toList ↔ '<' ∈ text.toList := by
  rw [trimBlanks, String.toList_ofList, Blank.mem_trim_iff (by decide)]

theorem parse_bare (h : '<' ∉ text.toList) :
    parse text =
      if trimBlanks text = "" then .error (.unreadable .emptyAddress)
      else .ok (ofAddress (trimBlanks text)) := by
  rw [parse, if_neg (by simpa using mt bracket_mem_trimBlanks.1 h)]
  simp only [String.isEmpty_iff]

theorem parse_markup (h : '<' ∈ text.toList) :
    parse text = .ok u ↔ find (read (trimBlanks text)).fault none (read (trimBlanks text)).events =
      .ok (some u) := by
  rw [parse, if_pos (by simpa using bracket_mem_trimBlanks.2 h)]
  simp only
  split <;> simp_all

/-- The text is markup, and its first url element says nothing but blanks between two tags. -/
def HoldsBlank (text : String) : Prop :=
  '<' ∈ text.toList ∧ ∃ before tag inner behind s,
    IsFirst (read (trimBlanks text)).events before tag inner behind ∧ Says inner s ∧
      ∀ c ∈ s, isBlank c = true

/-- **An address that is read is trimmed.** -/
theorem trimBlanks_address (h : parse text = .ok u) : trimBlanks u.address = u.address := by
  by_cases hmarkup : '<' ∈ text.toList
  · obtain ⟨_, tag, _, _, url, s, -, -, htag, rfl⟩ := find_eq_ok_iff.1 ((parse_markup hmarkup).1 h)
    exact trimBlanks_trimBlanks _
  · rw [parse_bare hmarkup] at h
    split at h
    · cases h
    · cases h
      exact trimBlanks_trimBlanks text

/-- **The address is empty** where the element says nothing but blanks, and only there. -/
theorem address_eq_empty_iff (h : parse text = .ok u) : u.address = "" ↔ HoldsBlank text := by
  by_cases hmarkup : '<' ∈ text.toList
  · rw [parse_markup hmarkup] at h
    constructor
    · intro hempty
      obtain ⟨before, tag, inner, behind, url, s, hfirst, hsaid, htag, rfl⟩ := find_eq_ok_iff.1 h
      rw [address_addText_ofTag htag, String.ofList_eq_empty_iff, Blank.trim_eq_nil_iff] at hempty
      exact ⟨hmarkup, before, tag, inner, behind, s, hfirst, hsaid, hempty⟩
    · rintro ⟨-, before, tag, inner, behind, s, hfirst, hsaid, hblank⟩
      rw [hfirst.find_eq hsaid] at h
      obtain ⟨url, htag, h⟩ := bind_eq_ok_iff.1 h
      cases h
      rw [address_addText_ofTag htag, Blank.trim_eq_nil_iff.2 hblank, String.ofList_nil]
  · rw [parse_bare hmarkup] at h
    split at h
    · cases h
    · next hne =>
      cases h
      exact iff_of_false hne fun hblank => hmarkup hblank.1

end

end MediaScraper.Url
