import MediaScraper.Proofs.Xml.Event

/-!
# Markup as a tree

What stands in an element, or in a whole document, is a sequence of texts, sections, asides and
elements, where an element has such a sequence inside (`Content`). The tree keeps how everything is
written, so it has one text (`Content.source`), and the events of the text can be told from the tree
(`Content.events`).

**Following a tree.** If the parts of a tree are well-formed (`Content.WellFormed`), a reader of the
text does what it does on the events of the tree (`followFrom_source`): tags end where they should
(`Tag.WellFormed.isTagBody`), and each end tag closes the element that its place in the tree tells.

Well-formed documents are trees of this kind: a declaration, comments and the like, and one element.
Nothing here hangs on there being one root.
-/

namespace MediaScraper.Xml

/-! ## Tags -/

/-- A tag as it may stand in a document: a name, and then attributes of different names, each with
spaces in front. -/
structure Tag.WellFormed (tag : Tag) : Prop where
  name : IsName tag.name
  attributes : ∃ s as, tag.source = tag.name ++ s ∧ (∀ c ∈ s.head?, isSpace c = true) ∧
    Lists s as ∧ (∀ a ∈ as, IsName a.name) ∧ (as.map Attribute.name).Nodup

/-- The tag of a name, without attributes. -/
def Tag.bare (name : List Char) : Tag := ⟨name, name⟩

theorem Tag.wellFormed_bare {name : List Char} (h : IsName name) : (Tag.bare name).WellFormed :=
  ⟨h, [], [], (List.append_nil _).symm, nofun, .nil, nofun, .nil⟩

theorem plainInTag_of_isSpace {gap : List Char} (h : ∀ d ∈ gap, isSpace d = true) :
    PlainInTag gap := by
  intro d hd
  have hspace := h d hd
  refine ⟨?_, ?_, ?_⟩ <;> rintro rfl <;> exact absurd hspace (by decide)

theorem PlainInTag.append {s t : List Char} (hs : PlainInTag s) (ht : PlainInTag t) :
    PlainInTag (s ++ t) := List.forall_mem_append.2 ⟨hs, ht⟩

theorem tagBody?_lists {s : List Char} {as : List Attribute} (h : Lists s as)
    (hn : ∀ a ∈ as, IsName a.name) (before rest : List Char) :
    tagBody? none before (s ++ rest) = tagBody? none (s.reverse ++ before) rest := by
  induction h generalizing before with
  | nil => rfl
  | @space c s as hc _ ih =>
    have hplain : PlainInTag [c] := plainInTag_of_isSpace (List.forall_mem_singleton.2 hc)
    rw [← List.singleton_append, List.append_assoc, tagBody?_plain hplain, ih hn]
    simp
  | @item c q more gap gap' raw s as _ _ hgap hgap' hq hraw _ ih =>
    obtain ⟨hname, hn⟩ := List.forall_mem_cons.1 hn
    have hclose : q ≠ '>' := by rcases hq with rfl | rfl <;> decide
    have hkey : PlainInTag (c :: more ++ gap ++ '=' :: gap') := by
      refine (hname.plain.append (plainInTag_of_isSpace hgap)).append ?_
      exact List.forall_mem_cons.2 ⟨by decide, plainInTag_of_isSpace hgap'⟩
    have hsplit : c :: (more ++ (gap ++ '=' :: (gap' ++ q :: (raw ++ q :: s)))) ++ rest =
        (c :: more ++ gap ++ '=' :: gap') ++ q :: (raw ++ q :: (s ++ rest)) := by simp
    rw [hsplit, tagBody?_plain hkey, tagBody?]
    simp only [hclose, hq, if_true, if_false]
    rw [tagBody?_value hraw, ih hn]
    simp

theorem getLast?_lists {s : List Char} {as : List Attribute} (h : Lists s as) :
    s.getLast? ≠ some '/' := by
  induction h with
  | nil => exact nofun
  | @space c s as hc _ ih =>
    cases s with
    | nil =>
      rintro ⟨⟩
      exact absurd hc (by decide)
    | cons d s => rwa [List.getLast?_cons_cons]
  | @item c q more gap gap' raw s as _ _ _ _ hq _ _ ih =>
    have hsplit : c :: (more ++ (gap ++ '=' :: (gap' ++ q :: (raw ++ q :: s)))) =
        (c :: more ++ gap ++ '=' :: gap' ++ q :: raw) ++ q :: s := by simp
    rw [hsplit, List.getLast?_append_cons]
    cases s with
    | nil => rcases hq with rfl | rfl <;> exact nofun
    | cons d s => rwa [List.getLast?_cons_cons]

namespace Tag.WellFormed

variable {tag : Tag} (h : tag.WellFormed)
include h

theorem ofSource_eq : Tag.ofSource tag.source = tag := by
  obtain ⟨s, as, hsource, hhead, -⟩ := h.attributes
  have hname : tagName tag.source = tag.name := by
    rw [hsource, tagName]
    refine takeWhile_stretch (fun c hc => ?_) fun c hc => ?_
    · rw [h.name.isSpace_of_mem hc]
      rfl
    · rw [hhead c hc]
      rfl
  rw [Tag.ofSource, hname]

theorem getLast?_ne : tag.source.getLast? ≠ some '/' := by
  obtain ⟨s, as, hsource, -, hlists, -⟩ := h.attributes
  rw [hsource]
  cases s with
  | nil =>
    rw [List.append_nil]
    exact fun hlast => h.name.not_mem (by decide) (List.mem_of_getLast? hlast)
  | cons d s =>
    rw [List.getLast?_append_cons]
    exact getLast?_lists hlists

/-- The next bracket ends the tag, also with a slash before it. -/
theorem isTagBody {slash : List Char} (hslash : PlainInTag slash) :
    IsTagBody (tag.source ++ slash) := by
  intro rest
  obtain ⟨s, as, hsource, -, hlists, hnames, -⟩ := h.attributes
  rw [hsource, List.append_assoc, List.append_assoc, tagBody?_plain h.name.plain,
    List.append_assoc, tagBody?_lists hlists hnames, tagBody?_plain hslash, tagBody?]
  simp

theorem head?_source (slash : List Char) :
    ∀ c ∈ (tag.source ++ slash).head?, c ≠ '!' ∧ c ≠ '?' ∧ c ≠ '/' := by
  obtain ⟨s, as, hsource, -⟩ := h.attributes
  rw [hsource, List.append_assoc]
  exact h.name.head?_append _

theorem eventText_start : EventText (.opening tag) ('<' :: (tag.source ++ ['>'])) := by
  have hbody : IsTagBody (tag.source ++ []) := h.isTagBody (List.forall_mem_nil _)
  have htag := EventText.tag (h.head?_source []) hbody
  rwa [List.append_nil, tagEvent_of_ne_slash h.getLast?_ne, h.ofSource_eq] at htag

theorem eventText_empty :
    EventText (.selfClosed tag) ('<' :: (tag.source ++ ['/'] ++ ['>'])) := by
  have hbody : IsTagBody (tag.source ++ ['/']) :=
    h.isTagBody (List.forall_mem_singleton.2 (by decide))
  have htag := EventText.tag (h.head?_source ['/']) hbody
  rwa [tagEvent_of_slash List.getLast?_concat, List.dropLast_concat, h.ofSource_eq] at htag

theorem attributes_eq : ∃ as, tag.attributes = (as, none) := by
  obtain ⟨s, as, hsource, -, hlists, -, hnodup⟩ := h.attributes
  refine ⟨as, ?_⟩
  rw [Tag.attributes, hsource, List.drop_left]
  exact attributesFrom_eq_none_iff.2 ⟨as, hlists, rfl, hnodup, fun _ _ => rfl⟩

end Tag.WellFormed

theorem eventText_endTag {name spaces : List Char} (hn : IsName name)
    (hs : ∀ c ∈ spaces, isSpace c = true) :
    EventText (.closing name) ('<' :: ('/' :: (name ++ spaces) ++ ['>'])) := by
  have hbody : IsTagBody ('/' :: (name ++ spaces)) := fun rest => by
    rw [← List.cons_append,
      tagBody?_plain (hn.plain_slash.append (plainInTag_of_isSpace hs)), tagBody?]
    simp
  have hclosing := EventText.closing hbody
  rwa [endName_append hn hs] at hclosing

/-! ## Trees -/

/-- Brackets that come in pairs, where so many are open. -/
def Paired : Nat → List Char → Prop
  | depth, [] => depth = 0
  | depth, c :: s =>
    if c = '<' then Paired (depth + 1) s
    else if c = '>' then 0 < depth ∧ Paired (depth - 1) s
    else Paired depth s

instance decidablePaired : (depth : Nat) → DecidablePred (Paired depth)
  | _, [] => inferInstanceAs (Decidable (_ = 0))
  | depth, c :: s =>
    have := decidablePaired (depth + 1) s
    have := decidablePaired (depth - 1) s
    have := decidablePaired depth s
    inferInstanceAs (Decidable (if c = '<' then _ else if c = '>' then _ ∧ _ else _))

/-- What carries no content: a comment, an instruction or a declaration, or a document type in which
brackets come in pairs. -/
inductive IsAside : List Char → Prop
  | comment {note : List Char} : ¬ "-->".toList <:+: note → IsAside (comment note)
  | instruction {body : List Char} : ¬ "?>".toList <:+: '?' :: body → IsAside (instruction body)
  | doctype {body : List Char} : Paired 0 body → (∃ c ∈ body, isSpace c = false) →
      IsAside (doctype ("DOCTYPE".toList ++ body))

/-- What stands in an element or a document: what comes first, and then the rest. -/
inductive Content where
  | nil
  /-- Text with its references as they are written. -/
  | text (raw : List Char) (next : Content)
  | cdata (content : List Char) (next : Content)
  /-- A comment, an instruction or a document type. -/
  | aside (source : List Char) (next : Content)
  /-- An element that is one tag. -/
  | empty (tag : Tag) (next : Content)
  /-- An element between two tags; spaces may stand behind the name in the end tag. -/
  | element (tag : Tag) (content : Content) (spaces : List Char) (next : Content)

namespace Content

/-- The text of a tree. -/
def source : Content → List Char
  | nil => []
  | text raw next => raw ++ next.source
  | cdata content next => cdataSection content ++ next.source
  | aside source next => source ++ next.source
  | empty tag next => '<' :: (tag.source ++ ['/'] ++ ['>']) ++ next.source
  | element tag content spaces next =>
    '<' :: (tag.source ++ ['>']) ++ (content.source ++
      ('<' :: ('/' :: (tag.name ++ spaces) ++ ['>']) ++ next.source))

/-- The events of a tree. -/
def events : Content → List Event
  | nil => []
  | text raw next => .text raw :: next.events
  | cdata content next => .cdata content :: next.events
  | aside _ next => .other :: next.events
  | empty tag next => .selfClosed tag :: next.events
  | element tag content _ next =>
    .opening tag :: (content.events ++ .closing tag.name :: next.events)

/-- Does the tree begin with text? -/
def IsText : Content → Prop
  | text _ _ => True
  | _ => False

/-- The parts of the tree are well-formed, and its texts reach as far as they can. -/
def WellFormed : Content → Prop
  | nil => True
  | text raw next => (raw ≠ [] ∧ '<' ∉ raw ∧ ¬ next.IsText) ∧ next.WellFormed
  | cdata content next => ¬ "]]>".toList <:+: content ∧ next.WellFormed
  | aside source next => IsAside source ∧ next.WellFormed
  | empty tag next => tag.WellFormed ∧ next.WellFormed
  | element tag content spaces next =>
    (tag.WellFormed ∧ ∀ c ∈ spaces, isSpace c = true) ∧ content.WellFormed ∧ next.WellFormed

end Content

/-! ## The events of a tree -/

theorem doctypeBody?_of_paired {depth : Nat} {body : List Char} (h : Paired depth body)
    (before rest : List Char) :
    doctypeBody? depth before (body ++ '>' :: rest) = some (before.reverse ++ body) := by
  induction body generalizing depth before with
  | nil =>
    rw [Paired] at h
    rw [h, List.nil_append, doctypeBody?, List.append_nil]
  | cons c body ih =>
    have hmove : (c :: before).reverse ++ body = before.reverse ++ c :: body := by simp
    rw [Paired] at h
    split at h
    · next hopen => rw [hopen, List.cons_append, doctypeBody?, ih h, ← hopen, hmove]
    · next hopen =>
      split at h
      · next hclose =>
        obtain ⟨hpos, h⟩ := h
        obtain ⟨depth, rfl⟩ := Nat.exists_eq_succ_of_ne_zero (Nat.ne_of_gt hpos)
        rw [Nat.succ_sub_one] at h
        rw [hclose, List.cons_append, doctypeBody?, ih h, ← hclose, hmove]
      · next hclose => rw [List.cons_append, doctypeBody?, ih h, hmove] <;> assumption

theorem IsAside.eventText {w : List Char} (h : IsAside w) : EventText .other w := by
  cases h with
  | comment h => exact .comment h
  | instruction h => exact .instruction h
  | @doctype body hpaired hname =>
    obtain ⟨c, hmem, hc⟩ := hname
    refine .doctype ⟨.inl rfl, fun rest => ?_, rfl, ?_⟩
    · have hkeyword : Paired 0 ("DOCTYPE".toList ++ body) := hpaired
      exact doctypeBody?_of_paired hkeyword [] rest
    · exact List.all_eq_false.2 ⟨c, hmem, by simp [hc]⟩

namespace Content

/-- A tree that does not begin with text begins with a bracket, if it is not empty. -/
theorem head?_source {c : Content} (hc : c.WellFormed) (htext : ¬ c.IsText) {rest : List Char}
    (hrest : ∀ d ∈ rest.head?, d = '<') : ∀ d ∈ (c.source ++ rest).head?, d = '<' := by
  cases c with
  | nil => exact hrest
  | text raw next => exact absurd trivial htext
  | aside w next =>
    obtain ⟨haside, -⟩ := hc
    rw [source]
    cases haside <;> rintro d ⟨⟩ <;> rfl
  | _ =>
    rintro d ⟨⟩
    rfl

end Content

section
variable {σ : Type} (step : σ → Event → Except Failure σ)

theorem followFrom_cons {e : Event} {w s rest : List Char} {es : List Event} (h : EventText e w)
    (hrest : ∀ raw, e = .text raw → ∀ d ∈ (s ++ rest).head?, d = '<')
    {opened opened' last : List (List Char)} (hopen : openBehind? opened e = some opened')
    (hfollow : ∀ state, followFrom step opened' state (s ++ rest) =
      es.foldlM step state >>= fun next => followFrom step last next rest) (state : σ) :
    followFrom step opened state (w ++ s ++ rest) =
      (e :: es).foldlM step state >>= fun next => followFrom step last next rest := by
  rw [List.append_assoc, followFrom_of_event step h.ne_nil (event_append h hrest)
    (nestFrom_of_openBehind? hopen), List.foldlM_cons, bind_assoc]
  exact bind_congr hfollow

/-- **A reader of the text of a tree** takes its events. -/
theorem followFrom_source {c : Content} (hc : c.WellFormed) {rest : List Char}
    (hrest : ∀ d ∈ rest.head?, d = '<') (opened : List (List Char)) (state : σ) :
    followFrom step opened state (c.source ++ rest) =
      c.events.foldlM step state >>= fun next => followFrom step opened next rest := by
  induction c generalizing opened state rest with
  | nil => rfl
  | text raw next ih =>
    obtain ⟨⟨hne, hraw, htext⟩, hnext⟩ := hc
    exact followFrom_cons step (.text hne hraw)
      (fun _ _ => Content.head?_source hnext htext hrest) rfl (ih hnext hrest opened) state
  | cdata content next ih =>
    exact followFrom_cons step (.cdata hc.1) nofun rfl (ih hc.2 hrest opened) state
  | aside w next ih =>
    exact followFrom_cons step hc.1.eventText nofun rfl (ih hc.2 hrest opened) state
  | empty tag next ih =>
    exact followFrom_cons step hc.1.eventText_empty nofun rfl (ih hc.2 hrest opened) state
  | element tag content spaces next ihcontent ih =>
    obtain ⟨⟨htag, hspaces⟩, hcontent, hnext⟩ := hc
    refine followFrom_cons step htag.eventText_start nofun rfl (fun state => ?_) state
    rw [List.append_assoc, ihcontent hcontent (by rintro d ⟨⟩; rfl), List.foldlM_append, bind_assoc]
    -- the end tag closes the element, which is the innermost one again
    exact bind_congr <| followFrom_cons step (eventText_endTag htag.name hspaces) nofun (if_pos rfl)
      (ih hnext hrest opened)

end

end MediaScraper.Xml
