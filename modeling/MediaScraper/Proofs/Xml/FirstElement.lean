import MediaScraper.Proofs.Unicode.Blank
import MediaScraper.Proofs.Xml.Content

/-!
# The first element of a name

Of the elements of one name, the first is the one whose start tag comes first (`Content.first?`), so
an element comes before those inside of it. Its events stand in one piece among those of the tree,
and no event before them begins an element of that name (`exists_events_of_first?`).

Blanks at the ends of a text do not matter for its elements: what is left without them is the text of
a tree with the same first element (`exists_trim`).
-/

namespace MediaScraper.Xml

/-- The event begins an element of this name. -/
def Event.Begins (name : List Char) : Event → Prop
  | .opening tag | .selfClosed tag => tag.name = name
  | _ => False

namespace Content

variable {name : List Char} {c : Content}

/-- The tag of the first element of a name, and what stands in the element if it has two tags. -/
def first? (name : List Char) : Content → Option (Tag × Option Content)
  | nil => none
  | text _ next | cdata _ next | aside _ next => next.first? name
  | empty tag next => if tag.name = name then some (tag, none) else next.first? name
  | element tag content _ next =>
    if tag.name = name then some (tag, some content)
    else (content.first? name).or (next.first? name)

/-! ## Its events -/

theorem not_begins_of_first?_eq_none (h : c.first? name = none) :
    ∀ e ∈ c.events, ¬ e.Begins name := by
  induction c with
  | nil => exact List.forall_mem_nil _
  | text raw next ih | cdata content next ih | aside source next ih =>
    exact List.forall_mem_cons.2 ⟨not_false, ih h⟩
  | empty tag next ih =>
    rw [first?] at h
    split at h
    · cases h
    · next hname => exact List.forall_mem_cons.2 ⟨hname, ih h⟩
  | element tag content spaces next ihcontent ih =>
    rw [first?] at h
    split at h
    · cases h
    · next hname =>
      obtain ⟨hcontent, hnext⟩ := Option.or_eq_none_iff.1 h
      refine List.forall_mem_cons.2 ⟨hname, List.forall_mem_append.2 ⟨ihcontent hcontent, ?_⟩⟩
      exact List.forall_mem_cons.2 ⟨not_false, ih hnext⟩

/-- **The events of the first element** stand in one piece, and none before them begins one. -/
theorem exists_events_of_first? {tag : Tag} {content : Content}
    (h : c.first? name = some (tag, some content)) :
    tag.name = name ∧ ∃ before behind,
      c.events = before ++ .opening tag :: (content.events ++ .closing name :: behind) ∧
        ∀ e ∈ before, ¬ e.Begins name := by
  -- One more event in front changes nothing if it begins no element of the name.
  have hcons {e : Event} {es : List Event} (he : ¬ e.Begins name)
      (h : tag.name = name ∧ ∃ before behind,
        es = before ++ .opening tag :: (content.events ++ .closing name :: behind) ∧
          ∀ e ∈ before, ¬ e.Begins name) :
      tag.name = name ∧ ∃ before behind,
        e :: es = before ++ .opening tag :: (content.events ++ .closing name :: behind) ∧
          ∀ e ∈ before, ¬ e.Begins name := by
    obtain ⟨hname, before, behind, rfl, hbefore⟩ := h
    exact ⟨hname, e :: before, behind, rfl, List.forall_mem_cons.2 ⟨he, hbefore⟩⟩
  induction c with
  | nil => cases h
  | text raw next ih | cdata content next ih | aside source next ih => exact hcons not_false (ih h)
  | empty tag' next ih =>
    rw [first?] at h
    split at h
    · cases h
    · next hname => exact hcons hname (ih h)
  | element tag' content' spaces next ihcontent ih =>
    rw [first?] at h
    split at h
    · next hname =>
      cases h
      subst hname
      exact ⟨rfl, [], next.events, rfl, List.forall_mem_nil _⟩
    · next hname =>
      refine hcons hname ?_
      rcases Option.or_eq_some_iff.1 h with hcontent | ⟨hcontent, hnext⟩
      · obtain ⟨htag, before, behind, hevents, hbefore⟩ := ihcontent hcontent
        refine ⟨htag, before, behind ++ .closing tag'.name :: next.events, ?_, hbefore⟩
        rw [hevents]
        simp only [List.append_assoc, List.cons_append]
      · obtain ⟨htag, before, behind, hevents, hbefore⟩ := ih hnext
        refine ⟨htag, content'.events ++ .closing tag'.name :: before, behind, ?_, ?_⟩
        · rw [hevents]
          simp only [List.append_assoc, List.cons_append]
        · exact List.forall_mem_append.2 ⟨not_begins_of_first?_eq_none hcontent,
            List.forall_mem_cons.2 ⟨not_false, hbefore⟩⟩

/-! ## Blanks at the ends -/

theorem source_ne_nil (hc : c.WellFormed) (hne : c ≠ nil) : c.source ≠ [] := by
  cases c with
  | nil => exact absurd rfl hne
  | text raw next => exact fun h => hc.1.1 (List.append_eq_nil_iff.1 h).1
  | aside source next =>
    intro h
    have haside := hc.1
    rw [(List.append_eq_nil_iff.1 h).1] at haside
    cases haside
  | _ => exact nofun

theorem isBlank_head?_source (hc : c.WellFormed) (htext : ¬ c.IsText) :
    ∀ d ∈ c.source.head?, isBlank d = false := by
  have hbracket : ∀ d ∈ (c.source ++ []).head?, d = '<' := head?_source hc htext nofun
  rw [List.append_nil] at hbracket
  intro d hd
  rw [hbracket d hd]
  decide

theorem exists_trimStart (hc : c.WellFormed) :
    ∃ d : Content, d.WellFormed ∧ d.source = Blank.trimStart c.source ∧
      ∀ name, d.first? name = c.first? name := by
  by_cases htext : c.IsText
  · cases c with
    | text raw next =>
      obtain ⟨⟨hne, hraw, hnext⟩, hc⟩ := hc
      have htrim := Blank.trimStart_append_eq raw next.source
      rw [Blank.trimStart_eq_self (isBlank_head?_source hc hnext)] at htrim
      by_cases hblank : Blank.trimStart raw = []
      · rw [if_pos hblank] at htrim
        exact ⟨next, hc, htrim.symm, fun _ => rfl⟩
      · have hmem : '<' ∉ Blank.trimStart raw := fun h =>
          hraw ((List.dropWhile_suffix isBlank).subset h)
        rw [if_neg hblank] at htrim
        exact ⟨text (Blank.trimStart raw) next, ⟨⟨hblank, hmem, hnext⟩, hc⟩, htrim.symm,
          fun _ => rfl⟩
    | _ => exact htext.elim
  · exact ⟨c, hc, (Blank.trimStart_eq_self (isBlank_head?_source hc htext)).symm, fun _ => rfl⟩

theorem getLast?_aside {w : List Char} (h : IsAside w) : w.getLast? = some '>' := by
  cases h with
  | @comment note _ => exact List.getLast?_append_cons ('<' :: '!' :: '-' :: '-' :: note) '-' _
  | @instruction body _ => exact List.getLast?_append_cons ('<' :: '?' :: body) '?' _
  | @doctype body _ _ =>
    exact List.getLast?_append_cons ('<' :: '!' :: ("DOCTYPE".toList ++ body)) '>' _

theorem trimEnd_markup {w : List Char} (hw : w.getLast? = some '>') (s : List Char) :
    Blank.trimEnd (w ++ s) = w ++ Blank.trimEnd s := by
  refine Blank.trimEnd_append_of_getLast? ?_ s
  rw [hw]
  rintro _ ⟨⟩
  decide

/-- If nothing is kept behind a text, the blanks at its own end go as well. -/
theorem exists_trimEnd_text {raw : List Char} {next d : Content} (hne : raw ≠ [])
    (hraw : '<' ∉ raw) (hd : d.WellFormed) (htext : ¬ d.IsText)
    (hsource : d.source = Blank.trimEnd next.source) :
    ∃ e : Content, e.WellFormed ∧ e.source = Blank.trimEnd (raw ++ next.source) ∧
      ∀ name, e.first? name = d.first? name := by
  rw [Blank.trimEnd_append_eq, ← hsource]
  by_cases hnil : d = nil
  · subst hnil
    rw [source, if_pos rfl]
    by_cases hblank : Blank.trimEnd raw = []
    · exact ⟨nil, trivial, hblank.symm, fun _ => rfl⟩
    · obtain ⟨behind, hsplit, -⟩ := Blank.exists_trimEnd raw
      have hmem : '<' ∉ Blank.trimEnd raw := fun h =>
        hraw (hsplit ▸ List.mem_append_left behind h)
      exact ⟨text (Blank.trimEnd raw) nil, ⟨⟨hblank, hmem, id⟩, trivial⟩,
        List.append_nil _, fun _ => rfl⟩
  · rw [if_neg (source_ne_nil hd hnil)]
    exact ⟨text raw d, ⟨⟨hne, hraw, htext⟩, hd⟩, rfl, fun _ => rfl⟩

theorem exists_trimEnd (hc : c.WellFormed) :
    ∃ d : Content, d.WellFormed ∧ (d.IsText → c.IsText) ∧ d.source = Blank.trimEnd c.source ∧
      ∀ name, d.first? name = c.first? name := by
  -- The induction goes along the tree to its last part, where the blanks are.
  induction c with
  | nil => exact ⟨nil, trivial, id, rfl, fun _ => rfl⟩
  | text raw next ih =>
    obtain ⟨⟨hne, hraw, htext⟩, hnext⟩ := hc
    obtain ⟨d, hd, hdtext, hsource, hfirst⟩ := ih hnext
    obtain ⟨e, he, hesource, hsame⟩ :=
      exists_trimEnd_text hne hraw hd (fun h => htext (hdtext h)) hsource
    exact ⟨e, he, fun _ => trivial, hesource, fun name => (hsame name).trans (hfirst name)⟩
  | cdata content next ih =>
    obtain ⟨hcontent, hnext⟩ := hc
    obtain ⟨d, hd, -, hsource, hfirst⟩ := ih hnext
    have hlast : (cdataSection content).getLast? = some '>' :=
      List.getLast?_append_cons ("<![CDATA[".toList ++ content) ']' _
    exact ⟨cdata content d, ⟨hcontent, hd⟩, id,
      by rw [source, source, trimEnd_markup hlast, hsource], hfirst⟩
  | aside w next ih =>
    obtain ⟨haside, hnext⟩ := hc
    obtain ⟨d, hd, -, hsource, hfirst⟩ := ih hnext
    exact ⟨aside w d, ⟨haside, hd⟩, id,
      by rw [source, source, trimEnd_markup (getLast?_aside haside), hsource], hfirst⟩
  | empty tag next ih =>
    obtain ⟨htag, hnext⟩ := hc
    obtain ⟨d, hd, -, hsource, hfirst⟩ := ih hnext
    have hlast : ('<' :: (tag.source ++ ['/'] ++ ['>'])).getLast? = some '>' :=
      List.getLast?_append_cons ('<' :: (tag.source ++ ['/'])) '>' _
    exact ⟨empty tag d, ⟨htag, hd⟩, id, by rw [source, source, trimEnd_markup hlast, hsource],
      fun name => by rw [first?, first?, hfirst]⟩
  | element tag content spaces next _ ih =>
    obtain ⟨htag, hcontent, hnext⟩ := hc
    obtain ⟨d, hd, -, hsource, hfirst⟩ := ih hnext
    have hlast : ('<' :: (tag.source ++ ['>']) ++ content.source ++
        '<' :: '/' :: (tag.name ++ spaces) ++ ['>']).getLast? = some '>' := List.getLast?_concat
    have htrim := trimEnd_markup hlast next.source
    rw [← hsource] at htrim
    refine ⟨element tag content spaces d, ⟨htag, hcontent, hd⟩, id, ?_,
      fun name => by rw [first?, first?, hfirst]⟩
    simpa only [source, List.append_assoc, List.cons_append] using htrim.symm

/-- **A text without the blanks at its ends** is the text of a tree with the same first elements. -/
theorem exists_trim (hc : c.WellFormed) :
    ∃ d : Content, d.WellFormed ∧ d.source = Blank.trim c.source ∧
      ∀ name, d.first? name = c.first? name := by
  obtain ⟨front, hfront, hsource, hfirst⟩ := exists_trimStart hc
  obtain ⟨d, hd, -, hend, hsame⟩ := exists_trimEnd hfront
  exact ⟨d, hd, by rw [hend, hsource, Blank.trim], fun name => (hsame name).trans (hfirst name)⟩

end Content

end MediaScraper.Xml
