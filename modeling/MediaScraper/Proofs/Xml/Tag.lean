import Mathlib.Data.List.Forall2
import Mathlib.Data.List.TakeWhile
import MediaScraper.Proofs.Xml.Attribute
import MediaScraper.Proofs.Xml.Spelling

/-!
# Tags as they are written

**Writing.** An element stands between a start tag and an end tag, or is one tag that closes itself
(`Encloses`). Attributes are written one space apart, with their values between double quotes.

**Reading.** The events of written tags are those of their names (`event_startTag`,
`event_emptyTag`, `event_endTag`), and reading the attributes of a tag gives what was written
(`attributes_ofWritten`).
-/

namespace MediaScraper.Xml

/-! ## Writing -/

/-- Attributes as they stand in a tag. -/
def attributesText (as : List Attribute) : List Char :=
  as.flatMap fun a => ' ' :: a.name ++ '=' :: '"' :: a.raw ++ ['"']

/-- What stands between the brackets of a start tag. -/
def tagSource (name : List Char) (as : List Attribute) : List Char := name ++ attributesText as

def startTag (name : List Char) (as : List Attribute) : List Char :=
  '<' :: tagSource name as ++ ['>']

/-- A tag that closes itself. -/
def emptyTag (name : List Char) (as : List Attribute) : List Char :=
  '<' :: tagSource name as ++ ['/', '>']

def endTag (name : List Char) : List Char := '<' :: '/' :: name ++ ['>']

/-- The attribute is one of this name whose raw value spells this text. -/
structure Attribute.Spells (a : Attribute) (v : List Char × String) : Prop where
  name : a.name = v.1
  raw : Spelling plainInValue v.2.toList a.raw

/-- An element of this name with these attribute values, around a content. One without content may
close itself. -/
inductive Encloses (name : List Char) (values : List (List Char × String)) :
    List Char → List Char → Prop
  | tags {as : List Attribute} (content : List Char) : List.Forall₂ Attribute.Spells as values →
      Encloses name values content (startTag name as ++ content ++ endTag name)
  | empty {as : List Attribute} : List.Forall₂ Attribute.Spells as values →
      Encloses name values [] (emptyTag name as)

theorem exists_spells (values : List (List Char × String)) :
    ∃ as, List.Forall₂ Attribute.Spells as values := by
  induction values with
  | nil => exact ⟨[], .nil⟩
  | cons v values ih =>
    obtain ⟨as, has⟩ := ih
    obtain ⟨w, hw⟩ := exists_spelling mem_namedChars_of_plainInValue v.2.toList
    exact ⟨⟨v.1, w⟩ :: as, .cons ⟨rfl, hw⟩ has⟩

theorem exists_encloses (name : List Char) (values : List (List Char × String))
    (content : List Char) : ∃ element, Encloses name values content element := by
  obtain ⟨as, has⟩ := exists_spells values
  exact ⟨_, .tags content has⟩

theorem Encloses.head?_append {name content element : List Char}
    {values : List (List Char × String)} (h : Encloses name values content element)
    (rest : List Char) : (element ++ rest).head? = some '<' := by
  cases h <;> rfl

theorem attributesText_cons (a : Attribute) (as : List Attribute) :
    attributesText (a :: as) =
      ' ' :: a.name ++ '=' :: '"' :: a.raw ++ '"' :: attributesText as := by
  simp [attributesText]

theorem attributesText_cons_append (a : Attribute) (as : List Attribute) (rest : List Char) :
    attributesText (a :: as) ++ rest =
      (' ' :: a.name ++ ['=']) ++ '"' :: (a.raw ++ '"' :: (attributesText as ++ rest)) := by
  simp [attributesText_cons]

/-- A written attribute: a name, and a raw value without double quotes. -/
structure Attribute.Written (a : Attribute) : Prop where
  name : IsName a.name
  raw : '"' ∉ a.raw

theorem Attribute.Spells.written {a : Attribute} {v : List Char × String} (h : a.Spells v)
    (hn : IsName v.1) : a.Written :=
  ⟨h.name ▸ hn, h.raw.not_mem (by decide) (by decide)⟩

theorem written_of_spells {as : List Attribute} {values : List (List Char × String)}
    (h : List.Forall₂ Attribute.Spells as values) (hn : ∀ v ∈ values, IsName v.1) :
    ∀ a ∈ as, a.Written := by
  induction h with
  | nil => exact fun a ha => absurd ha List.not_mem_nil
  | cons hav _ ih =>
    intro a ha
    rcases List.mem_cons.1 ha with rfl | ha
    · exact hav.written (hn _ List.mem_cons_self)
    · exact ih (fun v hv => hn v (List.mem_cons_of_mem _ hv)) a ha

/-! ## Ends of tags -/

/-- No character of the text ends a tag or opens a value in it. -/
def PlainInTag (s : List Char) : Prop := ∀ c ∈ s, c ≠ '"' ∧ c ≠ '\'' ∧ c ≠ '>'

theorem tagBody?_plain {s : List Char} (h : PlainInTag s) (before rest : List Char) :
    tagBody? none before (s ++ rest) = tagBody? none (s.reverse ++ before) rest := by
  induction s generalizing before with
  | nil => rfl
  | cons c s ih =>
    obtain ⟨h1, h2, h3⟩ := h c List.mem_cons_self
    rw [List.cons_append, tagBody?]
    simp only [h1, h2, h3, or_self, if_false]
    rw [ih fun d hd => h d (List.mem_cons_of_mem c hd)]
    simp

theorem tagBody?_value {q : Char} {s : List Char} (h : q ∉ s) (before rest : List Char) :
    tagBody? (some q) before (s ++ q :: rest) =
      tagBody? none (q :: (s.reverse ++ before)) rest := by
  induction s generalizing before with
  | nil => simp [tagBody?]
  | cons c s ih =>
    obtain ⟨hc, hs⟩ := List.ne_and_not_mem_of_not_mem_cons h
    rw [List.cons_append, tagBody?]
    simp only [hc.symm, if_false]
    rw [ih hs]
    simp

theorem IsName.plain {n : List Char} (h : IsName n) : PlainInTag n :=
  fun _ hc => ⟨h.ne_of_mem (by decide) hc, h.ne_of_mem (by decide) hc, h.ne_of_mem (by decide) hc⟩

theorem IsName.plain_key {n : List Char} (h : IsName n) : PlainInTag (' ' :: n ++ ['=']) := by
  intro c hc
  simp only [List.cons_append, List.mem_cons, List.mem_append, List.not_mem_nil, or_false] at hc
  rcases hc with rfl | hc | rfl
  · decide
  · exact h.plain c hc
  · decide

theorem IsName.plain_slash {n : List Char} (h : IsName n) : PlainInTag ('/' :: n) :=
  List.forall_mem_cons.2 ⟨by decide, h.plain⟩

theorem tagBody?_attributesText {as : List Attribute} (h : ∀ a ∈ as, a.Written)
    (before rest : List Char) :
    tagBody? none before (attributesText as ++ rest) =
      tagBody? none ((attributesText as).reverse ++ before) rest := by
  induction as generalizing before with
  | nil => rfl
  | cons a as ih =>
    obtain ⟨hn, hr⟩ := h a List.mem_cons_self
    rw [attributesText_cons_append, tagBody?_plain hn.plain_key, tagBody?]
    simp only [show '"' ≠ '>' by decide, true_or, if_true, if_false]
    rw [tagBody?_value hr, ih fun b hb => h b (List.mem_cons_of_mem a hb)]
    simp [attributesText_cons]

/-- The bracket behind the source of a tag ends it, also with a slash between them. -/
theorem tagBody?_tagSource {name : List Char} (hn : IsName name) {as : List Attribute}
    (h : ∀ a ∈ as, a.Written) (slash : List Char) (hs : ∀ c ∈ slash, c = '/')
    (rest : List Char) :
    tagBody? none [] (tagSource name as ++ slash ++ '>' :: rest) =
      some (tagSource name as ++ slash) := by
  have hslash : PlainInTag slash := by
    intro c hc
    rw [hs c hc]
    decide
  rw [tagSource, List.append_assoc, List.append_assoc, tagBody?_plain hn.plain,
    tagBody?_attributesText h, tagBody?_plain hslash, tagBody?]
  simp

/-! ## Events of tags -/

theorem getLast?_tagSource {name : List Char} (hn : IsName name) {as : List Attribute} :
    (tagSource name as).getLast? ≠ some '/' := by
  intro hlast
  rcases List.eq_nil_or_concat as with rfl | ⟨bs, b, rfl⟩
  · have hmem : '/' ∈ name :=
      List.mem_of_getLast? (by simpa [tagSource, attributesText] using hlast)
    exact hn.not_mem (by decide) hmem
  · have hquote : tagSource name (bs.concat b) =
        name ++ attributesText bs ++ (' ' :: b.name ++ '=' :: '"' :: b.raw) ++ ['"'] := by
      simp [tagSource, attributesText]
    rw [hquote, List.getLast?_concat] at hlast
    exact absurd hlast (by decide)

theorem tagName_tagSource {name : List Char} (hn : IsName name) (as : List Attribute) :
    tagName (tagSource name as) = name := by
  have hall : ∀ c ∈ name, (!isSpace c) = true := fun c hc => by rw [hn.isSpace_of_mem hc]; rfl
  cases as with
  | nil =>
    rw [tagSource, attributesText, List.flatMap_nil, List.append_nil, tagName]
    exact List.takeWhile_eq_self_iff.2 hall
  | cons a as =>
    rw [tagSource, attributesText_cons, tagName]
    exact takeWhile_stretch hall (by simp [isSpace])

theorem ofSource_tagSource {name : List Char} (hn : IsName name) (as : List Attribute) :
    Tag.ofSource (tagSource name as) = ⟨name, tagSource name as⟩ := by
  rw [Tag.ofSource, tagName_tagSource hn]

/-- The event of a tag that is no end tag, given what stands between its brackets. -/
def tagEvent (body : List Char) : Event :=
  if body.getLast? = some '/' then .selfClosed (.ofSource body.dropLast)
  else .opening (.ofSource body)

theorem tagEvent_of_slash {body : List Char} (h : body.getLast? = some '/') :
    tagEvent body = .selfClosed (.ofSource body.dropLast) := if_pos h

theorem tagEvent_of_ne_slash {body : List Char} (h : body.getLast? ≠ some '/') :
    tagEvent body = .opening (.ofSource body) := if_neg h

theorem event_of_tagBody? {body rest : List Char}
    (hhead : ∀ c ∈ body.head?, c ≠ '!' ∧ c ≠ '?' ∧ c ≠ '/')
    (hb : tagBody? none [] (body ++ '>' :: rest) = some body) :
    event ('<' :: (body ++ '>' :: rest)) = .ok (tagEvent body, body.length + 2) := by
  rw [event, if_pos rfl, markup]
  · rw [hb]
    simp only
    split
    · exact absurd rfl (hhead _ rfl).2.2
    · rw [tagEvent]
      split <;> rfl
  · intro more heq
    cases body with
    | nil => exact absurd (List.cons.inj heq).1 (by decide)
    | cons c body => exact (hhead c rfl).1 (List.cons.inj heq).1
  · intro more heq
    cases body with
    | nil => exact absurd (List.cons.inj heq).1 (by decide)
    | cons c body => exact (hhead c rfl).2.1 (List.cons.inj heq).1

section

variable {name : List Char} (hn : IsName name) {as : List Attribute} (h : ∀ a ∈ as, a.Written)
include hn

/-- What begins with a name is no declaration, instruction or end tag. -/
theorem IsName.head?_append (rest : List Char) :
    ∀ c ∈ (name ++ rest).head?, c ≠ '!' ∧ c ≠ '?' ∧ c ≠ '/' := by
  cases name with
  | nil => exact hn.elim
  | cons c name =>
    rintro d ⟨⟩
    have hd : c ∈ c :: name := List.mem_cons_self
    exact ⟨hn.ne_of_mem (by decide) hd, hn.ne_of_mem (by decide) hd, hn.ne_of_mem (by decide) hd⟩

theorem head?_tagSource (slash : List Char) :
    ∀ c ∈ (tagSource name as ++ slash).head?, c ≠ '!' ∧ c ≠ '?' ∧ c ≠ '/' := by
  rw [tagSource, List.append_assoc]
  exact hn.head?_append _

theorem endName_append {spaces : List Char} (hs : ∀ c ∈ spaces, isSpace c = true) :
    endName (name ++ spaces) = name := by
  have hname : ∀ c ∈ name.reverse, ¬ isSpace c = true := fun c hc => by
    simp [hn.isSpace_of_mem (List.mem_reverse.1 hc)]
  have hall : (name ++ spaces).all isSpace = false := by
    cases name with
    | nil => exact hn.elim
    | cons c name => simp [hn.isSpace_of_mem List.mem_cons_self]
  have hdrop : spaces.reverse.dropWhile isSpace = [] :=
    List.dropWhile_eq_nil_iff.2 fun c hc => hs c (List.mem_reverse.1 hc)
  rw [endName, hall, if_neg Bool.false_ne_true, List.reverse_append, List.dropWhile_append, hdrop,
    List.isEmpty_nil, if_pos rfl,
    List.dropWhile_eq_self_iff.2 fun hl => hname _ (List.getElem_mem hl), List.reverse_reverse]

include h

theorem event_startTag (rest : List Char) :
    event (startTag name as ++ rest) =
      .ok (.opening ⟨name, tagSource name as⟩, (startTag name as).length) := by
  have he := event_of_tagBody? (head?_tagSource hn []) (tagBody?_tagSource hn h [] (by simp) rest)
  rw [List.append_nil, tagEvent, if_neg (getLast?_tagSource hn), ofSource_tagSource hn] at he
  simpa [startTag] using he

theorem event_emptyTag (rest : List Char) :
    event (emptyTag name as ++ rest) =
      .ok (.selfClosed ⟨name, tagSource name as⟩, (emptyTag name as).length) := by
  have he := event_of_tagBody? (head?_tagSource hn ['/'])
    (tagBody?_tagSource hn h ['/'] (by simp) rest)
  rw [tagEvent, if_pos List.getLast?_concat, List.dropLast_concat, ofSource_tagSource hn] at he
  simpa [emptyTag] using he

end

theorem event_endTag {name : List Char} (hn : IsName name) (rest : List Char) :
    event (endTag name ++ rest) = .ok (.closing name, (endTag name).length) := by
  have hbody : tagBody? none [] ('/' :: name ++ '>' :: rest) = some ('/' :: name) := by
    rw [tagBody?_plain hn.plain_slash, tagBody?]
    simp
  have hspace : endName name = name := by
    have hend := endName_append hn (List.forall_mem_nil _)
    rwa [List.append_nil] at hend
  rw [show endTag name ++ rest = '<' :: ('/' :: name ++ '>' :: rest) by simp [endTag], event,
    if_pos rfl, List.cons_append, markup, ← List.cons_append, hbody]
  · simp only
    rw [hspace]
    simp [endTag]
  · rintro _ ⟨⟩
  · rintro _ ⟨⟩

theorem event_text {raw : List Char} (hne : raw ≠ []) (hraw : '<' ∉ raw) {rest : List Char}
    (hrest : ∀ c ∈ rest.head?, c = '<') : event (raw ++ rest) = .ok (.text raw, raw.length) := by
  cases raw with
  | nil => exact absurd rfl hne
  | cons c cs =>
    obtain ⟨hc, hcs⟩ := List.ne_and_not_mem_of_not_mem_cons hraw
    have htake : (cs ++ rest).takeWhile (fun d => decide (d ≠ '<')) = cs := by
      have hall : ∀ d ∈ cs, decide (d ≠ '<') = true := fun d hd =>
        decide_eq_true fun heq => hcs (heq ▸ hd)
      rw [List.takeWhile_append_of_pos hall]
      cases rest with
      | nil => simp
      | cons d ds => rw [hrest d rfl]; simp
    rw [List.cons_append, event, if_neg hc.symm]
    simp only [htake]

/-! ## Attributes of tags -/

theorem lists_attributesText {as : List Attribute} (h : ∀ a ∈ as, a.Written) :
    Lists (attributesText as) as := by
  induction as with
  | nil => exact .nil
  | cons a as ih =>
    obtain ⟨ha, has⟩ := List.forall_mem_cons.1 h
    obtain ⟨name, raw⟩ := a
    cases name with
    | nil => exact ha.name.elim
    | cons c more =>
      have hname : ∀ d ∈ c :: more, d ≠ '=' ∧ isSpace d = false := fun d hd =>
        ⟨ha.name.ne_of_mem (by decide) hd, ha.name.isSpace_of_mem hd⟩
      have hnone : ∀ d ∈ ([] : List Char), isSpace d = true :=
        fun d hd => absurd hd List.not_mem_nil
      have hitem := Lists.item (hname c List.mem_cons_self).2
        (fun d hd => hname d (List.mem_cons_of_mem c hd)) hnone hnone (.inl rfl) ha.raw (ih has)
      simpa [attributesText_cons] using Lists.space (c := ' ') (by decide) hitem

/-- **The attributes of a written tag are read as they stand**, if no name comes twice. -/
theorem attributes_ofWritten (name : List Char) {as : List Attribute} (h : ∀ a ∈ as, a.Written)
    (hd : (as.map Attribute.name).Nodup) :
    Tag.attributes ⟨name, tagSource name as⟩ = (as, none) := by
  rw [Tag.attributes]
  simp only [tagSource, List.drop_left]
  exact attributesFrom_eq_none_iff.2
    ⟨as, lists_attributesText h, rfl, hd, fun _ _ => rfl⟩

/-- Attributes that are read: their names are names, and none comes twice. -/
def NamesFit (values : List (List Char × String)) : Prop :=
  (∀ n ∈ values.map Prod.fst, IsName n) ∧ (values.map Prod.fst).Nodup

theorem NamesFit.isName {values : List (List Char × String)} (h : NamesFit values) :
    ∀ v ∈ values, IsName v.1 := fun _ hv => h.1 _ (List.mem_map_of_mem hv)

theorem attributes_ofSpelled {name : List Char} {as : List Attribute}
    {values : List (List Char × String)} (h : List.Forall₂ Attribute.Spells as values)
    (hv : NamesFit values) : Tag.attributes ⟨name, tagSource name as⟩ = (as, none) := by
  have hnames : as.map Attribute.name = values.map Prod.fst := by
    clear hv
    induction h with
    | nil => rfl
    | cons hav _ ih => rw [List.map_cons, List.map_cons, hav.name, ih]
  exact attributes_ofWritten name (written_of_spells h hv.isName) (hnames ▸ hv.2)

/-- The raw value of a spelled attribute stands for the text. -/
theorem Attribute.Spells.value_eq {a : Attribute} {v : List Char × String} (h : a.Spells v) :
    a.value = .ok v.2 := by
  rw [Attribute.value, unescape_of_spelling (by decide) h.raw]
  simp [Except.map]

end MediaScraper.Xml
