import MediaScraper.Proofs.Repair.Tag
import MediaScraper.Proofs.Xml.Event

/-!
# Escaping the brackets of any event

The repair reads a text event by event, as the reader of markup does: it passes over text, comments,
CDATA sections, instructions and document types, and writes each tag with the brackets of its values
escaped (`exists_mended`).

That needs two things of an event (`Fits`). No quote stands in a name, since the repair takes every
quote in a tag for one of a value. And every bracket of a document type opens a declaration, since
the repair takes the first `>` for its end and goes on to what is behind it.
-/

namespace MediaScraper.Repair.Brackets

open Xml

/-! ## What the repair passes over -/

theorem lengthThrough_of_breakAt? {closer s before rest : List Char} (hne : closer ≠ [])
    (h : Text.breakAt? closer s = some (before, rest)) (seen : Nat) :
    lengthThrough closer seen s = seen + before.length + closer.length := by
  induction s generalizing before seen with
  | nil =>
    rw [Text.breakAt?, Text.breakFrom?, if_neg (by simpa using hne)] at h
    cases h
  | cons c s ih =>
    by_cases hp : closer <+: c :: s
    · obtain ⟨more, hmore⟩ := hp
      rw [Text.breakAt?_cons_of_isPrefix hne hmore.symm] at h
      cases h
      rw [lengthThrough, if_pos (List.isPrefixOf_iff_prefix.2 ⟨rest, hmore⟩), List.length_nil,
        Nat.add_zero]
    · rw [Text.breakAt?_cons hp, Option.map_eq_some_iff] at h
      obtain ⟨⟨before', rest'⟩, hbreak, heq⟩ := h
      cases heq
      rw [lengthThrough, if_neg (mt List.isPrefixOf_iff_prefix.1 hp), ih hbreak, List.length_cons,
        Nat.add_right_comm seen, Nat.add_assoc seen]

theorem lengthThrough_append (ds : List Char) {e : Char} (he : e ∉ ds) {s : List Char}
    (h : ¬ ds ++ [e] <:+: s) (seen : Nat) (rest : List Char) :
    lengthThrough (ds ++ [e]) seen (s ++ (ds ++ [e]) ++ rest) =
      seen + s.length + (ds.length + 1) := by
  rw [lengthThrough_of_breakAt? (by simp) (Text.breakAt?_of_not_infix ds he h rest),
    List.length_append, List.length_singleton]

theorem verbatim?_comment {note : List Char} (h : ¬ "-->".toList <:+: note) (rest : List Char) :
    verbatim? (comment note ++ rest) = some (comment note).length := by
  have hlength : lengthThrough "-->".toList 4 (note ++ "-->".toList ++ rest) =
      4 + note.length + 3 := lengthThrough_append ['-', '-'] (by decide) h 4 rest
  simp only [String.reduceToList, List.append_assoc, List.cons_append, List.nil_append] at hlength
  simp [verbatim?, verbatimPairs, comment, List.isPrefixOf?, hlength]
  omega

theorem verbatim?_cdataSection {content : List Char} (h : ¬ "]]>".toList <:+: content)
    (rest : List Char) :
    verbatim? (cdataSection content ++ rest) = some (cdataSection content).length := by
  have hlength : lengthThrough "]]>".toList 9 (content ++ "]]>".toList ++ rest) =
      9 + content.length + 3 := lengthThrough_append [']', ']'] (by decide) h 9 rest
  simp only [String.reduceToList, List.append_assoc, List.cons_append, List.nil_append] at hlength
  simp [verbatim?, verbatimPairs, cdataSection, List.isPrefixOf?, hlength]
  omega

theorem verbatim?_instruction {body : List Char} (h : ¬ "?>".toList <:+: '?' :: body)
    (rest : List Char) :
    verbatim? (instruction body ++ rest) = some (instruction body).length := by
  have hbody : ¬ "?>".toList <:+: body := fun hoccurs => h (List.infix_cons hoccurs)
  have hlength : lengthThrough "?>".toList 2 (body ++ "?>".toList ++ rest) =
      2 + body.length + 2 := lengthThrough_append ['?'] (by decide) hbody 2 rest
  simp only [String.reduceToList, List.append_assoc, List.cons_append, List.nil_append] at hlength
  simp [verbatim?, verbatimPairs, instruction, List.isPrefixOf?, hlength]
  omega

section

variable (out : List Char)

theorem escapeFrom_left {v : List Char} {n : Nat} (hn : v.length = n + 1) (rest : List Char) :
    escapeFrom out (.verbatim n) (v ++ rest) = escapeFrom (v.reverse ++ out) .text rest := by
  induction v generalizing n out with
  | nil => cases hn
  | cons c v ih =>
    cases n with
    | zero =>
      rw [List.length_eq_zero_iff.1 (Nat.succ.inj hn)]
      rfl
    | succ n =>
      rw [List.cons_append, escapeFrom, Place.next, ih _ (Nat.succ.inj hn)]
      simp [Place.write]

theorem escapeFrom_verbatim {v rest : List Char} (hv : v ≠ [])
    (h : verbatim? ('<' :: (v ++ rest)) = some (v.length + 1)) :
    escapeFrom out .text ('<' :: v ++ rest) =
      escapeFrom (('<' :: v).reverse ++ out) .text rest := by
  obtain ⟨n, hn⟩ := Nat.exists_eq_succ_of_ne_zero (mt List.length_eq_zero_iff.1 hv)
  rw [List.cons_append, escapeFrom, Place.next, if_pos rfl, h]
  simp only
  rw [if_neg (by omega), show v.length + 1 - 2 = n by omega, escapeFrom_left _ hn]
  simp [Place.write]

end

/-! ## Document types -/

/-- A bracket at the beginning of the text opens a declaration that ends in the text, and neither a
comment, a CDATA section, an instruction nor a tag. -/
def opensDeclaration : List Char → Bool
  | '<' :: '!' :: c :: cs => c ≠ '-' && c ≠ '[' && (c :: cs).contains '>'
  | '<' :: _ => false
  | _ => true

/-- Every bracket of the text opens a declaration. -/
def Declares (w : List Char) : Prop := ∀ u, u <:+ w → opensDeclaration u = true

instance : DecidablePred Declares := fun w =>
  decidable_of_iff (∀ u ∈ w.tails, opensDeclaration u = true)
    (forall_congr' fun _ => by rw [List.mem_tails])

theorem exists_of_opensDeclaration {s : List Char} (h : opensDeclaration ('<' :: s) = true) :
    ∃ c cs, s = '!' :: c :: cs ∧ c ≠ '-' ∧ c ≠ '[' ∧ '>' ∈ c :: cs := by
  unfold opensDeclaration at h
  split at h
  · next c cs heq =>
    obtain ⟨-, rfl⟩ := List.cons.inj heq
    simp only [ne_eq, decide_not, Bool.and_eq_true, Bool.not_eq_eq_eq_not, Bool.not_true,
      decide_eq_false_iff_not, List.contains_iff_mem] at h
    exact ⟨c, cs, rfl, h.1.1, h.1.2, h.2⟩
  · cases h
  · next hother => exact absurd rfl (hother s)

theorem verbatim?_declaration {c : Char} (hc : c ≠ '-' ∧ c ≠ '[') {cs v : List Char}
    (hv : '>' ∉ v) {rest : List Char} (h : c :: cs = v ++ '>' :: rest) :
    verbatim? ('<' :: '!' :: c :: cs) = some (v.length + 3) := by
  have hoccurs : ¬ [] ++ ['>'] <:+: v := fun hoccurs => hv (hoccurs.subset (by simp))
  have hlength : lengthThrough ['>'] 2 (c :: cs) = 2 + v.length + 1 := by
    have hthrough := lengthThrough_append [] List.not_mem_nil hoccurs 2 rest
    simpa [h] using hthrough
  simp [verbatim?, verbatimPairs, List.isPrefixOf?, hc.1.symm, hc.2.symm, hlength]
  omega

theorem escapeFrom_declares (out : List Char) {w : List Char} (h : Declares w) (rest : List Char) :
    escapeFrom out .text (w ++ rest) = escapeFrom (w.reverse ++ out) .text rest := by
  induction hn : w.length using Nat.strongRecOn generalizing out w with
  | ind n ih =>
    subst hn
    cases w with
    | nil => rfl
    | cons c w =>
      by_cases hc : c = '<'
      · subst hc
        obtain ⟨c, cs, rfl, hdash, hcdata, hmem⟩ :=
          exists_of_opensDeclaration (h _ (List.suffix_refl _))
        obtain ⟨v, s, hsplit, hv⟩ := List.eq_append_cons_of_mem hmem
        rw [hsplit] at h ⊢
        have hs : Declares s := fun u hu => h u (hu.trans ⟨'<' :: '!' :: (v ++ ['>']), by simp⟩)
        have hverbatim : verbatim? ('<' :: ('!' :: (v ++ ['>']) ++ (s ++ rest))) =
            some (('!' :: (v ++ ['>'])).length + 1) := by
          have hbegin : c :: (cs ++ rest) = v ++ '>' :: (s ++ rest) := by
            rw [← List.cons_append, hsplit, List.append_assoc, List.cons_append]
          have hlength := verbatim?_declaration ⟨hdash, hcdata⟩ hv hbegin
          rw [hbegin] at hlength
          simpa using hlength
        have hstep := escapeFrom_verbatim out (List.cons_ne_nil _ _) hverbatim
        rw [ih s.length ?_ _ hs rfl] at hstep
        · simpa using hstep
        · have hlength := congrArg List.length hsplit
          simp only [List.length_append, List.length_cons] at hlength ⊢
          omega
      · rw [List.cons_append, escapeFrom, Place.next, if_neg hc, Place.write_text,
          ih _ (Nat.lt_succ_self _) _ (fun u hu => h u (hu.trans (List.suffix_cons c w))) rfl]
        simp

/-! ## Events -/

/-- Neither the name of a tag nor one of its attributes holds a quote. -/
def TagFits (tag : Tag) : Prop :=
  Unquoted tag.name ∧ ∀ a ∈ tag.attributes.1, Unquoted a.name

/-- What the repair needs of an event and its text. -/
def Fits : Event → List Char → Prop
  | .opening tag, _ => TagFits tag
  | .selfClosed tag, _ => TagFits tag
  | .closing name, _ => Unquoted name
  | .other, w => ("<!D".toList <+: w ∨ "<!d".toList <+: w) → Declares w
  | _, _ => True

instance (tag : Tag) : Decidable (TagFits tag) :=
  inferInstanceAs (Decidable (Unquoted tag.name ∧ ∀ a ∈ tag.attributes.1, Unquoted a.name))

instance (e : Event) (w : List Char) : Decidable (Fits e w) :=
  match e with
  | .opening tag | .selfClosed tag => inferInstanceAs (Decidable (TagFits tag))
  | .closing name => inferInstanceAs (Decidable (Unquoted name))
  | .other => inferInstanceAs
      (Decidable (("<!D".toList <+: w ∨ "<!d".toList <+: w) → Declares w))
  | .text _ | .cdata _ => .isTrue trivial

/-- The event with the values of its tag escaped. -/
inductive Mended : Event → Event → Prop
  | same (e : Event) : Mended e e
  | opening {s t : List Char} : InTag s t → TagFits (.ofSource s) →
      Mended (.opening (.ofSource s)) (.opening (.ofSource t))
  | selfClosed {s t : List Char} : InTag s t → TagFits (.ofSource s) →
      Mended (.selfClosed (.ofSource s)) (.selfClosed (.ofSource t))

/-- A text that is mended still ends where markup begins. -/
theorem Mended.head?_escape {e e' : Event} (h : Mended e e') {rest : List Char}
    (hrest : ∀ raw, e = .text raw → ∀ c ∈ rest.head?, c = '<') :
    ∀ raw, e' = .text raw → ∀ c ∈ (escape rest).head?, c = '<' := by
  rintro raw heq
  rw [Brackets.head?_escape]
  cases h with
  | same => exact hrest raw heq
  | opening _ _ => cases heq
  | selfClosed _ _ => cases heq

/-! ### Tags -/

theorem exists_inTag_of_isTagBody {body : List Char} (h : IsTagBody body) : ∃ t, InTag body t := by
  obtain ⟨s, t, rest, -, rfl, hst⟩ := exists_inTag (h [])
  exact ⟨t, hst⟩

theorem escapeFrom_inTag (out : List Char) {s t : List Char} (h : InTag s t)
    (hhead : ∀ c ∈ s.head?, c ≠ '!' ∧ c ≠ '?') (rest : List Char) :
    escapeFrom out .text ('<' :: (s ++ ['>']) ++ rest) =
      escapeFrom (('<' :: (t ++ ['>'])).reverse ++ out) .text rest := by
  have hopen : escapeFrom out .text ('<' :: (s ++ '>' :: rest)) =
      escapeFrom ('<' :: out) .tag (s ++ '>' :: rest) := by
    cases s with
    | nil => exact escapeFrom_open out (by decide) rest
    | cons c s => exact escapeFrom_open out (hhead c rfl) _
  rw [h.escapeFrom, escapeFrom_close] at hopen
  simpa using hopen

theorem mended_tagEvent {s t w : List Char} (h : InTag s t) (hfits : Fits (tagEvent s) w) :
    Mended (tagEvent s) (tagEvent t) := by
  by_cases hslash : s.getLast? = some '/'
  · rw [tagEvent, if_pos hslash] at hfits ⊢
    rw [tagEvent, if_pos (h.retells.getLast?_eq.trans hslash)]
    exact .selfClosed (.of_retells (h.retells.dropLast hslash)) hfits
  · rw [tagEvent, if_neg hslash] at hfits ⊢
    rw [tagEvent, if_neg fun ht => hslash (h.retells.getLast?_eq.symm.trans ht)]
    exact .opening h hfits

theorem unquoted_of_endName {s : List Char} (h : Unquoted (endName s)) : Unquoted s := by
  unfold endName at h
  split at h
  · exact h
  · intro c hc
    rw [← List.mem_reverse, ← List.takeWhile_append_dropWhile (p := isSpace) (l := s.reverse)] at hc
    rcases List.mem_append.1 hc with hc | hc
    · exact ne_quote_of_isSpace (fun d hd => List.mem_takeWhile_imp hd) c hc
    · exact h c (List.mem_reverse.2 hc)

theorem escapeFrom_closing (out : List Char) {name : List Char} (h : IsTagBody ('/' :: name))
    (hname : Unquoted name) (rest : List Char) :
    escapeFrom out .text ('<' :: ('/' :: name ++ ['>']) ++ rest) =
      escapeFrom (('<' :: ('/' :: name ++ ['>'])).reverse ++ out) .text rest := by
  obtain ⟨t, ht⟩ := exists_inTag_of_isTagBody h
  rw [← List.append_nil ('/' :: name)] at ht
  obtain ⟨t, rfl, hnil⟩ := ht.retells.of_append (List.forall_mem_cons.2 ⟨by decide, hname⟩)
  rw [hnil.eq_nil, List.append_nil] at ht
  exact escapeFrom_inTag out ht (by rintro c ⟨⟩; decide) rest

/-- The event of a tag that is no end tag. -/
def IsTagEvent : Event → Prop
  | .opening _ => True
  | .selfClosed _ => True
  | _ => False

theorem isTagEvent_tagEvent (body : List Char) : IsTagEvent (tagEvent body) := by
  rw [tagEvent]
  split <;> exact trivial

/-- **The repair passes over every event** but those of tags with values. -/
theorem escapeFrom_event (out : List Char) {e : Event} {w : List Char} (h : EventText e w)
    (hfits : Fits e w) (htag : ¬ IsTagEvent e) (rest : List Char) :
    escapeFrom out .text (w ++ rest) = escapeFrom (w.reverse ++ out) .text rest := by
  cases h with
  | text _ hraw => exact escapeFrom_text out hraw rest
  | cdata h =>
    exact escapeFrom_verbatim out (List.cons_ne_nil _ _) (verbatim?_cdataSection h rest)
  | comment h => exact escapeFrom_verbatim out (List.cons_ne_nil _ _) (verbatim?_comment h rest)
  | instruction h =>
    exact escapeFrom_verbatim out (List.cons_ne_nil _ _) (verbatim?_instruction h rest)
  | @doctype body h =>
    refine escapeFrom_declares out (hfits ?_) rest
    rcases h.head with hhead | hhead <;> obtain ⟨more, rfl⟩ := List.head?_eq_some_iff.1 hhead
    · exact .inl ⟨more ++ ['>'], rfl⟩
    · exact .inr ⟨more ++ ['>'], rfl⟩
  | closing h => exact escapeFrom_closing out h (unquoted_of_endName hfits) rest
  | tag _ _ => exact absurd (isTagEvent_tagEvent _) htag

/-- **For every event the repair writes one alike.** -/
theorem exists_mended {e : Event} {w : List Char} (h : EventText e w) (hfits : Fits e w) :
    ∃ e' w', EventText e' w' ∧ Mended e e' ∧ ∀ out rest,
      escapeFrom out .text (w ++ rest) = escapeFrom (w'.reverse ++ out) .text rest := by
  by_cases htag : IsTagEvent e
  · cases h with
    | @tag body hhead h =>
      obtain ⟨t, ht⟩ := exists_inTag_of_isTagBody h
      refine ⟨_, _, .tag (ht.retells.head?_eq ▸ hhead) ht.retells.tagBody?,
        mended_tagEvent ht hfits, fun out => ?_⟩
      exact escapeFrom_inTag out ht fun c hc => ⟨(hhead c hc).1, (hhead c hc).2.1⟩
    | _ => exact htag.elim
  · exact ⟨e, w, h, .same e, fun out => escapeFrom_event out h hfits htag⟩

/-! ## Texts -/

/-- The event at the beginning of a text, with the text that it takes. -/
def eventText (s : List Char) : Except Error ((Event × List Char) × Nat) :=
  (event s).map fun (e, n) => ((e, s.take n), n)

/-- Every event of the text is one that the repair is made for. -/
def Regular (s : List Char) : Prop := ∀ p ∈ (Text.items eventText s).1, Fits p.1 p.2

instance : DecidablePred Regular := fun s =>
  inferInstanceAs (Decidable (∀ p ∈ (Text.items eventText s).1, Fits p.1 p.2))

theorem items_eventText_append {w rest : List Char} (hw : w ≠ []) {e : Event}
    (h : event (w ++ rest) = .ok (e, w.length)) :
    (Text.items eventText (w ++ rest)).1 = (e, w) :: (Text.items eventText rest).1 := by
  have htext : eventText (w ++ rest) = .ok ((e, w), w.length) := by
    rw [eventText, h]
    simp [Except.map]
  rw [Text.items_of_ok hw htext]

theorem regular_append {w rest : List Char} (hw : w ≠ []) {e : Event}
    (h : event (w ++ rest) = .ok (e, w.length)) :
    Regular (w ++ rest) ↔ Fits e w ∧ Regular rest := by
  rw [Regular, items_eventText_append hw h, List.forall_mem_cons]
  rfl

end MediaScraper.Repair.Brackets
