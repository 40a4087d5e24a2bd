import MediaScraper.Proofs.Xml.Tag
import MediaScraper.Repair.Brackets

/-!
# Brackets of written tags

What the repair of brackets makes of written tags: it writes the brackets of their values by name
and changes nothing else. The values still spell the same texts (`spelling_escapeBracket`).

Reading is at one of two places before and behind each part: between tags, or in a tag. So one
equation for each part says what is written for it, whatever stands before it and follows it.
-/

namespace MediaScraper.Repair.Brackets

open Xml

/-- The attribute with the brackets of its value written by name. -/
def escaped (a : Attribute) : Attribute := ⟨a.name, a.raw.flatMap escapeBracket⟩

theorem spelling_escapeBracket {s w : List Char} (h : Spelling plainInValue s w) :
    Spelling plainInValue s (w.flatMap escapeBracket) := by
  induction h with
  | nil => exact .nil
  | @plain c s w hc _ ih =>
    rw [List.flatMap_cons]
    unfold escapeBracket
    split
    · exact .named (rfl : Entity.predefined? ['l', 't'] = some '<') ih
    · exact .named (rfl : Entity.predefined? ['g', 't'] = some '>') ih
    · exact .plain hc ih
  | @named c name s w hname _ ih =>
    have hsource : ('&' :: name ++ ';' :: w).flatMap escapeBracket =
        '&' :: name ++ ';' :: w.flatMap escapeBracket := by
      rcases eq_of_predefined? hname with h | h | h | h | h <;> obtain ⟨rfl, rfl⟩ := h <;> rfl
    rw [hsource]
    exact .named hname ih

/-! ## Between tags and in tags -/

theorem Place.write_text (c : Char) : Place.text.write c = [c] := rfl

theorem Place.write_tag (c : Char) : Place.tag.write c = [c] := rfl

/-- What has been written only stands in front. -/
theorem escapeFrom_eq_append (out : List Char) (place : Place) (s : List Char) :
    escapeFrom out place s = out.reverse ++ escapeFrom [] place s := by
  induction s generalizing out place with
  | nil => simp [escapeFrom]
  | cons c s ih =>
    rw [escapeFrom, ih, escapeFrom, ih ((place.write c).reverse ++ [])]
    simp

theorem escape_append {w w' : List Char} (h : ∀ out rest,
    escapeFrom out .text (w ++ rest) = escapeFrom (w'.reverse ++ out) .text rest)
    (rest : List Char) : escape (w ++ rest) = w' ++ escape rest := by
  rw [escape, h, escapeFrom_eq_append]
  simp [escape]

theorem head?_escape (s : List Char) : (escape s).head? = s.head? := by
  cases s with
  | nil => rfl
  | cons c s =>
    rw [escape, escapeFrom, escapeFrom_eq_append, Place.write_text]
    rfl

section

variable (out : List Char)

theorem escapeFrom_text {s : List Char} (h : '<' ∉ s) (rest : List Char) :
    escapeFrom out .text (s ++ rest) = escapeFrom (s.reverse ++ out) .text rest := by
  induction s generalizing out with
  | nil => rfl
  | cons c s ih =>
    obtain ⟨hc, hs⟩ := List.ne_and_not_mem_of_not_mem_cons h
    rw [List.cons_append, escapeFrom, Place.next, if_neg hc.symm, Place.write_text, ih _ hs]
    simp

theorem escapeFrom_tag {s : List Char} (h : PlainInTag s) (rest : List Char) :
    escapeFrom out .tag (s ++ rest) = escapeFrom (s.reverse ++ out) .tag rest := by
  induction s generalizing out with
  | nil => rfl
  | cons c s ih =>
    obtain ⟨h1, h2, h3⟩ := h c List.mem_cons_self
    rw [List.cons_append, escapeFrom, Place.next, if_neg (not_or.2 ⟨h1, h2⟩), if_neg h3,
      Place.write_tag, ih _ fun d hd => h d (List.mem_cons_of_mem c hd)]
    simp

theorem escapeFrom_close (rest : List Char) :
    escapeFrom out .tag ('>' :: rest) = escapeFrom ('>' :: out) .text rest := by
  rw [escapeFrom, Place.next, if_neg (by decide), if_pos rfl, Place.write_tag]
  rfl

theorem escapeFrom_value {q : Char} {w : List Char} (h : q ∉ w) (rest : List Char) :
    escapeFrom out (.value q) (w ++ q :: rest) =
      escapeFrom (q :: (w.flatMap escapeBracket).reverse ++ out) .tag rest := by
  induction w generalizing out with
  | nil => simp [escapeFrom, Place.next, Place.write]
  | cons c w ih =>
    obtain ⟨hc, hw⟩ := List.ne_and_not_mem_of_not_mem_cons h
    rw [List.cons_append, escapeFrom, Place.next, if_neg hc.symm, Place.write, if_neg hc.symm,
      ih _ hw]
    simp

theorem escapeFrom_attributesText {as : List Attribute} (h : ∀ a ∈ as, a.Written)
    (rest : List Char) :
    escapeFrom out .tag (attributesText as ++ rest) =
      escapeFrom ((attributesText (as.map escaped)).reverse ++ out) .tag rest := by
  induction as generalizing out with
  | nil => rfl
  | cons a as ih =>
    obtain ⟨hn, hr⟩ := h a List.mem_cons_self
    rw [attributesText_cons_append, escapeFrom_tag out hn.plain_key, escapeFrom, Place.next,
      if_pos (.inl rfl), Place.write_tag, escapeFrom_value _ hr,
      ih _ fun b hb => h b (List.mem_cons_of_mem a hb)]
    simp [attributesText_cons, escaped]

/-! ## Tags -/

/-- A bracket opens a tag, unless it begins a comment or the like. -/
theorem escapeFrom_open {c : Char} (h : c ≠ '!' ∧ c ≠ '?') (s : List Char) :
    escapeFrom out .text ('<' :: c :: s) = escapeFrom ('<' :: out) .tag (c :: s) := by
  have hnone : verbatim? ('<' :: c :: s) = none := by
    simp [verbatim?, verbatimPairs, List.isPrefixOf?, h.1.symm, h.2.symm]
  rw [escapeFrom, Place.next, if_pos rfl, hnone]
  rfl

/-- **The values of a tag are escaped**, up to what ends it. -/
theorem escapeFrom_tagSource {name : List Char} (hn : IsName name) {as : List Attribute}
    (h : ∀ a ∈ as, a.Written) (rest : List Char) :
    escapeFrom out .text ('<' :: (tagSource name as ++ rest)) =
      escapeFrom ((tagSource name (as.map escaped)).reverse ++ '<' :: out) .tag rest := by
  cases name with
  | nil => exact hn.elim
  | cons c cs =>
    have hc : c ≠ '!' ∧ c ≠ '?' :=
      ⟨hn.ne_of_mem (by decide) List.mem_cons_self, hn.ne_of_mem (by decide) List.mem_cons_self⟩
    have hopen := escapeFrom_open out hc (cs ++ (attributesText as ++ rest))
    rw [← List.cons_append, escapeFrom_tag _ hn.plain, escapeFrom_attributesText _ h] at hopen
    simpa [tagSource] using hopen

theorem escapeFrom_startTag {name : List Char} (hn : IsName name) {as : List Attribute}
    (h : ∀ a ∈ as, a.Written) (rest : List Char) :
    escapeFrom out .text (startTag name as ++ rest) =
      escapeFrom ((startTag name (as.map escaped)).reverse ++ out) .text rest := by
  have htag := escapeFrom_tagSource out hn h ('>' :: rest)
  rw [escapeFrom_close] at htag
  simpa [startTag] using htag

theorem escapeFrom_emptyTag {name : List Char} (hn : IsName name) {as : List Attribute}
    (h : ∀ a ∈ as, a.Written) (rest : List Char) :
    escapeFrom out .text (emptyTag name as ++ rest) =
      escapeFrom ((emptyTag name (as.map escaped)).reverse ++ out) .text rest := by
  have hslash : PlainInTag ['/'] := by
    unfold PlainInTag
    decide
  have htag := escapeFrom_tagSource out hn h (['/'] ++ '>' :: rest)
  rw [escapeFrom_tag _ hslash, escapeFrom_close] at htag
  simpa [emptyTag] using htag

theorem escapeFrom_endTag {name : List Char} (hn : IsName name) (rest : List Char) :
    escapeFrom out .text (endTag name ++ rest) =
      escapeFrom ((endTag name).reverse ++ out) .text rest := by
  have hopen := escapeFrom_open out (c := '/') (by decide) (name ++ '>' :: rest)
  rw [← List.cons_append, escapeFrom_tag _ hn.plain_slash, escapeFrom_close] at hopen
  simpa [endTag] using hopen

end

end MediaScraper.Repair.Brackets
