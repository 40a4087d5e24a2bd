import MediaScraper.Proofs.Text.Search
import MediaScraper.Proofs.Xml.Following

/-!
# Text in pieces

The text of an element may stand in several pieces (`WritesText`): stretches with references in
them, CDATA sections, whose content stands for itself, and comments, which add nothing. A section
holds anything but its own end, so its event is the same before any rest (`event_cdataSection`,
`event_comment`).
-/

namespace MediaScraper.Xml

def cdataSection (content : List Char) : List Char :=
  '<' :: '!' :: '[' :: ("CDATA[".toList ++ (content ++ "]]>".toList))

def comment (note : List Char) : List Char := '<' :: '!' :: '-' :: '-' :: (note ++ "-->".toList)

/-- `WritesSection p w`: `w` is a CDATA section that holds `p`, or a comment and `p` is empty. -/
inductive WritesSection : List Char → List Char → Prop
  | cdata {content : List Char} : ¬ "]]>".toList <:+: content →
      WritesSection content (cdataSection content)
  | comment {note : List Char} : ¬ "-->".toList <:+: note → WritesSection [] (comment note)

/-- `WritesText p w`: the pieces of `w` together write the text `p`. -/
inductive WritesText : List Char → List Char → Prop
  | last {p w : List Char} : Spelling plainInText p w → WritesText p w
  | cut {p w q sec r s : List Char} : Spelling plainInText p w → WritesSection q sec →
      WritesText r s → WritesText (p ++ q ++ r) (w ++ sec ++ s)

theorem exists_writesText (p : List Char) : ∃ w, WritesText p w := by
  obtain ⟨w, hw⟩ := exists_spelling mem_namedChars_of_plainInText p
  exact ⟨w, .last hw⟩

theorem WritesSection.head? {p w : List Char} (h : WritesSection p w) : w.head? = some '<' := by
  cases h <;> rfl

theorem WritesText.eq_nil {p : List Char} (h : WritesText p []) : p = [] := by
  generalize hw : ([] : List Char) = w at h
  cases h with
  | last hspell =>
    subst hw
    cases hspell
    rfl
  | @cut _ _ _ sec _ _ _ hsec _ =>
    have hnil : sec = [] := by simp_all
    rw [hnil] at hsec
    cases hsec.head?

/-! ## Events of sections -/

theorem event_cdataSection {content : List Char} (h : ¬ "]]>".toList <:+: content)
    (rest : List Char) :
    event (cdataSection content ++ rest) =
      .ok (.cdata content, (cdataSection content).length) := by
  have hbreak : Text.breakAt? "]]>".toList (content ++ "]]>".toList ++ rest) =
      some (content, rest) := Text.breakAt?_of_not_infix [']', ']'] (by decide) h rest
  have hopen (tail : List Char) :
      "[CDATA[".toList.isPrefixOf? ('[' :: ("CDATA[".toList ++ tail)) = some tail :=
    List.isPrefixOf?_eq_some_iff_append_eq.2 rfl
  have htext : cdataSection content ++ rest =
      '<' :: '!' :: '[' :: ("CDATA[".toList ++ (content ++ "]]>".toList ++ rest)) := by
    simp only [cdataSection, List.cons_append, List.append_assoc]
  rw [htext, event, if_pos rfl, markup, declaration, hopen, Option.bind_some, hbreak]
  have hlength : (cdataSection content).length = content.length + 12 := by
    simp only [cdataSection, List.length_cons, List.length_append]
    show 6 + (content.length + 3) + 1 + 1 + 1 = content.length + 12
    omega
  rw [hlength]

theorem event_comment {note : List Char} (h : ¬ "-->".toList <:+: note) (rest : List Char) :
    event (comment note ++ rest) = .ok (.other, (comment note).length) := by
  have hbreak : Text.breakAt? "-->".toList (note ++ "-->".toList ++ rest) = some (note, rest) :=
    Text.breakAt?_of_not_infix ['-', '-'] (by decide) h rest
  have hopen (tail : List Char) : "--".toList.isPrefixOf? ('-' :: '-' :: tail) = some tail := rfl
  have htext : comment note ++ rest =
      '<' :: '!' :: '-' :: '-' :: (note ++ "-->".toList ++ rest) := by
    simp only [comment, List.cons_append, List.append_assoc]
  rw [htext, event, if_pos rfl, markup, declaration, hopen, Option.bind_some, hbreak]
  have hlength : (comment note).length = note.length + 7 := by
    simp only [comment, List.length_cons, List.length_append]
    rfl
  rw [hlength]

/-! ## Following sections -/

variable {σ : Type} (step : σ → Event → Except Failure σ)

theorem followFrom_cdataSection {content : List Char} (h : ¬ "]]>".toList <:+: content)
    (opened : List (List Char)) (state : σ) (rest : List Char) :
    followFrom step opened state (cdataSection content ++ rest) =
      step state (.cdata content) >>= fun next => followFrom step opened next rest :=
  followFrom_of_event step (List.cons_ne_nil _ _) (event_cdataSection h rest) (fun _ _ => rfl)
    state

theorem followFrom_comment {note : List Char} (h : ¬ "-->".toList <:+: note)
    (opened : List (List Char)) (state : σ) (rest : List Char) :
    followFrom step opened state (comment note ++ rest) =
      step state .other >>= fun next => followFrom step opened next rest :=
  followFrom_of_event step (List.cons_ne_nil _ _) (event_comment h rest) (fun _ _ => rfl) state

end MediaScraper.Xml
