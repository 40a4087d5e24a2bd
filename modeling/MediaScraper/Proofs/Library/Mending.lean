import MediaScraper.Proofs.Library.Written
import MediaScraper.Proofs.Repair.Brackets
import MediaScraper.Repair

/-!
# Repairing written libraries

Of the repairs of a library, those of declarations and of split tags find nothing in a written one,
and that of brackets only spells its values in another way. So each part of a library is mended to
one that writes the same (`Mends`): elements of no meaning, patterns, the inside of rules and
routines, and the whole library (`library_ofWritten`).
-/

namespace MediaScraper

open Xml
open Repair (Unbroken Behind)
open Repair.Brackets (escaped escapeFrom)

namespace Scraper

/-- Between tags, the repairs write `t` for `s`, whatever stands before it and follows it. -/
structure Mends (s t : List Char) : Prop where
  unbroken : ∀ rest, Unbroken rest → Unbroken (s ++ rest)
  escape : ∀ out rest, escapeFrom out .text (s ++ rest) = escapeFrom (t.reverse ++ out) .text rest

namespace Mends

theorem nil : Mends [] [] := ⟨fun _ h => h, fun _ _ => rfl⟩

theorem append {s t s' t' : List Char} (h : Mends s t) (h' : Mends s' t') :
    Mends (s ++ s') (t ++ t') := by
  refine ⟨fun rest hr => ?_, fun out rest => ?_⟩
  · rw [List.append_assoc]
    exact h.unbroken _ (h'.unbroken rest hr)
  · rw [List.append_assoc, h.escape, h'.escape, List.reverse_append, List.append_assoc]

theorem of_not_mem {s : List Char} (h : '<' ∉ s) : Mends s s :=
  ⟨fun _ hr => hr.append h, fun out rest => Repair.Brackets.escapeFrom_text out h rest⟩

theorem cons {c : Char} (hc : c ≠ '<') {s t : List Char} (h : Mends s t) :
    Mends (c :: s) (c :: t) :=
  (of_not_mem fun hm => hc (List.mem_singleton.1 hm).symm : Mends [c] [c]).append h

theorem eq_nil {t : List Char} (h : Mends [] t) : t = [] := by
  simpa [escapeFrom] using h.escape [] []

end Mends

/-! ## Tags -/

theorem spells_escaped {as : List Attribute} {values : List (List Char × String)}
    (h : List.Forall₂ Attribute.Spells as values) :
    List.Forall₂ Attribute.Spells (as.map escaped) values := by
  induction h with
  | nil => exact .nil
  | cons hav _ ih => exact .cons ⟨hav.name, Repair.Brackets.spelling_escapeBracket hav.raw⟩ ih

section

variable {as : List Attribute} {values : List (List Char × String)} {d : Char} {rest : List Char}

/-- Behind a value comes the end of its tag or a space, a name and `=`. -/
theorem behind_value (h : ∀ a ∈ as, a.Written) (hd : d ∈ ['/', '>']) :
    Behind (attributesText as ++ d :: rest) := by
  have hend : isBlank d = false ∧ d ≠ '+' ∧ Repair.SplitScript.isLetter 'r' d = false := by
    simp only [List.mem_cons, List.not_mem_nil, or_false] at hd
    rcases hd with rfl | rfl <;> decide
  cases as with
  | nil =>
    refine ⟨?_, ?_⟩
    · simp [attributesText, hend]
    · simp [attributesText, Repair.SplitScript.dropLetters?, hend]
  | cons a as =>
    have hn : IsName a.name := (h a List.mem_cons_self).name
    refine ⟨fun hplus => ?_, by rw [attributesText_cons]; rfl⟩
    have hblank : isBlank ' ' = true := by decide
    have hequals : isBlank '=' = false := by decide
    rw [attributesText_cons_append, List.append_assoc, List.cons_append,
      List.dropWhile_cons_of_pos hblank, List.dropWhile_append] at hplus
    split at hplus
    · rw [List.singleton_append, List.dropWhile_cons_of_neg (by simp [hequals])] at hplus
      cases hplus
    · next hne =>
      have hmem : '+' ∈ a.name.dropWhile isBlank := by
        refine List.mem_of_head? ?_
        rwa [List.head?_append_of_ne_nil] at hplus
        simpa using hne
      exact hn.not_mem (by decide) ((List.dropWhile_sublist _).subset hmem)

theorem unbroken_attributesText (h : List.Forall₂ Attribute.Spells as values)
    (hv : ValuesFit values) (hd : d ∈ ['/', '>']) (hrest : Unbroken (d :: rest)) :
    Unbroken (attributesText as ++ d :: rest) := by
  induction h with
  | nil => exact hrest
  | @cons a v as values hav has ih =>
    obtain ⟨⟨hn, hfit⟩, hv⟩ := List.forall_mem_cons.1 hv
    have hbehind : Behind (attributesText as ++ d :: rest) :=
      behind_value (written_of_spells has fun v hm => (hv v hm).1) hd
    have hvalue := Repair.unbroken_value hav.raw hfit hbehind (ih hv)
    rw [attributesText_cons_append]
    refine ((Repair.unbroken_cons_of_ne (by decide)).2 hvalue).append ?_
    have hname : '<' ∉ a.name := (hav.written hn).name.not_mem (by decide)
    simpa using hname

theorem unbroken_tagSource {name : List Char} (hn : IsName name)
    (h : List.Forall₂ Attribute.Spells as values) (hv : ValuesFit values) (hd : d ∈ ['/', '>'])
    (hrest : Unbroken (d :: rest)) : Unbroken ('<' :: (tagSource name as ++ d :: rest)) := by
  have hbehind := unbroken_attributesText h hv hd hrest
  rw [tagSource, List.append_assoc]
  cases as with
  | nil => exact Repair.unbroken_tag hn (List.mem_cons_of_mem _ hd) hbehind
  | cons a as =>
    rw [attributesText_cons] at hbehind ⊢
    exact Repair.unbroken_tag hn List.mem_cons_self hbehind

/-- **Elements are mended to elements** of the same values, around what their content is mended
to. -/
theorem mends_encloses {name content content' element : List Char} (hn : IsName name)
    (hv : ValuesFit values) (hcontent : Mends content content')
    (h : Encloses name values content element) :
    ∃ element', Mends element element' ∧ Encloses name values content' element' := by
  cases h with
  | @tags as _ has =>
    have hw := written_of_spells has fun v hm => (hv v hm).1
    have hstart : Mends (startTag name as) (startTag name (as.map escaped)) := by
      refine ⟨fun rest hr => ?_, fun out => Repair.Brackets.escapeFrom_startTag out hn hw⟩
      have hbehind : Unbroken ('>' :: rest) := (Repair.unbroken_cons_of_ne (by decide)).2 hr
      simpa [startTag] using unbroken_tagSource hn has hv (by decide) hbehind
    have hend : Mends (endTag name) (endTag name) := by
      refine ⟨fun rest hr => ?_, fun out => Repair.Brackets.escapeFrom_endTag out hn⟩
      simpa [endTag] using Repair.unbroken_endTag hn hr
    exact ⟨_, (hstart.append hcontent).append hend, .tags content' (spells_escaped has)⟩
  | @empty as has =>
    have hw := written_of_spells has fun v hm => (hv v hm).1
    have hempty : Mends (emptyTag name as) (emptyTag name (as.map escaped)) := by
      refine ⟨fun rest hr => ?_, fun out => Repair.Brackets.escapeFrom_emptyTag out hn hw⟩
      have hbehind : Unbroken ('/' :: '>' :: rest) :=
        hr.append (by decide : '<' ∉ ['/', '>'])
      simpa [emptyTag] using unbroken_tagSource hn has hv (by decide) hbehind
    rw [hcontent.eq_nil]
    exact ⟨_, hempty, .empty (spells_escaped has)⟩

end

/-! ## Values that fit -/

theorem unbroken_flagText (b : Bool) : Unbroken (flagText b).toList :=
  Repair.unbroken_of_not_mem (by cases b <;> decide)

theorem unbroken_targetText (target : Nat) (append : Bool) :
    Unbroken (targetText target append).toList := by
  refine Repair.unbroken_of_not_mem fun hm => ?_
  rw [targetText, String.toList_ofList] at hm
  rcases List.mem_append.1 hm with hm | hm
  · exact absurd (Numeral.isDigit_of_mem_toDigits hm) (by decide)
  · cases append <;> simp at hm

theorem unbroken_listed (groups : List Nat) :
    Unbroken (String.ofList (Numeral.listed groups)).toList := by
  refine Repair.unbroken_of_not_mem fun hm => ?_
  rw [String.toList_ofList] at hm
  rcases Numeral.isDigit_of_mem_listed hm with hdigit | heq
  · exact absurd hdigit (by decide)
  · exact absurd heq (by decide)

theorem valuesFit_routine (r : Routine) : ValuesFit r.values := by
  simp only [ValuesFit, Routine.values, List.forall_mem_cons, List.not_mem_nil, false_imp_iff,
    implies_true, and_true]
  exact ⟨⟨by decide, unbroken_targetText _ _⟩, by decide, unbroken_flagText _⟩

theorem valuesFit_expression (e : Expression) : ValuesFit e.values := by
  simp only [ValuesFit, Expression.values, List.forall_mem_cons, List.not_mem_nil, false_imp_iff,
    implies_true, and_true]
  exact ⟨⟨by decide, unbroken_flagText _⟩, ⟨by decide, unbroken_flagText _⟩, by decide,
    unbroken_listed _⟩

theorem valuesFit_rule {r : Rule} (h : r.Writable) : ValuesFit r.values := by
  cases h with
  | mk _ _ _ hinput houtput hcondition =>
    simp only [ValuesFit, Rule.values, List.cons_append, List.nil_append, List.forall_mem_cons]
    refine ⟨⟨by decide, hinput⟩, ⟨by decide, houtput⟩, ⟨by decide, unbroken_targetText _ _⟩, ?_⟩
    intro v hv
    obtain ⟨c, hc, rfl⟩ := Option.map_eq_some_iff.1 (Option.mem_toList.1 hv)
    exact ⟨(by decide : IsName "conditional".toList), hcondition c hc⟩

/-! ## Parts of libraries -/

theorem mends_markup {s : List Char} (h : IsMarkup s) : ∃ t, Mends s t ∧ IsMarkup t := by
  induction h with
  | nil => exact ⟨[], .nil, .nil⟩
  | char hc _ ih =>
    obtain ⟨t, hst, ht⟩ := ih
    exact ⟨_, hst.cons hc, .char hc ht⟩
  | element hn hv _ helement _ ihc ih =>
    obtain ⟨content, hmends, hcontent⟩ := ihc
    obtain ⟨element, hmends, helement⟩ := mends_encloses hn hv hmends helement
    obtain ⟨t, hst, ht⟩ := ih
    exact ⟨_, hmends.append hst, .element hn hv hcontent helement ht⟩

theorem mends_foreign {known : List (List Char)} {element : List Char}
    (h : IsForeign known element) :
    ∃ element', Mends element element' ∧ IsForeign known element' := by
  cases h with
  | mk hn hknown hv hcontent helement =>
    obtain ⟨content, hmends, hcontent⟩ := mends_markup hcontent
    obtain ⟨element, hmends, helement⟩ := mends_encloses hn hv hmends helement
    exact ⟨element, hmends, .mk hn hknown hv hcontent helement⟩

theorem mends_spelling {p w : List Char} (h : Spelling plainInText p w) : Mends w w :=
  .of_not_mem (h.not_mem (by decide) (by decide))

theorem mends_pattern {p w : List Char} (h : WritesPattern p w) :
    ∃ t, Mends w t ∧ WritesPattern p t := by
  induction h with
  | text hw => exact ⟨_, mends_spelling hw, .text hw⟩
  | foreign hw helement _ ih =>
    obtain ⟨element, hmends, helement⟩ := mends_foreign helement
    obtain ⟨t, hst, ht⟩ := ih
    exact ⟨_, ((mends_spelling hw).append hmends).append hst, .foreign hw helement ht⟩

theorem ne_of_isSpace {c : Char} (hc : isSpace c = true) : c ≠ '<' := by
  rintro rfl
  exact absurd hc (by decide)

theorem mends_inside {holder : Holder} {rules : List Rule} {e : Option Expression} {s : List Char}
    (h : WritesInside holder rules e s) (hw : ∀ r ∈ rules, r.Writable) :
    ∃ t, Mends s t ∧ WritesInside holder rules e t := by
  induction h with
  | nil holder => exact ⟨[], .nil, .nil holder⟩
  | space hc _ ih =>
    obtain ⟨t, hst, ht⟩ := ih hw
    exact ⟨_, hst.cons (ne_of_isSpace hc), .space hc ht⟩
  | foreign helement _ ih =>
    obtain ⟨element, hmends, helement⟩ := mends_foreign helement
    obtain ⟨t, hst, ht⟩ := ih hw
    exact ⟨_, hmends.append hst, .foreign helement ht⟩
  | @rule holder r rules e _ _ _ _ helement _ ihr ih =>
    obtain ⟨hr, hw⟩ := List.forall_mem_cons.1 hw
    obtain ⟨content, hmends, hcontent⟩ := ihr hr.children
    obtain ⟨element, hmends, helement⟩ :=
      mends_encloses (by decide) (valuesFit_rule hr) hmends helement
    obtain ⟨t, hst, ht⟩ := ih hw
    exact ⟨_, hmends.append hst, .rule hcontent helement ht⟩
  | expression hpattern helement _ ih =>
    obtain ⟨content, hmends, hcontent⟩ := mends_pattern hpattern
    obtain ⟨element, hmends, helement⟩ :=
      mends_encloses (by decide) (valuesFit_expression _) hmends helement
    obtain ⟨t, hst, ht⟩ := ih hw
    exact ⟨_, hmends.append hst, .expression hcontent helement ht⟩

theorem mends_routines {rs : List Routine} {s : List Char} (h : WritesRoutines rs s)
    (hw : ∀ r ∈ rs, r.Writable) : ∃ t, Mends s t ∧ WritesRoutines rs t := by
  induction h with
  | nil => exact ⟨[], .nil, .nil⟩
  | space hc _ ih =>
    obtain ⟨t, hst, ht⟩ := ih hw
    exact ⟨_, hst.cons (ne_of_isSpace hc), .space hc ht⟩
  | @routine r rs _ _ _ hinside helement _ ih =>
    obtain ⟨hr, hw⟩ := List.forall_mem_cons.1 hw
    obtain ⟨content, hmends, hcontent⟩ := mends_inside hinside hr.rules
    obtain ⟨element, hmends, helement⟩ :=
      mends_encloses hr.name (valuesFit_routine r) hmends helement
    obtain ⟨t, hst, ht⟩ := ih hw
    exact ⟨_, hmends.append hst, .routine hcontent helement ht⟩

/-- **The repaired text of a written library writes the same routines.** -/
theorem library_ofWritten {rs : List Routine} {text : String} (h : WritesLibrary rs text.toList)
    (hw : ∀ r ∈ rs, r.Writable) : WritesLibrary rs (Repair.library text).toList := by
  suffices ∃ t, Mends text.toList t ∧ WritesLibrary rs t by
    obtain ⟨t, hmends, ht⟩ := this
    have hunbroken : Unbroken text.toList := by
      simpa using hmends.unbroken [] Repair.unbroken_nil
    have hescape : Repair.Brackets.escape text.toList = t := by
      simpa [Repair.Brackets.escape, escapeFrom] using hmends.escape [] []
    rw [Repair.library, Repair.fix_of_unbroken hunbroken, Repair.neutralize_of_unbroken hunbroken,
      hescape, String.toList_ofList]
    exact ht
  generalize text.toList = s at h
  cases h with
  | mk hbefore hafter hn hv hroutines helement =>
    have hspaces {spaces : List Char} (hs : ∀ c ∈ spaces, isSpace c = true) :
        Mends spaces spaces :=
      .of_not_mem fun hm => ne_of_isSpace (hs _ hm) rfl
    obtain ⟨content, hmends, hcontent⟩ := mends_routines hroutines hw
    obtain ⟨element, hmends, helement⟩ := mends_encloses hn hv hmends helement
    exact ⟨_, ((hspaces hbefore).append hmends).append (hspaces hafter),
      .mk hbefore hafter hn hv hcontent helement⟩

end Scraper
end MediaScraper
