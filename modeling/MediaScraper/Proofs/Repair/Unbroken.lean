import Mathlib.Data.List.Infix
import MediaScraper.Proofs.Text.Reading
import MediaScraper.Proofs.Text.Search
import MediaScraper.Proofs.Xml.Spelling
import MediaScraper.Repair

/-!
# Texts that need no repair

**Unbroken** texts hold neither a declaration nor a split tag, so the repairs of both leave them as
they are (`fix_of_unbroken`, `neutralize_of_unbroken`), and a register too (`buffer_of_unbroken`).

**Keeping unbroken.** Declarations and split tags begin with `<`, so text without it can be put in
front of an unbroken text (`Unbroken.append`). So can a tag, up to its name (`unbroken_tag`).

**Values.** A value between quotes may hold plain brackets. What would be read as a split tag from
such a bracket on stands in the value as a whole, since a quote that closes a value is followed
neither by `+` nor by a letter (`Behind`). No character of a split tag has a reference in its place,
so the split tag stands in the text that the value spells, too (`unbroken_value`).
-/

namespace MediaScraper.Repair

open Xml SplitScript

/-- In the text begins neither a declaration nor a split tag. -/
def Unbroken (s : List Char) : Prop :=
  ∀ u, u <:+ s → ¬ "<?xml".toList <+: u ∧ split? u = none

instance : DecidablePred Unbroken := fun s =>
  decidable_of_iff (∀ u ∈ s.tails, ¬ "<?xml".toList <+: u ∧ split? u = none)
    (forall_congr' fun _ => by rw [List.mem_tails])

/-! ## Repairing what is not broken -/

theorem fix_of_unbroken {s : List Char} (h : Unbroken s) : Declaration.fix s = s := by
  refine Text.replaceTokens_of_quiet _ fun u hu _ => ?_
  rw [Declaration.declaration?, Text.isPrefixOf?_eq_none (h u hu).1]

theorem neutralize_of_unbroken {s : List Char} (h : Unbroken s) : neutralize s = s :=
  Text.replaceTokens_of_quiet _ fun u hu _ => (h u hu).2

theorem buffer_of_unbroken {s : String} (h : Unbroken s.toList) : buffer s = s := by
  have hdeclaration : declaration s = s := by
    rw [declaration, fix_of_unbroken h, String.ofList_toList]
  have hsplit : splitScripts s = s := by
    rw [splitScripts, neutralize_of_unbroken h, String.ofList_toList]
  rw [buffer, hdeclaration, hsplit, ite_self]

/-! ## Keeping unbroken -/

theorem unbroken_nil : Unbroken [] := by
  intro u hu
  rw [List.suffix_nil.1 hu]
  decide

theorem unbroken_cons {c : Char} {s : List Char} :
    Unbroken (c :: s) ↔ (¬ "<?xml".toList <+: c :: s ∧ split? (c :: s) = none) ∧ Unbroken s := by
  constructor
  · intro h
    exact ⟨h _ (List.suffix_refl _), fun u hu => h u (hu.trans (List.suffix_cons c s))⟩
  · rintro ⟨h, hs⟩ u hu
    rcases List.suffix_cons_iff.1 hu with rfl | hu
    · exact h
    · exact hs u hu

theorem split?_of_ne {c : Char} (hc : c ≠ '<') (s : List Char) : split? (c :: s) = none := by
  unfold split?
  split
  · next heq => exact absurd (List.cons.inj heq).1 hc
  · rfl

theorem unbroken_cons_of_ne {c : Char} (hc : c ≠ '<') {s : List Char} :
    Unbroken (c :: s) ↔ Unbroken s := by
  refine unbroken_cons.trans (and_iff_right ⟨fun hp => ?_, split?_of_ne hc s⟩)
  exact hc (List.cons_prefix_cons.1 hp).1.symm

theorem Unbroken.append {s t : List Char} (ht : Unbroken t) (hs : '<' ∉ s) :
    Unbroken (s ++ t) := by
  induction s with
  | nil => exact ht
  | cons c s ih =>
    obtain ⟨hc, hs⟩ := List.ne_and_not_mem_of_not_mem_cons hs
    exact (unbroken_cons_of_ne hc.symm).2 (ih hs)

theorem unbroken_of_not_mem {s : List Char} (hs : '<' ∉ s) : Unbroken s := by
  have h := unbroken_nil.append hs
  rwa [List.append_nil] at h

/-! ## Split tags behind their bracket -/

/-- A split tag goes on like this behind its bracket and its slash. -/
def Splits (s : List Char) : Prop :=
  ∃ joint rest, (dropLetters? ['s', 'c'] s).bind joint? = some (joint, rest) ∧
    dropLetters? ['r', 'i', 'p', 't'] rest ≠ none

theorem split?_slash {s : List Char} : split? ('<' :: '/' :: s) = none ↔ ¬ Splits s := by
  simp only [split?, Splits]
  cases hj : (dropLetters? ['s', 'c'] s).bind joint? with
  | none => simp
  | some j =>
    obtain ⟨joint, rest⟩ := j
    cases hr : dropLetters? ['r', 'i', 'p', 't'] rest <;> simp [hr]

theorem split?_cons {c : Char} (hc : c ≠ '/') {s : List Char} :
    split? ('<' :: c :: s) = none ↔ ¬ Splits (c :: s) := by
  simp only [split?, Splits, List.cons.injEq, hc, false_and, imp_false, not_false_eq_true,
    implies_true]
  cases hj : (dropLetters? ['s', 'c'] (c :: s)).bind joint? with
  | none => simp
  | some j =>
    obtain ⟨joint, rest⟩ := j
    cases hr : dropLetters? ['r', 'i', 'p', 't'] rest <;> simp [hr]

theorem joint?_eq_some {q : Char} {cs joint y : List Char} :
    joint? (q :: cs) = some (joint, y) ↔ ∃ gap more gap' q',
      cs.span isBlank = (gap, '+' :: more) ∧ more.span isBlank = (gap', q' :: y) ∧
        (isQuote q = true ∧ isQuote q' = true) ∧ joint = q :: gap ++ '+' :: gap' ++ [q'] := by
  rcases hgap : cs.span isBlank with ⟨gap, rest⟩
  simp only [joint?, hgap]
  constructor
  · intro h
    split at h
    · next more =>
      rcases hgap' : more.span isBlank with ⟨gap', rest'⟩
      simp only [hgap'] at h
      split at h
      · next q' y' =>
        split at h
        · next hq =>
          cases h
          exact ⟨gap, more, gap', q', rfl, hgap', by simpa using hq, rfl⟩
        · cases h
      · cases h
    · cases h
  · rintro ⟨_, more, gap', q', heq, hgap', ⟨hq, hq'⟩, rfl⟩
    cases heq
    simp only [hgap', hq, hq', Bool.and_self, if_true]

theorem joint?_of_not_isQuote {c : Char} (hc : isQuote c = false) (s : List Char) :
    joint? (c :: s) = none := by
  simp only [joint?, hc, Bool.false_and, Bool.false_eq_true, if_false]
  split
  · split <;> rfl
  · rfl

/-! ## Tags -/

/-- Behind a name comes no joint, however many of its letters are dropped. -/
theorem not_splits_name {name : List Char} (hn : IsName name) {d : Char}
    (hd : d ∈ [' ', '/', '>']) (rest : List Char) : ¬ Splits (name ++ d :: rest) := by
  have hquote : ∀ c ∈ name, isQuote c = false := by
    intro c hc
    simp [isQuote, hn.ne_of_mem (c := '"') (by decide) hc, hn.ne_of_mem (c := '\'') (by decide) hc]
  have hend : isLetter 'c' d = false ∧ isQuote d = false := by
    simp only [List.mem_cons, List.not_mem_nil, or_false] at hd
    rcases hd with rfl | rfl | rfl <;> decide
  suffices (dropLetters? ['s', 'c'] (name ++ d :: rest)).bind joint? = none by
    rintro ⟨joint, more, hjoint, -⟩
    rw [this] at hjoint
    cases hjoint
  match name with
  | [] => exact hn.elim
  | [a] => simp [dropLetters?, hend.1]
  | [a, b] =>
    rw [List.cons_append, List.cons_append, List.nil_append, dropLetters?, dropLetters?,
      dropLetters?]
    split
    · split
      · exact joint?_of_not_isQuote hend.2 rest
      · rfl
    · rfl
  | a :: b :: c :: more =>
    rw [List.cons_append, List.cons_append, List.cons_append, dropLetters?, dropLetters?,
      dropLetters?]
    split
    · split
      · exact joint?_of_not_isQuote (hquote c (by simp)) _
      · rfl
    · rfl

/-- **No tag opens what is mended**: here `d` is the character behind its name. -/
theorem unbroken_tag {name : List Char} (hn : IsName name) {d : Char} (hd : d ∈ [' ', '/', '>'])
    {rest : List Char} (hrest : Unbroken (d :: rest)) : Unbroken ('<' :: (name ++ d :: rest)) := by
  refine unbroken_cons.2 ⟨?_, hrest.append (hn.not_mem (by decide))⟩
  have hsplits := not_splits_name hn hd rest
  cases name with
  | nil => exact hn.elim
  | cons c cs =>
    refine ⟨fun hp => ?_, (split?_cons ?_).2 hsplits⟩
    · have hc : '?' = c := (List.cons_prefix_cons.1 (List.cons_prefix_cons.1 hp).2).1
      exact hn.ne_of_mem (by decide) List.mem_cons_self hc.symm
    · exact hn.ne_of_mem (by decide) List.mem_cons_self

theorem unbroken_endTag {name : List Char} (hn : IsName name) {rest : List Char}
    (hrest : Unbroken rest) : Unbroken ('<' :: '/' :: (name ++ '>' :: rest)) := by
  have hbehind : Unbroken (name ++ '>' :: rest) :=
    ((unbroken_cons_of_ne (by decide)).2 hrest).append (hn.not_mem (by decide))
  refine unbroken_cons.2 ⟨⟨fun hp => ?_, split?_slash.2 (not_splits_name hn (by decide) rest)⟩, ?_⟩
  · exact absurd (List.cons_prefix_cons.1 (List.cons_prefix_cons.1 hp).2).1 (by decide)
  · exact (unbroken_cons_of_ne (by decide)).2 hbehind

/-! ## Values -/

/-- What may come behind a value: neither blanks and a `+`, nor the letter that a split tag goes on
with behind its joint. -/
structure Behind (rest : List Char) : Prop where
  plus : (rest.dropWhile isBlank).head? ≠ some '+'
  letter : dropLetters? ['r', 'i', 'p', 't'] rest = none

/-- What is left of a value in a text, and what is left of the text that the value spells. -/
inductive Left (rest : List Char) : List Char → List Char → Prop
  | mk {w s : List Char} : Spelling plainInValue s w → Left rest (w ++ '"' :: rest) s

namespace Left

variable {rest x s : List Char}

theorem cons {c : Char} (h : Left rest (c :: x) s) (hquote : c ≠ '"') (hand : c ≠ '&') :
    ∃ t, s = c :: t ∧ Left rest x t := by
  generalize hy : c :: x = y at h
  cases h with
  | mk hw =>
    cases hw with
    | nil => exact absurd (List.cons.inj hy).1 hquote
    | plain _ hw =>
      obtain ⟨rfl, rfl⟩ := List.cons.inj hy
      exact ⟨_, rfl, .mk hw⟩
    | named _ _ => exact absurd (List.cons.inj hy).1 hand

theorem eq_of_quote (h : Left rest ('"' :: x) s) : x = rest := by
  generalize hy : '"' :: x = y at h
  cases h with
  | mk hw =>
    cases hw with
    | nil => exact (List.cons.inj hy).2
    | plain hc _ =>
      rw [← (List.cons.inj hy).1] at hc
      exact absurd hc (by decide)
    | named _ _ => exact absurd (List.cons.inj hy).1 (by decide)

theorem isPrefix_text {p : List Char} (h : Left rest x s) (hp : p <+: x)
    (hplain : ∀ c ∈ p, c ≠ '"' ∧ c ≠ '&') : p <+: s := by
  induction p generalizing x s with
  | nil => exact List.nil_prefix
  | cons c p ih =>
    cases x with
    | nil => exact absurd hp (by simp)
    | cons d x =>
      obtain ⟨rfl, hpx⟩ := List.cons_prefix_cons.1 hp
      obtain ⟨hquote, hand⟩ := hplain c List.mem_cons_self
      obtain ⟨t, rfl, ht⟩ := h.cons hquote hand
      exact List.cons_prefix_cons.2
        ⟨rfl, ih ht hpx fun d hd => hplain d (List.mem_cons_of_mem c hd)⟩

theorem dropLetters? {ls y : List Char} (h : Left rest x s)
    (hls : ∀ l ∈ ls, isLetter l '"' = false ∧ isLetter l '&' = false)
    (hy : dropLetters? ls x = some y) :
    ∃ t, SplitScript.dropLetters? ls s = some t ∧ Left rest y t := by
  induction ls generalizing x s with
  | nil =>
    cases hy
    exact ⟨s, rfl, h⟩
  | cons l ls ih =>
    cases x with
    | nil => cases hy
    | cons c x =>
      obtain ⟨hquote, hand⟩ := hls l List.mem_cons_self
      rw [SplitScript.dropLetters?] at hy
      cases hc : isLetter l c with
      | false => simp [hc] at hy
      | true =>
        rw [hc, if_pos rfl] at hy
        obtain ⟨t, rfl, ht⟩ := h.cons (by rintro rfl; simp_all) (by rintro rfl; simp_all)
        obtain ⟨u, hu, hleft⟩ := ih ht (fun l hl => hls l (List.mem_cons_of_mem _ hl)) hy
        exact ⟨u, by rw [SplitScript.dropLetters?, hc, if_pos rfl, hu], hleft⟩

theorem span_isBlank (h : Left rest x s) :
    ∃ y t, x.span isBlank = (s.takeWhile isBlank, y) ∧ s.span isBlank = (s.takeWhile isBlank, t) ∧
      Left rest y t := by
  suffices x.takeWhile isBlank = s.takeWhile isBlank ∧
      Left rest (x.dropWhile isBlank) (s.dropWhile isBlank) by
    refine ⟨x.dropWhile isBlank, s.dropWhile isBlank, ?_, ?_, this.2⟩
    · rw [List.span_eq_takeWhile_dropWhile, this.1]
    · rw [List.span_eq_takeWhile_dropWhile]
  obtain ⟨hw⟩ := h
  induction hw with
  | nil => exact ⟨rfl, .mk .nil⟩
  | @plain c s w hc hw ih =>
    cases hb : isBlank c with
    | true => simpa [List.takeWhile_cons, List.dropWhile_cons, hb] using ih
    | false => simpa [List.takeWhile_cons, List.dropWhile_cons, hb] using Left.mk (.plain hc hw)
  | @named c name s w hname hw ih =>
    have hc : isBlank c = false := by
      rcases eq_of_predefined? hname with h | h | h | h | h <;> obtain ⟨rfl, rfl⟩ := h <;> decide
    have hand : isBlank '&' = false := by decide
    simpa [List.takeWhile_cons, List.dropWhile_cons, hc, hand] using Left.mk (.named hname hw)

/-- A joint of the value is one of the text, unless the quote that closes the value ends it. -/
theorem joint? {joint y : List Char} (h : Left rest x s) (hrest : Behind rest)
    (hy : SplitScript.joint? x = some (joint, y)) :
    y = rest ∨ ∃ t, SplitScript.joint? s = some (joint, t) ∧ Left rest y t := by
  have hand : isQuote '&' = false := by decide
  cases x with
  | nil => cases hy
  | cons q x =>
    obtain ⟨gap, more, gap', q', hgap, hgap', ⟨hq, hq'⟩, rfl⟩ := joint?_eq_some.1 hy
    by_cases hclose : q = '"'
    · -- the value ends at the first quote, and no `+` comes behind it
      subst hclose
      rw [h.eq_of_quote, List.span_eq_takeWhile_dropWhile] at hgap
      exact absurd (by rw [(Prod.mk.inj hgap).2, List.head?_cons]) hrest.plus
    · obtain ⟨s, rfl, hs⟩ := h.cons hclose fun heq => by simp [heq, hand] at hq
      obtain ⟨z, t, hz, ht, hleft⟩ := hs.span_isBlank
      obtain ⟨rfl, rfl⟩ := Prod.mk.inj (hz.symm.trans hgap)
      obtain ⟨t, rfl, htail⟩ := hleft.cons (by decide) (by decide)
      obtain ⟨z', t', hz', ht', hleft'⟩ := htail.span_isBlank
      obtain ⟨rfl, rfl⟩ := Prod.mk.inj (hz'.symm.trans hgap')
      by_cases hclose' : q' = '"'
      · subst hclose'
        exact .inl hleft'.eq_of_quote
      · obtain ⟨u, rfl, hu⟩ := hleft'.cons hclose' fun heq => by simp [heq, hand] at hq'
        exact .inr ⟨u, joint?_eq_some.2 ⟨_, t, _, q', ht, ht', ⟨hq, hq'⟩, rfl⟩, hu⟩

end Left

theorem Left.splits {rest x s : List Char} (h : Left rest x s) (hrest : Behind rest)
    (hx : Splits x) : Splits s := by
  obtain ⟨joint, y, hjoint, hy⟩ := hx
  cases hz : SplitScript.dropLetters? ['s', 'c'] x with
  | none => simp [hz] at hjoint
  | some z =>
    rw [hz, Option.bind_some] at hjoint
    obtain ⟨t, ht, hleft⟩ := h.dropLetters? (by decide) hz
    obtain rfl | ⟨u, hu, hleft⟩ := hleft.joint? hrest hjoint
    · exact absurd hrest.letter hy
    · cases hv : SplitScript.dropLetters? ['r', 'i', 'p', 't'] y with
      | none => exact absurd hv hy
      | some v =>
        obtain ⟨v', hv', -⟩ := hleft.dropLetters? (by decide) hv
        exact ⟨joint, u, by rw [ht, Option.bind_some, hu], by simp [hv']⟩

/-- What no split tag of the text begins with, none of the value does. -/
theorem Left.split? {rest x s : List Char} (h : Left rest x s) (hrest : Behind rest)
    (hs : SplitScript.split? ('<' :: s) = none) : SplitScript.split? ('<' :: x) = none := by
  cases x with
  | nil => rfl
  | cons c x =>
    by_cases hc : c = '/'
    · subst hc
      obtain ⟨t, rfl, ht⟩ := h.cons (by decide) (by decide)
      exact split?_slash.2 fun hx => split?_slash.1 hs (ht.splits hrest hx)
    · refine (split?_cons hc).2 fun hx => ?_
      have hsplits := h.splits hrest hx
      cases s with
      | nil => exact absurd hsplits (by rintro ⟨_, _, h, _⟩; cases h)
      | cons d s =>
        by_cases hd : d = '/'
        · subst hd
          obtain ⟨_, _, h, _⟩ := hsplits
          cases h
        · exact (split?_cons hd).1 hs hsplits

/-- **A value opens nothing that is mended**, if the text that it spells does not. -/
theorem unbroken_value {s w rest : List Char} (h : Spelling plainInValue s w) (hs : Unbroken s)
    (hrest : Behind rest) (hr : Unbroken rest) : Unbroken (w ++ '"' :: rest) := by
  induction h with
  | nil => exact (unbroken_cons_of_ne (by decide)).2 hr
  | @plain c s w hc hw ih =>
    obtain ⟨⟨hdeclaration, hsplit⟩, hs⟩ := unbroken_cons.1 hs
    refine unbroken_cons.2 ⟨⟨fun hp => hdeclaration ?_, ?_⟩, ih hs⟩
    · exact (Left.mk (.plain hc hw)).isPrefix_text hp (by decide)
    · by_cases hbracket : c = '<'
      · subst hbracket
        exact (Left.mk hw).split? hrest hsplit
      · exact split?_of_ne hbracket _
  | @named c name s w hname _ ih =>
    have hsource : '<' ∉ '&' :: name ++ [';'] := by
      rcases eq_of_predefined? hname with h | h | h | h | h <;> obtain ⟨rfl, rfl⟩ := h <;> decide
    simpa using (ih (unbroken_cons.1 hs).2).append hsource

end MediaScraper.Repair
