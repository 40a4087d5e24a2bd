import MediaScraper.Proofs.Call.Chain
import MediaScraper.Proofs.Text.Numeral

/-!
# Markers of failed calls

A marker holds the text that asked for the call, escaped, and the wording of the failure. A text is
*emptied* when its markers lose what is in them (`Emptied`).

**Chains.** No part of a chain stands in a marker or across its edge (`Emptied.split`), so the parts
of a chain in a text are still there when it is emptied.

**Hints.** The search for an element that calls comes out of a marker as it comes out of an empty
one (`Emptied.isHintedFrom_eq`).

So a text with markers asks for no call that it would not ask for with the markers emptied
(`Emptied.asks`).
-/

namespace MediaScraper

namespace Call

/-- The text asks for a call: it looks as if it held an element that calls, or it holds a chain. -/
def Asks (text : String) : Prop := isHinted text = true ∨ (chain? text).isSome = true

end Call

/-! ## Markers -/

/-- A text without markup. -/
def Plain (s : List Char) : Prop := ∀ c ∈ s, c ≠ '<' ∧ c ≠ '>'

instance : DecidablePred Plain := fun s => List.decidableBAll (fun c => c ≠ '<' ∧ c ≠ '>') s

theorem Plain.append {s t : List Char} (hs : Plain s) (ht : Plain t) : Plain (s ++ t) :=
  fun c hc => (List.mem_append.1 hc).elim (hs c) (ht c)

/-- A marker of a failed call: a text and the wording of the failure, both without markup. -/
inductive IsMarker : List Char → Prop
  | mk {text message : List Char} : Plain text → Plain message →
      IsMarker ("\n<error>".toList ++ (text ++ ("\n<msg>".toList ++
        (message ++ "</msg></error>\n".toList))))

/-- A marker without a text and a wording. -/
def emptyMarker : List Char := "\n<error></error>\n".toList

/-- `Emptied s s'`: some of the markers in `s` are empty in `s'`, and nothing else is changed. -/
inductive Emptied : List Char → List Char → Prop
  | nil : Emptied [] []
  | char {s s' : List Char} (c : Char) : Emptied s s' → Emptied (c :: s) (c :: s')
  | marker {m s s' : List Char} : IsMarker m → Emptied s s' → Emptied (m ++ s) (emptyMarker ++ s')

theorem plain_escape (s : List Char) : Plain (Entity.escape s) := by
  intro d hd
  obtain ⟨c, -, hc⟩ := List.mem_flatMap.1 hd
  unfold Entity.escapeChar at hc
  split at hc <;> simp_all <;> rcases hc with rfl | rfl | rfl | rfl | rfl <;> decide

/-- Only the name of a routine can bring markup into the wording of a failure. -/
theorem plain_message {failure : CallFailure}
    (h : ∀ name, failure = .unknownRoutine name → Plain name.toList) :
    Plain failure.message.toList := by
  cases failure with
  | emptyName => decide
  | unknownRoutine name =>
    have hwording : Plain "Invalid Function Name: ".toList := by decide
    show Plain ("Invalid Function Name: " ++ name).toList
    rw [String.toList_append]
    exact hwording.append (h name rfl)
  | tooDeep limit =>
    have hdigits : Plain (toString limit).toList := by
      intro c hc
      rw [show toString limit = String.ofList (Nat.toDigits 10 limit) from
        Nat.repr_eq_ofList_toDigits, String.toList_ofList] at hc
      have hdigit := Numeral.isDigit_of_mem_toDigits hc
      constructor <;>
        · rintro rfl
          exact absurd hdigit (by decide)
    have hwording : Plain "Call depth limit of ".toList := by decide
    have hend : Plain " exceeded".toList := by decide
    show Plain ("Call depth limit of " ++ toString limit ++ " exceeded").toList
    rw [String.toList_append, String.toList_append]
    exact (hwording.append hdigits).append hend

theorem toList_marker (failure : CallFailure) (text : String) :
    (failure.marker text).toList = "\n<error>".toList ++ (Entity.escape text.toList ++
      ("\n<msg>".toList ++ (failure.message.toList ++ "</msg></error>\n".toList))) := by
  simp only [CallFailure.marker, Entity.escapeText, String.toList_append, String.toList_ofList,
    List.append_assoc]

/-- **The text in a marker is escaped**, so it is a marker if the wording holds no markup. -/
theorem isMarker_marker {failure : CallFailure} (h : Plain failure.message.toList)
    (text : String) : IsMarker (failure.marker text).toList := by
  rw [toList_marker]
  exact .mk (plain_escape _) h

namespace Emptied

variable {s s' t t' : List Char}

theorem refl (s : List Char) : Emptied s s := by
  induction s with
  | nil => exact .nil
  | cons c s ih => exact .char c ih

theorem append (h : Emptied s s') (h' : Emptied t t') : Emptied (s ++ t) (s' ++ t') := by
  induction h with
  | nil => exact h'
  | char c _ ih => exact .char c ih
  | marker hm _ ih =>
    rw [List.append_assoc, List.append_assoc]
    exact .marker hm ih

theorem quote_not_mem (h : Emptied s s') (hs : '"' ∉ s) : '"' ∉ s' := by
  induction h with
  | nil => exact hs
  | char c _ ih =>
    obtain ⟨hc, hs⟩ := List.ne_and_not_mem_of_not_mem_cons hs
    exact List.not_mem_cons_of_ne_of_not_mem hc (ih hs)
  | marker hm _ ih =>
    rw [List.mem_append, not_or] at hs ⊢
    exact ⟨by decide, ih hs.2⟩

end Emptied

/-! ## No part of a chain in a marker -/

/-- The text stands in no marker, and it cannot stand across the edge of one. -/
structure Solid (w : List Char) : Prop where
  nonempty : w ≠ []
  newline : '\n' ∉ w
  outside : ∀ m, IsMarker m → ¬ w <:+: m

theorem infix_append_of_not_mem {c : Char} {w x y : List Char} (hx : c ∉ x)
    (h : c :: w <:+: x ++ y) : c :: w <:+: y := by
  induction x with
  | nil => exact h
  | cons d x ih =>
    obtain ⟨hd, hx⟩ := List.ne_and_not_mem_of_not_mem_cons hx
    rcases List.infix_cons_iff.1 h with hprefix | h
    · exact absurd (List.cons_prefix_cons.1 hprefix).1 hd
    · exact ih hx h

/-- A tag that begins differently is passed over. -/
theorem infix_of_tag {a b d e : Char} {w x y : List Char} (hde : [a, b] ≠ [d, e])
    (hx : '<' ∉ d :: e :: x) (h : '<' :: a :: b :: w <:+: '<' :: d :: e :: x ++ y) :
    '<' :: a :: b :: w <:+: y := by
  rw [List.cons_append, List.infix_cons_iff] at h
  rcases h with ⟨v, hv⟩ | h
  · simp only [List.cons_append, List.cons.injEq] at hv
    exact absurd (by rw [hv.2.1, hv.2.2.1]) hde
  · exact infix_append_of_not_mem hx h

/-- The only tags in a marker are its own. -/
theorem tag_not_infix {a b : Char} {w m : List Char} (hm : IsMarker m)
    (hab : ∀ t ∈ ["er".toList, "ms".toList, "/m".toList, "/e".toList], [a, b] ≠ t) :
    ¬ '<' :: a :: b :: w <:+: m := by
  cases hm with
  | @mk text message htext hmessage =>
    intro h
    have h := infix_append_of_not_mem (x := ['\n']) (by decide) h
    have h := infix_of_tag (x := "ror>".toList) (hab _ (by decide)) (by decide) h
    have h := infix_append_of_not_mem (fun hmem => (htext _ hmem).1 rfl) h
    have h := infix_append_of_not_mem (x := ['\n']) (by decide) h
    have h := infix_of_tag (x := "g>".toList) (hab _ (by decide)) (by decide) h
    have h := infix_append_of_not_mem (fun hmem => (hmessage _ hmem).1 rfl) h
    have h := infix_of_tag (x := "sg>".toList) (y := "</error>\n".toList) (hab _ (by decide))
      (by decide) h
    have h := infix_of_tag (x := "rror>\n".toList) (y := []) (hab _ (by decide)) (by decide) h
    cases List.infix_nil.1 h

theorem nameEnd_infix_append {x y : List Char} (hx : '>' ∉ x) (hy : y.head? ≠ some '>')
    (h : Call.nameEnd <:+: x ++ y) : Call.nameEnd <:+: y := by
  induction x with
  | nil => exact h
  | cons c x ih =>
    obtain ⟨-, hx⟩ := List.ne_and_not_mem_of_not_mem_cons hx
    rw [List.cons_append, List.infix_cons_iff] at h
    rcases h with ⟨v, hv⟩ | h
    · have hbracket : (x ++ y).head? = some '>' := by
        rw [← (List.cons.inj hv).2]
        rfl
      cases x with
      | nil => exact absurd hbracket hy
      | cons d x =>
        obtain rfl : d = '>' := Option.some.inj hbracket
        exact absurd List.mem_cons_self hx
    · exact ih hx h

theorem nameEnd_not_infix {m : List Char} (hm : IsMarker m) : ¬ Call.nameEnd <:+: m := by
  cases hm with
  | @mk text message htext hmessage =>
    intro h
    have h := infix_append_of_not_mem (x := "\n<error>".toList) (by decide) h
    have h := nameEnd_infix_append (fun hmem => (htext _ hmem).2 rfl) (by rintro ⟨⟩) h
    have h := infix_append_of_not_mem (x := "\n<msg>".toList) (by decide) h
    have h := nameEnd_infix_append (fun hmem => (hmessage _ hmem).2 rfl) (by decide) h
    exact absurd h (by decide)

theorem solid_chainStart : Solid Call.chainStart where
  nonempty := by decide
  newline := by decide
  outside _ hm := tag_not_infix (w := "ain function=\"".toList) hm (by decide)

theorem solid_chainEnd : Solid Call.chainEnd where
  nonempty := by decide
  newline := by decide
  outside _ hm := tag_not_infix (w := "hain>".toList) hm (by decide)

theorem solid_nameEnd : Solid Call.nameEnd where
  nonempty := by decide
  newline := by decide
  outside _ hm := nameEnd_not_infix hm

/-! ## Emptied texts ask for no more -/

namespace Emptied

variable {s s' : List Char}

theorem front {w b : List Char} (hw : '\n' ∉ w) (h : Emptied (w ++ b) s') :
    ∃ b', s' = w ++ b' ∧ Emptied b b' := by
  induction w generalizing s' with
  | nil => exact ⟨s', rfl, h⟩
  | cons c w ih =>
    obtain ⟨hc, hw⟩ := List.ne_and_not_mem_of_not_mem_cons hw
    generalize hs : c :: w ++ b = s at h
    cases h with
    | nil => cases hs
    | char d h =>
      obtain ⟨rfl, rfl⟩ := List.cons.inj hs
      obtain ⟨b', rfl, hb⟩ := ih hw h
      exact ⟨b', rfl, hb⟩
    | marker hm _ =>
      cases hm
      exact absurd (List.cons.inj hs).1.symm hc

theorem exists_eq_concat {m : List Char} (hm : IsMarker m) : ∃ x, m = x ++ ['\n'] := by
  cases hm with
  | @mk text message _ _ =>
    refine ⟨"\n<error>".toList ++ (text ++ ("\n<msg>".toList ++
      (message ++ "</msg></error>".toList))), ?_⟩
    simp only [List.append_assoc]
    rfl

/-- **What cannot stand in a marker or across its edge is not touched.** -/
theorem split {w a b : List Char} (hw : Solid w) (h : Emptied (a ++ w ++ b) s') :
    ∃ a' b', s' = a' ++ w ++ b' ∧ Emptied a a' ∧ Emptied b b' := by
  generalize hs : a ++ w ++ b = s at h
  induction h generalizing a with
  | nil =>
    exact absurd (List.append_eq_nil_iff.1 (List.append_eq_nil_iff.1 hs).1).2 hw.nonempty
  | @char s s' c h ih =>
    cases a with
    | cons d a =>
      rw [List.cons_append, List.cons_append] at hs
      obtain ⟨rfl, htail⟩ := List.cons.inj hs
      obtain ⟨a', b', rfl, ha, hb⟩ := ih htail
      exact ⟨d :: a', b', rfl, .char d ha, hb⟩
    | nil =>
      have hwhole : Emptied (w ++ b) (c :: s') := by
        rw [← List.nil_append w, hs]
        exact .char c h
      obtain ⟨b', hb', hb⟩ := hwhole.front hw.newline
      exact ⟨[], b', hb', .nil, hb⟩
  | @marker m s s' hm h ih =>
    have hbehind (t : List Char) (ha : a = m ++ t) :
        ∃ a' b', emptyMarker ++ s' = a' ++ w ++ b' ∧ Emptied a a' ∧ Emptied b b' := by
      rw [ha, List.append_assoc, List.append_assoc, List.append_cancel_left_eq,
        ← List.append_assoc] at hs
      obtain ⟨a', b', rfl, ht, hb⟩ := ih hs
      exact ⟨emptyMarker ++ a', b', by simp only [List.append_assoc], ha ▸ .marker hm ht, hb⟩
    rw [List.append_assoc] at hs
    rcases List.append_eq_append_iff.1 hs with ⟨t, rfl, hwb⟩ | ⟨t, ha, -⟩
    · -- `w` begins in the marker: it cannot end there, and it cannot hold the end of the marker.
      rcases List.append_eq_append_iff.1 hwb with ⟨u, rfl, -⟩ | ⟨u, rfl, -⟩
      · exact absurd ⟨a, u, by rw [List.append_assoc]⟩ (hw.outside _ hm)
      · obtain ⟨x, hx⟩ := exists_eq_concat hm
        rcases List.eq_nil_or_concat t with rfl | ⟨t, c, rfl⟩
        · exact hbehind [] (by simp)
        · rw [List.concat_eq_append, ← List.append_assoc] at hx
          have hc : c = '\n' := by simpa using List.append_inj_right' hx rfl
          exact absurd (by simp [hc]) hw.newline
    · exact hbehind t ha

theorem isSome_chainFrom? (h : Emptied s s') (hs : (Call.chainFrom? s).isSome) :
    (Call.chainFrom? s').isSome := by
  obtain ⟨before, name, behind, rfl, hquote, x, y, rfl⟩ := Call.isSome_chainFrom?_iff.1 hs
  obtain ⟨before', r', rfl, -, hr⟩ := h.split solid_chainStart
  obtain ⟨name', behind', rfl, hname, hbehind⟩ := hr.split solid_nameEnd
  obtain ⟨x', y', rfl, -, -⟩ := hbehind.split solid_chainEnd
  exact Call.isSome_chainFrom?_iff.2
    ⟨before', name', x' ++ Call.chainEnd ++ y', rfl, hname.quote_not_mem hquote, x', y', rfl⟩

end Emptied

/-! ## Hints -/

namespace Call

theorem isFunctionKey_cons_of_ne {c : Char} (hc : c.toLower ≠ 'f') (cs : List Char) :
    isFunctionKey (c :: cs) = false := by
  have hstart : Text.startsIgnoringCase "function".toList (c :: cs) = false := by
    refine beq_false_of_ne fun heq => hc ?_
    exact (List.cons.inj heq).1.symm
  rw [isFunctionKey]
  simp only [hstart, Bool.false_and]

/-- Where no key can begin, only the state of the search matters. -/
theorem isHintedFrom_append {w : List Char} (hw : 'f' ∉ w.map Char.toLower) (hint : Hint)
    (rest : List Char) :
    isHintedFrom hint (w ++ rest) = isHintedFrom (w.foldl Hint.step hint) rest := by
  induction w generalizing hint with
  | nil => rfl
  | cons c w ih =>
    rw [List.map_cons] at hw
    obtain ⟨hc, hw⟩ := List.ne_and_not_mem_of_not_mem_cons hw
    rw [List.cons_append, isHintedFrom, isFunctionKey_cons_of_ne hc.symm, Bool.and_false,
      Bool.false_or, ih hw]
    rfl

theorem isHintedFrom_plain {w : List Char} (hw : '<' ∉ w) (rest : List Char) :
    isHintedFrom .nothing (w ++ rest) = isHintedFrom .nothing rest := by
  induction w with
  | nil => rfl
  | cons c w ih =>
    obtain ⟨hc, hw⟩ := List.ne_and_not_mem_of_not_mem_cons hw
    rw [List.cons_append, isHintedFrom, Hint.step, if_neg hc.symm, ih hw]
    rfl

/-- Whatever has been seen before a marker, its first tag leaves nothing of it. -/
theorem isHintedFrom_error (hint : Hint) (rest : List Char) :
    isHintedFrom hint ("\n<error>".toList ++ rest) = isHintedFrom .nothing rest := by
  have hstate : "\n<error>".toList.foldl Hint.step hint = .nothing := by
    cases hint with
    | attributes inWord => cases inWord <;> decide
    | _ => decide
  rw [isHintedFrom_append (by decide), hstate]

theorem isHintedFrom_marker {m : List Char} (hm : IsMarker m) (hint : Hint) (rest : List Char) :
    isHintedFrom hint (m ++ rest) = isHintedFrom .nothing rest := by
  cases hm with
  | @mk text message htext hmessage =>
    have hmsg : "\n<msg>".toList.foldl Hint.step .nothing = .nothing := by decide
    have hend : "</msg></error>\n".toList.foldl Hint.step .nothing = .nothing := by decide
    simp only [List.append_assoc]
    rw [isHintedFrom_error, isHintedFrom_plain fun hmem => (htext _ hmem).1 rfl,
      isHintedFrom_append (by decide), hmsg,
      isHintedFrom_plain fun hmem => (hmessage _ hmem).1 rfl,
      isHintedFrom_append (by decide), hend]

theorem isHintedFrom_emptyMarker (hint : Hint) (rest : List Char) :
    isHintedFrom hint (emptyMarker ++ rest) = isHintedFrom .nothing rest := by
  have hend : "</error>\n".toList.foldl Hint.step .nothing = .nothing := by decide
  have hsplit : emptyMarker = "\n<error>".toList ++ "</error>\n".toList := by decide
  rw [hsplit, List.append_assoc, isHintedFrom_error, isHintedFrom_append (by decide), hend]

end Call

namespace Emptied

variable {s s' : List Char}

/-- Full and empty markers begin alike, for as many characters as a key has. -/
theorem take_eq (h : Emptied s s') {n : Nat} (hn : n ≤ 8) : s.take n = s'.take n := by
  induction h generalizing n with
  | nil => rfl
  | char c _ ih =>
    cases n with
    | zero => rfl
    | succ n => rw [List.take_succ_cons, List.take_succ_cons, ih (by omega)]
  | @marker m s s' hm _ _ =>
    have hfront : ∀ rest, ("\n<error>".toList ++ rest).take n = "\n<error>".toList.take n :=
      fun rest => List.take_append_of_le_length hn
    have hempty : emptyMarker = "\n<error>".toList ++ "</error>\n".toList := by decide
    cases hm
    simp only [hempty, List.append_assoc, hfront]

theorem drop (h : Emptied s s') {n : Nat} (hn : '\n' ∉ s.take n) :
    Emptied (s.drop n) (s'.drop n) := by
  induction h generalizing n with
  | nil => simpa using Emptied.nil
  | char c h ih =>
    cases n with
    | zero => exact h.char c
    | succ n => exact ih (List.ne_and_not_mem_of_not_mem_cons hn).2
  | marker hm h _ =>
    cases n with
    | zero => exact h.marker hm
    | succ n =>
      cases hm
      exact absurd List.mem_cons_self hn

theorem head?_dropWhile_eq (h : Emptied s s') :
    (s.dropWhile isBlank).head? = (s'.dropWhile isBlank).head? := by
  induction h with
  | nil => rfl
  | char c _ ih =>
    rw [List.dropWhile_cons, List.dropWhile_cons]
    split
    · exact ih
    · rfl
  | marker hm _ _ =>
    cases hm
    rfl

/-- A key ends before a marker, and so does what is looked for behind it. -/
theorem isFunctionKey_eq (h : Emptied s s') : Call.isFunctionKey s = Call.isFunctionKey s' := by
  have hkey : Text.startsIgnoringCase "function".toList s =
      Text.startsIgnoringCase "function".toList s' := by
    rw [Text.startsIgnoringCase, Text.startsIgnoringCase,
      h.take_eq (show "function".toList.length ≤ 8 by decide)]
  rw [Call.isFunctionKey, Call.isFunctionKey, hkey]
  cases hstart : Text.startsIgnoringCase "function".toList s with
  | false => rw [← hkey, hstart, Bool.false_and, Bool.false_and]
  | true =>
    have hnewline : '\n' ∉ s.take "function".toList.length := by
      intro hmem
      have hmap := List.mem_map_of_mem (f := Char.toLower) hmem
      rw [← eq_of_beq hstart] at hmap
      exact absurd hmap (by decide)
    rw [(h.drop hnewline).head?_dropWhile_eq]

/-- **A marker hints at a call no more than an empty one.** -/
theorem isHintedFrom_eq (h : Emptied s s') (hint : Call.Hint) :
    Call.isHintedFrom hint s = Call.isHintedFrom hint s' := by
  induction h generalizing hint with
  | nil => rfl
  | char c h ih =>
    rw [Call.isHintedFrom, Call.isHintedFrom, (h.char c).isFunctionKey_eq, ih]
  | marker hm h ih => rw [Call.isHintedFrom_marker hm, Call.isHintedFrom_emptyMarker, ih]

/-- **Markers ask for nothing.** What a text with markers asks for, it asks for without what is in
them. -/
theorem asks {text text' : String} (h : Emptied text.toList text'.toList) (hasks : Call.Asks text) :
    Call.Asks text' := by
  rcases hasks with hhint | hchain
  · refine .inl ?_
    rwa [Call.isHinted, ← h.isHintedFrom_eq]
  · refine .inr ?_
    rw [Call.chain?, Option.isSome_map] at hchain ⊢
    exact h.isSome_chainFrom? hchain

end Emptied
end MediaScraper
