import MediaScraper.Proofs.Repair.Event
import MediaScraper.Repair

/-!
# Which brackets are escaped

The other side of the repair of brackets is a reading of the text that tells of every character
whether it stands inside of a value (`Marks`): a grammar of tags, of quoted values in them, and of
what is passed over between them, with or without an end. Every text has one reading
(`exists_marks`, `Marks.unique`).

**The repair** writes the brackets inside of values by name, and every other character as it stands
(`Marks.escapeFrom_eq`). What it has written is read in the same regions (`Marks.escaped`), because
no name of a bracket holds a quote and nothing outside of values has changed. So no value of it
holds a bracket, and it is repaired already (`brackets_marks`).
-/

namespace MediaScraper.Repair.Brackets

/-! ## The reading -/

/-- A character, and whether it stands inside of a value. -/
structure Mark where
  char : Char
  inValue : Bool

/-- A text that stands inside or outside of a value as a whole. -/
def marked (inValue : Bool) (s : List Char) : List Mark := s.map (⟨·, inValue⟩)

/-- What opens a comment, a CDATA section, an instruction or a declaration at the beginning of a
text, with what closes it. -/
def opened? (s : List Char) : Option (List Char × List Char) :=
  if "<!--".toList <+: s then some ("<!--".toList, "-->".toList)
  else if "<![CDATA[".toList <+: s then some ("<![CDATA[".toList, "]]>".toList)
  else if "<?".toList <+: s then some ("<?".toList, "?>".toList)
  else if "<!".toList <+: s then some ("<!".toList, ">".toList)
  else none

/-- `Marks place s ms`: read on from a place, the characters of the text `s` stand inside and
outside of values as `ms` tells. -/
inductive Marks : Place → List Char → List Mark → Prop
  | nil (place : Place) : Marks place [] []
  | char {c : Char} {s : List Char} {ms : List Mark} :
      c ≠ '<' → Marks .text s ms → Marks .text (c :: s) (⟨c, false⟩ :: ms)
  | closed {opener closer body rest s : List Char} {ms : List Mark} :
      opened? s = some (opener, closer) → s = opener ++ (body ++ (closer ++ rest)) →
      ¬ closer <:+: body → Marks .text rest ms →
      Marks .text s (marked false (opener ++ (body ++ closer)) ++ ms)
  /-- One that nothing closes reaches to the end of the text. -/
  | unclosed {opener closer body s : List Char} :
      opened? s = some (opener, closer) → s = opener ++ body → ¬ closer <:+: body →
      Marks .text s (marked false s)
  | tag {s : List Char} {ms : List Mark} :
      opened? ('<' :: s) = none → Marks .tag s ms → Marks .text ('<' :: s) (⟨'<', false⟩ :: ms)
  | inTag {c : Char} {s : List Char} {ms : List Mark} :
      c ∉ ['>', '"', '\''] → Marks .tag s ms → Marks .tag (c :: s) (⟨c, false⟩ :: ms)
  | tagEnd {s : List Char} {ms : List Mark} :
      Marks .text s ms → Marks .tag ('>' :: s) (⟨'>', false⟩ :: ms)
  | value {quote : Char} {s : List Char} {ms : List Mark} :
      quote ∈ ['"', '\''] → Marks (.value quote) s ms →
      Marks .tag (quote :: s) (⟨quote, false⟩ :: ms)
  | inValue {quote c : Char} {s : List Char} {ms : List Mark} :
      c ≠ quote → Marks (.value quote) s ms → Marks (.value quote) (c :: s) (⟨c, true⟩ :: ms)
  | valueEnd {quote : Char} {s : List Char} {ms : List Mark} :
      Marks .tag s ms → Marks (.value quote) (quote :: s) (⟨quote, false⟩ :: ms)

/-- What is written for a character: a bracket inside of a value by name. -/
def Mark.escaped (m : Mark) : List Mark :=
  if m.inValue ∧ m.char = '<' then marked true "&lt;".toList
  else if m.inValue ∧ m.char = '>' then marked true "&gt;".toList
  else [m]

variable {place : Place} {s : List Char} {ms : List Mark}

@[simp]
theorem map_char_marked (inValue : Bool) (s : List Char) :
    (marked inValue s).map Mark.char = s := by
  rw [marked, List.map_map]
  exact List.map_id s

@[simp]
theorem escaped_outside (c : Char) : Mark.escaped ⟨c, false⟩ = [⟨c, false⟩] := by
  simp [Mark.escaped]

@[simp]
theorem escaped_inside (c : Char) : Mark.escaped ⟨c, true⟩ = marked true (escapeBracket c) := by
  unfold escapeBracket
  split
  · rfl
  · rfl
  · next hlt hgt =>
    rw [Mark.escaped, if_neg fun h => hlt h.2, if_neg fun h => hgt h.2]
    rfl

@[simp]
theorem flatMap_escaped_outside (s : List Char) :
    (marked false s).flatMap Mark.escaped = marked false s := by
  induction s with
  | nil => rfl
  | cons c s ih =>
    rw [marked, List.map_cons, List.flatMap_cons, escaped_outside, ← marked, ih]
    rfl

theorem Marks.map_char (h : Marks place s ms) : ms.map Mark.char = s := by
  induction h with
  | nil => rfl
  | closed _ hs _ _ ih =>
    rw [List.map_append, map_char_marked, ih, hs]
    simp
  | unclosed => exact map_char_marked false _
  | _ => simpa

/-! ## What is passed over -/

theorem opened?_eq_find? (s : List Char) :
    opened? s = verbatimPairs.find? fun pair => pair.1.isPrefixOf s := by
  have hprefix (w : List Char) : w.isPrefixOf s = decide (w <+: s) := by
    rw [Bool.eq_iff_iff, List.isPrefixOf_iff_prefix, decide_eq_true_iff]
  simp only [opened?, verbatimPairs, List.find?, hprefix]
  split_ifs <;> simp_all

theorem opened?_eq_some {opener closer : List Char} (h : opened? s = some (opener, closer)) :
    (opener, closer) ∈ verbatimPairs ∧ opener <+: s := by
  rw [opened?_eq_find?] at h
  have hprefix : opener.isPrefixOf s = true :=
    List.find?_some (p := fun pair : List Char × List Char => pair.1.isPrefixOf s) h
  exact ⟨List.mem_of_find?_eq_some h, List.isPrefixOf_iff_prefix.1 hprefix⟩

/-- A closer ends with a bracket, which stands nowhere else in it. -/
theorem exists_eq_concat_of_mem {opener closer : List Char}
    (h : (opener, closer) ∈ verbatimPairs) : ∃ ds, closer = ds ++ ['>'] ∧ '>' ∉ ds := by
  have hclosers : ∀ pair ∈ verbatimPairs,
      pair.2 = pair.2.dropLast ++ ['>'] ∧ '>' ∉ pair.2.dropLast := by decide
  exact ⟨_, hclosers _ h⟩

theorem prefix_append_bracket_iff {w v rest : List Char} (h : '>' ∉ w) :
    w <+: v ++ '>' :: rest ↔ w <+: v := by
  refine ⟨fun hw => ?_, fun hw => hw.trans (List.prefix_append _ _)⟩
  rcases Nat.lt_or_ge v.length w.length with hlt | hge
  · -- a longer one would hold the bracket
    have htext : v ++ ['>'] <+: v ++ '>' :: rest := ⟨rest, by simp⟩
    have hv : v ++ ['>'] <+: w := List.prefix_of_prefix_length_le htext hw (by simpa)
    exact absurd (hv.subset (by simp)) h
  · exact List.prefix_of_prefix_length_le hw (List.prefix_append _ _) hge

theorem opened?_append_bracket (v rest : List Char) :
    opened? (v ++ '>' :: rest) = opened? v := by
  have hprefix (w : List Char) (hw : '>' ∉ w) : (w <+: v ++ '>' :: rest) = (w <+: v) :=
    propext (prefix_append_bracket_iff hw)
  simp only [opened?, hprefix _ (by decide : '>' ∉ "<!--".toList),
    hprefix _ (by decide : '>' ∉ "<![CDATA[".toList), hprefix _ (by decide : '>' ∉ "<?".toList),
    hprefix _ (by decide : '>' ∉ "<!".toList)]

theorem opened?_eq_none_of_ne {c : Char} (hc : c ≠ '<') : opened? (c :: s) = none := by
  simp [opened?, hc.symm]

theorem opened?_eq_none_iff : opened? ('<' :: s) = none ↔ ∀ c ∈ s.head?, c ≠ '!' ∧ c ≠ '?' := by
  rw [opened?_eq_find?, List.find?_eq_none]
  cases s with
  | nil => simp [verbatimPairs]
  | cons c s =>
    by_cases h1 : c = '!'
    · simp [verbatimPairs, h1]
    · by_cases h2 : c = '?'
      · simp [verbatimPairs, h2]
      · simp [verbatimPairs, h1, h2, Ne.symm h1, Ne.symm h2]

theorem verbatim?_of_opened? {opener closer t : List Char}
    (h : opened? (opener ++ t) = some (opener, closer)) :
    verbatim? (opener ++ t) = some (lengthThrough closer opener.length t) := by
  rw [opened?_eq_find?] at h
  rw [verbatim?]
  generalize verbatimPairs = pairs at h ⊢
  induction pairs with
  | nil => cases h
  | cons pair pairs ih =>
    obtain ⟨first, last⟩ := pair
    by_cases hfirst : first <+: opener ++ t
    · simp only [List.find?_cons, List.isPrefixOf_iff_prefix.2 hfirst] at h
      cases h
      have hrest : opener.isPrefixOf? (opener ++ t) = some t :=
        List.isPrefixOf?_eq_some_iff_append_eq.2 rfl
      simp only [List.findSome?_cons, hrest, Option.map_some]
    · have hfalse : first.isPrefixOf (opener ++ t) = false :=
        Bool.eq_false_iff.2 (mt List.isPrefixOf_iff_prefix.1 hfirst)
      simp only [List.find?_cons, hfalse] at h
      simp only [List.findSome?_cons, Text.isPrefixOf?_eq_none hfirst, Option.map_none]
      exact ih h

theorem verbatim?_of_opened?_eq_none (h : opened? s = none) : verbatim? s = none := by
  rw [opened?_eq_find?] at h
  rw [verbatim?, List.findSome?_eq_none_iff]
  rintro ⟨first, last⟩ hpair
  have hfirst : ¬ first <+: s := fun hp =>
    List.find?_eq_none.1 h _ hpair (List.isPrefixOf_iff_prefix.2 hp)
  simp only [Text.isPrefixOf?_eq_none hfirst, Option.map_none]

theorem lengthThrough_of_not_infix {closer s : List Char} (h : ¬ closer <:+: s) (seen : Nat) :
    lengthThrough closer seen s = seen + s.length := by
  induction s generalizing seen with
  | nil => rfl
  | cons c s ih =>
    rw [List.infix_cons_iff, not_or] at h
    rw [lengthThrough, if_neg (mt List.isPrefixOf_iff_prefix.1 h.1), ih h.2, List.length_cons]
    omega

theorem exists_eq_cons_of_mem {opener closer : List Char} (h : (opener, closer) ∈ verbatimPairs) :
    ∃ c w, opener = '<' :: c :: w := by
  have hopeners : ∀ pair ∈ verbatimPairs, pair.1.head? = some '<' ∧ pair.1.tail ≠ [] := by decide
  obtain ⟨hhead, htail⟩ := hopeners _ h
  obtain ⟨w, rfl⟩ := List.head?_eq_some_iff.1 hhead
  obtain ⟨c, w, rfl⟩ := List.exists_cons_of_ne_nil htail
  exact ⟨c, w, rfl⟩

theorem escapeFrom_passed (out : List Char) {opener closer v rest : List Char}
    (hmem : (opener, closer) ∈ verbatimPairs)
    (h : verbatim? (opener ++ v ++ rest) = some (opener ++ v).length) :
    escapeFrom out .text (opener ++ v ++ rest) =
      escapeFrom ((opener ++ v).reverse ++ out) .text rest := by
  obtain ⟨c, w, rfl⟩ := exists_eq_cons_of_mem hmem
  exact escapeFrom_verbatim out (v := c :: w ++ v) (List.cons_ne_nil _ _) h

theorem escapeFrom_closed (out : List Char) {opener closer body s : List Char}
    (h : opened? (opener ++ (body ++ (closer ++ s))) = some (opener, closer))
    (hbody : ¬ closer <:+: body) :
    escapeFrom out .text (opener ++ (body ++ (closer ++ s))) =
      escapeFrom ((opener ++ (body ++ closer)).reverse ++ out) .text s := by
  obtain ⟨hmem, -⟩ := opened?_eq_some h
  obtain ⟨ds, rfl, hds⟩ := exists_eq_concat_of_mem hmem
  have hverbatim := verbatim?_of_opened? h
  rw [← List.append_assoc body, lengthThrough_append ds hds hbody] at hverbatim
  rw [← List.append_assoc body, ← List.append_assoc opener]
  refine escapeFrom_passed out hmem ?_
  rw [List.append_assoc, hverbatim]
  simp [Nat.add_assoc]

theorem escapeFrom_unclosed (out : List Char) {opener closer body : List Char}
    (h : opened? (opener ++ body) = some (opener, closer)) (hbody : ¬ closer <:+: body) :
    escapeFrom out .text (opener ++ body) = out.reverse ++ (opener ++ body) := by
  obtain ⟨hmem, -⟩ := opened?_eq_some h
  have hverbatim : verbatim? (opener ++ body ++ []) = some (opener ++ body).length := by
    rw [List.append_nil, verbatim?_of_opened? h, lengthThrough_of_not_infix hbody,
      List.length_append]
  rw [← List.append_nil (opener ++ body), escapeFrom_passed out hmem hverbatim]
  simp [escapeFrom]

/-! ## What is written -/

/-- **The repair writes what the reading tells.** -/
theorem Marks.escapeFrom_eq (h : Marks place s ms) (out : List Char) :
    escapeFrom out place s = out.reverse ++ (ms.flatMap Mark.escaped).map Mark.char := by
  induction h generalizing out with
  | nil => simp [escapeFrom]
  | @char c s ms hc _ ih =>
    rw [escapeFrom, Place.next, if_neg hc, Place.write_text, ih]
    simp
  | closed hopened hs hbody _ ih =>
    subst hs
    rw [escapeFrom_closed out hopened hbody, ih]
    simp
  | unclosed hopened hs hbody =>
    subst hs
    rw [escapeFrom_unclosed out hopened hbody]
    simp
  | @tag s ms hopened _ ih =>
    rw [escapeFrom, Place.next, if_pos rfl, verbatim?_of_opened?_eq_none hopened,
      Place.write_text, ih]
    simp
  | @inTag c s ms hc _ ih =>
    simp only [List.mem_cons, List.not_mem_nil, or_false, not_or] at hc
    rw [escapeFrom, Place.next, if_neg (not_or.2 hc.2), if_neg hc.1, Place.write_tag, ih]
    simp
  | tagEnd _ ih =>
    rw [escapeFrom_close, ih]
    simp
  | @value quote s ms hquote _ ih =>
    have hquote : quote = '"' ∨ quote = '\'' := by simpa using hquote
    rw [escapeFrom, Place.next, if_pos hquote, Place.write_tag, ih]
    simp
  | @inValue quote c s ms hc _ ih =>
    rw [escapeFrom, Place.next, if_neg hc, Place.write, if_neg hc, ih]
    simp
  | @valueEnd quote s ms _ ih =>
    rw [escapeFrom, Place.next, if_pos rfl, Place.write, if_pos rfl, ih]
    simp

/-! ## Every text has one reading -/

theorem exists_closer {closer : List Char} (hne : closer ≠ []) (s : List Char) :
    (∃ body rest, s = body ++ (closer ++ rest) ∧ ¬ closer <:+: body) ∨ ¬ closer <:+: s := by
  by_cases h : closer <:+: s
  · obtain ⟨⟨body, rest⟩, hbreak⟩ := Option.isSome_iff_exists.1 ((Text.isSome_breakAt?_iff hne).2 h)
    obtain ⟨rfl, -⟩ := (Text.breakAt?_eq_some_iff hne).1 hbreak
    exact .inl ⟨body, rest, by rw [List.append_assoc], Text.not_infix_of_breakAt? hne hbreak⟩
  · exact .inr h

/-- The places of a reading: those between what is passed over, and in values between quotes. -/
def Place.IsStop : Place → Prop
  | .text | .tag => True
  | .value quote => quote ∈ ['"', '\'']
  | .verbatim _ => False

theorem exists_marks (place : Place) (hplace : place.IsStop) (s : List Char) :
    ∃ ms, Marks place s ms := by
  induction hn : s.length using Nat.strongRecOn generalizing place s with
  | ind n ih =>
    subst hn
    cases s with
    | nil => exact ⟨[], .nil place⟩
    | cons c s =>
      have htail (next : Place) (hnext : next.IsStop) : ∃ ms, Marks next s ms :=
        ih s.length (Nat.lt_succ_self _) next hnext s rfl
      cases place with
      | verbatim left => exact hplace.elim
      | text =>
        by_cases hc : c = '<'
        · subst hc
          cases hopened : opened? ('<' :: s) with
          | none =>
            obtain ⟨ms, hms⟩ := htail .tag trivial
            exact ⟨_, .tag hopened hms⟩
          | some pair =>
            obtain ⟨opener, closer⟩ := pair
            obtain ⟨hmem, t, ht⟩ := opened?_eq_some hopened
            obtain ⟨ds, hcloser, -⟩ := exists_eq_concat_of_mem hmem
            have hne : closer ≠ [] := by simp [hcloser]
            obtain ⟨body, rest, rfl, hbody⟩ | hbody := exists_closer hne t
            · have hlt : rest.length < ('<' :: s).length := by
                rw [← ht, hcloser]
                simp
                omega
              obtain ⟨ms, hms⟩ := ih rest.length hlt _ hplace rest rfl
              exact ⟨_, .closed hopened ht.symm hbody hms⟩
            · exact ⟨_, .unclosed hopened ht.symm hbody⟩
        · obtain ⟨ms, hms⟩ := htail _ hplace
          exact ⟨_, .char hc hms⟩
      | tag =>
        by_cases hend : c = '>'
        · subst hend
          obtain ⟨ms, hms⟩ := htail .text trivial
          exact ⟨_, .tagEnd hms⟩
        by_cases hquote : c ∈ ['"', '\'']
        · obtain ⟨ms, hms⟩ := htail (.value c) hquote
          exact ⟨_, .value hquote hms⟩
        · obtain ⟨ms, hms⟩ := htail _ hplace
          exact ⟨_, .inTag (List.not_mem_cons_of_ne_of_not_mem hend hquote) hms⟩
      | value quote =>
        by_cases hc : c = quote
        · subst hc
          obtain ⟨ms, hms⟩ := htail .tag trivial
          exact ⟨_, .valueEnd hms⟩
        · obtain ⟨ms, hms⟩ := htail _ hplace
          exact ⟨_, .inValue hc hms⟩

/-- The first closer stands at one place only. -/
theorem eq_of_closed {opener closer body rest body' rest' : List Char}
    (hmem : (opener, closer) ∈ verbatimPairs) (hbody : ¬ closer <:+: body)
    (hbody' : ¬ closer <:+: body') (h : body ++ (closer ++ rest) = body' ++ (closer ++ rest')) :
    body = body' ∧ rest = rest' := by
  obtain ⟨ds, rfl, hds⟩ := exists_eq_concat_of_mem hmem
  have hbreak := Text.breakAt?_of_not_infix ds hds hbody rest
  rw [List.append_assoc, h, ← List.append_assoc,
    Text.breakAt?_of_not_infix ds hds hbody' rest'] at hbreak
  obtain ⟨rfl, rfl⟩ := Prod.mk.inj (Option.some.inj hbreak)
  exact ⟨rfl, rfl⟩

theorem Marks.unique {ms' : List Mark} (h : Marks place s ms) (h' : Marks place s ms') :
    ms = ms' := by
  induction h generalizing ms' with
  | nil place =>
    cases h' with
    | nil => rfl
    | closed hopened => cases hopened
    | unclosed hopened => cases hopened
  | char hc _ ih =>
    cases h' with
    | char _ hms => rw [ih hms]
    | closed hopened => cases (opened?_eq_none_of_ne hc).symm.trans hopened
    | unclosed hopened => cases (opened?_eq_none_of_ne hc).symm.trans hopened
    | tag => exact absurd rfl hc
  | closed hopened hs hbody _ ih =>
    cases h' with
    | nil => cases hopened
    | char hc _ => cases (opened?_eq_none_of_ne hc).symm.trans hopened
    | closed hopened' hs' hbody' hms =>
      cases hopened.symm.trans hopened'
      obtain ⟨rfl, rfl⟩ := eq_of_closed (opened?_eq_some hopened).1 hbody hbody'
        (List.append_cancel_left (hs.symm.trans hs'))
      rw [ih hms]
    | unclosed hopened' hs' hbody' =>
      cases hopened.symm.trans hopened'
      rw [← List.append_cancel_left (hs.symm.trans hs')] at hbody'
      exact absurd ⟨_, _, List.append_assoc ..⟩ hbody'
    | tag hnone _ => cases hnone.symm.trans hopened
  | unclosed hopened hs hbody =>
    cases h' with
    | nil => cases hopened
    | char hc _ => cases (opened?_eq_none_of_ne hc).symm.trans hopened
    | closed hopened' hs' hbody' hms =>
      cases hopened.symm.trans hopened'
      rw [List.append_cancel_left (hs.symm.trans hs')] at hbody
      exact absurd ⟨_, _, List.append_assoc ..⟩ hbody
    | unclosed => rfl
    | tag hnone _ => cases hnone.symm.trans hopened
  | tag hnone _ ih =>
    cases h' with
    | char hc _ => exact absurd rfl hc
    | closed hopened => cases hnone.symm.trans hopened
    | unclosed hopened => cases hnone.symm.trans hopened
    | tag _ hms => rw [ih hms]
  | inTag hc _ ih =>
    cases h' with
    | inTag _ hms => rw [ih hms]
    | tagEnd => exact absurd (by simp) hc
    | value hquote _ => exact absurd (List.mem_cons_of_mem _ hquote) hc
  | tagEnd _ ih =>
    cases h' with
    | inTag hc _ => exact absurd (by simp) hc
    | tagEnd hms => rw [ih hms]
    | value hquote _ => exact absurd hquote (by decide)
  | value hquote _ ih =>
    cases h' with
    | inTag hc _ => exact absurd (List.mem_cons_of_mem _ hquote) hc
    | tagEnd => exact absurd hquote (by decide)
    | value _ hms => rw [ih hms]
  | inValue hc _ ih =>
    cases h' with
    | inValue _ hms => rw [ih hms]
    | valueEnd => exact absurd rfl hc
  | valueEnd _ ih =>
    cases h' with
    | inValue hc _ => exact absurd rfl hc
    | valueEnd hms => rw [ih hms]

/-! ## The reading of what is written -/

theorem Marks.head?_escaped (h : Marks .tag s ms) :
    ((ms.flatMap Mark.escaped).map Mark.char).head? = s.head? := by
  cases h <;> simp

theorem Marks.inside {quote : Char} {w : List Char} (hw : ∀ c ∈ w, c ≠ quote)
    (h : Marks (.value quote) s ms) : Marks (.value quote) (w ++ s) (marked true w ++ ms) := by
  induction w with
  | nil => exact h
  | cons c w ih =>
    obtain ⟨hc, hw⟩ := List.forall_mem_cons.1 hw
    exact .inValue hc (ih hw)

theorem ne_quote_of_mem_escapeBracket {quote c : Char} (hquote : quote ∈ ['"', '\''])
    (hc : c ≠ quote) : ∀ d ∈ escapeBracket c, d ≠ quote := by
  rcases List.mem_pair.1 hquote with rfl | rfl <;> unfold escapeBracket <;> split <;> simp_all

/-- **What is written is read in the same regions.** -/
theorem Marks.escaped (h : Marks place s ms) (hplace : place.IsStop) :
    Marks place ((ms.flatMap Mark.escaped).map Mark.char) (ms.flatMap Mark.escaped) := by
  induction h with
  | nil => exact .nil _
  | char hc _ ih => simpa using .char hc (ih hplace)
  | @closed opener closer body rest s ms hopened hs hbody _ ih =>
    obtain ⟨ds, rfl, -⟩ := exists_eq_concat_of_mem (opened?_eq_some hopened).1
    have hsame (rest : List Char) : opened? (opener ++ (body ++ (ds ++ ['>'] ++ rest))) =
        opened? (opener ++ (body ++ ds)) := by
      simpa using opened?_append_bracket (opener ++ (body ++ ds)) rest
    rw [hs, hsame, ← hsame ((ms.flatMap Mark.escaped).map Mark.char)] at hopened
    have hclosed := Marks.closed hopened rfl hbody (ih hplace)
    simpa using hclosed
  | unclosed hopened hs hbody => simpa using .unclosed hopened hs hbody
  | @tag s ms hnone htag ih =>
    have hnone' : opened? ('<' :: (ms.flatMap Mark.escaped).map Mark.char) = none := by
      rw [opened?_eq_none_iff, htag.head?_escaped]
      exact opened?_eq_none_iff.1 hnone
    simpa using .tag hnone' (ih trivial)
  | inTag hc _ ih => simpa using .inTag hc (ih hplace)
  | tagEnd _ ih => simpa using .tagEnd (ih trivial)
  | value hquote _ ih => simpa using .value hquote (ih hquote)
  | inValue hc _ ih =>
    simpa using (ih hplace).inside (ne_quote_of_mem_escapeBracket hplace hc)
  | valueEnd _ ih => simpa using .valueEnd (ih trivial)

theorem ne_bracket_of_mem_escapeBracket (c : Char) :
    ∀ d ∈ escapeBracket c, d ≠ '<' ∧ d ≠ '>' := by
  unfold escapeBracket
  split <;> simp_all

theorem ne_bracket_of_mem_escaped {m : Mark} (hm : m ∈ ms.flatMap Mark.escaped)
    (hvalue : m.inValue = true) : m.char ≠ '<' ∧ m.char ≠ '>' := by
  obtain ⟨⟨c, inValue⟩, -, hm⟩ := List.mem_flatMap.1 hm
  cases inValue with
  | false =>
    rw [escaped_outside, List.mem_singleton] at hm
    rw [hm] at hvalue
    cases hvalue
  | true =>
    rw [escaped_inside, marked, List.mem_map] at hm
    obtain ⟨d, hd, rfl⟩ := hm
    exact ne_bracket_of_mem_escapeBracket c d hd

theorem flatMap_escaped_escaped (ms : List Mark) :
    (ms.flatMap Mark.escaped).flatMap Mark.escaped = ms.flatMap Mark.escaped := by
  have hself : ∀ m ∈ ms.flatMap Mark.escaped, m.escaped = [m] := fun m hm => by
    have hne := ne_bracket_of_mem_escaped hm
    rw [Mark.escaped, if_neg fun h => (hne h.1).1 h.2, if_neg fun h => (hne h.1).2 h.2]
  rw [List.flatMap_congr hself, List.flatMap_singleton']

/-- **Brackets are escaped inside of values only**: in the one reading of the text, each character
inside of a value is written as `Mark.escaped` tells, and every other one as it stands. What is
written is read in the same regions, without a bracket inside of a value, and repairing it again
changes nothing. -/
theorem brackets_marks (s : String) :
    ∃ ms, (∀ ms', Marks .text s.toList ms' ↔ ms' = ms) ∧ ms.map Mark.char = s.toList ∧
      (brackets s).toList = (ms.flatMap Mark.escaped).map Mark.char ∧
      Marks .text (brackets s).toList (ms.flatMap Mark.escaped) ∧
      (∀ m ∈ ms.flatMap Mark.escaped, m.inValue = true → m.char ≠ '<' ∧ m.char ≠ '>') ∧
      brackets (brackets s) = brackets s := by
  obtain ⟨ms, hms⟩ := exists_marks .text trivial s.toList
  have hwritten : (brackets s).toList = (ms.flatMap Mark.escaped).map Mark.char := by
    rw [brackets, String.toList_ofList]
    exact hms.escapeFrom_eq []
  have hread : Marks .text (brackets s).toList (ms.flatMap Mark.escaped) :=
    hwritten ▸ hms.escaped trivial
  refine ⟨ms, fun ms' => ⟨fun h => h.unique hms, fun h => h ▸ hms⟩, hms.map_char, hwritten, hread,
    fun m hm => ne_bracket_of_mem_escaped hm, ?_⟩
  rw [← String.toList_inj, hwritten, brackets, String.toList_ofList]
  refine (hread.escapeFrom_eq []).trans ?_
  rw [flatMap_escaped_escaped, List.reverse_nil, List.nil_append]

end MediaScraper.Repair.Brackets
