import MediaScraper.Interpreter.Rule
import MediaScraper.Proofs.Html.Lines
import MediaScraper.Proofs.Html.StartTag

/-!
# The hint of a call

A text is read as HTML only if it is hinted: if an automaton has seen in it what looks like a start
tag with a `function` attribute. The automaton wants a name of letters, digits and a few signs, a
blank right behind it, and no closing bracket before the key.

**Plain tags** (`IsPlainTag`) are as it wants them: the key of a plain tag that has a value for
`function` is seen, whatever stands before the tag (`isHintedFrom_of_isPlainTag`). A value of an
element stands in a start tag of the text, so where all start tags with such a value are plain, a
text with an element that calls is hinted (`isHinted_of_callSite?`). There the hint decides nothing,
and the calls that a text asks for are answered as if every text were read as HTML
(`dispatch_eq_dispatchWith_callSite?`).

HTML knows other tags: a slash may stand behind the name (`site?_slashed`).
-/

namespace MediaScraper.Call

open Html (isSpace Leads Assigns)

/-! ## Looking for the hint -/

theorem isHintedFrom_of_foldl {w s : List Char} {hint : Hint}
    (h : isHintedFrom (w.foldl Hint.step hint) s = true) : isHintedFrom hint (w ++ s) = true := by
  induction w generalizing hint with
  | nil => exact h
  | cons c w ih => rw [List.cons_append, isHintedFrom, ih h, Bool.or_true]

theorem isHintedFrom_of_isFunctionKey {s : List Char} (h : isFunctionKey s = true) :
    isHintedFrom (.attributes false) s = true := by
  cases s with
  | nil => exact absurd h (by decide)
  | cons c s => rw [isHintedFrom, h]; rfl

theorem isBlank_of_isSpace {c : Char} (h : isSpace c = true) : isBlank c = true := by
  have hall : ∀ c ∈ [' ', '\t', '\n', '\x0c', '\r'], isBlank c = true := by decide
  refine hall c ?_
  simp only [isSpace, Bool.or_eq_true, decide_eq_true_eq] at h
  simpa [or_assoc] using h

/-- Among the attributes a bracket in front of a tag changes nothing but the word. -/
theorem step_bracket (hint : Hint) :
    hint.step '<' = .bracket ∨ hint.step '<' = .attributes false := by
  cases hint with
  | nothing => exact .inl rfl
  | bracket => exact .inl (by decide)
  | name => exact .inl (by decide)
  | attributes inWord =>
    have hword : isWordChar '<' = false := by decide
    exact .inr (congrArg Hint.attributes hword)

/-- Among the attributes only a closing bracket ends the search. -/
theorem foldl_step_attributes {w : List Char} (hw : '>' ∉ w) (inWord : Bool) :
    ∃ inWord', w.foldl Hint.step (.attributes inWord) = .attributes inWord' := by
  induction w generalizing inWord with
  | nil => exact ⟨inWord, rfl⟩
  | cons c w ih =>
    obtain ⟨hc, hw⟩ := List.ne_and_not_mem_of_not_mem_cons hw
    rw [List.foldl_cons, Hint.step, if_neg (Ne.symm hc)]
    exact ih hw _

theorem foldl_step_name {name : List Char} (h : ∀ c ∈ name, continuesName c = true) :
    name.foldl Hint.step .name = .name := by
  induction name with
  | nil => rfl
  | cons c name ih =>
    obtain ⟨hc, hname⟩ := List.forall_mem_cons.1 h
    rw [List.foldl_cons, Hint.step, if_pos hc, ih hname]

/-! ## Plain tags -/

/-- The source of a tag, without its brackets: a name, a blank behind it, and no bracket. -/
def IsPlainTag (w : List Char) : Prop :=
  '>' ∉ w ∧ ∃ c name blank body, w = c :: name ++ blank :: body ∧ beginsName c = true ∧
    (∀ d ∈ name, continuesName d = true) ∧ isSpace blank = true

/-- What ends the name of a tag in HTML is no part of it for the hint. -/
theorem not_name_of_ends {c : Char} (h : isSpace c = true ∨ c = '/') :
    beginsName c = false ∧ continuesName c = false := by
  have hall : ∀ c ∈ [' ', '\t', '\n', '\x0c', '\r', '/'],
      beginsName c = false ∧ continuesName c = false := by decide
  refine hall c ?_
  simp only [isSpace, Bool.or_eq_true, decide_eq_true_eq] at h
  simpa [or_assoc] using h

/-- Behind the name of a plain tag, the hint looks for the key. -/
theorem foldl_step_plainName {c blank : Char} {name : List Char} (hc : beginsName c = true)
    (hname : ∀ d ∈ name, continuesName d = true) (hblank : isSpace blank = true)
    (hbracket : '>' ∉ c :: name ++ [blank]) (hint : Hint) :
    ('<' :: (c :: name ++ [blank])).foldl Hint.step hint = .attributes false := by
  have hword : isWordChar blank = false := Html.isWordChar_eq_false (.inl hblank)
  rw [List.foldl_cons]
  rcases step_bracket hint with h | h
  · have hblank' : Hint.step .name blank = .attributes false := by
      rw [Hint.step, (not_name_of_ends (.inl hblank)).2, isBlank_of_isSpace hblank]
      rfl
    rw [h, List.cons_append, List.foldl_cons, Hint.step, if_pos hc, List.foldl_append,
      foldl_step_name hname, List.foldl_cons, hblank', List.foldl_nil]
  · simp only [List.mem_append, not_or] at hbracket
    obtain ⟨inWord, hfold⟩ := foldl_step_attributes hbracket.1 false
    have hne : blank ≠ '>' := fun heq => hbracket.2 (heq ▸ List.mem_cons_self)
    rw [h, List.foldl_append, hfold, List.foldl_cons, Hint.step, if_neg hne, hword, List.foldl_nil]

/-- The front of a plain tag, up to where a key may begin, goes on behind the name. -/
theorem exists_of_leads {c blank : Char} {name body x rest : List Char} (hc : beginsName c = true)
    (hname : ∀ d ∈ name, continuesName d = true)
    (hw : c :: name ++ blank :: body = x ++ rest) (hx : Leads x) :
    ∃ z, x = c :: name ++ [blank] ++ z := by
  obtain ⟨⟨d, hd, hends⟩, -⟩ := hx
  have hout : d ∉ c :: name := by
    obtain ⟨hbegins, hcontinues⟩ := not_name_of_ends hends
    intro hmem
    rcases List.mem_cons.1 hmem with rfl | hmem
    · rw [hc] at hbegins
      cases hbegins
    · rw [hname d hmem] at hcontinues
      cases hcontinues
  rcases List.append_eq_append_iff.1 hw with ⟨t, rfl, ht⟩ | ⟨t, ht, -⟩
  · cases t with
    | nil =>
      rw [List.append_nil] at hd
      exact absurd hd hout
    | cons e t =>
      obtain ⟨rfl, -⟩ := List.cons.inj ht
      exact ⟨t, by simp⟩
  · exact absurd (ht ▸ List.mem_append_left t hd) hout

theorem isFunctionKey_of_nameOf {key blanks : List Char}
    (hkey : Html.nameOf key.reverse = "function") (hblanks : ∀ c ∈ blanks, isSpace c = true)
    (rest : List Char) : isFunctionKey (key ++ (blanks ++ '=' :: rest)) = true := by
  have hlower : (Html.replaceNul key).map Char.toLower = "function".toList := by
    have htext := congrArg String.toList hkey
    rwa [Html.nameOf, List.reverse_reverse, String.toList_ofList] at htext
  have hnul : Html.replaceNul key = key := by
    refine (List.map_congr_left fun c hc => if_neg ?_).trans key.map_id
    rintro rfl
    have hmem : Char.toLower Html.replacement ∈ "function".toList :=
      hlower ▸ List.mem_map_of_mem (List.mem_map.2 ⟨'\x00', hc, rfl⟩)
    exact absurd hmem (by decide)
  rw [hnul] at hlower
  have hlength : "function".toList.length = key.length := by
    rw [← hlower, List.length_map]
  have hall : ∀ c ∈ blanks, isBlank c = true := fun c hc => isBlank_of_isSpace (hblanks c hc)
  simp only [isFunctionKey, Text.startsIgnoringCase, Text.eqIgnoringCase, hlength, List.take_left,
    List.drop_left, hlower, List.dropWhile_append_of_pos hall]
  rfl

/-- **A plain tag with a function is a hint**, wherever it stands. -/
theorem isHintedFrom_of_isPlainTag {w : List Char} (hplain : IsPlainTag w)
    (hw : Assigns "function" w) (hint : Hint) (rest : List Char) :
    isHintedFrom hint ('<' :: (w ++ rest)) = true := by
  obtain ⟨hbracket, c, name, blank, body, hsource, hc, hname, hblank⟩ := hplain
  obtain ⟨x, key, blanks, value, rfl, hx, hkey, hblanks⟩ := hw
  obtain ⟨z, rfl⟩ := exists_of_leads hc hname hsource.symm hx
  simp only [List.mem_append, not_or] at hbracket
  obtain ⟨⟨⟨hfront, hend⟩, hz⟩, -⟩ := hbracket
  have hfront : ('<' :: (c :: name ++ [blank])).foldl Hint.step hint = .attributes false :=
    foldl_step_plainName hc hname hblank (fun h => (List.mem_append.1 h).elim hfront hend) hint
  have hstate : ('<' :: (c :: name ++ [blank] ++ z)).foldl Hint.step hint = .attributes false := by
    obtain ⟨-, y, e, hy, hword⟩ := hx
    rw [← List.cons_append, List.foldl_append, hfront]
    rcases List.eq_nil_or_concat z with rfl | ⟨z, d, rfl⟩
    · rfl
    · rw [List.concat_eq_append, ← List.append_assoc] at hy
      obtain ⟨-, hlast⟩ := List.append_inj' hy rfl
      obtain rfl : d = e := (List.cons.inj hlast).1
      rw [List.concat_eq_append, List.mem_append, not_or] at hz
      obtain ⟨inWord, hfold⟩ := foldl_step_attributes hz.1 false
      have hne : d ≠ '>' := fun heq => hz.2 (heq ▸ List.mem_cons_self)
      rw [List.concat_eq_append, List.foldl_append, hfold, List.foldl_cons, Hint.step, if_neg hne,
        hword, List.foldl_nil]
  have hfound : isHintedFrom hint ('<' :: (c :: name ++ [blank] ++ z) ++
      (key ++ (blanks ++ '=' :: (value ++ rest)))) = true := by
    refine isHintedFrom_of_foldl ?_
    rw [hstate]
    exact isHintedFrom_of_isFunctionKey (isFunctionKey_of_nameOf hkey hblanks _)
  simpa using hfound

/-! ## Line ends -/

theorem isFunctionKey_of_unifies {s t : List Char} (h : Html.Unifies s t)
    (hkey : isFunctionKey t = true) : isFunctionKey s = true := by
  simp only [isFunctionKey, Bool.and_eq_true, decide_eq_true_eq] at hkey ⊢
  obtain ⟨hstart, hbehind⟩ := h.startsIgnoringCase (by decide) hkey.1
  exact ⟨hstart, hbehind.head_dropWhile hkey.2⟩

theorem isFunctionKey_line (s : List Char) : isFunctionKey ('\n' :: s) = false := by
  have hline : Text.startsIgnoringCase "function".toList ('\n' :: s) ≠ true := fun h =>
    absurd (Html.startsIgnoringCase_cons_iff.1 h).1 (by decide)
  rw [isFunctionKey, Bool.eq_false_iff.2 hline]
  rfl

theorem isHintedFrom_of_unifies {s t : List Char} (h : Html.Unifies s t) {hint : Hint}
    (ht : isHintedFrom hint t = true) : isHintedFrom hint s = true := by
  have hcarriage : isWordChar '\r' = false := Html.isWordChar_eq_false (.inl rfl)
  have hfeed : isWordChar '\n' = false := Html.isWordChar_eq_false (.inl rfl)
  induction h generalizing hint with
  | nil => exact ht
  | @cons c s t h ih =>
    simp only [isHintedFrom, Bool.or_eq_true, Bool.and_eq_true] at ht ⊢
    exact ht.imp (.imp_right (isFunctionKey_of_unifies (.cons c h))) ih
  | @carriage s t _ ih =>
    have hstep : hint.step '\r' = hint.step '\n' := by
      cases hint with
      | attributes inWord => exact congrArg Hint.attributes (hcarriage.trans hfeed.symm)
      | _ => decide
    rw [isHintedFrom, isFunctionKey_line, Bool.and_false, Bool.false_or, ← hstep] at ht
    rw [isHintedFrom, ih ht, Bool.or_true]
  | @both s t _ ih =>
    have hstep : (hint.step '\r').step '\n' = hint.step '\n' := by
      cases hint with
      | attributes inWord => rfl
      | _ => decide
    rw [isHintedFrom, isFunctionKey_line, Bool.and_false, Bool.false_or, ← hstep] at ht
    rw [isHintedFrom, isHintedFrom, ih ht, Bool.or_true, Bool.or_true]

theorem isHinted_of_normalize {text : String}
    (h : isHintedFrom .nothing (Html.normalize text.toList) = true) : isHinted text = true := by
  rw [isHinted]
  rw [Html.normalize] at h
  have hread := isHintedFrom_of_unifies (Html.unifies_unifyLines _) h
  split at hread
  · next hmark =>
    obtain ⟨rest, hrest⟩ := List.head?_eq_some_iff.1 hmark
    rw [hrest]
    rw [hrest] at hread
    exact hread
  · exact hread

/-! ## The hint and the call -/

theorem exists_attribute_of_callSite? {text : String} (h : (Html.callSite? text).isSome = true) :
    ∃ e ∈ (Html.Forest.ofFragment text).elements, ∃ value,
      ("function", value) ∈ e.attributes ∧ value ≠ "" := by
  obtain ⟨site, hsite⟩ := Option.isSome_iff_exists.1 h
  simp only [Html.callSite?, Option.bind_eq_bind, Option.bind_eq_some_iff] at hsite
  obtain ⟨node, -, e, he, value, hvalue, hroutine⟩ := hsite
  rw [Html.Forest.attribute?, he, Option.bind_some, List.lookup_eq_some_iff] at hvalue
  obtain ⟨front, behind, hattributes, -⟩ := hvalue
  refine ⟨e, Array.mem_of_getElem? he, value, ?_, ?_⟩
  · rw [hattributes]
    exact List.mem_append_right front List.mem_cons_self
  · rintro rfl
    exact absurd hroutine (by simp [show (trimBlanks "").isEmpty = true by decide])

/-- A text in which every tag with a function is plain is hinted if an element calls. -/
theorem isHinted_of_callSite? {text : String}
    (h : ∀ u tag n, '<' :: u <:+ Html.normalize text.toList → Html.readTag u = some (tag, n) →
      (tag.attributes.lookup "function").isSome = true → IsPlainTag (u.take (n - 1)))
    (hsome : (Html.callSite? text).isSome = true) : isHinted text = true := by
  obtain ⟨e, he, value, hvalue, hne⟩ := exists_attribute_of_callSite? hsome
  by_contra hnot
  -- Otherwise no start tag of the text has a value for the key.
  have hholds : (Html.Forest.ofFragment text).Holds fun a => ¬ (a.1 = "function" ∧ a.2 ≠ "") := by
    refine Html.holds_ofFragment fun u tag n hu htag a ha => ?_
    rintro ⟨hname, hne⟩
    obtain ⟨v, rest, rfl, rfl, hsource⟩ := Html.exists_source_of_readTag htag
    have hassigns : Assigns "function" v := hname ▸ hsource a ha hne
    have hkey : (tag.attributes.lookup "function").isSome = true := by
      rw [Option.isSome_iff_ne_none, Ne, List.lookup_eq_none_iff]
      exact fun hall => absurd (hall a ha) (by simp [hname])
    have hplain : IsPlainTag v := by simpa using h _ _ _ hu htag hkey
    obtain ⟨before, hbefore⟩ := hu
    refine hnot (isHinted_of_normalize ?_)
    rw [← hbefore]
    exact isHintedFrom_of_foldl (isHintedFrom_of_isPlainTag hplain hassigns _ _)
  exact hholds e he _ hvalue ⟨rfl, hne⟩

theorem site?_of_hinted {text : String}
    (h : (Html.callSite? text).isSome = true → isHinted text = true) :
    site? text = Html.callSite? text := by
  rw [site?]
  split
  · rfl
  · next hnot =>
    rw [eq_comm, ← Option.not_isSome_iff_eq_none]
    exact fun hsome => hnot (h hsome)

/-- **Where the tags with a function are plain**, the hint decides nothing: the text is hinted if an
element calls, and its calls are those that are found by always reading it as HTML. -/
theorem dispatch_eq_dispatchWith_callSite? {text : String}
    (h : ∀ u tag n, '<' :: u <:+ Html.normalize text.toList → Html.readTag u = some (tag, n) →
      (tag.attributes.lookup "function").isSome = true → IsPlainTag (u.take (n - 1))) :
    ((Html.callSite? text).isSome = true → isHinted text = true) ∧
      site? text = Html.callSite? text ∧
      ∀ call, Interpreter.dispatch call text =
        Interpreter.dispatchWith Html.callSite? call text := by
  have hsite : site? text = Html.callSite? text := site?_of_hinted (isHinted_of_callSite? h)
  refine ⟨isHinted_of_callSite? h, hsite, fun call => ?_⟩
  simp only [Interpreter.dispatch, Interpreter.dispatchWith, hsite]

/-- A tag with capital letters, in which blanks stand around the equals sign. -/
def capitalText : String := "a > b <URL id=1 FUNCTION = 'F'>x</URL>"

theorem dispatch_capitalText :
    site? capitalText = some ⟨"url", "F", "x"⟩ ∧
      ∀ call, Interpreter.dispatch call capitalText =
        Interpreter.dispatchWith Html.callSite? call capitalText := by
  have hplain : ∀ u tag n, '<' :: u <:+ Html.normalize capitalText.toList →
      Html.readTag u = some (tag, n) → (tag.attributes.lookup "function").isSome = true →
      IsPlainTag (u.take (n - 1)) := by
    intro u tag n hu htag hkey
    have hnormal : Html.normalize capitalText.toList = capitalText.toList := by decide
    rw [hnormal, capitalText] at hu
    simp [List.suffix_cons_iff] at hu
    rcases hu with rfl | rfl
    · cases htag
      refine ⟨by decide, 'U', ['R', 'L'], ' ', "id=1 FUNCTION = 'F'".toList, rfl, by decide, ?_, rfl⟩
      decide
    · cases htag
      cases hkey
  obtain ⟨-, hsite, hdispatch⟩ := dispatch_eq_dispatchWith_callSite? hplain
  rw [hsite]
  exact ⟨by decide, hdispatch⟩

/-- **A slash behind the name** hides the key from the hint. -/
theorem site?_slashed :
    Html.callSite? "<url/function=\"F\">x</url>" = some ⟨"url", "F", "x"⟩ ∧
      site? "<url/function=\"F\">x</url>" = none := by
  refine ⟨by decide, by decide⟩

end MediaScraper.Call
