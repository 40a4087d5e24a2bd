import MediaScraper.Proofs.Interpreter.Marker

/-!
# What a marker asks for

A marker holds two things that come from a page: the text that asked for the call, which is escaped,
and in the wording of the failure perhaps the name of a routine, which is not.

**Chains.** The search for a chain passes over the front of a marker, and no chain ends in the tags
behind the wording (`Call.isSome_chainFrom?_append_markerEnd`).

**Hints.** The search for an element that calls comes to the wording with nothing seen, and no key
stands in the tags behind it (`Call.isHintedFrom_append_markerEnd`).

So a marker asks for a call just if it has a name in it that does (`asks_marker_iff`); any other
marker is written as it is (`dispatch_marker`). Names come from attributes, where references stand
for markup, so there are names that ask for a call (`calls_quoted`).
-/

namespace MediaScraper

namespace Call

/-! ## Chains in markers -/

/-- The tags behind the wording of a marker. -/
def markerEnd : List Char := "</msg></error>\n".toList

theorem chainFrom?_cons_of_not_prefix {c : Char} {cs : List Char} (h : ¬ chainStart <+: c :: cs) :
    chainFrom? (c :: cs) = chainFrom? cs := by
  rw [chainFrom?, Text.isPrefixOf?_eq_none h]
  rfl

theorem chainFrom?_plain {w : List Char} (hw : '<' ∉ w) (rest : List Char) :
    chainFrom? (w ++ rest) = chainFrom? rest := by
  induction w with
  | nil => rfl
  | cons c w ih =>
    obtain ⟨hc, hw⟩ := List.ne_and_not_mem_of_not_mem_cons hw
    rw [List.cons_append, chainFrom?_cons_of_not_prefix, ih hw]
    exact fun hprefix => hc (List.cons_prefix_cons.1 hprefix).1

theorem chainFrom?_tag {d : Char} (hd : d ≠ 'c') {w : List Char} (hw : '<' ∉ d :: w)
    (rest : List Char) : chainFrom? ('<' :: d :: w ++ rest) = chainFrom? rest := by
  rw [List.cons_append, chainFrom?_cons_of_not_prefix, chainFrom?_plain hw]
  intro hprefix
  exact hd (List.cons_prefix_cons.1 (List.cons_prefix_cons.1 hprefix).2).1.symm

/-- What ends a chain before the end of a marker stands before it in one piece. -/
theorem exists_of_append_markerEnd {s u y : List Char} (h : s ++ markerEnd = u ++ chainEnd ++ y) :
    ∃ y', s = u ++ chainEnd ++ y' := by
  rcases List.append_eq_append_iff.1 h with ⟨t, hu, hend⟩ | ⟨y', hs, -⟩
  · -- The chain ends behind `s`: its last tag reaches over from `s`, or all of it is behind `s`.
    have hlaps : ∀ t ∈ markerEnd.inits, t ≠ [] → ¬ t <:+ chainEnd ∧ ¬ chainEnd <:+ t := by decide
    have ht : t ∈ markerEnd.inits := (List.mem_inits _ _).2 ⟨y, hend.symm⟩
    by_cases hnil : t = []
    · exact ⟨[], by rw [List.append_nil, hu, hnil, List.append_nil]⟩
    · have hboth : t <:+ u ++ chainEnd := hu ▸ List.suffix_append s t
      rcases List.suffix_or_suffix_of_suffix hboth (List.suffix_append u chainEnd) with hlap | hlap
      · exact absurd hlap (hlaps t ht hnil).1
      · exact absurd hlap (hlaps t ht hnil).2
  · exact ⟨y', hs⟩

theorem isSome_chainFrom?_append_markerEnd (s : List Char) :
    (chainFrom? (s ++ markerEnd)).isSome ↔ (chainFrom? s).isSome := by
  rw [isSome_chainFrom?_iff, isSome_chainFrom?_iff]
  constructor
  · rintro ⟨before, name, behind, htext, hquote, x, y, rfl⟩
    obtain ⟨y', hs⟩ := exists_of_append_markerEnd (s := s) (y := y)
      (u := before ++ chainStart ++ (name ++ nameEnd ++ x)) (by simpa using htext)
    exact ⟨before, name, x ++ chainEnd ++ y', by simpa using hs, hquote, x, y', rfl⟩
  · rintro ⟨before, name, behind, rfl, hquote, hend⟩
    exact ⟨before, name, behind ++ markerEnd, by simp, hquote,
      hend.trans (List.prefix_append behind markerEnd).isInfix⟩

/-! ## Hints in markers -/

theorem isFunctionKey_append_bracket (s rest : List Char) :
    isFunctionKey (s ++ '<' :: rest) = isFunctionKey s := by
  have hlength : "function".toList.length = 8 := rfl
  rcases Nat.lt_or_ge s.length 8 with hlt | hge
  · have hshort : Text.startsIgnoringCase "function".toList s = false := by
      refine beq_false_of_ne fun heq => ?_
      have := congrArg List.length heq
      simp only [List.length_map, List.length_take, hlength] at this
      omega
    have hbracket : Text.startsIgnoringCase "function".toList (s ++ '<' :: rest) = false := by
      refine beq_false_of_ne fun heq => ?_
      have hmem : '<' ∈ ((s ++ '<' :: rest).take 8).map Char.toLower := by
        rw [List.take_append, List.map_append, List.mem_append]
        obtain ⟨n, hn⟩ : ∃ n, 8 - s.length = n + 1 := ⟨8 - s.length - 1, by omega⟩
        exact .inr (by rw [hn, List.take_succ_cons]; exact List.mem_cons_self)
      rw [← hlength, ← heq] at hmem
      exact absurd hmem (by decide)
    simp only [isFunctionKey, hshort, hbracket, Bool.false_and]
  · have hstart : Text.startsIgnoringCase "function".toList (s ++ '<' :: rest) =
        Text.startsIgnoringCase "function".toList s := by
      rw [Text.startsIgnoringCase, Text.startsIgnoringCase,
        List.take_append_of_le_length (by omega)]
    have hblank (t : List Char) : ((t ++ '<' :: rest).dropWhile isBlank).head? = some '=' ↔
        (t.dropWhile isBlank).head? = some '=' := by
      induction t with
      | nil => exact iff_of_false (by rintro ⟨⟩) (by rintro ⟨⟩)
      | cons c t ih =>
        rw [List.cons_append, List.dropWhile_cons, List.dropWhile_cons]
        split
        · exact ih
        · rfl
    rw [isFunctionKey, isFunctionKey]
    simp only [hstart, hlength, List.drop_append_of_le_length hge, hblank]

theorem isHintedFrom_append_markerEnd (hint : Hint) (s : List Char) :
    isHintedFrom hint (s ++ markerEnd) = isHintedFrom hint s := by
  induction s generalizing hint with
  | nil =>
    have hend := isHintedFrom_append (w := markerEnd) (by decide) hint []
    rw [List.append_nil] at hend
    rw [List.nil_append, hend]
    rfl
  | cons c s ih =>
    rw [List.cons_append, isHintedFrom, isHintedFrom, ih, ← List.cons_append]
    exact congrArg (fun key => decide (hint = .attributes false) && key || _)
      (isFunctionKey_append_bracket (c :: s) _)

end Call

/-! ## Markers -/

/-- What stands before the name of a routine that there is none of. -/
def wordingFront : List Char := "Invalid Function Name: ".toList

theorem toList_marker_unknownRoutine (text name : String) :
    ((CallFailure.unknownRoutine name).marker text).toList =
      "\n<error>".toList ++ (Entity.escape text.toList ++ ("\n<msg>".toList ++
        (wordingFront ++ (name.toList ++ Call.markerEnd)))) := by
  have hmessage : (CallFailure.unknownRoutine name).message.toList =
      wordingFront ++ name.toList := by
    unfold wordingFront
    exact String.toList_append
  rw [toList_marker, hmessage, List.append_assoc wordingFront]
  rfl

/-- **A name is the only part of a marker that can ask for a call.** -/
theorem asks_unknownRoutine_iff (text name : String) :
    Call.Asks ((CallFailure.unknownRoutine name).marker text) ↔ Call.Asks name := by
  have htext : '<' ∉ Entity.escape text.toList := fun hmem => (plain_escape _ _ hmem).1 rfl
  have hwording : '<' ∉ wordingFront := by decide
  have hhint : Call.isHinted ((CallFailure.unknownRoutine name).marker text) =
      Call.isHinted name := by
    have hmsg : "\n<msg>".toList.foldl Call.Hint.step .nothing = .nothing := by decide
    rw [Call.isHinted, toList_marker_unknownRoutine, Call.isHintedFrom_error,
      Call.isHintedFrom_plain htext, Call.isHintedFrom_append (by decide), hmsg,
      Call.isHintedFrom_plain hwording, Call.isHintedFrom_append_markerEnd, Call.isHinted]
  have hchain : (Call.chain? ((CallFailure.unknownRoutine name).marker text)).isSome ↔
      (Call.chain? name).isSome := by
    have herror (rest : List Char) :
        Call.chainFrom? ("\n<error>".toList ++ rest) = Call.chainFrom? rest :=
      (Call.chainFrom?_plain (w := ['\n']) (by decide) _).trans
        (Call.chainFrom?_tag (w := "rror>".toList) (by decide) (by decide) rest)
    have hmsg (rest : List Char) :
        Call.chainFrom? ("\n<msg>".toList ++ rest) = Call.chainFrom? rest :=
      (Call.chainFrom?_plain (w := ['\n']) (by decide) _).trans
        (Call.chainFrom?_tag (w := "sg>".toList) (by decide) (by decide) rest)
    rw [Call.chain?, Call.chain?, Option.isSome_map, Option.isSome_map,
      toList_marker_unknownRoutine, herror, Call.chainFrom?_plain htext, hmsg,
      Call.chainFrom?_plain hwording, Call.isSome_chainFrom?_append_markerEnd]
  rw [Call.Asks, Call.Asks, hhint, hchain]

theorem not_asks_marker {failure : CallFailure} (h : Plain failure.message.toList)
    (text : String) : ¬ Call.Asks (failure.marker text) := by
  intro hasks
  have hemptied : Emptied (failure.marker text).toList (String.ofList emptyMarker).toList := by
    have hmarker := Emptied.nil.marker (isMarker_marker h text)
    rwa [List.append_nil, List.append_nil, ← String.toList_ofList (l := emptyMarker)] at hmarker
  exact absurd (hemptied.asks hasks) (by unfold Call.Asks; decide)

/-- **A marker asks for a call** just if it has a name in it that does. -/
theorem asks_marker_iff (failure : CallFailure) (text : String) :
    Call.Asks (failure.marker text) ↔ ∃ name, failure = .unknownRoutine name ∧ Call.Asks name := by
  cases failure with
  | unknownRoutine name =>
    rw [asks_unknownRoutine_iff]
    exact ⟨fun h => ⟨name, rfl, h⟩, fun ⟨_, heq, h⟩ => by cases heq; exact h⟩
  | emptyName =>
    have hplain : Plain CallFailure.emptyName.message.toList := plain_message fun _ h => by cases h
    exact iff_of_false (not_asks_marker hplain text) fun ⟨_, h, _⟩ => by cases h
  | tooDeep limit =>
    have hplain : Plain (CallFailure.tooDeep limit).message.toList :=
      plain_message fun _ h => by cases h
    exact iff_of_false (not_asks_marker hplain text) fun ⟨_, h, _⟩ => by cases h

namespace Interpreter

/-- **Markers are inert**, unless the name in them asks for a call itself: a marker asks for nothing,
so it is written as it is, without a call. -/
theorem dispatch_marker (call : Caller) (text : String) {failure : CallFailure}
    (h : ∀ name, failure = .unknownRoutine name → ¬ Call.Asks name) :
    ¬ Call.Asks (failure.marker text) ∧
      dispatch call (failure.marker text) = pure (failure.marker text) := by
  have hquiet : ¬ Call.Asks (failure.marker text) := fun hasks =>
    let ⟨name, hname, hasks⟩ := (asks_marker_iff failure text).1 hasks
    h name hname hasks
  exact ⟨hquiet, dispatch_of_not_asks call hquiet⟩

/-- An interpreter of a scraper without routines. -/
def vacant : Interpreter := ⟨.empty "sample", .empty, .none⟩

/-- An element that asks for a routine whose name holds a tag. -/
def taggedText : String := "<url function=\"<b> function\">x</url>"

/-- Markup in a name does no harm as long as it asks for no call. -/
theorem dispatch_marker_taggedText :
    Call.site? taggedText = some ⟨"url", "<b> function", "x"⟩ ∧
      dispatch (vacant.answer 0 0)
          ((CallFailure.unknownRoutine "<b> function").marker taggedText) =
        pure ((CallFailure.unknownRoutine "<b> function").marker taggedText) := by
  have hquiet : ¬ Call.Asks "<b> function" := by
    unfold Call.Asks
    decide
  refine ⟨by decide, (dispatch_marker _ taggedText fun name hname => ?_).2⟩
  cases hname
  exact hquiet

/-! ## A name that is a chain -/

/-- An element that asks for a routine whose name is a chain, written with references. -/
def quotedText : String := "<a function=\"&lt;chain function=&quot;F&quot;&gt;x&lt;/chain&gt;\">y</a>"

theorem site?_quotedText :
    Call.site? quotedText = some ⟨"a", "<chain function=\"F\">x</chain>", "y"⟩ := by
  delta quotedText
  rw [Call.site?, Call.isHinted, Html.callSite?, Html.Forest.ofFragment, String.toList_ofList]
  decide +kernel

/-- **The name of a routine stands in a marker as it is read**: here the call fails, and its marker
holds the chain that the name is, so that the marker is not left alone. -/
theorem calls_quoted :
    Call.site? quotedText = some ⟨"a", "<chain function=\"F\">x</chain>", "y"⟩ ∧
      vacant.callee 0 "<chain function=\"F\">x</chain>" =
        .error (.unknownRoutine "<chain function=\"F\">x</chain>") ∧
      (dispatch (vacant.answer 0 0)
        ((CallFailure.unknownRoutine "<chain function=\"F\">x</chain>").marker quotedText)
        ⟨.empty, [], 0⟩).map (fun r => r.2.calls) =
      some [⟨0, "F", some (.unknownRoutine "F")⟩] := by
  have hsite : Call.site? ((CallFailure.unknownRoutine "<chain function=\"F\">x</chain>").marker
      quotedText) = none := by
    delta quotedText
    rw [Call.site?, Call.isHinted, Html.callSite?, Html.Forest.ofFragment, toList_marker,
      String.toList_ofList, String.toList_ofList]
    decide +kernel
  have hchain : Call.chain? ((CallFailure.unknownRoutine "<chain function=\"F\">x</chain>").marker
      quotedText) = some ("F", "x") := by
    delta quotedText
    rw [Call.chain?, toList_marker, String.toList_ofList, String.toList_ofList]
    decide
  have hcallee : vacant.callee 0 "F" = .error (.unknownRoutine "F") := rfl
  refine ⟨site?_quotedText, rfl, ?_⟩
  rw [dispatch_of_error hsite hchain hcallee 0 ⟨.empty, [], 0⟩]
  rfl

end Interpreter
end MediaScraper
