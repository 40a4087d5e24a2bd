import MediaScraper.Proofs.Xml.Section

/-!
# What each event is

The event at the beginning of a text is written by a part of the text (`EventText`), and it is the
same before any rest (`event_append`). There is no other event (`exists_eventText`), so a text that is
followed to its end is a sequence of such parts (`inEvents_of_followFrom`).
-/

namespace MediaScraper.Xml

def instruction (body : List Char) : List Char := '<' :: '?' :: (body ++ "?>".toList)

def doctype (body : List Char) : List Char := '<' :: '!' :: (body ++ ['>'])

/-- The next `>` ends a tag with this between its brackets. -/
def IsTagBody (body : List Char) : Prop :=
  ∀ rest, tagBody? none [] (body ++ '>' :: rest) = some body

/-- The next `>` ends a document type with this behind `<!`. -/
structure IsDoctypeBody (body : List Char) : Prop where
  head : body.head? = some 'D' ∨ body.head? = some 'd'
  ends : ∀ rest, doctypeBody? 0 [] (body ++ '>' :: rest) = some body
  keyword : Text.startsIgnoringCase "DOCTYPE".toList body = true
  named : (body.drop 7).all isSpace = false

/-- `EventText e w`: the text `w` is the event. -/
inductive EventText : Event → List Char → Prop
  | text {raw : List Char} : raw ≠ [] → '<' ∉ raw → EventText (.text raw) raw
  | cdata {content : List Char} : ¬ "]]>".toList <:+: content →
      EventText (.cdata content) (cdataSection content)
  | comment {note : List Char} : ¬ "-->".toList <:+: note → EventText .other (comment note)
  | instruction {body : List Char} : ¬ "?>".toList <:+: '?' :: body →
      EventText .other (instruction body)
  | doctype {body : List Char} : IsDoctypeBody body → EventText .other (doctype body)
  | closing {name : List Char} : IsTagBody ('/' :: name) →
      EventText (.closing (endName name)) ('<' :: ('/' :: name ++ ['>']))
  | tag {body : List Char} : (∀ c ∈ body.head?, c ≠ '!' ∧ c ≠ '?' ∧ c ≠ '/') → IsTagBody body →
      EventText (tagEvent body) ('<' :: (body ++ ['>']))

theorem EventText.ne_nil {e : Event} {w : List Char} (h : EventText e w) : w ≠ [] := by
  cases h with
  | text hne _ => exact hne
  | _ => exact List.cons_ne_nil _ _

/-! ## Events of texts -/

theorem event_instruction {body : List Char} (h : ¬ "?>".toList <:+: '?' :: body)
    (rest : List Char) :
    event (instruction body ++ rest) = .ok (.other, (instruction body).length) := by
  have hbreak : Text.breakAt? "?>".toList ('?' :: body ++ "?>".toList ++ rest) =
      some ('?' :: body, rest) := Text.breakAt?_of_not_infix ['?'] (by decide) h rest
  have htext : instruction body ++ rest = '<' :: ('?' :: body ++ "?>".toList ++ rest) := by
    simp [instruction]
  rw [htext, event, if_pos rfl, List.cons_append, List.cons_append, markup]
  simp only [← List.cons_append]
  rw [hbreak]
  simp [instruction]

theorem event_doctype {body : List Char} (h : IsDoctypeBody body) (rest : List Char) :
    event (doctype body ++ rest) = .ok (.other, (doctype body).length) := by
  have hends := h.ends rest
  have htext : doctype body ++ rest = '<' :: '!' :: (body ++ '>' :: rest) := by simp [doctype]
  rw [htext, event, if_pos rfl, markup, declaration.eq_def]
  obtain ⟨more, rfl | rfl⟩ : ∃ more, body = 'D' :: more ∨ body = 'd' :: more := by
    rcases h.head with hhead | hhead <;> obtain ⟨more, rfl⟩ := List.head?_eq_some_iff.1 hhead
    · exact ⟨more, .inl rfl⟩
    · exact ⟨more, .inr rfl⟩
  all_goals
    simp only [List.cons_append] at hends ⊢
    simp only [hends, h.keyword, h.named]
    simp [doctype]

theorem event_closing {name : List Char} (h : IsTagBody ('/' :: name)) (rest : List Char) :
    event ('<' :: ('/' :: name ++ ['>']) ++ rest) =
      .ok (.closing (endName name), ('<' :: ('/' :: name ++ ['>'])).length) := by
  have hbody := h rest
  rw [List.cons_append] at hbody
  rw [List.cons_append, List.append_assoc, List.cons_append, List.singleton_append, event,
    if_pos rfl, markup, hbody]
  · simp
  · rintro _ ⟨⟩
  · rintro _ ⟨⟩

/-- **An event is the same before any rest**, but text goes on up to the next bracket. -/
theorem event_append {e : Event} {w rest : List Char} (h : EventText e w)
    (hrest : ∀ raw, e = .text raw → ∀ c ∈ rest.head?, c = '<') :
    event (w ++ rest) = .ok (e, w.length) := by
  cases h with
  | text hne hraw => exact event_text hne hraw (hrest _ rfl)
  | cdata h => exact event_cdataSection h rest
  | comment h => exact event_comment h rest
  | instruction h => exact event_instruction h rest
  | doctype h => exact event_doctype h rest
  | closing h => exact event_closing h rest
  | @tag body hhead h =>
    have he := event_of_tagBody? hhead (h rest)
    simpa using he

/-! ## Texts of events -/

theorem tagBody?_eq_some {quote : Option Char} {before s body : List Char}
    (h : tagBody? quote before s = some body) :
    ∃ b rest, s = b ++ '>' :: rest ∧ body = before.reverse ++ b ∧
      ∀ before' rest', tagBody? quote before' (b ++ '>' :: rest') =
        some (before'.reverse ++ b) := by
  induction s generalizing quote before with
  | nil => cases h
  | cons c s ih =>
    cases quote with
    | some q =>
      rw [tagBody?] at h
      obtain ⟨b, rest, rfl, rfl, hb⟩ := ih h
      refine ⟨c :: b, rest, rfl, by simp, fun before' rest' => ?_⟩
      rw [List.cons_append, tagBody?, hb]
      simp
    | none =>
      rw [tagBody?] at h
      split at h
      · next hc =>
        subst hc
        cases h
        refine ⟨[], s, rfl, by simp, fun before' rest' => ?_⟩
        simp [tagBody?]
      · next hc =>
        obtain ⟨b, rest, rfl, rfl, hb⟩ := ih h
        refine ⟨c :: b, rest, rfl, by simp, fun before' rest' => ?_⟩
        rw [List.cons_append, tagBody?]
        simp only [hc, if_false, hb]
        simp

theorem doctypeBody?_eq_some {depth : Nat} {before s body : List Char}
    (h : doctypeBody? depth before s = some body) :
    ∃ b rest, s = b ++ '>' :: rest ∧ body = before.reverse ++ b ∧
      ∀ before' rest', doctypeBody? depth before' (b ++ '>' :: rest') =
        some (before'.reverse ++ b) := by
  induction s generalizing depth before with
  | nil => cases h
  | cons c s ih =>
    by_cases hopen : c = '<'
    · subst hopen
      rw [doctypeBody?] at h
      obtain ⟨b, rest, rfl, rfl, hb⟩ := ih h
      refine ⟨'<' :: b, rest, rfl, by simp, fun before' rest' => ?_⟩
      rw [List.cons_append, doctypeBody?, hb]
      simp
    · by_cases hclose : c = '>'
      · subst hclose
        cases depth with
        | zero =>
          cases h
          refine ⟨[], s, rfl, by simp, fun before' rest' => ?_⟩
          simp [doctypeBody?]
        | succ depth =>
          obtain ⟨b, rest, rfl, rfl, hb⟩ := ih h
          refine ⟨'>' :: b, rest, rfl, by simp, fun before' rest' => ?_⟩
          rw [List.cons_append, doctypeBody?, hb]
          simp
      · rw [doctypeBody?] at h
        · obtain ⟨b, rest, rfl, rfl, hb⟩ := ih h
          refine ⟨c :: b, rest, rfl, by simp, fun before' rest' => ?_⟩
          rw [List.cons_append, doctypeBody?, hb]
          · simp
          · exact hopen
          · exact hclose
        · exact hopen
        · exact hclose

theorem exists_of_doctypeBody? {cs body : List Char} (h : doctypeBody? 0 [] cs = some body)
    (hhead : cs.head? = some 'D' ∨ cs.head? = some 'd')
    (hkeyword : Text.startsIgnoringCase "DOCTYPE".toList body = true)
    (hnamed : (body.drop 7).all isSpace = false) :
    ∃ rest, '<' :: '!' :: cs = doctype body ++ rest ∧ IsDoctypeBody body := by
  obtain ⟨_, rest, rfl, rfl, hends⟩ := doctypeBody?_eq_some h
  refine ⟨rest, by simp [doctype], ?_, hends [], hkeyword, hnamed⟩
  cases body with
  | nil => simp at hhead
  | cons c body => exact hhead

/-- A stretch between an opener and a closer that does not stand in it. -/
theorem of_breakAt?_opener {opener closer cs content rest : List Char} (hne : closer ≠ [])
    (h : (opener.isPrefixOf? cs).bind (Text.breakAt? closer) = some (content, rest)) :
    cs = opener ++ (content ++ closer ++ rest) ∧ ¬ closer <:+: content := by
  obtain ⟨tail, hopen, hbreak⟩ := Option.bind_eq_some_iff.1 h
  obtain ⟨rfl, -⟩ := (Text.breakAt?_eq_some_iff hne).1 hbreak
  exact ⟨(List.isPrefixOf?_eq_some_iff_append_eq.1 hopen).symm,
    Text.not_infix_of_breakAt? hne hbreak⟩

theorem exists_of_declaration {cs : List Char} {e : Event} {n : Nat}
    (h : declaration cs = .ok (e, n)) :
    ∃ w rest, '<' :: '!' :: cs = w ++ rest ∧ n = w.length ∧ EventText e w ∧
      ∀ raw, e ≠ .text raw := by
  unfold declaration at h
  split at h
  · split at h
    · next note rest hbreak =>
      cases h
      obtain ⟨hcs, hnote⟩ := of_breakAt?_opener (by decide) hbreak
      exact ⟨comment note, rest, by simp [hcs, comment], by simp [comment], .comment hnote, by simp⟩
    · cases h
  · split at h
    · next content rest hbreak =>
      cases h
      obtain ⟨hcs, hcontent⟩ := of_breakAt?_opener (by decide) hbreak
      exact ⟨cdataSection content, rest, by simp [hcs, cdataSection], by simp [cdataSection],
        .cdata hcontent, by simp⟩
    · cases h
  iterate 2
    · split at h
      · cases h
      · next body hbody =>
        split at h
        · next hkeyword =>
          split at h
          · cases h
          · next hnamed =>
            cases h
            obtain ⟨rest, htext, hdoctype⟩ :=
              exists_of_doctypeBody? hbody (by simp) hkeyword (Bool.not_eq_true _ ▸ hnamed)
            exact ⟨doctype body, rest, htext, by simp [doctype], .doctype hdoctype, by simp⟩
        · cases h
  · cases h

theorem exists_of_markup {cs : List Char} {e : Event} {n : Nat} (h : markup cs = .ok (e, n)) :
    ∃ w rest, '<' :: cs = w ++ rest ∧ n = w.length ∧ EventText e w ∧ ∀ raw, e ≠ .text raw := by
  unfold markup at h
  split at h
  · exact exists_of_declaration h
  · split at h
    · next c body rest hbreak =>
      cases h
      obtain ⟨htext, -⟩ := (Text.breakAt?_eq_some_iff (by decide)).1 hbreak
      obtain ⟨rfl, rfl⟩ := List.cons.inj htext
      refine ⟨instruction body, rest, by simp [instruction], by simp [instruction],
        .instruction ?_, by simp⟩
      exact Text.not_infix_of_breakAt? (by decide) hbreak
    · cases h
  · next hbang hquestion =>
    split at h
    · cases h
    · next body hbody =>
      obtain ⟨_, rest, rfl, rfl, hends⟩ := tagBody?_eq_some hbody
      split at h
      · next name =>
        cases h
        exact ⟨_, rest, by simp, by simp, .closing (hends []), by simp⟩
      · next hslash =>
        have htag : e = tagEvent body ∧ n = body.length + 2 := by
          rw [tagEvent]
          split at h <;> cases h <;> simp [*]
        obtain ⟨rfl, rfl⟩ := htag
        refine ⟨'<' :: (body ++ ['>']), rest, by simp, by simp, .tag ?_ (hends []), ?_⟩
        · intro c hc
          obtain ⟨more, rfl⟩ := List.head?_eq_some_iff.1 hc
          exact ⟨fun heq => hbang _ (by rw [heq]; rfl), fun heq => hquestion _ (by rw [heq]; rfl),
            fun heq => hslash _ (by rw [heq])⟩
        · intro raw
          rw [tagEvent]
          split <;> simp

/-- **Every event is written by the beginning of its text.** -/
theorem exists_eventText {s : List Char} (hs : s ≠ []) {e : Event} {n : Nat}
    (h : event s = .ok (e, n)) :
    ∃ w rest, s = w ++ rest ∧ n = w.length ∧ EventText e w ∧
      ∀ raw, e = .text raw → ∀ c ∈ rest.head?, c = '<' := by
  cases s with
  | nil => exact absurd rfl hs
  | cons c s =>
    rw [event] at h
    split at h
    · next hc =>
      subst hc
      obtain ⟨w, rest, hw, hn, he, hraw⟩ := exists_of_markup h
      exact ⟨w, rest, hw, hn, he, fun raw heq => absurd heq (hraw raw)⟩
    · next hc =>
      generalize hstretch : s.takeWhile (· ≠ '<') = stretch at h
      obtain ⟨rest, rfl, hall, hrest⟩ := exists_of_takeWhile_eq hstretch
      cases h
      refine ⟨c :: stretch, rest, rfl, rfl, .text (List.cons_ne_nil _ _) ?_, fun _ _ d hd => ?_⟩
      · refine List.not_mem_cons_of_ne_of_not_mem (Ne.symm hc) fun hmem => ?_
        simpa using hall _ hmem
      · simpa using hrest d hd

/-! ## Sequences of events -/

/-- The text is one event after the other, up to its end. -/
inductive InEvents : List Char → Prop
  | nil : InEvents []
  | cons {e : Event} {w rest : List Char} : EventText e w →
      (∀ raw, e = .text raw → ∀ c ∈ rest.head?, c = '<') → InEvents rest → InEvents (w ++ rest)

/-- **A text that is followed to its end is a sequence of events.** -/
theorem inEvents_of_followFrom {σ : Type} {step : σ → Event → Except Failure σ} {s : List Char}
    {opened : List (List Char)} {state last : σ}
    (h : followFrom step opened state s = .ok last) : InEvents s := by
  induction hn : s.length using Nat.strongRecOn generalizing s opened state with
  | ind n ih =>
    subst hn
    by_cases hs : s = []
    · subst hs
      exact .nil
    · obtain ⟨e, n, hevent⟩ := exists_event_of_followFrom step hs h
      obtain ⟨w, rest, rfl, rfl, htext, hrest⟩ := exists_eventText hs hevent
      obtain ⟨opened', next, -, -, hfollow⟩ := exists_of_followFrom step htext.ne_nil hevent h
      have hlt : rest.length < (w ++ rest).length := by
        rw [List.length_append]
        exact Nat.lt_add_of_pos_left (List.length_pos_iff.2 htext.ne_nil)
      exact .cons htext hrest (ih _ hlt hfollow rfl)

end MediaScraper.Xml
