import MediaScraper.Proofs.Repair.Unbroken
import MediaScraper.Proofs.Xml.Attribute

/-!
# Unbroken texts in front of markup

Markup may follow an unbroken text (`Unbroken.append_markup`). What is mended holds no bracket but
its first character, so that a bracket behind a text plays no part in it. For split tags, each part
of the reader says which characters it has read, and that it reads them before any other text, too
(`exists_of_dropLetters?`, `exists_of_joint?`).
-/

namespace MediaScraper.Repair

open Xml SplitScript

variable {s t z : List Char}

theorem prefix_of_prefix_append {q : Char} {w : List Char} (hw : q ∉ w) (h : w <+: s ++ q :: t) :
    w <+: s := by
  obtain ⟨z, hz⟩ := h
  rcases List.append_eq_append_iff.1 hz with ⟨u, rfl, -⟩ | ⟨u, rfl, hu⟩
  · exact List.prefix_append w u
  · cases u with
    | nil => exact ⟨[], by simp⟩
    | cons c u =>
      obtain ⟨rfl, -⟩ := List.cons.inj hu
      exact absurd (List.mem_append_right s List.mem_cons_self) hw

/-! ## What is read of a split tag -/

theorem exists_of_dropLetters? {ls : List Char} (hls : ∀ l ∈ ls, isLetter l '<' = false)
    (h : dropLetters? ls s = some z) :
    ∃ w, s = w ++ z ∧ '<' ∉ w ∧ ∀ z', dropLetters? ls (w ++ z') = some z' := by
  induction ls generalizing s with
  | nil =>
    cases h
    exact ⟨[], rfl, List.not_mem_nil, fun _ => rfl⟩
  | cons l ls ih =>
    obtain ⟨hl, hls⟩ := List.forall_mem_cons.1 hls
    cases s with
    | nil => cases h
    | cons c s =>
      rw [SplitScript.dropLetters?] at h
      split at h
      · next hc =>
        obtain ⟨w, rfl, hw, hread⟩ := ih hls h
        refine ⟨c :: w, rfl, List.not_mem_cons_of_ne_of_not_mem ?_ hw, fun z' => ?_⟩
        · rintro rfl
          rw [hl] at hc
          cases hc
        · rw [List.cons_append, SplitScript.dropLetters?, if_pos hc, hread]
      · cases h

theorem of_span_eq {w : List Char} {c : Char} (h : s.span isBlank = (w, c :: z)) :
    s = w ++ c :: z ∧ (∀ d ∈ w, isBlank d = true) ∧ isBlank c = false :=
  (of_span h).imp_right fun h => h.imp_right fun hrest => hrest c rfl

theorem span_eq_of_forall {w : List Char} {c : Char} (hw : ∀ d ∈ w, isBlank d = true)
    (hc : isBlank c = false) (z : List Char) : (w ++ c :: z).span isBlank = (w, c :: z) :=
  span_stretch hw (by rintro d ⟨⟩; exact hc)

theorem exists_of_joint? {joint : List Char} (h : joint? s = some (joint, z)) :
    s = joint ++ z ∧ '<' ∉ joint ∧ ∀ z', joint? (joint ++ z') = some (joint, z') := by
  cases s with
  | nil => cases h
  | cons q cs =>
    obtain ⟨gap, more, gap', q', hgap, hgap', ⟨hq, hq'⟩, rfl⟩ := joint?_eq_some.1 h
    obtain ⟨rfl, hblank, -⟩ := of_span_eq hgap
    obtain ⟨rfl, hblank', hend⟩ := of_span_eq hgap'
    have hquote : ∀ c, isQuote c = true → c ≠ '<' := by
      rintro c hc rfl
      exact absurd hc (by decide)
    have hgaps : ∀ w : List Char, (∀ c ∈ w, isBlank c = true) → '<' ∉ w := fun w hw hmem =>
      absurd (hw _ hmem) (by decide)
    refine ⟨by simp, ?_, fun z' => ?_⟩
    · simp [(hquote q hq).symm, (hquote q' hq').symm, hgaps gap hblank, hgaps gap' hblank']
    · refine joint?_eq_some.2 ⟨gap, gap' ++ q' :: z', gap', q', ?_, ?_, ⟨hq, hq'⟩, rfl⟩
      · rw [← span_eq_of_forall hblank (by decide)]
        simp
      · exact span_eq_of_forall hblank' hend z'

/-- A split tag needs no bracket that comes behind. -/
theorem Splits.of_append (h : Splits (s ++ '<' :: t)) : Splits s := by
  obtain ⟨joint, z, hjoint, hrest⟩ := h
  obtain ⟨x, hx, hjoint⟩ := Option.bind_eq_some_iff.1 hjoint
  obtain ⟨u, hu, hubracket, hudrop⟩ := exists_of_dropLetters? (by decide) hx
  obtain ⟨rfl, hjbracket, hjread⟩ := exists_of_joint? hjoint
  obtain ⟨y, hy⟩ := Option.ne_none_iff_exists'.1 hrest
  obtain ⟨v, rfl, hvbracket, hvdrop⟩ := exists_of_dropLetters? (by decide) hy
  have hall : u ++ (joint ++ v) <+: s := by
    refine prefix_of_prefix_append (q := '<') (t := t) ?_ ⟨y, by simp [hu]⟩
    simp [hubracket, hjbracket, hvbracket]
  obtain ⟨z', rfl⟩ := hall
  refine ⟨joint, v ++ z', ?_, ?_⟩
  · rw [List.append_assoc, hudrop, List.append_assoc, Option.bind_some, hjread]
  · rw [hvdrop]
    exact Option.some_ne_none _

/-! ## Markup behind a text -/

theorem split?_append (hne : s ≠ []) (h : split? s = none) : split? (s ++ '<' :: t) = none := by
  obtain ⟨c, s, rfl⟩ := List.exists_cons_of_ne_nil hne
  by_cases hc : c = '<'
  · subst hc
    cases s with
    | nil =>
      -- two brackets one behind the other
      refine (split?_cons (by decide)).2 fun ⟨_, _, hjoint, _⟩ => ?_
      have hbracket : isLetter 's' '<' = false := by decide
      rw [dropLetters?, hbracket] at hjoint
      cases hjoint
    | cons d s =>
      by_cases hd : d = '/'
      · subst hd
        exact split?_slash.2 fun hsplits => split?_slash.1 h hsplits.of_append
      · exact (split?_cons hd).2 fun hsplits => (split?_cons hd).1 h
          (Splits.of_append (s := d :: s) hsplits)
  · exact split?_of_ne hc _

/-- **Markup may follow an unbroken text.** -/
theorem Unbroken.append_markup (hs : Unbroken s) (ht : Unbroken ('<' :: t)) :
    Unbroken (s ++ '<' :: t) := by
  induction s with
  | nil => exact ht
  | cons c s ih =>
    obtain ⟨⟨hdeclaration, hsplit⟩, hs⟩ := unbroken_cons.1 hs
    refine unbroken_cons.2 ⟨⟨fun hp => hdeclaration ?_, ?_⟩, ih hs⟩
    · have hfront : '<' :: "?xml".toList <+: c :: (s ++ '<' :: t) := hp
      obtain ⟨hc, hrest⟩ := List.cons_prefix_cons.1 hfront
      exact List.cons_prefix_cons.2 ⟨hc, prefix_of_prefix_append (by decide) hrest⟩
    · exact split?_append (List.cons_ne_nil c s) hsplit

end MediaScraper.Repair
