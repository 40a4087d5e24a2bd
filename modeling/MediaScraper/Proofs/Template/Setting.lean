import MediaScraper.Proofs.Template.Joining
import MediaScraper.Proofs.Text.Reading

/-!
# Texts without setting tokens

A text in which no setting token stands is left as it is when settings are put in
(`fillProperties_of_quiet`). Such a token needs an opening and, somewhere behind it but not at once,
a bracket that closes it (`quiet_property?_iff`). An opening in a joined text stands in one of its
parts, if the second part does not begin with a character of the opening
(`suffix_or_exists_of_suffix_append`).
-/

namespace MediaScraper.Template

open Text

/-- What a setting token begins with. -/
def settingStart : List Char := "$INFO[".toList

/-- An opening whose bracket is closed at once, or not at all, opens nothing. -/
theorem property?_eq_none_iff {behind : List Char} :
    property? (settingStart ++ behind) = none ↔ behind.head? = some ']' ∨ ']' ∉ behind := by
  have htake : behind.takeWhile (· ≠ ']') = [] ↔ behind = [] ∨ behind.head? = some ']' := by
    cases behind with
    | nil => simp
    | cons c behind => by_cases hc : c = ']' <;> simp [hc]
  have hdrop : behind.dropWhile (· ≠ ']') = [] ↔ ']' ∉ behind := by
    rw [List.dropWhile_eq_nil_iff]
    exact ⟨fun h hmem => by simpa using h _ hmem, fun h c hc => by
      simpa using fun heq : c = ']' => h (heq ▸ hc)⟩
  delta settingStart
  rw [property?_append]
  split
  · next h =>
    rw [htake, hdrop] at h
    refine iff_of_true rfl ?_
    rcases h with (rfl | h) | h
    · exact .inr List.not_mem_nil
    · exact .inl h
    · exact .inr h
  · next h =>
    rw [htake, hdrop, not_or, not_or] at h
    exact iff_of_false (by rintro ⟨⟩) (not_or.2 ⟨h.1.2, h.2⟩)

theorem quiet_property?_iff {s : List Char} :
    Quiet property? s ↔
      ∀ behind, settingStart ++ behind <:+ s → behind.head? = some ']' ∨ ']' ∉ behind := by
  constructor
  · intro h behind hsuffix
    exact property?_eq_none_iff.1 (h _ hsuffix (List.cons_ne_nil _ _))
  · intro h u hu _
    cases hopen : settingStart.isPrefixOf? u with
    | none =>
      delta settingStart at hopen
      rw [property?, hopen]
    | some behind =>
      obtain rfl := List.isPrefixOf?_eq_some_iff_append_eq.1 hopen
      exact property?_eq_none_iff.2 (h behind hu)

theorem quiet_property?_of_not_mem {s : List Char} (h : '$' ∉ s) : Quiet property? s :=
  quiet_property?_iff.2 fun _ hopen => absurd (hopen.subset List.mem_cons_self) h

/-- **Where no setting token stands, no setting is put in.** -/
theorem fillProperties_of_quiet {s : String} (h : Quiet property? s.toList) (src : Source) :
    fillProperties s src = s := by
  rw [← String.toList_inj, fillProperties_eq_join, toList_join_fill, replaceTokens_of_quiet _ h]

/-! ## Openings in joined texts -/

theorem suffix_of_suffix_append {c : Char} {w x y : List Char} (hx : c ∉ x)
    (h : c :: w <:+ x ++ y) : c :: w <:+ y := by
  induction x with
  | nil => exact h
  | cons d x ih =>
    obtain ⟨hd, hx⟩ := List.ne_and_not_mem_of_not_mem_cons hx
    rcases List.suffix_cons_iff.1 h with heq | h
    · exact absurd (List.cons.inj heq).1 hd
    · exact ih hx h

theorem suffix_or_exists_of_suffix_append {w behind x y : List Char} (hy : ∀ c ∈ y.head?, c ∉ w)
    (h : w ++ behind <:+ x ++ y) :
    w ++ behind <:+ y ∨ ∃ z, w ++ z <:+ x ∧ behind = z ++ y := by
  obtain ⟨u, hu⟩ := h
  rcases List.append_eq_append_iff.1 hu with ⟨t, rfl, ht⟩ | ⟨t, rfl, ht⟩
  · rcases List.append_eq_append_iff.1 ht with ⟨z, rfl, hz⟩ | ⟨r, rfl, hr⟩
    · exact .inr ⟨z, ⟨u, by simp⟩, hz⟩
    · cases r with
      | nil => exact .inr ⟨[], ⟨u, by simp⟩, hr.symm⟩
      | cons c r => exact absurd (by simp) (hy c (by rw [hr]; rfl))
  · exact .inl ⟨t, ht.symm⟩

end MediaScraper.Template
