import Mathlib.Data.List.Infix
import MediaScraper.Text.Search

/-!
# What a search finds

A text occurs in another one if it is a stretch of it (`occursIn_iff`). A cut at a text is at the
first place where it stands: what is before that place has no such stretch, not even together with
all but the last character of what is searched for (`breakAt?_eq_some_iff`).
-/

namespace MediaScraper.Text

theorem occursIn_iff {needle s : List Char} : occursIn needle s = true ↔ needle <:+: s := by
  induction s with
  | nil => simp [occursIn]
  | cons c s ih =>
    rw [occursIn, Bool.or_eq_true, List.isPrefixOf_iff_prefix, ih, List.infix_cons_iff]

theorem isPrefixOf?_eq_none {needle s : List Char} (h : ¬ needle <+: s) :
    needle.isPrefixOf? s = none := by
  cases hp : needle.isPrefixOf? s with
  | none => rfl
  | some rest => exact absurd ⟨rest, List.isPrefixOf?_eq_some_iff_append_eq.1 hp⟩ h

theorem breakFrom?_eq_map (needle before s : List Char) :
    breakFrom? needle before s =
      (breakAt? needle s).map fun r => (before.reverse ++ r.1, r.2) := by
  induction s generalizing before with
  | nil =>
    rw [breakAt?, breakFrom?, breakFrom?]
    split <;> simp
  | cons c s ih =>
    rw [breakAt?, breakFrom?, breakFrom?]
    cases needle.isPrefixOf? (c :: s) with
    | some rest => simp
    | none =>
      simp only
      rw [ih, ih [c]]
      cases breakAt? needle s <;> simp

theorem breakAt?_cons_of_isPrefix {needle s rest : List Char} (hne : needle ≠ [])
    (h : s = needle ++ rest) : breakAt? needle s = some ([], rest) := by
  subst h
  cases needle with
  | nil => exact absurd rfl hne
  | cons c needle =>
    rw [List.cons_append, breakAt?, breakFrom?,
      List.isPrefixOf?_eq_some_iff_append_eq.2 (List.cons_append ..)]
    rfl

theorem breakAt?_cons {needle : List Char} {c : Char} {s : List Char}
    (h : ¬ needle <+: c :: s) :
    breakAt? needle (c :: s) = (breakAt? needle s).map fun r => (c :: r.1, r.2) := by
  rw [breakAt?, breakFrom?, isPrefixOf?_eq_none h]
  exact breakFrom?_eq_map needle [c] s

/-- **A cut is at the first place** where the searched text stands. -/
theorem breakAt?_eq_some_iff {needle s before rest : List Char} (hne : needle ≠ []) :
    breakAt? needle s = some (before, rest) ↔
      s = before ++ needle ++ rest ∧
        ∀ u, u <:+ before → u ≠ [] → ¬ needle <+: u ++ needle ++ rest := by
  induction s generalizing before with
  | nil =>
    have hnone : breakAt? needle [] = none := by
      rw [breakAt?, breakFrom?, if_neg (by simpa using hne)]
    rw [hnone]
    simp [hne]
  | cons c s ih =>
    by_cases hp : needle <+: c :: s
    · obtain ⟨more, hmore⟩ := hp
      rw [breakAt?_cons_of_isPrefix hne hmore.symm]
      constructor
      · intro h
        cases h
        exact ⟨by rw [← hmore, List.nil_append], fun u hu hu' => absurd (List.suffix_nil.1 hu) hu'⟩
      · rintro ⟨heq, hfirst⟩
        cases before with
        | nil =>
          rw [← hmore, List.nil_append] at heq
          rw [List.append_cancel_left heq]
        | cons d before =>
          refine absurd ?_ (hfirst (d :: before) (List.suffix_refl _) (List.cons_ne_nil _ _))
          rw [← heq]
          exact ⟨more, hmore⟩
    · rw [breakAt?_cons hp, Option.map_eq_some_iff]
      constructor
      · rintro ⟨⟨before', rest'⟩, hbreak, heq⟩
        cases heq
        obtain ⟨rfl, hfirst⟩ := ih.1 hbreak
        refine ⟨by simp, fun u hu hu' => ?_⟩
        rcases List.suffix_cons_iff.1 hu with rfl | hu
        · simpa using hp
        · exact hfirst u hu hu'
      · rintro ⟨heq, hfirst⟩
        cases before with
        | nil => exact absurd ⟨rest, heq.symm⟩ hp
        | cons d before =>
          obtain ⟨rfl, rfl⟩ := List.cons.inj heq
          refine ⟨(before, rest), ih.2 ⟨rfl, fun u hu => ?_⟩, rfl⟩
          exact hfirst u (hu.trans (List.suffix_cons c before))

theorem not_infix_of_breakAt? {needle s before rest : List Char} (hne : needle ≠ [])
    (h : breakAt? needle s = some (before, rest)) : ¬ needle <:+: before := by
  intro hoccurs
  obtain ⟨u, hbegins, hsuffix⟩ := List.infix_iff_prefix_suffix.1 hoccurs
  obtain ⟨-, hfirst⟩ := (breakAt?_eq_some_iff hne).1 h
  have hu : u ≠ [] := fun heq => hne (List.prefix_nil.1 (heq ▸ hbegins))
  refine hfirst u hsuffix hu (hbegins.trans ?_)
  rw [List.append_assoc]
  exact List.prefix_append _ _

/-- Behind a text that does not hold it, `ds` with `e` at its end stands first, if `e` comes only
there. -/
theorem breakAt?_of_not_infix (ds : List Char) {e : Char} (he : e ∉ ds) {s : List Char}
    (h : ¬ ds ++ [e] <:+: s) (rest : List Char) :
    breakAt? (ds ++ [e]) (s ++ (ds ++ [e]) ++ rest) = some (s, rest) := by
  refine (breakAt?_eq_some_iff (by simp)).2 ⟨rfl, fun u hu hne hbegins => ?_⟩
  rw [List.append_assoc] at hbegins
  rcases Nat.lt_or_ge ds.length u.length with hlt | hge
  · have hu' : ds ++ [e] <+: u := by
      refine List.prefix_of_prefix_length_le hbegins (List.prefix_append _ _) ?_
      rwa [List.length_append]
    exact h (List.infix_iff_prefix_suffix.2 ⟨u, hu', hu⟩)
  · -- a place that reaches from `s` into the first one would have `e` within `ds`
    obtain ⟨v, rfl⟩ : u <+: ds :=
      List.prefix_of_prefix_length_le (List.prefix_append u _)
        ((List.prefix_append _ _).trans hbegins) hge
    rw [List.append_assoc, List.prefix_append_right_inj] at hbegins
    have hv : v ++ [e] <+: u ++ v := by
      refine List.prefix_of_prefix_length_le hbegins ⟨[e] ++ rest, by simp⟩ ?_
      have := List.length_pos_iff.2 hne
      simp
      omega
    exact he (hv.subset (by simp))

theorem isSome_breakAt?_iff {needle s : List Char} (hne : needle ≠ []) :
    (breakAt? needle s).isSome ↔ needle <:+: s := by
  induction s with
  | nil =>
    rw [breakAt?, breakFrom?, if_neg (by simpa using hne)]
    simp [hne]
  | cons c s ih =>
    rw [List.infix_cons_iff]
    by_cases hp : needle <+: c :: s
    · obtain ⟨rest, hrest⟩ := hp
      rw [breakAt?_cons_of_isPrefix hne hrest.symm]
      exact iff_of_true rfl (.inl ⟨rest, hrest⟩)
    · rw [breakAt?_cons hp, Option.isSome_map, ih]
      exact (or_iff_right hp).symm

end MediaScraper.Text
