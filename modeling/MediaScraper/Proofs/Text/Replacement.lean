import MediaScraper.Proofs.Text.Cut

/-!
# Texts whose tokens have been replaced

**Places.** A place of the new text is a place of the old one, or it lies within what is written for
a token (`suffix_replaceTokens`). What the new text begins with, the old one begins with, if what is
written for tokens begins with other characters (`exists_of_prefix_replaceTokens`).

**Fixed texts.** A text stays as it is if each of its tokens is written as it stands
(`replaceTokens_eq_self`).
-/

namespace MediaScraper.Text

variable {τ : Type} {read : List Char → Option (τ × Nat)} {write : τ → List Char}

theorem replaceTokens_nil : replaceTokens read write [] = [] := rfl

/-! ## Places -/

/-- **A place of the new text** is a place of the old one, or it lies within what is written for a
token. -/
theorem suffix_replaceTokens {s v : List Char} (h : v <:+ replaceTokens read write s) :
    (∃ u, u <:+ s ∧ v = replaceTokens read write u) ∨
      ∃ u t n x rest, u <:+ s ∧ read u = some (t, n) ∧ x <:+ write t ∧ x ≠ [] ∧ x ≠ write t ∧
        v = x ++ rest := by
  induction hn : s.length using Nat.strongRecOn generalizing s with
  | ind n ih =>
    subst hn
    cases s with
    | nil => exact .inl ⟨[], List.suffix_refl [], List.suffix_nil.1 h⟩
    | cons c s =>
      have hbehind (rest : List Char) (hrest : rest <:+ s)
          (h : v <:+ replaceTokens read write rest) :
          (∃ u, u <:+ c :: s ∧ v = replaceTokens read write u) ∨
            ∃ u t n x rest, u <:+ c :: s ∧ read u = some (t, n) ∧ x <:+ write t ∧ x ≠ [] ∧
              x ≠ write t ∧ v = x ++ rest := by
        have hsuffix : rest <:+ c :: s := hrest.trans (List.suffix_cons c s)
        rcases ih rest.length (Nat.lt_succ_of_le hrest.length_le) h rfl with
          ⟨u, hu, hv⟩ | ⟨u, t, n, x, y, hu, htoken⟩
        · exact .inl ⟨u, hu.trans hsuffix, hv⟩
        · exact .inr ⟨u, t, n, x, y, hu.trans hsuffix, htoken⟩
      cases hread : read (c :: s) with
      | none =>
        have hwhole := replaceTokens_cons write hread
        rw [hwhole] at h
        rcases List.suffix_cons_iff.1 h with rfl | h
        · exact .inl ⟨c :: s, List.suffix_refl _, hwhole.symm⟩
        · exact hbehind s (List.suffix_refl s) h
      | some r =>
        have hwhole := replaceTokens_cons_of_some write hread
        have hrest : s.drop (r.2 - 1) <:+ s := List.drop_suffix _ _
        generalize s.drop (r.2 - 1) = rest at hwhole hrest
        rw [hwhole] at h
        rcases List.suffix_or_suffix_of_suffix h (List.suffix_append _ _) with h | ⟨x, rfl⟩
        · exact hbehind rest hrest h
        · have hx : x <:+ write r.1 := List.suffix_append_self_iff.1 h
          by_cases hnil : x = []
          · subst hnil
            exact hbehind rest hrest (List.suffix_refl _)
          · by_cases hall : x = write r.1
            · exact .inl ⟨c :: s, List.suffix_refl _, by rw [hall, hwhole]⟩
            · exact .inr ⟨c :: s, r.1, r.2, x, _, List.suffix_refl _, hread, hx, hnil, hall, rfl⟩

theorem exists_of_prefix_replaceTokens {w s : List Char}
    (hwrite : ∀ t, ∃ d x, write t = d :: x ∧ d ∉ w) (h : w <+: replaceTokens read write s) :
    ∃ rest, s = w ++ rest ∧ replaceTokens read write s = w ++ replaceTokens read write rest := by
  induction w generalizing s with
  | nil => exact ⟨s, rfl, rfl⟩
  | cons e w ih =>
    cases s with
    | nil => exact absurd h (by simp [replaceTokens_nil])
    | cons c s =>
      cases hread : read (c :: s) with
      | some r =>
        obtain ⟨d, x, hx, hd⟩ := hwrite r.1
        rw [replaceTokens_cons_of_some write hread, hx, List.cons_append] at h
        exact absurd (List.cons_prefix_cons.1 h).1 fun heq => hd (heq ▸ List.mem_cons_self)
      | none =>
        rw [replaceTokens_cons write hread] at h ⊢
        obtain ⟨rfl, hw⟩ := List.cons_prefix_cons.1 h
        have hwrite' (t : τ) : ∃ d x, write t = d :: x ∧ d ∉ w := by
          obtain ⟨d, x, hx, hd⟩ := hwrite t
          exact ⟨d, x, hx, fun hmem => hd (List.mem_cons_of_mem e hmem)⟩
        obtain ⟨rest, rfl, hrest⟩ := ih hwrite' hw
        exact ⟨rest, rfl, by rw [hrest, List.cons_append]⟩

/-- **Joined texts** are rewritten each on its own, if no token reaches from one into the other. -/
theorem replaceTokens_append {s z : List Char}
    (h : ∀ u, u <:+ s → u ≠ [] → read (u ++ z) = read u ∧ ∀ r ∈ read u, r.2 ≤ u.length) :
    replaceTokens read write (s ++ z) = replaceTokens read write s ++ replaceTokens read write z := by
  induction hn : s.length using Nat.strongRecOn generalizing s with
  | ind n ih =>
    subst hn
    cases s with
    | nil => rfl
    | cons c s =>
      have hbehind (rest : List Char) (hrest : rest <:+ s) :
          replaceTokens read write (rest ++ z) =
            replaceTokens read write rest ++ replaceTokens read write z :=
        ih rest.length (Nat.lt_succ_of_le hrest.length_le)
          (fun u hu => h u (hu.trans (hrest.trans (List.suffix_cons c s)))) rfl
      obtain ⟨hagree, hlength⟩ := h (c :: s) (List.suffix_refl _) (List.cons_ne_nil c s)
      rw [List.cons_append] at hagree ⊢
      cases hread : read (c :: s) with
      | none =>
        rw [replaceTokens_cons write hread, replaceTokens_cons write (hagree.trans hread),
          hbehind s (List.suffix_refl s), List.cons_append]
      | some r =>
        have hle : r.2 - 1 ≤ s.length := Nat.sub_le_of_le_add (hlength r hread)
        rw [replaceTokens_cons_of_some write hread,
          replaceTokens_cons_of_some write (hagree.trans hread), List.drop_append_of_le_length hle,
          hbehind _ (List.drop_suffix _ s), List.append_assoc]

theorem replaceTokens_append_of_none {w : List Char}
    (h : ∀ u rest, u <:+ w → u ≠ [] → read (u ++ rest) = none) (rest : List Char) :
    replaceTokens read write (w ++ rest) = w ++ replaceTokens read write rest := by
  have hnone (u : List Char) (hu : u <:+ w) (hne : u ≠ []) : read u = none := by
    rw [← List.append_nil u]
    exact h u [] hu hne
  rw [replaceTokens_append fun u hu hne => ⟨(h u rest hu hne).trans (hnone u hu hne).symm,
    by simp [hnone u hu hne]⟩, replaceTokens_of_quiet write hnone]

/-! ## Fixed texts -/

theorem replaceTokens_eq_self {s : List Char}
    (h : ∀ u t n, u <:+ s → read u = some (t, n) →
      write t ≠ [] ∧ n = (write t).length ∧ write t <+: u) :
    replaceTokens read write s = s := by
  induction hn : s.length using Nat.strongRecOn generalizing s with
  | ind n ih =>
    subst hn
    cases s with
    | nil => rfl
    | cons c s =>
      cases hread : read (c :: s) with
      | none =>
        rw [replaceTokens_cons write hread, ih s.length (Nat.lt_succ_self _)
          (fun u t n hu => h u t n (hu.trans (List.suffix_cons c s))) rfl]
      | some r =>
        obtain ⟨hne, hlength, rest, heq⟩ := h _ _ _ (List.suffix_refl _) hread
        have hlt : rest.length < (c :: s).length := by
          rw [← heq, List.length_append]
          exact Nat.lt_add_of_pos_left (List.length_pos_iff.2 hne)
        rw [← heq] at hread h ⊢
        rw [replaceTokens_of_token write hne (hread.trans (by rw [← hlength])),
          ih rest.length hlt (fun u t n hu => h u t n (hu.trans (List.suffix_append _ _))) rfl]

/-! ## Tokens -/

theorem filterMap_segmentFrom (skip : Nat) (stretch s : List Char) :
    ((segmentFrom read skip stretch [] s).filterMap fun
      | .plain _ => none
      | .token t => some t) =
    (segmentFrom read skip [] [] s).filterMap fun
      | .plain _ => none
      | .token t => some t := by
  induction s generalizing skip stretch with
  | nil => cases skip <;> cases stretch <;> simp [segmentFrom, pushPlain]
  | cons c s ih =>
    cases skip with
    | succ skip => exact ih skip stretch
    | zero =>
      rw [segmentFrom, segmentFrom]
      cases read (c :: s) with
      | none =>
        simp only
        rw [ih 0 (c :: stretch), ih 0 [c]]
      | some token =>
        simp only
        rw [segmentFrom_pieces, segmentFrom_pieces _ _ _ (.token token.1 :: pushPlain [] [])]
        cases stretch <;> simp [pushPlain]

theorem tokens_cons {c : Char} {s : List Char} (h : read (c :: s) = none) :
    tokens read (c :: s) = tokens read s := by
  rw [tokens, segment, segmentFrom, h]
  exact filterMap_segmentFrom 0 [c] s

theorem tokens_append_of_none {w rest : List Char}
    (h : ∀ u, u <:+ w → u ≠ [] → read (u ++ rest) = none) :
    tokens read (w ++ rest) = tokens read rest := by
  induction w with
  | nil => rfl
  | cons c w ih =>
    have hread : read (c :: (w ++ rest)) = none :=
      h (c :: w) (List.suffix_refl _) (List.cons_ne_nil c w)
    rw [List.cons_append, tokens_cons hread]
    exact ih fun u hu => h u (hu.trans (List.suffix_cons c w))

theorem tokens_of_token {w rest : List Char} {t : τ} (hw : w ≠ [])
    (h : read (w ++ rest) = some (t, w.length)) :
    tokens read (w ++ rest) = t :: tokens read rest := by
  cases w with
  | nil => exact absurd rfl hw
  | cons c w =>
    rw [tokens, segment, List.cons_append, segmentFrom, ← List.cons_append, h]
    simp only [List.length_cons, Nat.add_sub_cancel]
    rw [segmentFrom_skip, segmentFrom_pieces]
    rfl

end MediaScraper.Text
