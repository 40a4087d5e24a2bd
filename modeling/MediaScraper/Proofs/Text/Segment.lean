import MediaScraper.Text.Segment

/-!
# Where the pieces of a text stand

**Pieces.** A stretch of a segmented text reaches up to a token or to the end of the text, and a
token is what the reader finds at its place (`standsIn_of_mem_segment`).

**Tokens.** A reader whose tokens never overlap misses none: what it finds at any place of the text
is one of the tokens (`token_mem_segment`).
-/

namespace MediaScraper.Text

variable {τ : Type} {read : List Char → Option (τ × Nat)}

/-! ## Pieces -/

/-- A stretch stands before a token or at the end, a token where it is read. -/
def Piece.StandsIn (read : List Char → Option (τ × Nat)) (s : List Char) : Piece τ → Prop
  | .plain p => ∃ before after, s = before ++ (p ++ after) ∧ (after = [] ∨ (read after).isSome)
  | .token t => ∃ u n, u <:+ s ∧ read u = some (t, n)

theorem Piece.StandsIn.append {piece : Piece τ} {s : List Char} (h : piece.StandsIn read s)
    (front : List Char) : piece.StandsIn read (front ++ s) := by
  cases piece with
  | plain p =>
    obtain ⟨before, after, rfl, hafter⟩ := h
    exact ⟨front ++ before, after, (List.append_assoc ..).symm, hafter⟩
  | token t =>
    obtain ⟨u, n, hu, hread⟩ := h
    exact ⟨u, n, hu.trans (List.suffix_append front s), hread⟩

theorem mem_pushPlain {stretch : List Char} {pieces : List (Piece τ)} {piece : Piece τ}
    (h : piece ∈ pushPlain stretch pieces) : piece = .plain stretch.reverse ∨ piece ∈ pieces := by
  unfold pushPlain at h
  split at h
  · exact .inr h
  · exact List.mem_cons.1 h

/-- While a token is passed over, no stretch is open. -/
theorem standsIn_of_mem_segmentFrom {cs stretch : List Char} {skip : Nat}
    {pieces : List (Piece τ)} {piece : Piece τ} (hskip : skip ≠ 0 → stretch = [])
    (h : piece ∈ segmentFrom read skip stretch pieces cs) :
    piece ∈ pieces ∨ piece.StandsIn read (stretch.reverse ++ cs) := by
  induction cs generalizing skip stretch pieces with
  | nil =>
    rw [segmentFrom, List.mem_reverse] at h
    rcases mem_pushPlain h with rfl | h
    · exact .inr ⟨[], [], by simp, .inl rfl⟩
    · exact .inl h
  | cons c cs ih =>
    cases skip with
    | succ skip =>
      rw [hskip (Nat.succ_ne_zero skip)] at h ⊢
      rw [segmentFrom] at h
      exact (ih (fun _ => rfl) h).imp_right fun hstands => hstands.append [c]
    | zero =>
      rw [segmentFrom] at h
      cases hread : read (c :: cs) with
      | none =>
        rw [hread] at h
        have hstands := ih (fun hne => absurd rfl hne) h
        rwa [List.reverse_cons, List.append_assoc, List.singleton_append] at hstands
      | some token =>
        obtain ⟨t, n⟩ := token
        rw [hread] at h
        rcases ih (fun _ => rfl) h with hmem | hstands
        · rcases List.mem_cons.1 hmem with rfl | hmem
          · exact .inr ⟨c :: cs, n, List.suffix_append _ _, hread⟩
          · rcases mem_pushPlain hmem with rfl | hmem
            · exact .inr ⟨[], c :: cs, rfl, .inr (by rw [hread]; rfl)⟩
            · exact .inl hmem
        · refine .inr ?_
          have hbehind := hstands.append (stretch.reverse ++ [c])
          simpa using hbehind

/-- **Every piece stands in the text**: a stretch before a token or at the end, a token where it is
read. -/
theorem standsIn_of_mem_segment {s : List Char} {piece : Piece τ} (h : piece ∈ segment read s) :
    piece.StandsIn read s := by
  rcases standsIn_of_mem_segmentFrom (fun _ => rfl) h with hnil | hstands
  · cases hnil
  · exact hstands

/-! ## Tokens -/

/-- No token begins within another. -/
def Apart (read : List Char → Option (τ × Nat)) : Prop :=
  ∀ s t n, read s = some (t, n) → ∀ k, 0 < k → k < n → read (s.drop k) = none

theorem Apart.suffix_drop (h : Apart read) {c : Char} {cs u : List Char} {token : τ × Nat}
    (hread : read (c :: cs) = some token) (hu : (read u).isSome) (hsuffix : u <:+ cs) :
    u <:+ cs.drop (token.2 - 1) := by
  obtain ⟨k, hk⟩ : ∃ k, u = cs.drop k := ⟨_, List.suffix_iff_eq_drop.1 hsuffix⟩
  rcases Nat.lt_or_ge (k + 1) token.2 with hlt | hge
  · have hnone : read u = none := by
      rw [hk, ← List.drop_succ_cons]
      exact h _ _ _ hread (k + 1) (Nat.succ_pos k) hlt
    rw [hnone] at hu
    cases hu
  · obtain ⟨j, rfl⟩ : ∃ j, k = token.2 - 1 + j := ⟨k - (token.2 - 1), by omega⟩
    rw [hk, ← List.drop_drop]
    exact List.drop_suffix _ _

theorem mem_pushPlain_of_mem {pieces : List (Piece τ)} {piece : Piece τ} (h : piece ∈ pieces)
    (stretch : List Char) : piece ∈ pushPlain stretch pieces := by
  unfold pushPlain
  split
  · exact h
  · exact List.mem_cons_of_mem _ h

theorem mem_segmentFrom_of_mem {cs stretch : List Char} {skip : Nat} {pieces : List (Piece τ)}
    {piece : Piece τ} (h : piece ∈ pieces) : piece ∈ segmentFrom read skip stretch pieces cs := by
  induction cs generalizing skip stretch pieces with
  | nil =>
    rw [segmentFrom, List.mem_reverse]
    exact mem_pushPlain_of_mem h stretch
  | cons c cs ih =>
    cases skip with
    | succ skip => exact ih h
    | zero =>
      rw [segmentFrom]
      split
      · exact ih (List.mem_cons_of_mem _ (mem_pushPlain_of_mem h stretch))
      · exact ih h

theorem token_mem_segmentFrom (h : Apart read) {u : List Char} {t : τ} {n : Nat} (hne : u ≠ [])
    (hu : read u = some (t, n)) {cs stretch : List Char} {skip : Nat} {pieces : List (Piece τ)}
    (hsuffix : u <:+ cs.drop skip) : .token t ∈ segmentFrom read skip stretch pieces cs := by
  induction cs generalizing skip stretch pieces with
  | nil =>
    rw [List.drop_nil, List.suffix_nil] at hsuffix
    exact absurd hsuffix hne
  | cons c cs ih =>
    cases skip with
    | succ skip => exact ih hsuffix
    | zero =>
      rw [List.drop_zero] at hsuffix
      rcases List.suffix_cons_iff.1 hsuffix with rfl | hbehind
      · rw [segmentFrom, hu]
        exact mem_segmentFrom_of_mem List.mem_cons_self
      · rw [segmentFrom]
        cases hread : read (c :: cs) with
        | none => exact ih hbehind
        | some token => exact ih (h.suffix_drop hread (by rw [hu]; rfl) hbehind)

/-- **No token is missed** by a reader whose tokens lie apart. -/
theorem token_mem_segment (h : Apart read) {s u : List Char} {t : τ} {n : Nat} (hne : u ≠ [])
    (hu : read u = some (t, n)) (hsuffix : u <:+ s) : .token t ∈ segment read s :=
  token_mem_segmentFrom h hne hu (by rwa [List.drop_zero])

end MediaScraper.Text
