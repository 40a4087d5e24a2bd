import MediaScraper.Proofs.Text.Reading
import MediaScraper.Text.Segment

/-!
# Cutting texts at tokens

What it means that a text is cut at every token, apart from any reader.

**Kinds.** A kind of token says how each token is written, and what may stand behind it
(`TokenKind`). **Cuts.** A text is cut from the left: up to the first place where a token begins, a
stretch; then the token; and so on behind it (`Cuts`).

A reader may find just the tokens of a kind (`Reads`). Segmenting with such a reader is the one way
to cut a text at every token (`Reads.cuts_iff`).
-/

namespace MediaScraper.Text

variable {τ : Type} {read : List Char → Option (τ × Nat)}

/-! ## Kinds of tokens -/

/-- A kind of token: `kind t w rest` says that `w`, with `rest` behind it, is the token `t`. -/
abbrev TokenKind (τ : Type) : Type := τ → List Char → List Char → Prop

variable {kind : TokenKind τ}

/-- A token of the kind stands at the beginning of the text. -/
def TokenKind.Begins (kind : TokenKind τ) (s : List Char) : Prop :=
  ∃ t w rest, s = w ++ rest ∧ kind t w rest

/-- No token of the kind begins in `p`, with `behind` behind it. -/
def TokenKind.Avoids (kind : TokenKind τ) (p behind : List Char) : Prop :=
  ∀ u, u <:+ p → u ≠ [] → ¬ kind.Begins (u ++ behind)

theorem TokenKind.avoids_nil (behind : List Char) : kind.Avoids [] behind :=
  fun _ hu hne => absurd (List.suffix_nil.1 hu) hne

theorem TokenKind.avoids_concat {p behind : List Char} {c : Char}
    (h : kind.Avoids p (c :: behind)) (hc : ¬ kind.Begins (c :: behind)) :
    kind.Avoids (p ++ [c]) behind := by
  intro u hu hne
  obtain rfl | ⟨v, rfl, hv⟩ := List.suffix_concat_iff.1 hu
  · exact absurd rfl hne
  · rw [List.append_assoc, List.singleton_append]
    by_cases hnil : v = []
    · rw [hnil]
      exact hc
    · exact h v hv hnil

/-! ## Cuts -/

/-- A stretch as a piece, if there is anything in it. -/
def stretchPieces (p : List Char) : List (Piece τ) := if p = [] then [] else [.plain p]

/-- `Cuts kind s pieces`: from the left, the text is cut at every token of the kind. -/
inductive Cuts (kind : TokenKind τ) : List Char → List (Piece τ) → Prop
  | rest {p : List Char} : kind.Avoids p [] → Cuts kind p (stretchPieces p)
  | token {p w rest : List Char} {t : τ} {pieces : List (Piece τ)} :
      kind.Avoids p (w ++ rest) → kind t w rest → Cuts kind rest pieces →
      Cuts kind (p ++ (w ++ rest)) (stretchPieces p ++ .token t :: pieces)

/-! ## Readers -/

/-- The reader finds the tokens of a kind: those, and only those, each with its length. -/
structure Reads (read : List Char → Option (τ × Nat)) (kind : TokenKind τ) : Prop where
  ne_nil : ∀ {t w rest}, kind t w rest → w ≠ []
  sound : ∀ {s t n}, read s = some (t, n) → ∃ w rest, s = w ++ rest ∧ n = w.length ∧ kind t w rest
  complete : ∀ {t w rest}, kind t w rest → read (w ++ rest) = some (t, w.length)

theorem Reads.read_eq_none (h : Reads read kind) {s : List Char} (hs : ¬ kind.Begins s) :
    read s = none := by
  cases hread : read s with
  | none => rfl
  | some token =>
    obtain ⟨w, rest, heq, -, hkind⟩ := h.sound hread
    exact absurd ⟨token.1, w, rest, heq, hkind⟩ hs

theorem segmentFrom_pieces (read : List Char → Option (τ × Nat)) (skip : Nat) (stretch : List Char)
    (pieces : List (Piece τ)) (s : List Char) :
    segmentFrom read skip stretch pieces s =
      pieces.reverse ++ segmentFrom read skip stretch [] s := by
  induction s generalizing skip stretch pieces with
  | nil => cases skip <;> cases stretch <;> simp [segmentFrom, pushPlain]
  | cons c s ih =>
    cases skip with
    | succ skip => exact ih skip stretch pieces
    | zero =>
      rw [segmentFrom, segmentFrom]
      cases read (c :: s) with
      | none => exact ih 0 (c :: stretch) pieces
      | some token =>
        simp only
        rw [ih, ih _ _ (.token token.1 :: pushPlain stretch [])]
        cases stretch <;> simp [pushPlain]

theorem segmentFrom_skip (read : List Char → Option (τ × Nat)) (stretch : List Char)
    (pieces : List (Piece τ)) (w rest : List Char) :
    segmentFrom read w.length stretch pieces (w ++ rest) =
      segmentFrom read 0 stretch pieces rest := by
  induction w with
  | nil => rfl
  | cons c w ih => exact ih

theorem replaceTokens_of_token (write : τ → List Char) {w rest : List Char} {t : τ} (hw : w ≠ [])
    (h : read (w ++ rest) = some (t, w.length)) :
    replaceTokens read write (w ++ rest) = write t ++ replaceTokens read write rest := by
  cases w with
  | nil => exact absurd rfl hw
  | cons c w =>
    have hsegment : segment read (c :: w ++ rest) = .token t :: segment read rest := by
      rw [segment, List.cons_append, segmentFrom, ← List.cons_append, h]
      simp only [List.length_cons, Nat.add_sub_cancel]
      rw [segmentFrom_skip, segmentFrom_pieces]
      rfl
    rw [replaceTokens, hsegment, List.flatMap_cons]
    rfl

theorem flatMap_segmentFrom (read : List Char → Option (τ × Nat)) (write : τ → List Char)
    (skip : Nat) (stretch s : List Char) :
    ((segmentFrom read skip stretch [] s).flatMap fun
      | .plain s => s
      | .token t => write t) =
    stretch.reverse ++ (segmentFrom read skip [] [] s).flatMap fun
      | .plain s => s
      | .token t => write t := by
  induction s generalizing skip stretch with
  | nil => cases skip <;> cases stretch <;> simp [segmentFrom, pushPlain]
  | cons c s ih =>
    cases skip with
    | succ skip => exact ih skip stretch
    | zero =>
      rw [segmentFrom, segmentFrom]
      cases read (c :: s) with
      | none =>
        simp only
        rw [ih 0 (c :: stretch), ih 0 [c]]
        simp
      | some token =>
        simp only
        rw [segmentFrom_pieces, segmentFrom_pieces _ _ _ (.token token.1 :: pushPlain [] [])]
        cases stretch <;> simp [pushPlain]

theorem replaceTokens_cons {read : List Char → Option (τ × Nat)} (write : τ → List Char) {c : Char}
    {s : List Char} (h : read (c :: s) = none) :
    replaceTokens read write (c :: s) = c :: replaceTokens read write s := by
  rw [replaceTokens, segment, segmentFrom, h]
  exact flatMap_segmentFrom read write 0 [c] s

theorem segmentFrom_drop (read : List Char → Option (τ × Nat)) (skip : Nat) (stretch : List Char)
    (pieces : List (Piece τ)) (s : List Char) :
    segmentFrom read skip stretch pieces s = segmentFrom read 0 stretch pieces (s.drop skip) := by
  induction s generalizing skip with
  | nil => cases skip <;> rfl
  | cons c s ih =>
    cases skip with
    | zero => rfl
    | succ skip => exact ih skip

theorem replaceTokens_cons_of_some (write : τ → List Char) {c : Char} {s : List Char} {t : τ}
    {n : Nat} (h : read (c :: s) = some (t, n)) :
    replaceTokens read write (c :: s) = write t ++ replaceTokens read write (s.drop (n - 1)) := by
  have hsegment : segment read (c :: s) = .token t :: segment read (s.drop (n - 1)) := by
    rw [segment, segmentFrom, h]
    simp only
    rw [segmentFrom_drop, segmentFrom_pieces]
    rfl
  rw [replaceTokens, hsegment, List.flatMap_cons]
  rfl

/-- **What stands in a text whose tokens are replaced** stood there before, or is written for a
token. -/
theorem mem_replaceTokens {write : τ → List Char} {s : List Char} {d : Char}
    (h : d ∈ replaceTokens read write s) :
    d ∈ s ∨ ∃ u t n, u <:+ s ∧ read u = some (t, n) ∧ d ∈ write t := by
  induction hn : s.length using Nat.strongRecOn generalizing s with
  | ind n ih =>
    subst hn
    cases s with
    | nil => cases h
    | cons c s =>
      have hbehind (rest : List Char) (hrest : rest <:+ s) (h : d ∈ replaceTokens read write rest) :
          d ∈ c :: s ∨ ∃ u t n, u <:+ c :: s ∧ read u = some (t, n) ∧ d ∈ write t := by
        have hsuffix : rest <:+ c :: s := hrest.trans (List.suffix_cons c s)
        rcases ih rest.length (Nat.lt_succ_of_le hrest.length_le) h rfl with h | ⟨u, t, n, hu, h⟩
        · exact .inl (hsuffix.subset h)
        · exact .inr ⟨u, t, n, hu.trans hsuffix, h⟩
      cases hread : read (c :: s) with
      | none =>
        rw [replaceTokens_cons write hread] at h
        rcases List.mem_cons.1 h with rfl | h
        · exact .inl List.mem_cons_self
        · exact hbehind s (List.suffix_refl s) h
      | some r =>
        rw [replaceTokens_cons_of_some write hread] at h
        rcases List.mem_append.1 h with h | h
        · exact .inr ⟨c :: s, r.1, r.2, List.suffix_refl _, hread, h⟩
        · exact hbehind _ (List.drop_suffix _ s) h

/-- **Two readers that agree at every place** put the same in place of their tokens. -/
theorem replaceTokens_congr {σ : Type} {read' : List Char → Option (σ × Nat)}
    {write : τ → List Char} {write' : σ → List Char} {s : List Char}
    (h : ∀ u, u <:+ s → u ≠ [] → (read u).map (fun r => (write r.1, r.2)) =
      (read' u).map fun r => (write' r.1, r.2)) :
    replaceTokens read write s = replaceTokens read' write' s := by
  induction hn : s.length using Nat.strongRecOn generalizing s with
  | ind n ih =>
    subst hn
    cases s with
    | nil => rfl
    | cons c s =>
      have hbehind (rest : List Char) (hrest : rest <:+ s) :
          replaceTokens read write rest = replaceTokens read' write' rest :=
        ih rest.length (Nat.lt_succ_of_le hrest.length_le)
          (fun u hu => h u (hu.trans (hrest.trans (List.suffix_cons c s)))) rfl
      have hc := h (c :: s) (List.suffix_refl _) (List.cons_ne_nil c s)
      cases hread : read (c :: s) with
      | none =>
        rw [hread, Option.map_none, eq_comm, Option.map_eq_none_iff] at hc
        rw [replaceTokens_cons write hread, replaceTokens_cons write' hc,
          hbehind s (List.suffix_refl s)]
      | some r =>
        rw [hread, Option.map_some, eq_comm, Option.map_eq_some_iff] at hc
        obtain ⟨r', hread', heq⟩ := hc
        obtain ⟨hwrite, hlength⟩ := Prod.mk.inj heq
        rw [replaceTokens_cons_of_some write hread, replaceTokens_cons_of_some write' hread', hwrite,
          hlength, hbehind _ (List.drop_suffix _ s)]

theorem Reads.segmentFrom_avoids (h : Reads read kind) {p behind : List Char}
    (hp : kind.Avoids p behind) (stretch : List Char) (pieces : List (Piece τ)) :
    segmentFrom read 0 stretch pieces (p ++ behind) =
      segmentFrom read 0 (p.reverse ++ stretch) pieces behind := by
  induction p generalizing stretch with
  | nil => rfl
  | cons c p ih =>
    have hc : read (c :: (p ++ behind)) = none :=
      h.read_eq_none (hp (c :: p) (List.suffix_refl _) (List.cons_ne_nil c p))
    rw [List.cons_append, segmentFrom, hc, List.reverse_cons, List.append_assoc]
    exact ih (fun u hu => hp u (hu.trans (List.suffix_cons c p))) (c :: stretch)

theorem Reads.segmentFrom_token (h : Reads read kind) {w rest : List Char} {t : τ}
    (ht : kind t w rest) (stretch : List Char) (pieces : List (Piece τ)) :
    segmentFrom read 0 stretch pieces (w ++ rest) =
      segmentFrom read 0 [] (.token t :: pushPlain stretch pieces) rest := by
  cases w with
  | nil => exact absurd rfl (h.ne_nil ht)
  | cons c w =>
    have hread := h.complete ht
    rw [List.cons_append] at hread ⊢
    rw [segmentFrom, hread]
    exact segmentFrom_skip read [] _ w rest

theorem pushPlain_reverse (p : List Char) :
    pushPlain (p.reverse ++ []) ([] : List (Piece τ)) = stretchPieces p := by
  cases p <;> simp [pushPlain, stretchPieces]

theorem stretchPieces_reverse (p : List Char) :
    (stretchPieces p : List (Piece τ)).reverse = stretchPieces p := by
  unfold stretchPieces
  split <;> rfl

theorem Cuts.eq_segment (h : Reads read kind) {s : List Char} {pieces : List (Piece τ)}
    (hcuts : Cuts kind s pieces) : pieces = segment read s := by
  induction hcuts with
  | @rest p hp =>
    rw [segment, ← List.append_nil p, h.segmentFrom_avoids hp, segmentFrom, pushPlain_reverse,
      stretchPieces_reverse, List.append_nil]
  | @token p w rest t pieces hp ht _ ih =>
    rw [segment, h.segmentFrom_avoids hp, h.segmentFrom_token ht, segmentFrom_pieces,
      pushPlain_reverse, List.reverse_cons, stretchPieces_reverse, ih, segment]
    simp

/-- Every text can be cut, also with a stretch in front in which no token begins. -/
theorem Reads.exists_cuts (h : Reads read kind) (s : List Char) {p : List Char}
    (hp : kind.Avoids p s) : ∃ pieces, Cuts kind (p ++ s) pieces := by
  induction hn : s.length using Nat.strongRecOn generalizing s p with
  | ind n ih =>
    subst hn
    cases s with
    | nil =>
      rw [List.append_nil]
      exact ⟨_, .rest hp⟩
    | cons c s =>
      by_cases hc : kind.Begins (c :: s)
      · obtain ⟨t, w, rest, heq, ht⟩ := hc
        have hlt : rest.length < (c :: s).length := by
          rw [heq, List.length_append]
          exact Nat.lt_add_of_pos_left (List.length_pos_iff.2 (h.ne_nil ht))
        obtain ⟨pieces, hcuts⟩ := ih _ hlt rest (TokenKind.avoids_nil rest) rfl
        rw [heq] at hp ⊢
        exact ⟨_, .token hp ht hcuts⟩
      · obtain ⟨pieces, hcuts⟩ := ih s.length (Nat.lt_succ_self _) s
          (TokenKind.avoids_concat hp hc) rfl
        rw [List.append_assoc] at hcuts
        exact ⟨pieces, hcuts⟩

/-- **Segmenting cuts a text at every token** of the kind that the reader finds, and there is no
other way to do so. -/
theorem Reads.cuts_iff (h : Reads read kind) {s : List Char} {pieces : List (Piece τ)} :
    Cuts kind s pieces ↔ pieces = segment read s := by
  constructor
  · exact fun hcuts => hcuts.eq_segment h
  · rintro rfl
    obtain ⟨pieces, hcuts⟩ := h.exists_cuts s (TokenKind.avoids_nil s)
    rw [List.nil_append] at hcuts
    exact hcuts.eq_segment h ▸ hcuts

/-! ## Texts that begin afresh -/

/-- A text that no token reaches into: what stands before it is cut as if it stood alone. -/
structure TokenKind.Fresh (kind : TokenKind τ) (behind : List Char) : Prop where
  extend : ∀ {t w rest}, kind t w rest → kind t w (rest ++ behind)
  begins : ∀ {s}, s ≠ [] → kind.Begins (s ++ behind) → kind.Begins s

theorem TokenKind.Avoids.append {p s behind : List Char} (h : kind.Avoids p s)
    (hbehind : kind.Fresh behind) : kind.Avoids p (s ++ behind) := by
  intro u hu hne hbegins
  rw [← List.append_assoc] at hbegins
  exact h u hu hne (hbehind.begins (by simp [hne]) hbegins)

/-- Two stretches make one, if no token reaches from the first into the second. -/
theorem TokenKind.Avoids.merge {p q behind : List Char} (hp : kind.Avoids p [])
    (hq : kind.Avoids q behind) (hfresh : kind.Fresh (q ++ behind)) :
    kind.Avoids (p ++ q) behind := by
  intro u hu hne hbegins
  rcases List.suffix_or_suffix_of_suffix hu (List.suffix_append p q) with hsuffix | ⟨v, rfl⟩
  · exact hq u hsuffix hne hbegins
  · by_cases hnil : v = []
    · rw [hnil, List.nil_append] at hne hbegins
      exact hq q (List.suffix_refl q) hne hbegins
    · rw [List.append_assoc] at hbegins
      refine hp v (List.suffix_append_self_iff.1 hu) hnil ?_
      rw [List.append_nil]
      exact hfresh.begins hnil hbegins

/-- **A token behind a text** is cut out of the joined text, if the text behind begins afresh. -/
theorem Cuts.append_token {s w rest : List Char} {pieces behind : List (Piece τ)} {t : τ}
    (hs : Cuts kind s pieces) (hfresh : kind.Fresh (w ++ rest)) (ht : kind t w rest)
    (hrest : Cuts kind rest behind) : Cuts kind (s ++ (w ++ rest)) (pieces ++ .token t :: behind) := by
  induction hs with
  | rest hp => exact .token (hp.append hfresh) ht hrest
  | @token p w' rest' t' pieces hp ht' _ ih =>
    rw [List.append_assoc, List.append_assoc, List.append_assoc, List.cons_append]
    refine .token ?_ (hfresh.extend ht') ih
    rw [← List.append_assoc]
    exact hp.append hfresh

/-- The stretch that a text begins with, up to its first token. -/
theorem Cuts.exists_stretch {s : List Char} {pieces : List (Piece τ)} (h : Cuts kind s pieces) :
    ∃ q behind back, s = q ++ behind ∧ kind.Avoids q behind ∧ pieces = stretchPieces q ++ back ∧
      ∀ p, kind.Avoids p behind → Cuts kind (p ++ behind) (stretchPieces p ++ back) := by
  cases h with
  | rest hp =>
    refine ⟨s, [], [], by simp, hp, by simp, fun p hp => ?_⟩
    rw [List.append_nil, List.append_nil]
    exact .rest hp
  | @token p w rest t pieces hp ht hrest =>
    exact ⟨p, w ++ rest, .token t :: pieces, rfl, hp, rfl, fun p hp => .token hp ht hrest⟩

/-- **Joined texts are cut as they are cut alone**, but for the two stretches where they meet, if the
second one begins afresh. The stretch that the first one ends with depends on it alone. -/
theorem Cuts.exists_append {s : List Char} {pieces : List (Piece τ)} (h : Cuts kind s pieces) :
    ∃ front p, pieces = front ++ stretchPieces p ∧
      ∀ q behind back, kind.Avoids q behind → kind.Fresh (q ++ behind) →
        (∀ p, kind.Avoids p behind → Cuts kind (p ++ behind) (stretchPieces p ++ back)) →
        Cuts kind (s ++ (q ++ behind)) (front ++ (stretchPieces (p ++ q) ++ back)) := by
  induction h with
  | @rest p hp =>
    refine ⟨[], p, rfl, fun q behind back hq hfresh hcuts => ?_⟩
    rw [← List.append_assoc]
    exact hcuts (p ++ q) (hp.merge hq hfresh)
  | @token p w rest t pieces hp ht _ ih =>
    obtain ⟨front, last, rfl, hjoin⟩ := ih
    refine ⟨stretchPieces p ++ .token t :: front, last, by simp, ?_⟩
    intro q behind back hq hfresh hcuts
    rw [List.append_assoc, List.append_assoc, List.append_assoc, List.cons_append]
    refine .token ?_ (hfresh.extend ht) (hjoin q behind back hq hfresh hcuts)
    rw [← List.append_assoc]
    exact hp.append hfresh

end MediaScraper.Text
