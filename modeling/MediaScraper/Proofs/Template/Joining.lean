import MediaScraper.Proofs.Template.Segmentation

/-!
# Templates around a register token

A register token divides a template: the segments are those of what stands before it, the token, and
those of what stands behind it, if that does not go on with a digit (`segments_register`). So a
token that has no text can be taken out, and what is left are two templates
(`render_register`, `fillRegisters_register`).
-/

namespace MediaScraper.Template

open Text

/-! ## What reaches into what stands behind -/

/-- A group token reaches only into a text that begins with a digit. -/
theorem fresh_groupToken {behind : List Char} (h : ∀ c ∈ behind.head?, ¬ c.isDigit = true) :
    GroupToken.Fresh behind where
  extend ht := ht
  begins := by
    rintro s hne ⟨i, w, rest, heq, hi, rfl⟩
    rcases s with _ | ⟨a, _ | ⟨b, s⟩⟩
    · exact absurd rfl hne
    · obtain ⟨-, rfl⟩ := List.cons.inj heq
      exact absurd (isDigit_iff_digitChar.2 ⟨i, hi, rfl⟩) (h _ rfl)
    · obtain ⟨rfl, hbehind⟩ := List.cons.inj heq
      obtain ⟨rfl, -⟩ := List.cons.inj hbehind
      exact ⟨i, _, s, rfl, hi, rfl⟩

theorem avoids_groupToken {s : List Char} (h : '\\' ∉ s) : GroupToken.Avoids s [] := by
  rintro u hu - ⟨i, w, rest, heq, -, rfl⟩
  rw [List.append_nil] at heq
  exact h (hu.mem (heq ▸ List.mem_cons_self))

theorem begins_registerToken {c : Char} (hc : c.isDigit = true) (s : List Char) :
    RegisterToken.Begins ('$' :: '$' :: c :: s) := by
  refine ⟨(c :: s).takeWhile Char.isDigit, _, (c :: s).dropWhile Char.isDigit, ?_, ⟨?_, ?_⟩, ?_, rfl⟩
  · rw [List.cons_append, List.cons_append, List.takeWhile_append_dropWhile]
  · rw [List.takeWhile_cons_of_pos hc]
    exact List.cons_ne_nil _ _
  · exact fun d hd => List.mem_takeWhile_imp hd
  · intro d hd
    have hhead := List.head?_dropWhile_not Char.isDigit (c :: s)
    rw [hd] at hhead
    simpa using hhead

theorem fresh_registerToken (behind : List Char) : RegisterToken.Fresh ('$' :: '$' :: behind) where
  extend := by
    rintro d w rest ⟨hd, hrest, rfl⟩
    refine ⟨hd, ?_, rfl⟩
    cases rest with
    | nil =>
      rintro _ ⟨⟩
      decide
    | cons a rest => exact hrest
  begins := by
    rintro s hne ⟨d, w, rest, heq, ⟨hd, hdigits⟩, -, rfl⟩
    obtain ⟨a, d, rfl⟩ := List.exists_cons_of_ne_nil hd
    have ha : a.isDigit = true := hdigits a List.mem_cons_self
    rcases s with _ | ⟨x, _ | ⟨y, _ | ⟨z, s⟩⟩⟩
    · exact absurd rfl hne
    -- behind one character or two, the first digit would be a dollar sign
    · obtain ⟨-, rfl, -⟩ : x = '$' ∧ '$' = a ∧ _ := by simpa using heq
      exact absurd ha (by decide)
    · obtain ⟨-, -, rfl, -⟩ : x = '$' ∧ y = '$' ∧ '$' = a ∧ _ := by simpa using heq
      exact absurd ha (by decide)
    · obtain ⟨rfl, rfl, rfl, -⟩ : x = '$' ∧ y = '$' ∧ z = a ∧ _ := by simpa using heq
      exact begins_registerToken ha s

/-! ## Dividing a template -/

theorem cutLiterals_append {τ : Type} (read : List Char → Option (τ × Nat)) (token : τ → Segment)
    (segs segs' : List Segment) : cutLiterals read token (segs ++ segs') =
      cutLiterals read token segs ++ cutLiterals read token segs' :=
  List.flatMap_append

theorem cutLiterals_cons_register {τ : Type} (read : List Char → Option (τ × Nat))
    (token : τ → Segment) (d : List Char) (segs : List Segment) :
    cutLiterals read token (.register d :: segs) = .register d :: cutLiterals read token segs := rfl

theorem cutLiterals_stretch {σ τ : Type} (read : List Char → Option (τ × Nat)) (token : τ → Segment)
    (token' : σ → Segment) (p : List Char) :
    cutLiterals read token ((stretchPieces p).map (.ofPiece token')) =
      (segment read p).map (.ofPiece token) := by
  unfold stretchPieces
  split
  · next hnil =>
    rw [hnil]
    rfl
  · exact List.append_nil _

section

variable {d : List Char} (hd : d ≠ []) (hdigits : ∀ c ∈ d, c.isDigit = true) {t : List Char}
  (ht : ∀ c ∈ t.head?, ¬ c.isDigit = true)
include hd hdigits ht

/-- Register tokens divide the literals that they stand in. -/
theorem segment_register (s : List Char) :
    segment register? (s ++ ('$' :: '$' :: d ++ t)) =
      segment register? s ++ .token d :: segment register? t := by
  have htoken : RegisterToken d ('$' :: '$' :: d) t := ⟨⟨hd, hdigits⟩, ht, rfl⟩
  have hs : Cuts RegisterToken s (segment register? s) := reads_register?.cuts_iff.2 rfl
  refine (reads_register?.cuts_iff.1 (hs.append_token ?_ htoken ?_)).symm
  · exact fresh_registerToken (d ++ t)
  · exact reads_register?.cuts_iff.2 rfl

/-- At its groups, a template is cut as the texts around a register token are, but for the literal
that the token stands in. That one is cut as the stretches around the token are. -/
theorem exists_literal (s : List Char) : ∃ front p x q back,
    segment group? s = front ++ stretchPieces p ∧ segment group? t = stretchPieces q ++ back ∧
      segment group? (s ++ ('$' :: '$' :: d ++ t)) = front ++ .plain x :: back ∧
      segment register? x = segment register? p ++ .token d :: segment register? q := by
  have hs : Cuts GroupToken s (segment group? s) := reads_group?.cuts_iff.2 rfl
  have hcuts : Cuts GroupToken t (segment group? t) := reads_group?.cuts_iff.2 rfl
  obtain ⟨q, behind, back, rfl, hq, hback, hstretch⟩ := hcuts.exists_stretch
  obtain ⟨front, p, hfront, hjoin⟩ := hs.exists_append
  have hslash : '\\' ∉ '$' :: '$' :: d := by
    simp only [List.mem_cons, not_or]
    exact ⟨by decide, by decide, fun hmem => absurd (hdigits _ hmem) (by decide)⟩
  have hmiddle : GroupToken.Avoids ('$' :: '$' :: d ++ q) behind :=
    (avoids_groupToken hslash).merge hq (fresh_groupToken ht)
  have hfresh : GroupToken.Fresh ('$' :: '$' :: d ++ q ++ behind) :=
    fresh_groupToken fun c hc => by cases hc; decide
  have hwhole := hjoin _ behind back hmiddle hfresh hstretch
  refine ⟨front, p, p ++ ('$' :: '$' :: d ++ q), q, back, hfront, hback, ?_, ?_⟩
  · rw [List.append_assoc] at hwhole
    rw [← reads_group?.cuts_iff.1 hwhole]
    simp [stretchPieces]
  · refine segment_register hd hdigits ?_ p
    cases q with
    | nil => rintro c ⟨⟩
    | cons c q => exact ht

/-- **A register token divides a template**: its segments are those of the text before it, the token,
and the segments of the text behind it. -/
theorem segments_register (s : List Char) :
    segments (s ++ ('$' :: '$' :: d ++ t)) = segments s ++ .register d :: segments t := by
  obtain ⟨front, p, x, q, back, hs, hbehind, hwhole, hx⟩ := exists_literal hd hdigits ht s
  have hgroups (u : List Char) : cutLiterals group? .group [.literal u] =
      (segment group? u).map (.ofPiece .group) := List.append_nil _
  have hliteral (segs : List Segment) : cutLiterals register? .register (.literal x :: segs) =
      (segment register? p).map (.ofPiece .register) ++ .register d ::
        ((segment register? q).map (.ofPiece .register) ++
          cutLiterals register? .register segs) := by
    show (segment register? x).map _ ++ _ = _
    rw [hx, List.map_append, List.append_assoc]
    rfl
  rw [segments, segments, segments, hgroups, hgroups, hgroups, hs, hbehind, hwhole]
  simp only [List.map_append, List.map_cons, Segment.ofPiece, cutLiterals_append, hliteral,
    cutLiterals_stretch, cutLiterals_cons_register, List.append_assoc]

end

/-! ## Rendering around a register token -/

theorem toList_around_register (s digits behind : String) :
    (s ++ ("$$" ++ digits) ++ behind).toList =
      s.toList ++ ('$' :: '$' :: digits.toList ++ behind.toList) := by
  simp only [String.toList_append, List.append_assoc]
  rfl

/-- Replacing one kind of token is writing something else for each of them. -/
theorem toList_join_fill {τ : Type} (read : List Char → Option (τ × Nat)) (value : τ → List Char)
    (s : List Char) :
    (join (fill read value [.opened s])).toList = replaceTokens read value s := by
  rw [join, String.toList_ofList, fill, List.flatMap_singleton, List.flatMap_map]
  refine List.flatMap_congr fun piece _ => ?_
  cases piece <;> rfl

theorem toList_fillRegisters (s : String) (src : Source) :
    (fillRegisters s src).toList = replaceTokens register? src.registerText s.toList := by
  rw [fillRegisters_eq_join, toList_join_fill]

section

variable {digits : String} (hd : digits.toList ≠ []) (hdigits : ∀ c ∈ digits.toList, c.isDigit = true)
  {behind : String} (hbehind : ∀ c ∈ behind.toList.head?, ¬ c.isDigit = true)

include hd hdigits hbehind

/-- **A register token is rendered apart** from what stands around it. -/
theorem render_register (s : String) (groups : List String) (src : Source) :
    render (s ++ ("$$" ++ digits) ++ behind) groups src =
      render s groups src ++ .ofList (src.registerText digits.toList) ++
        render behind groups src := by
  have hsegment : (Segment.register digits.toList).HasDigits := ⟨hd, hdigits⟩
  have htoken : (Segment.register digits.toList).text groups src =
      src.registerText digits.toList := (Segment.text_part groups src hsegment).symm
  refine String.toList_inj.1 ?_
  rw [String.toList_append, String.toList_append, String.toList_ofList, toList_render,
    toList_render, toList_render, toList_around_register, segments_register hd hdigits hbehind,
    List.flatMap_append, List.flatMap_cons, htoken, List.append_assoc]

theorem fillRegisters_register (s : String) (src : Source) :
    fillRegisters (s ++ ("$$" ++ digits) ++ behind) src =
      fillRegisters s src ++ .ofList (src.registerText digits.toList) ++
        fillRegisters behind src := by
  refine String.toList_inj.1 ?_
  rw [String.toList_append, String.toList_append, String.toList_ofList, toList_fillRegisters,
    toList_fillRegisters, toList_fillRegisters, toList_around_register, replaceTokens,
    segment_register hd hdigits hbehind, List.flatMap_append, List.flatMap_cons, List.append_assoc]
  rfl

end

end MediaScraper.Template
