import MediaScraper.Html.Fragment
import MediaScraper.Text.Search

/-!
# Line ends

Before a text is read as HTML, its line ends are written as line feeds: the text and the one that is
read are related character by character (`Unifies`, `unifies_unifyLines`). So a text without carriage
returns is read as it is (`normalize_of_not_mem`), and what a text does not hold is not read
(`not_mem_normalize`). Words and blanks are the same in both texts (`Unifies.startsIgnoringCase`,
`Unifies.head_dropWhile`).
-/

namespace MediaScraper.Html

/-- A text with other line ends: what is a line feed in the second may be a carriage return in the
first, or both. -/
inductive Unifies : List Char → List Char → Prop
  | nil : Unifies [] []
  | cons (c : Char) {s t : List Char} : Unifies s t → Unifies (c :: s) (c :: t)
  | carriage {s t : List Char} : Unifies s t → Unifies ('\r' :: s) ('\n' :: t)
  | both {s t : List Char} : Unifies s t → Unifies ('\r' :: '\n' :: s) ('\n' :: t)

theorem exists_unifies (lines s : List Char) :
    ∃ t, unifyLines lines s = lines.reverse ++ t ∧ Unifies s t := by
  fun_induction unifyLines lines s with
  | case1 lines => exact ⟨[], (List.append_nil _).symm, .nil⟩
  | case2 lines cs ih =>
    obtain ⟨t, ht, h⟩ := ih
    exact ⟨'\n' :: t, by rw [ht, List.reverse_cons, List.append_assoc]; rfl, .both h⟩
  | case3 lines cs _ ih =>
    obtain ⟨t, ht, h⟩ := ih
    exact ⟨'\n' :: t, by rw [ht, List.reverse_cons, List.append_assoc]; rfl, .carriage h⟩
  | case4 lines c cs _ _ ih =>
    obtain ⟨t, ht, h⟩ := ih
    exact ⟨c :: t, by rw [ht, List.reverse_cons, List.append_assoc]; rfl, .cons c h⟩

theorem unifies_unifyLines (s : List Char) : Unifies s (unifyLines [] s) := by
  obtain ⟨t, ht, h⟩ := exists_unifies [] s
  exact ht ▸ h

/-! ## What is read of a text -/

/-- A text without carriage returns has line feeds only. -/
theorem Unifies.eq_of_not_mem {s t : List Char} (h : Unifies s t) (hs : '\r' ∉ s) : t = s := by
  induction h with
  | nil => rfl
  | cons c _ ih => rw [ih fun hmem => hs (List.mem_cons_of_mem c hmem)]
  | carriage _ _ => exact absurd List.mem_cons_self hs
  | both _ _ => exact absurd List.mem_cons_self hs

theorem Unifies.mem {s t : List Char} (h : Unifies s t) {c : Char} (hc : c ≠ '\n') (ht : c ∈ t) :
    c ∈ s := by
  induction h with
  | nil => exact ht
  | cons d _ ih => exact List.mem_cons.2 ((List.mem_cons.1 ht).imp_right ih)
  | carriage _ ih => exact List.mem_cons_of_mem _ (ih ((List.mem_cons.1 ht).resolve_left hc))
  | both _ ih =>
    exact List.mem_cons_of_mem _ (List.mem_cons_of_mem _ (ih ((List.mem_cons.1 ht).resolve_left hc)))

theorem normalize_of_not_mem {s : List Char} (hmark : s.head? ≠ some '\uFEFF') (hline : '\r' ∉ s) :
    normalize s = s := by
  rw [normalize, if_neg hmark, (unifies_unifyLines s).eq_of_not_mem hline]

theorem not_mem_normalize {s : List Char} {c : Char} (hc : c ≠ '\n') (hs : c ∉ s) :
    c ∉ normalize s := by
  intro hmem
  have hread := (unifies_unifyLines _).mem hc hmem
  split at hread
  · exact hs (List.mem_of_mem_drop hread)
  · exact hs hread

/-! ## Words and blanks -/

theorem Unifies.head_dropWhile {s t : List Char} (h : Unifies s t)
    (ht : (t.dropWhile isBlank).head? = some '=') : (s.dropWhile isBlank).head? = some '=' := by
  induction h with
  | nil => exact ht
  | cons c _ ih =>
    rw [List.dropWhile_cons] at ht ⊢
    split at ht
    · next hc => rw [if_pos hc]; exact ih ht
    · next hc => rw [if_neg hc]; exact ht
  | carriage _ ih => exact ih ht
  | both _ ih => exact ih ht

theorem startsIgnoringCase_cons_iff {d c : Char} {p s : List Char} :
    Text.startsIgnoringCase (d :: p) (c :: s) = true ↔
      d.toLower = c.toLower ∧ Text.startsIgnoringCase p s = true := by
  simp [Text.startsIgnoringCase, Text.eqIgnoringCase]

theorem Unifies.startsIgnoringCase {p s t : List Char} (h : Unifies s t)
    (hp : '\n' ∉ p.map Char.toLower) (hstart : Text.startsIgnoringCase p t = true) :
    Text.startsIgnoringCase p s = true ∧ Unifies (s.drop p.length) (t.drop p.length) := by
  induction p generalizing s t with
  | nil => exact ⟨by simp [Text.startsIgnoringCase, Text.eqIgnoringCase], h⟩
  | cons d p ih =>
    rw [List.map_cons, List.mem_cons, not_or] at hp
    have hline {t : List Char} (hline : Text.startsIgnoringCase (d :: p) ('\n' :: t) = true) :
        False := by
      rw [startsIgnoringCase_cons_iff] at hline
      exact hp.1 hline.1.symm
    cases h with
    | nil => cases hstart
    | carriage h => exact (hline hstart).elim
    | both h => exact (hline hstart).elim
    | cons c h =>
      rw [startsIgnoringCase_cons_iff] at hstart ⊢
      obtain ⟨hstart', hbehind⟩ := ih h hp.2 hstart.2
      exact ⟨⟨hstart.1, hstart'⟩, hbehind⟩

end MediaScraper.Html
