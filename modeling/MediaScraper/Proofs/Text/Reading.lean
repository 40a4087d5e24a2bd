import Mathlib.Data.List.Infix
import MediaScraper.Text.Segment

/-!
# Readers of tokens and of items

**Quiet texts.** A text in which a token reader finds nothing, from no place on, is one single
stretch, so replacing tokens leaves it as it is (`replaceTokens_of_quiet`).

**Items.** Reading without gaps is a recursion on the text: the item at its beginning, then the
items of what is left behind it (`items_of_ok`).
-/

namespace MediaScraper.Text

variable {τ ε : Type}

/-! ## Quiet texts -/

/-- The reader finds a token nowhere in the text. -/
def Quiet (read : List Char → Option (τ × Nat)) (s : List Char) : Prop :=
  ∀ u, u <:+ s → u ≠ [] → read u = none

instance (read : List Char → Option (τ × Nat)) : DecidablePred (Quiet read) := fun s =>
  decidable_of_iff (∀ u ∈ s.tails, u ≠ [] → read u = none)
    (forall_congr' fun _ => by rw [List.mem_tails])

theorem quiet_cons {read : List Char → Option (τ × Nat)} {c : Char} {s : List Char} :
    Quiet read (c :: s) ↔ read (c :: s) = none ∧ Quiet read s := by
  constructor
  · intro h
    exact ⟨h _ (List.suffix_refl _) (List.cons_ne_nil c s),
      fun u hu => h u (hu.trans (List.suffix_cons c s))⟩
  · rintro ⟨h, hs⟩ u hu hne
    rcases List.suffix_cons_iff.1 hu with rfl | hu
    · exact h
    · exact hs u hu hne

theorem segmentFrom_of_quiet {read : List Char → Option (τ × Nat)} {s : List Char}
    (h : Quiet read s) (stretch : List Char) :
    segmentFrom read 0 stretch [] s = (pushPlain (s.reverse ++ stretch) []).reverse := by
  induction s generalizing stretch with
  | nil => rfl
  | cons c s ih =>
    obtain ⟨hc, hs⟩ := quiet_cons.1 h
    rw [segmentFrom, hc, List.reverse_cons, List.append_assoc]
    exact ih hs (c :: stretch)

/-- **Where no token stands, nothing is replaced.** -/
theorem replaceTokens_of_quiet {read : List Char → Option (τ × Nat)} (write : τ → List Char)
    {s : List Char} (h : Quiet read s) : replaceTokens read write s = s := by
  rw [replaceTokens, segment, segmentFrom_of_quiet h, List.append_nil, pushPlain]
  cases s with
  | nil => rfl
  | cons c s => simp

/-! ## Items -/

theorem itemsFrom_eq (read : List Char → Except ε (τ × Nat)) (skip : Nat) (passed : List τ)
    (s : List Char) :
    itemsFrom read skip passed s =
      (passed.reverse ++ (items read (s.drop skip)).1, (items read (s.drop skip)).2) := by
  induction s generalizing skip passed with
  | nil => cases skip <;> simp [itemsFrom, items]
  | cons c s ih =>
    cases skip with
    | succ skip => rw [itemsFrom, ih, List.drop_succ_cons]
    | zero =>
      rw [List.drop_zero, items, itemsFrom, itemsFrom]
      cases read (c :: s) with
      | error e => simp
      | ok item =>
        simp only
        rw [ih, ih (item.2 - 1) [item.1]]
        simp

/-- **Reading without gaps** takes the item at the beginning and goes on behind it. -/
theorem items_of_ok {read : List Char → Except ε (τ × Nat)} {s rest : List Char} {item : τ}
    (hs : s ≠ []) (h : read (s ++ rest) = .ok (item, s.length)) :
    items read (s ++ rest) = (item :: (items read rest).1, (items read rest).2) := by
  cases s with
  | nil => exact absurd rfl hs
  | cons c s =>
    rw [List.cons_append] at h ⊢
    rw [items, itemsFrom, h]
    simp only
    rw [itemsFrom_eq, List.length_cons, Nat.add_sub_cancel, List.drop_left]
    simp

end MediaScraper.Text
