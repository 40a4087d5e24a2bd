import MediaScraper.Unicode.CharSet

/-!
# Members of sets of characters

A number is covered by ranges if it lies in one of them (`Covers`). Bringing ranges into normal form
keeps what they cover, but for the surrogates (`covers_ofRanges`); and where ranges are sorted,
looking for a member from the left finds what is covered (`containsFrom_iff`). So a character is in
the set of some ranges if these cover it (`contains_ofRanges`), whatever their order.
-/

namespace MediaScraper.CharSet

/-- The number lies in one of the ranges. -/
def Covers (rs : List CharRange) (n : Nat) : Prop := ∃ r ∈ rs, r.lo ≤ n ∧ n ≤ r.hi

/-- The ranges are in the order of their lower ends. -/
def Sorted (rs : List CharRange) : Prop := rs.Pairwise fun a b => a.lo ≤ b.lo

variable {rs : List CharRange} {n : Nat}

@[simp]
theorem covers_nil : ¬ Covers [] n := by simp [Covers]

@[simp]
theorem covers_cons {r : CharRange} :
    Covers (r :: rs) n ↔ (r.lo ≤ n ∧ n ≤ r.hi) ∨ Covers rs n := by
  simp [Covers]

@[simp]
theorem covers_append {rs' : List CharRange} :
    Covers (rs ++ rs') n ↔ Covers rs n ∨ Covers rs' n := by
  simp [Covers, or_and_right, exists_or]

theorem covers_flatMap {α : Type} {as : List α} {f : α → List CharRange} :
    Covers (as.flatMap f) n ↔ ∃ a ∈ as, Covers (f a) n := by
  simp only [Covers, List.mem_flatMap]
  grind

theorem containsFrom_iff (h : Sorted rs) : containsFrom n rs = true ↔ Covers rs n := by
  induction rs with
  | nil => simp [containsFrom]
  | cons r rs ih =>
    obtain ⟨hr, hrs⟩ := List.pairwise_cons.1 h
    rw [containsFrom, covers_cons]
    split
    · next hlt =>
      have hnone : ¬ Covers rs n := by
        rintro ⟨q, hq, hlo, -⟩
        have hle := hr q hq
        omega
      simp only [hnone, or_false, Bool.false_eq_true, false_iff]
      omega
    · next hge =>
      rw [Bool.or_eq_true, ih hrs, decide_eq_true_iff]
      exact or_congr_left ⟨fun hn => ⟨Nat.le_of_not_lt hge, hn⟩, And.right⟩

/-- **Joining neighbours** keeps the order, the lowest end and what is covered. -/
theorem joinFrom_spec {r : CharRange} (h : Sorted (r :: rs)) :
    Sorted (joinFrom r rs) ∧ (∀ q ∈ joinFrom r rs, r.lo ≤ q.lo) ∧
      ∀ n, Covers (joinFrom r rs) n ↔ Covers (r :: rs) n := by
  induction rs generalizing r with
  | nil => exact ⟨h, by simp [joinFrom], fun n => Iff.rfl⟩
  | cons q rs ih =>
    obtain ⟨hr, hq⟩ := List.pairwise_cons.1 h
    obtain ⟨hq, hrs⟩ := List.pairwise_cons.1 hq
    obtain ⟨hrq, hr⟩ := List.forall_mem_cons.1 hr
    rw [joinFrom]
    split
    · next hjoin =>
      obtain ⟨hsorted, hlow, hcovers⟩ :=
        ih (r := ⟨r.lo, max r.hi q.hi⟩) (List.pairwise_cons.2 ⟨hr, hrs⟩)
      refine ⟨hsorted, hlow, fun n => (hcovers n).trans ?_⟩
      rw [covers_cons, covers_cons, covers_cons, ← or_assoc]
      refine or_congr_left ?_
      simp only
      omega
    · obtain ⟨hsorted, hlow, hcovers⟩ := ih (List.pairwise_cons.2 ⟨hq, hrs⟩)
      have hall : ∀ p ∈ joinFrom q rs, r.lo ≤ p.lo := fun p hp => Nat.le_trans hrq (hlow p hp)
      refine ⟨List.pairwise_cons.2 ⟨hall, hsorted⟩,
        List.forall_mem_cons.2 ⟨Nat.le_refl _, hall⟩, fun n => ?_⟩
      rw [covers_cons, covers_cons, hcovers n]

/-- Surrogates are no characters. -/
def IsSurrogate (n : Nat) : Prop := 0xD800 ≤ n ∧ n ≤ 0xDFFF

theorem not_isSurrogate (c : Char) : ¬ IsSurrogate c.toNat := by
  have hvalid : c.toNat < 0xD800 ∨ 0xDFFF < c.toNat ∧ c.toNat < 0x110000 := c.valid
  rw [IsSurrogate]
  omega

theorem covers_dropSurrogates {r : CharRange} :
    Covers (dropSurrogates r) n ↔ (r.lo ≤ n ∧ n ≤ r.hi) ∧ ¬ IsSurrogate n := by
  simp only [Covers, dropSurrogates, List.mem_filter, List.mem_cons, List.not_mem_nil, or_false,
    decide_eq_true_iff, IsSurrogate]
  constructor
  · rintro ⟨q, ⟨rfl | rfl, -⟩, hlo, hhi⟩ <;> simp only at hlo hhi <;> omega
  · rintro ⟨⟨hlo, hhi⟩, hn⟩
    by_cases hlow : n < 0xD800
    · exact ⟨_, ⟨.inl rfl, by simp only; omega⟩, by simp only; omega, by simp only; omega⟩
    · exact ⟨_, ⟨.inr rfl, by simp only; omega⟩, by simp only; omega, by simp only; omega⟩

theorem ofRanges_spec (rs : List CharRange) : Sorted (ofRanges rs).ranges ∧
    ∀ n, Covers (ofRanges rs).ranges n ↔ Covers rs n ∧ ¬ IsSurrogate n := by
  have hsorted : Sorted ((rs.flatMap dropSurrogates).mergeSort fun a b => a.lo ≤ b.lo) := by
    refine (List.pairwise_mergeSort (fun a b c hab hbc => ?_) (fun a b => ?_) _).imp ?_
    · simp only [decide_eq_true_iff] at hab hbc ⊢
      omega
    · simp only [Bool.or_eq_true, decide_eq_true_iff]
      omega
    · exact fun h => of_decide_eq_true h
  have hcovers (n : Nat) : Covers ((rs.flatMap dropSurrogates).mergeSort fun a b => a.lo ≤ b.lo) n ↔
      Covers rs n ∧ ¬ IsSurrogate n := by
    have hflat : Covers (rs.flatMap dropSurrogates) n ↔ Covers rs n ∧ ¬ IsSurrogate n := by
      simp only [covers_flatMap, covers_dropSurrogates]
      exact ⟨fun ⟨r, hr, hin, hn⟩ => ⟨⟨r, hr, hin⟩, hn⟩, fun ⟨⟨r, hr, hin⟩, hn⟩ => ⟨r, hr, hin, hn⟩⟩
    rw [← hflat]
    simp only [Covers, List.mem_mergeSort]
  rw [ofRanges]
  generalize (rs.flatMap dropSurrogates).mergeSort _ = sorted at hsorted hcovers
  cases sorted with
  | nil => exact ⟨hsorted, hcovers⟩
  | cons r sorted =>
    obtain ⟨hjoined, -, hjoin⟩ := joinFrom_spec hsorted
    exact ⟨hjoined, fun n => (hjoin n).trans (hcovers n)⟩

/-- **Ranges in normal form** cover what they covered before, but for the surrogates. -/
theorem covers_ofRanges : Covers (ofRanges rs).ranges n ↔ Covers rs n ∧ ¬ IsSurrogate n :=
  (ofRanges_spec rs).2 n

/-- **A character is in the set of some ranges** if these cover it. -/
theorem contains_ofRanges (c : Char) : (ofRanges rs).contains c = true ↔ Covers rs c.toNat := by
  rw [contains, containsScalar, containsFrom_iff (ofRanges_spec rs).1, covers_ofRanges]
  exact and_iff_left (not_isSurrogate c)

end MediaScraper.CharSet
