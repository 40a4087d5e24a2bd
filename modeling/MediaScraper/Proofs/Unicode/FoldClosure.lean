import Mathlib.Data.List.Pairwise
import Mathlib.Data.List.TakeWhile
import MediaScraper.Proofs.Unicode.CharSet
import MediaScraper.Unicode.CaseFolding

/-!
# Sets closed under case

Closing a set under case adds what folding moves its members to, and then what it moves into the
set. Two such steps are enough, because what a character is moved to stays (`fold_fold`). So a
character is in the closed set if it folds to the same as a member does (`contains_close`).

**The table of blocks.** That folding reads the same whichever of its blocks moves a character, and
that no block moves what another one makes, is computed from the table, two blocks at a time
(`agree_blocks`, `misses_blocks`). The table is sorted, so only the blocks around a range have to be
looked at for it (`mem_around`).
-/

namespace MediaScraper.CaseFolding

open CharSet (Covers IsSurrogate)

variable {a b : FoldBlock} {n : Nat}

/-! ## The blocks -/

/-- Blocks with a common range shift alike. -/
def agree (a b : FoldBlock) : Bool :=
  a.hi.blt b.lo || b.hi.blt a.lo || decide (a.shift = b.shift)

/-- Block `b` lies apart from what block `a` makes, or has every second character, and the others
are what `a` makes. -/
def misses (a b : FoldBlock) : Bool :=
  (a.hi + a.shift).toNat.blt b.lo || b.hi.blt (a.lo + a.shift).toNat ||
    (b.step.beq 2 && (a.step.beq 2 || a.lo.beq a.hi) &&
      (((a.lo + a.shift).toNat + b.lo) % 2).beq 1)

/-- A block has every character of its range or every second one, and makes characters. -/
def regular (b : FoldBlock) : Bool :=
  (b.step.beq 1 || b.step.beq 2) && decide (0 ≤ b.lo + b.shift) &&
    (decide (b.hi + b.shift < 0xD800) || decide (0xDFFF < b.lo + b.shift))

theorem pairwise_blocks : blocks.Pairwise fun a b => a.lo ≤ b.lo := by
  have htrans : IsTrans FoldBlock fun a b => a.lo ≤ b.lo := ⟨fun _ _ _ => Nat.le_trans⟩
  have hchain : blocks.IsChain fun a b => a.lo ≤ b.lo := by decide +kernel
  exact List.isChain_iff_pairwise.1 hchain

/-- The blocks from the first one that reaches a range to the last one that begins in it. -/
def around (lo hi : Nat) : List FoldBlock :=
  (blocks.dropWhile fun b => b.hi.blt lo).takeWhile fun b => b.lo.ble hi

/-- **A block that meets a range** is one of these. -/
theorem mem_around (hb : b ∈ blocks) {lo hi : Nat} (hlo : lo ≤ b.hi) (hhi : b.lo ≤ hi) :
    b ∈ around lo hi := by
  have hbehind : b ∈ blocks.dropWhile fun b => b.hi.blt lo := by
    rw [← List.takeWhile_append_dropWhile (p := fun b : FoldBlock => b.hi.blt lo) (l := blocks)]
      at hb
    refine (List.mem_append.1 hb).resolve_left fun hfront => ?_
    have hbefore := List.mem_takeWhile_imp hfront
    rw [Nat.blt_eq] at hbefore
    omega
  have hsorted := pairwise_blocks.sublist (List.dropWhile_sublist fun b => b.hi.blt lo)
  rw [around]
  generalize blocks.dropWhile (fun b => b.hi.blt lo) = bs at hbehind hsorted
  -- in sorted blocks, those that begin in the range come first
  induction bs with
  | nil => cases hbehind
  | cons c cs ih =>
    obtain ⟨hfirst, hrest⟩ := List.pairwise_cons.1 hsorted
    have hc : c.lo ≤ hi := by
      rcases List.mem_cons.1 hbehind with rfl | hmem
      · exact hhi
      · exact (hfirst b hmem).trans hhi
    rw [List.takeWhile_cons, if_pos (Nat.ble_eq_true_of_le hc)]
    rcases List.mem_cons.1 hbehind with rfl | hmem
    · exact List.mem_cons_self
    · exact List.mem_cons_of_mem c (ih hmem hrest)

theorem agree_blocks : (blocks.all fun a => (around a.lo a.hi).all fun b => agree a b) = true := by
  decide +kernel

theorem misses_blocks : (blocks.all fun a =>
    (around (a.lo + a.shift).toNat (a.hi + a.shift).toNat).all fun b => misses a b) = true := by
  decide +kernel

theorem agree_of_mem (ha : a ∈ blocks) (hb : b ∈ blocks) : agree a b = true := by
  by_cases hmeet : a.lo ≤ b.hi ∧ b.lo ≤ a.hi
  · have hall := List.all_eq_true.1 agree_blocks a ha
    exact List.all_eq_true.1 hall b (mem_around hb hmeet.1 hmeet.2)
  · simp only [agree, Bool.or_eq_true, Nat.blt_eq]
    omega

theorem misses_of_mem (ha : a ∈ blocks) (hb : b ∈ blocks) : misses a b = true := by
  by_cases hmeet : (a.lo + a.shift).toNat ≤ b.hi ∧ b.lo ≤ (a.hi + a.shift).toNat
  · have hall := List.all_eq_true.1 misses_blocks a ha
    exact List.all_eq_true.1 hall b (mem_around hb hmeet.1 hmeet.2)
  · simp only [misses, Bool.or_eq_true, Nat.blt_eq]
    omega

theorem regular_blocks : blocks.all regular = true := by
  decide

theorem regular_of_mem (hb : b ∈ blocks) : (b.step = 1 ∨ b.step = 2) ∧ 0 ≤ b.lo + b.shift ∧
    (b.hi + b.shift < 0xD800 ∨ 0xDFFF < b.lo + b.shift) := by
  simpa [regular, and_assoc] using List.all_eq_true.1 regular_blocks b hb

theorem moves_iff : moves n b = true ↔ b.lo ≤ n ∧ n ≤ b.hi ∧ (n - b.lo) % b.step = 0 := by
  simp [moves, and_assoc]

theorem shift_eq_of_moves (ha : a ∈ blocks) (hb : b ∈ blocks) (hna : moves n a = true)
    (hnb : moves n b = true) : a.shift = b.shift := by
  obtain ⟨halo, hahi, -⟩ := moves_iff.1 hna
  obtain ⟨hblo, hbhi, -⟩ := moves_iff.1 hnb
  have h := agree_of_mem ha hb
  simp only [agree, Bool.or_eq_true, Nat.blt_eq, decide_eq_true_iff] at h
  omega

/-- **What a block makes** is moved by no block. -/
theorem not_moves_shifted (ha : a ∈ blocks) (hb : b ∈ blocks) (hna : moves n a = true) :
    moves (n + a.shift).toNat b = false := by
  obtain ⟨hlo, hhi, hstep⟩ := moves_iff.1 hna
  obtain ⟨hsteps, hpos, -⟩ := regular_of_mem ha
  have h := misses_of_mem ha hb
  simp only [misses, Bool.or_eq_true, Bool.and_eq_true, Nat.blt_eq, Nat.beq_eq] at h
  refine Bool.eq_false_iff.2 fun hmoves => ?_
  obtain ⟨hblo, hbhi, hbstep⟩ := moves_iff.1 hmoves
  obtain (h | h) | ⟨⟨htwo, heven⟩, hodd⟩ := h
  · omega
  · omega
  · rw [htwo] at hbstep
    obtain heven | hone := heven
    · rw [heven] at hstep
      omega
    · omega

/-! ## Folding -/

/-- Some block moves the character. -/
def Moved (n : Nat) : Prop := ∃ b ∈ blocks, moves n b = true

theorem fold_of_moves (hb : b ∈ blocks) (h : moves n b = true) : fold n = (n + b.shift).toNat := by
  rw [fold]
  cases hfind : blocks.find? (moves n) with
  | none =>
    exact absurd h (List.find?_eq_none.1 hfind b hb)
  | some a =>
    have hmoves : moves n a = true := List.find?_some hfind
    simp only [shift_eq_of_moves (List.mem_of_find?_eq_some hfind) hb hmoves h]

theorem fold_of_not_moved (h : ¬ Moved n) : fold n = n := by
  have hfind : blocks.find? (moves n) = none :=
    List.find?_eq_none.2 fun b hb hmoves => h ⟨b, hb, hmoves⟩
  rw [fold, hfind]

theorem not_moved_fold (h : Moved n) : ¬ Moved (fold n) := by
  obtain ⟨a, ha, hna⟩ := h
  rintro ⟨b, hb, hmoves⟩
  rw [fold_of_moves ha hna, not_moves_shifted ha hb hna] at hmoves
  cases hmoves

theorem not_isSurrogate_fold (h : Moved n) : ¬ IsSurrogate (fold n) := by
  obtain ⟨a, ha, hna⟩ := h
  obtain ⟨hlo, hhi, -⟩ := moves_iff.1 hna
  obtain ⟨-, hpos, hout⟩ := regular_of_mem ha
  rw [fold_of_moves ha hna, IsSurrogate]
  omega

/-- **What a character folds to** stays. -/
theorem fold_fold (n : Nat) : fold (fold n) = fold n := by
  by_cases h : Moved n
  · exact fold_of_not_moved (not_moved_fold h)
  · rw [fold_of_not_moved h, fold_of_not_moved h]

/-! ## What the blocks move out of a range, and into it -/

theorem covers_members (hb : b ∈ blocks) {lo hi : Int} :
    Covers (members b lo hi) n ↔ moves n b = true ∧ lo ≤ n ∧ n ≤ hi := by
  rw [moves_iff]
  unfold members
  -- all that matters of the first and the last character that may be members
  have hleast (k : Nat) : (max lo b.lo).toNat ≤ k ↔ lo ≤ k ∧ b.lo ≤ k := by omega
  have hbounds := (hleast (max lo b.lo).toNat).1 (Nat.le_refl _)
  have hfrom := hleast n
  have huntil : (n : Int) ≤ min hi b.hi ↔ n ≤ hi ∧ n ≤ b.hi := by omega
  clear hleast
  generalize (max lo b.lo).toNat = least at *
  generalize min hi b.hi = last at *
  obtain hone | htwo := (regular_of_mem hb).1
  · simp only [hone, Nat.mod_one, if_true, and_true]
    split
    · simp only [CharSet.covers_nil, false_iff]
      omega
    · simp only [CharSet.covers_cons, CharSet.covers_nil, or_false]
      omega
  · simp only [htwo]
    split
    · simp only [CharSet.covers_nil, false_iff]
      omega
    · rw [if_neg (by decide)]
      simp only [Covers, List.mem_map, List.mem_range]
      constructor
      · rintro ⟨_, ⟨i, hi, rfl⟩, hfirst, hlast⟩
        simp only at hfirst hlast
        omega
      · rintro ⟨⟨hblo, hbhi, hstep⟩, hlo, hhi⟩
        refine ⟨⟨n, n⟩, ⟨(n - b.lo) / 2 - (least - b.lo + 1) / 2, ?_, ?_⟩, ?_, ?_⟩
        · omega
        · simp only [CharRange.mk.injEq]
          omega
        · exact Nat.le_refl _
        · exact Nat.le_refl _

theorem bounds_of_mem_members {lo hi : Int} {q : CharRange} (h : q ∈ members b lo hi) :
    b.lo ≤ q.lo ∧ q.lo ≤ q.hi := by
  unfold members at h
  simp only at h
  split at h
  · cases h
  · split at h
    · rw [List.mem_singleton] at h
      rw [h]
      simp only
      omega
    · obtain ⟨i, -, rfl⟩ := List.mem_map.1 h
      simp only
      omega

theorem covers_images (hb : b ∈ blocks) {r : CharRange} :
    Covers (images r b) n ↔
      ∃ m, moves m b = true ∧ (r.lo ≤ m ∧ m ≤ r.hi) ∧ (m + b.shift).toNat = n := by
  have hpos := (regular_of_mem hb).2.1
  unfold images
  split
  · next hapart =>
    simp only [CharSet.covers_nil, false_iff, not_exists, not_and]
    intro m hm
    obtain ⟨hlo, hhi, -⟩ := moves_iff.1 hm
    omega
  · constructor
    · rintro ⟨_, hmap, hlo, hhi⟩
      obtain ⟨q, hq, rfl⟩ := List.mem_map.1 hmap
      simp only at hlo hhi
      obtain ⟨hble, hqle⟩ := bounds_of_mem_members hq
      have hcovers : Covers (members b r.lo r.hi) (n - b.shift).toNat :=
        ⟨q, hq, by omega, by omega⟩
      obtain ⟨hm, hin⟩ := (covers_members hb).1 hcovers
      exact ⟨_, hm, by omega, by omega⟩
    · rintro ⟨m, hm, hin, rfl⟩
      have hcovers : Covers (members b r.lo r.hi) m :=
        (covers_members hb).2 ⟨hm, by omega, by omega⟩
      obtain ⟨q, hq, hlo, hhi⟩ := hcovers
      exact ⟨_, List.mem_map_of_mem hq, by simp only; omega, by simp only; omega⟩

theorem covers_sources (hb : b ∈ blocks) {r : CharRange} :
    Covers (sources r b) n ↔
      moves n b = true ∧ r.lo ≤ (n + b.shift).toNat ∧ (n + b.shift).toNat ≤ r.hi := by
  have hpos := (regular_of_mem hb).2.1
  unfold sources
  split
  · next hapart =>
    simp only [CharSet.covers_nil, false_iff, not_and]
    intro hn
    obtain ⟨hlo, hhi, -⟩ := moves_iff.1 hn
    omega
  · rw [covers_members hb]
    refine and_congr_right fun hn => ?_
    obtain ⟨hlo, hhi, -⟩ := moves_iff.1 hn
    omega

variable {rs : List CharRange}

theorem covers_allImages : Covers (rs.flatMap fun r => blocks.flatMap (images r)) n ↔
    ∃ m, Covers rs m ∧ Moved m ∧ fold m = n := by
  simp only [CharSet.covers_flatMap]
  constructor
  · rintro ⟨r, hr, b, hb, h⟩
    obtain ⟨m, hm, hin, rfl⟩ := (covers_images hb).1 h
    exact ⟨m, ⟨r, hr, hin⟩, ⟨b, hb, hm⟩, fold_of_moves hb hm⟩
  · rintro ⟨m, ⟨r, hr, hin⟩, ⟨b, hb, hm⟩, hfold⟩
    rw [fold_of_moves hb hm] at hfold
    exact ⟨r, hr, b, hb, (covers_images hb).2 ⟨m, hm, hin, hfold⟩⟩

theorem covers_allSources : Covers (rs.flatMap fun r => blocks.flatMap (sources r)) n ↔
    Moved n ∧ Covers rs (fold n) := by
  simp only [CharSet.covers_flatMap]
  constructor
  · rintro ⟨r, hr, b, hb, h⟩
    obtain ⟨hn, hin⟩ := (covers_sources hb).1 h
    exact ⟨⟨b, hb, hn⟩, r, hr, by rwa [fold_of_moves hb hn]⟩
  · rintro ⟨⟨b, hb, hn⟩, r, hr, hin⟩
    rw [fold_of_moves hb hn] at hin
    exact ⟨r, hr, b, hb, (covers_sources hb).2 ⟨hn, hin⟩⟩

/-! ## The closed set -/

theorem covers_close {s : CharSet} (hn : ¬ IsSurrogate n) :
    Covers (close s).ranges n ↔ ∃ m, Covers s.ranges m ∧ fold m = fold n := by
  simp only [close, CharSet.union, CharSet.covers_ofRanges, CharSet.covers_append, covers_allImages,
    covers_allSources, hn, not_false_eq_true, and_true]
  constructor
  · rintro ((hmem | ⟨m, hmem, -, hfold⟩) | ⟨-, hmem | ⟨m, hmem, -, hfold⟩, -⟩)
    · exact ⟨n, hmem, rfl⟩
    · exact ⟨m, hmem, by rw [← hfold, fold_fold]⟩
    · exact ⟨fold n, hmem, fold_fold n⟩
    · exact ⟨m, hmem, hfold⟩
  · rintro ⟨m, hmem, hfold⟩
    by_cases hmoved : Moved n
    · refine .inr ⟨hmoved, ?_, not_isSurrogate_fold hmoved⟩
      by_cases hm : Moved m
      · exact .inr ⟨m, hmem, hm, hfold⟩
      · rw [fold_of_not_moved hm] at hfold
        exact .inl (hfold ▸ hmem)
    · rw [fold_of_not_moved hmoved] at hfold
      by_cases hm : Moved m
      · exact .inl (.inr ⟨m, hmem, hm, hfold⟩)
      · rw [fold_of_not_moved hm] at hfold
        exact .inl (.inl (hfold ▸ hmem))

/-- **A character is in a set closed under case** if it folds to the same as a member of the set. -/
theorem contains_close {s : CharSet} (d : Char) : (close s).contains d = true ↔
    ∃ m, Covers s.ranges m ∧ fold m = fold d.toNat := by
  rw [close, CharSet.union, CharSet.contains_ofRanges]
  have h := covers_close (s := s) (CharSet.not_isSurrogate d)
  rw [close, CharSet.union, CharSet.covers_ofRanges,
    and_iff_left (CharSet.not_isSurrogate d)] at h
  exact h

theorem contains_close_singleton (c d : Char) :
    (close (.singleton c.toNat)).contains d = true ↔ fold d.toNat = fold c.toNat := by
  rw [contains_close]
  constructor
  · rintro ⟨m, hm, hfold⟩
    simp only [CharSet.singleton, CharSet.covers_cons, CharSet.covers_nil, or_false] at hm
    rw [← hfold, Nat.le_antisymm hm.2 hm.1]
  · exact fun h => ⟨c.toNat, ⟨_, List.mem_singleton_self _, Nat.le_refl _, Nat.le_refl _⟩, h.symm⟩

end MediaScraper.CaseFolding
