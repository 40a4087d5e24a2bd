import MediaScraper.Unicode.CaseFolding

/-!
# What is equal to a character up to case

A set of one character is closed under case by adding what folding moves to the character, and what
it is moved to. For a small letter of `a` to `z`, other than `k` and `s`, that is its capital letter;
for most other characters it is nothing (`close_eq_caseless`).
-/

namespace MediaScraper

namespace CharSet

theorem dropSurrogates_of_lt {n : Nat} (h : n < 0xD800) : dropSurrogates ⟨n, n⟩ = [⟨n, n⟩] := by
  have hmin : min n 0xD7FF = n := by omega
  have hmax : ¬ max n 0xE000 ≤ n := by omega
  simp [dropSurrogates, hmin, hmax]

theorem ofRanges_singleton {n : Nat} (h : n < 0xD800) : ofRanges [⟨n, n⟩] = singleton n := by
  rw [ofRanges, List.flatMap_cons, List.flatMap_nil, List.append_nil, dropSurrogates_of_lt h,
    List.mergeSort_singleton]
  rfl

/-- Two characters that are not neighbours, the greater one first. -/
theorem ofRanges_pair {m n : Nat} (hmn : m + 1 < n) (h : n < 0xD800) :
    ofRanges [⟨n, n⟩, ⟨m, m⟩] = ⟨[⟨m, m⟩, ⟨n, n⟩]⟩ := by
  have hle : ¬ n ≤ m := by omega
  have hjoin : ¬ n ≤ m + 1 := by omega
  rw [ofRanges, List.flatMap_cons, List.flatMap_cons, List.flatMap_nil, List.append_nil,
    dropSurrogates_of_lt h, dropSurrogates_of_lt (by omega)]
  simp [List.mergeSort, List.MergeSort.Internal.splitInTwo, hle, joinSorted, joinFrom, hjoin]

theorem contains_singleton_iff {n : Nat} {d : Char} :
    (singleton n).contains d = true ↔ d.toNat = n := by
  simp only [contains, containsScalar, singleton, containsFrom, Bool.or_false]
  split <;> simp <;> omega

theorem contains_pair_iff {m n : Nat} (h : m < n) {d : Char} :
    contains ⟨[⟨m, m⟩, ⟨n, n⟩]⟩ d = true ↔ d.toNat = m ∨ d.toNat = n := by
  simp only [contains, containsScalar, containsFrom, Bool.or_false]
  split
  · simp
    omega
  · split <;> simp <;> omega

end CharSet

namespace CaseFolding

/-- A small character, which no block moves, with those that blocks move to it. -/
theorem close_singleton {n : Nat} {rs : List CharRange} (hn : n < 0xD800)
    (himages : blocks.flatMap (images ⟨n, n⟩) = []) (hsources : blocks.flatMap (sources ⟨n, n⟩) = rs) :
    close (.singleton n) = .ofRanges (⟨n, n⟩ :: rs) := by
  have hfolded : CharSet.union (.singleton n) ⟨[]⟩ = .singleton n := CharSet.ofRanges_singleton hn
  simp only [close, CharSet.singleton, List.flatMap_cons, List.flatMap_nil, List.append_nil, himages]
  rw [← CharSet.singleton, hfolded]
  simp only [CharSet.singleton, List.flatMap_cons, List.flatMap_nil, List.append_nil, hsources]
  rfl

theorem isUpper_iff {c : Char} : c.isUpper = true ↔ 65 ≤ c.toNat ∧ c.toNat ≤ 90 := by
  unfold Char.isUpper
  simp [UInt32.le_iff_toNat_le]

theorem isLower_iff {c : Char} : c.isLower = true ↔ 97 ≤ c.toNat ∧ c.toNat ≤ 122 := by
  unfold Char.isLower
  simp [UInt32.le_iff_toNat_le]

theorem toNat_toLower (c : Char) :
    c.toLower.toNat = if c.isUpper then c.toNat + 32 else c.toNat := by
  have hupper : c.isUpper = true ↔ c.val ≥ 'A'.val ∧ c.val ≤ 'Z'.val := by
    unfold Char.isUpper
    simp
  unfold Char.toLower
  split
  · next h =>
    have hbounds := isUpper_iff.1 (hupper.2 h)
    rw [if_pos (hupper.2 h)]
    show (c.val + _).toNat = c.val.toNat + 32
    rw [UInt32.toNat_add]
    exact Nat.mod_eq_of_lt (by change c.toNat + 32 < _; omega)
  · next h => rw [if_neg fun hc => h (hupper.1 hc)]

theorem eq_of_toLower_eq {c d : Char} (h : c.toLower = d) (hd : d.isLower = false) : c = d := by
  rw [← Char.toNat_inj, toNat_toLower] at h
  split at h
  · next hupper =>
    -- a capital letter becomes a small one
    have hbounds := isUpper_iff.1 hupper
    have hlower : d.isLower = true := isLower_iff.2 (by omega)
    rw [hd] at hlower
    cases hlower
  · exact Char.toNat_inj.1 h

/-- What folding moves to a character: for a small letter its capital letter, or else nothing. -/
def capital (c : Char) : List CharRange :=
  if c.isLower then [⟨c.toNat - 32, c.toNat - 32⟩] else []

/-- A character, and the capital letter of a small one. -/
def caseless (c : Char) : CharSet := ⟨capital c ++ [⟨c.toNat, c.toNat⟩]⟩

/-- **A character up to case**, if folding does not move it and moves no more to it than its capital
letter. -/
theorem close_eq_caseless {c : Char} (hn : c.toNat < 0xD800)
    (himages : blocks.flatMap (images ⟨c.toNat, c.toNat⟩) = [])
    (hsources : blocks.flatMap (sources ⟨c.toNat, c.toNat⟩) = capital c) :
    close (.singleton c.toNat) = caseless c := by
  rw [close_singleton hn himages hsources, caseless, capital]
  split
  · next h =>
    have hlower := isLower_iff.1 h
    exact CharSet.ofRanges_pair (by omega) (by omega)
  · exact CharSet.ofRanges_singleton hn

theorem contains_caseless_iff {c : Char} (hupper : c.isUpper = false) (d : Char) :
    (caseless c).contains d = true ↔ d.toLower = c := by
  have hc : ¬ (65 ≤ c.toNat ∧ c.toNat ≤ 90) := fun h => by
    rw [isUpper_iff.2 h] at hupper
    cases hupper
  rw [caseless, capital, ← Char.toNat_inj, toNat_toLower]
  split
  · next hlower =>
    have hlower := isLower_iff.1 hlower
    rw [List.singleton_append, CharSet.contains_pair_iff (by omega)]
    split
    · next hd =>
      have hd := isUpper_iff.1 hd
      omega
    · next hd =>
      have hd := mt isUpper_iff.2 hd
      omega
  · next hlower =>
    have hlower := mt isLower_iff.2 hlower
    rw [List.nil_append, ← CharSet.singleton, CharSet.contains_singleton_iff]
    split
    · next hd =>
      have hd := isUpper_iff.1 hd
      omega
    · rfl

end CaseFolding
end MediaScraper
