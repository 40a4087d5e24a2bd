import MediaScraper.Text.Numeral
import MediaScraper.Text.Search
import MediaScraper.Unicode.Blank

/-!
# Numbers written in digits

Digits are read as the number that they spell, if that has at most 64 bits (`word?_of_isDigit`); so
a number is read back from its own digits (`word?_toDigits`), and a list of numbers from their
digits with commas between them (`filterMap_word?_splitAt`).
-/

namespace MediaScraper

/-! ## Digits -/

namespace Numeral

theorem digit?_of_isDigit {c : Char} (h : c.isDigit = true) :
    digit? 10 c = some (c.toNat - '0'.toNat) := by
  have hle : c.toNat ≤ 57 := by
    simp only [Char.isDigit, Bool.and_eq_true, decide_eq_true_eq, UInt32.le_iff_toNat_le] at h
    exact h.2
  have hlt : c.toNat - '0'.toNat < 10 := by
    rw [show '0'.toNat = 48 from rfl]
    omega
  simp only [digit?, h, if_true, hlt]

theorem readFrom_eq_ofDigitChars {bound : Nat} {s : List Char} (hd : ∀ c ∈ s, c.isDigit = true)
    {n : Nat} (hn : Nat.ofDigitChars 10 s n ≤ bound) :
    readFrom 10 bound n s = .ok (Nat.ofDigitChars 10 s n) := by
  induction s generalizing n with
  | nil => simp [readFrom]
  | cons c s ih =>
    rw [Nat.ofDigitChars_cons, Nat.mul_comm] at hn ⊢
    -- The digits that follow only make a number larger, so this one is below the bound as well.
    have hgrow : n * 10 + (c.toNat - '0'.toNat) ≤
        Nat.ofDigitChars 10 s (n * 10 + (c.toNat - '0'.toNat)) := by
      rw [Nat.ofDigitChars_eq_ofDigitChars_zero]
      exact Nat.le_trans (Nat.le_mul_of_pos_left _ (Nat.pow_pos (by decide)))
        (Nat.le_add_right _ _)
    rw [readFrom, digit?_of_isDigit (hd c List.mem_cons_self)]
    simp only
    rw [if_pos (Nat.le_trans hgrow hn)]
    exact ih (fun d h => hd d (List.mem_cons_of_mem c h)) hn

theorem isDigit_of_mem_toDigits {n : Nat} {c : Char} (h : c ∈ Nat.toDigits 10 n) :
    c.isDigit = true :=
  Nat.isDigit_of_mem_toDigits (by decide) (by decide) h

theorem readUnsigned_toDigits {n bound : Nat} (h : n ≤ bound) :
    readUnsigned 10 bound (Nat.toDigits 10 n) = .ok n := by
  rw [readUnsigned, if_neg (by simp [Nat.toDigits_ne_nil])]
  rw [readFrom_eq_ofDigitChars (fun c hc => isDigit_of_mem_toDigits hc)
    (by rwa [Nat.ofDigitChars_ten_toDigits]), Nat.ofDigitChars_ten_toDigits]

/-- **A number of at most 64 bits is read back from its digits.** -/
theorem word?_toDigits {n : Nat} (h : n ≤ maxWord) : word? (Nat.toDigits 10 n) = some n := by
  rw [word?, readWord, readUnsigned_toDigits h]
  · rfl
  · intro rest hs
    have hplus : '+' ∈ Nat.toDigits 10 n := by rw [hs]; exact List.mem_cons_self
    exact absurd (isDigit_of_mem_toDigits hplus) (by decide)

theorem readFrom_of_lt {bound : Nat} {s : List Char} (hd : ∀ c ∈ s, c.isDigit = true) {n : Nat}
    (hn : n ≤ bound) (hlt : bound < Nat.ofDigitChars 10 s n) :
    readFrom 10 bound n s = .error .tooLarge := by
  induction s generalizing n with
  | nil =>
    rw [Nat.ofDigitChars_nil] at hlt
    omega
  | cons c s ih =>
    rw [Nat.ofDigitChars_cons, Nat.mul_comm] at hlt
    rw [readFrom, digit?_of_isDigit (hd c List.mem_cons_self)]
    simp only
    split
    · next hle => exact ih (fun d h => hd d (List.mem_cons_of_mem c h)) hle hlt
    · rfl

/-- **Digits are read as the number that they spell**, if a word of 64 bits can hold it; leading
zeros do not count. -/
theorem word?_of_isDigit {d : List Char} (hne : d ≠ []) (hd : ∀ c ∈ d, c.isDigit = true) :
    word? d = if Nat.ofDigitChars 10 d 0 ≤ maxWord then some (Nat.ofDigitChars 10 d 0) else none := by
  have hread : word? d = (readFrom 10 maxWord 0 d).toOption := by
    rw [word?, readWord]
    · rw [readUnsigned, if_neg (by simpa using hne)]
    · rintro rest rfl
      exact absurd (hd '+' List.mem_cons_self) (by decide)
  rw [hread]
  split
  · next hle => rw [readFrom_eq_ofDigitChars hd hle]; rfl
  · next hlt => rw [readFrom_of_lt hd (Nat.zero_le _) (Nat.not_le.1 hlt)]; rfl

end Numeral

/-! ## Blanks around numbers -/

theorem isBlank_of_isDigit {c : Char} (h : c.isDigit = true) : isBlank c = false := by
  simp only [Char.isDigit, Bool.and_eq_true, decide_eq_true_eq, UInt32.le_iff_toNat_le] at h
  have h48 : 48 ≤ c.toNat := h.1
  have h57 : c.toNat ≤ 57 := h.2
  simp only [isBlank, CharSet.contains, CharSet.containsScalar, blanks, CharSet.containsFrom]
  simp
  omega

namespace Blank

theorem dropWhile_of_forall {s : List Char} (h : ∀ c ∈ s, isBlank c = false) :
    s.dropWhile isBlank = s := by
  cases s with
  | nil => rfl
  | cons c s => rw [List.dropWhile_cons_of_neg (by simp [h c List.mem_cons_self])]

theorem trim_of_forall {s : List Char} (h : ∀ c ∈ s, isBlank c = false) : trim s = s := by
  rw [trim, trimStart, trimEnd, dropWhile_of_forall h, dropWhile_of_forall (by simpa using h),
    List.reverse_reverse]

theorem trim_toDigits (n : Nat) : trim (Nat.toDigits 10 n) = Nat.toDigits 10 n :=
  trim_of_forall fun _ hc => isBlank_of_isDigit (Numeral.isDigit_of_mem_toDigits hc)

end Blank

/-! ## Lists of numbers -/

namespace Text

theorem splitAt_of_notMem {sep : Char} {s : List Char} (h : sep ∉ s) : splitAt sep s = [s] := by
  induction s with
  | nil => rfl
  | cons c s ih =>
    obtain ⟨hc, hs⟩ := List.ne_and_not_mem_of_not_mem_cons h
    rw [splitAt, List.foldr_cons, ← splitAt, ih hs]
    simp [Ne.symm hc]

theorem splitAt_append_cons {sep : Char} {s : List Char} (h : sep ∉ s) (t : List Char) :
    splitAt sep (s ++ sep :: t) = s :: splitAt sep t := by
  induction s with
  | nil => simp [splitAt]
  | cons c s ih =>
    obtain ⟨hc, hs⟩ := List.ne_and_not_mem_of_not_mem_cons h
    rw [List.cons_append, splitAt, List.foldr_cons, ← splitAt, ih hs]
    simp [Ne.symm hc]

end Text

namespace Numeral

/-- The digits of numbers with commas between them. -/
def listed (ns : List Nat) : List Char := List.intercalate [','] (ns.map (Nat.toDigits 10))

theorem listed_singleton (n : Nat) : listed [n] = Nat.toDigits 10 n := by
  simp [listed, List.intercalate]

theorem listed_cons_cons (n m : Nat) (ns : List Nat) :
    listed (n :: m :: ns) = Nat.toDigits 10 n ++ ',' :: listed (m :: ns) := by
  simp [listed, List.intercalate]

theorem isDigit_of_mem_listed {ns : List Nat} {c : Char} (hc : c ∈ listed ns) :
    c.isDigit = true ∨ c = ',' := by
  induction ns with
  | nil => exact absurd hc List.not_mem_nil
  | cons n ns ih =>
    cases ns with
    | nil =>
      rw [listed_singleton] at hc
      exact .inl (isDigit_of_mem_toDigits hc)
    | cons m ns =>
      rw [listed_cons_cons] at hc
      rcases List.mem_append.1 hc with hc | hc
      · exact .inl (isDigit_of_mem_toDigits hc)
      · rcases List.mem_cons.1 hc with rfl | hc
        · exact .inr rfl
        · exact ih hc

/-- **Numbers between commas are read back in order.** -/
theorem filterMap_word?_splitAt {ns : List Nat} (h : ∀ n ∈ ns, n ≤ maxWord) :
    (Text.splitAt ',' (listed ns)).filterMap (fun s => word? (Blank.trim s)) = ns := by
  have hcomma (n : Nat) : ',' ∉ Nat.toDigits 10 n := fun hc =>
    absurd (isDigit_of_mem_toDigits hc) (by decide)
  induction ns with
  | nil => rfl
  | cons n ns ih =>
    have hn := word?_toDigits (h n List.mem_cons_self)
    have hns := ih fun m hm => h m (List.mem_cons_of_mem n hm)
    cases ns with
    | nil =>
      rw [listed_singleton, Text.splitAt_of_notMem (hcomma n)]
      simp [Blank.trim_toDigits, hn]
    | cons m ns =>
      rw [listed_cons_cons, Text.splitAt_append_cons (hcomma n), List.filterMap_cons,
        Blank.trim_toDigits, hn, hns]

end Numeral
end MediaScraper
