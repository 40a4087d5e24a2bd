import Mathlib.Data.List.Basic

/-!
# Well-formed UTF-8

The bytes of a character are one to four, and the first one tells how many (`IsCharacter`). The
ranges leave out what no character has: spellings that are longer than needed, surrogates, numbers
above `10FFFF`, and characters that are cut off. Well-formed bytes are those of one character after
the other (`WellFormed`), and these are the bytes of texts (`isValidUTF8_iff`).
-/

namespace MediaScraper.Utf8

/-- The byte lies in a range. -/
def Within (low high : Nat) (b : UInt8) : Prop := low ≤ b.toNat ∧ b.toNat ≤ high

/-- The bytes of one character: a lead byte, and up to three that go on. -/
inductive IsCharacter : List UInt8 → Prop
  | one {a : UInt8} : Within 0x00 0x7F a → IsCharacter [a]
  | two {a b : UInt8} : Within 0xC2 0xDF a → Within 0x80 0xBF b → IsCharacter [a, b]
  /-- `E0` would also begin longer spellings of shorter characters, and `ED` surrogates. -/
  | three {a b c : UInt8} : Within 0xE0 0xEF a → Within 0x80 0xBF b → Within 0x80 0xBF c →
      (a.toNat = 0xE0 → Within 0xA0 0xBF b) → (a.toNat = 0xED → Within 0x80 0x9F b) →
      IsCharacter [a, b, c]
  /-- `F0` would also begin longer spellings of shorter characters, and `F4` numbers that are too
  great. -/
  | four {a b c d : UInt8} : Within 0xF0 0xF4 a → Within 0x80 0xBF b → Within 0x80 0xBF c →
      Within 0x80 0xBF d → (a.toNat = 0xF0 → Within 0x90 0xBF b) →
      (a.toNat = 0xF4 → Within 0x80 0x8F b) → IsCharacter [a, b, c, d]

/-- Bytes of one character after the other. -/
inductive WellFormed : List UInt8 → Prop
  | nil : WellFormed []
  | character {w s : List UInt8} : IsCharacter w → WellFormed s → WellFormed (w ++ s)

/-- No character begins with a byte that goes on with one, or with `C0` or `C1`. -/
theorem not_wellFormed_of_lead {a : UInt8} (ha : Within 0x80 0xC1 a) {s : List UInt8} :
    ¬ WellFormed (a :: s) := by
  intro h
  generalize hx : a :: s = x at h
  obtain ⟨hlow, hhigh⟩ := ha
  cases h with
  | nil => cases hx
  | character hw _ =>
    cases hw with
    | one hlead | two hlead _ | three hlead _ _ _ _ | four hlead _ _ _ _ _ =>
      obtain ⟨rfl, -⟩ := List.cons.inj hx
      obtain ⟨hlow', hhigh'⟩ := hlead
      omega

/-! ## The bytes of a character -/

theorem isCharacter_utf8EncodeChar (c : Char) : IsCharacter (String.utf8EncodeChar c) := by
  have hvalid : c.val.toNat.isValidChar := c.valid
  unfold String.utf8EncodeChar
  generalize c.val.toNat = n at hvalid
  rw [Nat.isValidChar] at hvalid
  simp only
  split_ifs with h1 h2 h3
  · exact .one (by simp only [Within, UInt8.toNat_ofNat']; omega)
  · refine .two ?_ ?_ <;> simp only [Within, UInt8.toNat_ofNat'] <;> omega
  · refine .three ?_ ?_ ?_ ?_ ?_ <;> simp only [Within, UInt8.toNat_ofNat'] <;> omega
  · refine .four ?_ ?_ ?_ ?_ ?_ ?_ <;> simp only [Within, UInt8.toNat_ofNat'] <;> omega

theorem exists_char {n : Nat} (h : n.isValidChar) : ∃ c : Char, c.val.toNat = n :=
  ⟨Char.ofNatAux n h, rfl⟩

/-- **Bytes in these ranges** are those of some character. -/
theorem exists_utf8EncodeChar {w : List UInt8} (h : IsCharacter w) :
    ∃ c, String.utf8EncodeChar c = w := by
  cases h with
  | @one a ha =>
    simp only [Within] at ha
    obtain ⟨c, hc⟩ := exists_char (n := a.toNat) (by simp only [Nat.isValidChar]; omega)
    refine ⟨c, ?_⟩
    rw [String.utf8EncodeChar, hc]
    rw [if_pos (by omega), UInt8.ofNat_toNat]
  | @two a b ha hb =>
    simp only [Within] at ha hb
    obtain ⟨c, hc⟩ := exists_char (n := (a.toNat - 0xC0) * 64 + (b.toNat - 0x80))
      (by simp only [Nat.isValidChar]; omega)
    refine ⟨c, ?_⟩
    rw [String.utf8EncodeChar, hc]
    rw [if_neg (by omega), if_pos (by omega)]
    simp only [List.cons.injEq, ← UInt8.toNat_inj, UInt8.toNat_ofNat', and_true]
    omega
  | @three a b c ha hb hc hlong hsurrogate =>
    simp only [Within] at ha hb hc hlong hsurrogate
    obtain ⟨d, hd⟩ := exists_char
      (n := (a.toNat - 0xE0) * 4096 + (b.toNat - 0x80) * 64 + (c.toNat - 0x80))
      (by simp only [Nat.isValidChar]; omega)
    refine ⟨d, ?_⟩
    rw [String.utf8EncodeChar, hd]
    rw [if_neg (by omega), if_neg (by omega), if_pos (by omega)]
    simp only [List.cons.injEq, ← UInt8.toNat_inj, UInt8.toNat_ofNat', and_true]
    omega
  | @four a b c d ha hb hc hd hlong hgreat =>
    simp only [Within] at ha hb hc hd hlong hgreat
    obtain ⟨e, he⟩ := exists_char (n := (a.toNat - 0xF0) * 262144 + (b.toNat - 0x80) * 4096 +
      (c.toNat - 0x80) * 64 + (d.toNat - 0x80)) (by simp only [Nat.isValidChar]; omega)
    refine ⟨e, ?_⟩
    rw [String.utf8EncodeChar, he]
    rw [if_neg (by omega), if_neg (by omega), if_neg (by omega)]
    simp only [List.cons.injEq, ← UInt8.toNat_inj, UInt8.toNat_ofNat', and_true]
    omega

/-! ## The bytes of a text -/

theorem wellFormed_flatMap (s : List Char) : WellFormed (s.flatMap String.utf8EncodeChar) := by
  induction s with
  | nil => exact .nil
  | cons c s ih => exact .character (isCharacter_utf8EncodeChar c) ih

theorem exists_flatMap {bytes : List UInt8} (h : WellFormed bytes) :
    ∃ s : List Char, s.flatMap String.utf8EncodeChar = bytes := by
  induction h with
  | nil => exact ⟨[], rfl⟩
  | character hw _ ih =>
    obtain ⟨c, rfl⟩ := exists_utf8EncodeChar hw
    obtain ⟨s, rfl⟩ := ih
    exact ⟨c :: s, rfl⟩

/-- **Well-formed bytes are the bytes of texts.** -/
theorem isValidUTF8_iff {bytes : ByteArray} :
    bytes.IsValidUTF8 ↔ WellFormed bytes.data.toList := by
  constructor
  · rintro ⟨s, rfl⟩
    rw [List.utf8Encode, List.data_toByteArray]
    exact wellFormed_flatMap s
  · intro h
    obtain ⟨s, hs⟩ := exists_flatMap h
    refine ⟨s, ByteArray.ext ?_⟩
    rw [List.utf8Encode, List.data_toByteArray, hs]

end MediaScraper.Utf8
