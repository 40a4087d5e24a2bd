import MediaScraper.Proofs.Charset.Utf8
import MediaScraper.Proofs.Text.Charset

/-!
# What a document is decoded to

Three charsets are tried, but two decide. If the bytes behind a byte order mark are well-formed
UTF-8, the text is the one they encode (`decode?_utf8_eq_some_iff`). Otherwise each byte is the
number of a character, unless one of them stands for a control character of the second set
(`IsControl`), which no page uses; then nothing can be decoded (`decode?_latin1_eq`). The last
charset accepts nothing that the one before it refuses (`decodeBytes?_eq`).

So a text is decoded from its bytes in UTF-8 if it does not begin with the mark, and from its bytes
in ISO-8859-1 if these are not well-formed UTF-8 and stand for no such control character
(`Document.decode_cases`). With one of these it is not (`Document.decode_control`).
-/

namespace MediaScraper

namespace Charset

/-! ## UTF-8 -/

/-- The bytes of the mark. -/
def markBytes : List UInt8 := [0xEF, 0xBB, 0xBF]

/-- The bytes without one mark at their beginning. -/
def unmarkedBytes (bytes : ByteArray) : List UInt8 :=
  (markBytes.isPrefixOf? bytes.data.toList).getD bytes.data.toList

theorem data_dropByteOrderMark (bytes : ByteArray) :
    (dropByteOrderMark bytes).data.toList = unmarkedBytes bytes := by
  have hfront : (bytes.extract 0 3).data = #[0xEF, 0xBB, 0xBF] ↔
      bytes.data.toList.take 3 = markBytes := by
    rw [← Array.toList_inj, ByteArray.data_extract, Array.toList_extract]
    simp [List.extract_eq_take_drop, markBytes]
  rw [dropByteOrderMark, unmarkedBytes]
  split_ifs with h
  · have hmark : markBytes ++ bytes.data.toList.drop 3 = bytes.data.toList := by
      rw [← hfront.1 h, List.take_append_drop]
    rw [List.isPrefixOf?_eq_some_iff_append_eq.2 hmark, ByteArray.data_extract,
      Array.toList_extract, List.extract_eq_take_drop, Option.getD_some]
    exact List.take_of_length_le (by simp)
  · cases hmark : markBytes.isPrefixOf? bytes.data.toList with
    | none => rfl
    | some rest =>
      refine absurd (hfront.2 ?_) h
      rw [← List.isPrefixOf?_eq_some_iff_append_eq.1 hmark]
      exact List.take_left' rfl

/-- **Bytes of UTF-8** are decoded to the text that they encode, and no other ones are. -/
theorem decode?_utf8_eq_some_iff {bytes : ByteArray} {text : String} :
    decode? bytes .utf8 = some text ↔ text.toUTF8.data.toList = unmarkedBytes bytes := by
  rw [← data_dropByteOrderMark, Array.toList_inj, ← ByteArray.ext_iff, decode?, String.fromUTF8?]
  constructor
  · intro h
    split at h
    · cases h
      rfl
    · cases h
  · intro h
    have hvalid : (dropByteOrderMark bytes).IsValidUTF8 := h ▸ text.isValidUTF8
    rw [dif_pos hvalid, Option.some_inj]
    exact String.toByteArray_inj.1 h.symm

theorem exists_decode?_utf8 {bytes : ByteArray} :
    (∃ text, decode? bytes .utf8 = some text) ↔ Utf8.WellFormed (unmarkedBytes bytes) := by
  rw [← data_dropByteOrderMark, ← Utf8.isValidUTF8_iff, decode?, String.fromUTF8?]
  split_ifs with h
  · exact iff_of_true ⟨_, rfl⟩ h
  · refine iff_of_false ?_ h
    rintro ⟨text, htext⟩
    cases htext

theorem wellFormed_unmarkedBytes {bytes : ByteArray} :
    Utf8.WellFormed (unmarkedBytes bytes) ↔ Utf8.WellFormed bytes.data.toList := by
  rw [unmarkedBytes]
  cases hmark : markBytes.isPrefixOf? bytes.data.toList with
  | none => rfl
  | some rest =>
    have hbytes : bytes = [byteOrderMark].utf8Encode ++ rest.toByteArray := by
      refine ByteArray.ext (Array.toList_inj.1 ?_)
      rw [← List.isPrefixOf?_eq_some_iff_append_eq.1 hmark, utf8Encode_byteOrderMark]
      simp [markBytes]
    rw [← Utf8.isValidUTF8_iff, hbytes, ByteArray.isValidUTF8_utf8Encode_singleton_append_iff,
      Utf8.isValidUTF8_iff, List.data_toByteArray, Option.getD_some]

/-! ## ISO-8859-1 -/

/-- The byte stands for a control character of the second set. -/
def IsControl (b : UInt8) : Prop := Utf8.Within 0x80 0x9F b

instance : DecidablePred IsControl := fun _ => inferInstanceAs (Decidable (_ ∧ _))

/-- Each byte is the number of the character in its place. -/
def Numbers (bytes : ByteArray) (text : String) : Prop :=
  text.toList.map Char.toNat = bytes.data.toList.map UInt8.toNat

theorem numbers_widen (bytes : ByteArray) : Numbers bytes (widen bytes) := by
  rw [Numbers, widen, String.toList_ofList, List.map_map]
  refine List.map_congr_left fun b _ => ?_
  have hvalid : b.toNat.isValidChar := .inl (by have := b.toNat_lt; omega)
  rw [Function.comp_apply, Char.ofNat, dif_pos hvalid]
  rfl

theorem Numbers.eq_widen {bytes : ByteArray} {text : String} (h : Numbers bytes text) :
    text = widen bytes := by
  have hmap : text.toList.map Char.toNat = (widen bytes).toList.map Char.toNat :=
    h.trans (numbers_widen bytes).symm
  exact String.toList_inj.1 (List.map_injective_iff.2 (fun c d h => Char.toNat_inj.1 h) hmap)

/-- **Bytes of ISO-8859-1** are the numbers of their characters, and no control characters of the
second set are among these. -/
theorem decode?_latin1_eq (bytes : ByteArray) :
    decode? bytes .latin1 =
      if ∃ b ∈ bytes.data.toList, IsControl b then none else some (widen bytes) := by
  have hany : (bytes.data.any fun b => 0x80 ≤ b && b < 0xA0) = true ↔
      ∃ b ∈ bytes.data.toList, IsControl b := by
    rw [← Array.any_toList, List.any_eq_true]
    refine exists_congr fun b => and_congr_right fun _ => ?_
    rw [Bool.and_eq_true, decide_eq_true_iff, decide_eq_true_iff, UInt8.le_iff_toNat_le,
      UInt8.lt_iff_toNat_lt, IsControl, Utf8.Within]
    exact and_congr_right fun _ => Nat.lt_succ_iff
  simp only [decode?, hany]

/-! ## The charsets in order -/

/-- What US-ASCII accepts, ISO-8859-1 has accepted before. -/
theorem isSome_decode?_latin1 {bytes : ByteArray} (h : (decode? bytes .ascii).isSome) :
    (decode? bytes .latin1).isSome := by
  have hascii : ∀ b ∈ bytes.data.toList, b < 0x80 := by
    rw [decode?] at h
    split at h
    · next hall =>
      have hlist := List.all_eq_true.1 (Array.all_toList.trans hall)
      exact fun b hb => of_decide_eq_true (hlist b hb)
    · cases h
  rw [decode?_latin1_eq, if_neg]
  · rfl
  · rintro ⟨b, hb, hcontrol, -⟩
    exact absurd (UInt8.lt_iff_toNat_lt.1 (hascii b hb)) (Nat.not_lt.2 hcontrol)

/-- **US-ASCII never decides.** -/
theorem decodeBytes?_eq (bytes : ByteArray) :
    decodeBytes? bytes = (decode? bytes .utf8).or (decode? bytes .latin1) := by
  rw [decodeBytes?, fallbackOrder, List.findSome?_cons]
  cases decode? bytes .utf8 with
  | some text => rfl
  | none =>
    rw [List.findSome?_cons, Option.none_or]
    cases hlatin1 : decode? bytes .latin1 with
    | some text => rfl
    | none =>
      have hascii : decode? bytes .ascii = none := by
        rw [Option.eq_none_iff_forall_ne_some]
        intro text htext
        have hsome : (decode? bytes .latin1).isSome := isSome_decode?_latin1 (by rw [htext]; rfl)
        rw [hlatin1] at hsome
        cases hsome
      simp only [List.findSome?_cons, hascii, List.findSome?_nil]

end Charset

namespace Document

open Charset

/-! ## Documents -/

section
variable {bytes : ByteArray}

theorem decode_of_wellFormed (h : Utf8.WellFormed (unmarkedBytes bytes)) :
    ∃ text : String, text.toUTF8.data.toList = unmarkedBytes bytes ∧ decode bytes = .ok text := by
  obtain ⟨text, htext⟩ := exists_decode?_utf8.2 h
  refine ⟨text, decode?_utf8_eq_some_iff.1 htext, ?_⟩
  rw [decode, decodeBytes?_eq, htext, Option.some_or]

theorem decode_of_not_wellFormed (h : ¬ Utf8.WellFormed (unmarkedBytes bytes)) :
    decode bytes =
      if ∃ b ∈ bytes.data.toList, IsControl b then .error (.undecodable bytes.size)
      else .ok (widen bytes) := by
  have hnone : decode? bytes .utf8 = none :=
    Option.eq_none_iff_forall_ne_some.2 fun text htext => h (exists_decode?_utf8.1 ⟨text, htext⟩)
  rw [decode, decodeBytes?_eq, hnone, Option.none_or, decode?_latin1_eq]
  split_ifs <;> rfl

end

/-- **Documents are decoded exactly.** Well-formed UTF-8 behind a mark is read as the text that it
encodes; other bytes are read as the numbers of characters, unless there is a control character of
the second set among these, which is a fault. So a text is read back from its bytes in UTF-8 and in
ISO-8859-1, where these do not mean anything else, and US-ASCII never decides. -/
theorem decode_cases :
    (∀ bytes : ByteArray, Utf8.WellFormed (unmarkedBytes bytes) →
      ∃ text : String, text.toUTF8.data.toList = unmarkedBytes bytes ∧ decode bytes = .ok text) ∧
    (∀ bytes : ByteArray, ¬ Utf8.WellFormed (unmarkedBytes bytes) →
      (¬ (∃ b ∈ bytes.data.toList, IsControl b) →
        ∃ text, Numbers bytes text ∧ decode bytes = .ok text) ∧
      ((∃ b ∈ bytes.data.toList, IsControl b) →
        decode bytes = .error (.undecodable bytes.size))) ∧
    (∀ text : String, text.toList.head? ≠ some byteOrderMark → decode text.toUTF8 = .ok text) ∧
    (∀ (bytes : ByteArray) (text : String), Numbers bytes text →
      (∀ b ∈ bytes.data.toList, ¬ IsControl b) → ¬ Utf8.WellFormed bytes.data.toList →
      decode bytes = .ok text) ∧
    ∀ bytes : ByteArray, decodeBytes? bytes = (decode? bytes .utf8).or (decode? bytes .latin1) := by
  refine ⟨fun bytes h => decode_of_wellFormed h, fun bytes h => ⟨fun hno => ?_, fun hcontrol => ?_⟩,
    fun text h => decode_toUTF8 h, fun bytes text hnumbers hno h => ?_, decodeBytes?_eq⟩
  · exact ⟨widen bytes, numbers_widen bytes, (decode_of_not_wellFormed h).trans (if_neg hno)⟩
  · exact (decode_of_not_wellFormed h).trans (if_pos hcontrol)
  · rw [← wellFormed_unmarkedBytes] at h
    rw [decode_of_not_wellFormed h, if_neg (by simpa using hno), hnumbers.eq_widen]

theorem decode_cases_samples :
    (Utf8.WellFormed (unmarkedBytes ⟨#[0xEF, 0xBB, 0xBF, 0x41]⟩) ∧
      ∃ text : String, text.toUTF8.data.toList = unmarkedBytes ⟨#[0xEF, 0xBB, 0xBF, 0x41]⟩ ∧
        decode ⟨#[0xEF, 0xBB, 0xBF, 0x41]⟩ = .ok text) ∧
    (¬ Utf8.WellFormed (unmarkedBytes ⟨#[0xA9]⟩) ∧ ¬ (∃ b ∈ [0xA9], IsControl b) ∧
      ∃ text, Numbers ⟨#[0xA9]⟩ text ∧ decode ⟨#[0xA9]⟩ = .ok text) ∧
    ((∃ b ∈ [0x81], IsControl b) ∧ decode ⟨#[0x81]⟩ = .error (.undecodable 1)) ∧
    ("é".toList.head? ≠ some byteOrderMark ∧ decode "é".toUTF8 = .ok "é") ∧
    (Numbers ⟨#[0xA9]⟩ "©" ∧ decode ⟨#[0xA9]⟩ = .ok "©") := by
  have hutf8 : Utf8.WellFormed (unmarkedBytes ⟨#[0xEF, 0xBB, 0xBF, 0x41]⟩) :=
    .character (w := [0x41]) (.one ⟨by decide, by decide⟩) .nil
  have hsign : ¬ Utf8.WellFormed [0xA9] := Utf8.not_wellFormed_of_lead ⟨by decide, by decide⟩
  have hcontrol : ¬ Utf8.WellFormed [0x81] := Utf8.not_wellFormed_of_lead ⟨by decide, by decide⟩
  have hnumbers : Numbers ⟨#[0xA9]⟩ "©" := by unfold Numbers; decide
  have hplain : ∀ b ∈ ([0xA9] : List UInt8), ¬ IsControl b :=
    List.forall_mem_singleton.2 (by decide)
  obtain ⟨h1, h2, h3, h4, -⟩ := decode_cases
  exact ⟨⟨hutf8, h1 _ hutf8⟩, ⟨hsign, by decide, (h2 ⟨#[0xA9]⟩ hsign).1 (by decide)⟩,
    ⟨by decide, (h2 ⟨#[0x81]⟩ hcontrol).2 (by decide)⟩, ⟨by decide, h3 _ (by decide)⟩,
    ⟨hnumbers, h4 ⟨#[0xA9]⟩ "©" hnumbers hplain hsign⟩⟩

/-- **A control character of the second set** is not read back from ISO-8859-1. -/
theorem decode_control : Numbers ⟨#[0x85]⟩ "\u0085" ∧ ¬ Utf8.WellFormed [0x85] ∧
    decode ⟨#[0x85]⟩ = .error (.undecodable 1) := by
  have hbytes : ¬ Utf8.WellFormed (unmarkedBytes ⟨#[0x85]⟩) :=
    show ¬ Utf8.WellFormed [0x85] from Utf8.not_wellFormed_of_lead ⟨by decide, by decide⟩
  have hnumbers : Numbers ⟨#[0x85]⟩ "\u0085" := by unfold Numbers; decide
  refine ⟨hnumbers, hbytes, ?_⟩
  have hcontrol : ∃ b ∈ [0x85], IsControl b := by decide
  exact (decode_of_not_wellFormed hbytes).trans (if_pos hcontrol)

end Document
end MediaScraper
