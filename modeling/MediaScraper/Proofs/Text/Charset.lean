import MediaScraper.Document

/-!
# Reading UTF-8 back

The bytes of a text in UTF-8 stand for the text, without the character that a byte order mark stands
for if it begins with that (`decode?_toUTF8`, `Document.decode_toUTF8`).
-/

namespace MediaScraper

namespace Charset

/-- The character that a byte order mark stands for. -/
def byteOrderMark : Char := '\uFEFF'

theorem utf8Encode_byteOrderMark : [byteOrderMark].utf8Encode = ⟨#[0xEF, 0xBB, 0xBF]⟩ := by decide

theorem dropByteOrderMark_toUTF8 {text : String} (h : text.toList.head? ≠ some byteOrderMark) :
    dropByteOrderMark text.toUTF8 = text.toUTF8 := by
  rw [dropByteOrderMark, if_neg]
  intro hdata
  have hmark : text.toByteArray.extract 0 3 = [byteOrderMark].utf8Encode := by
    rw [utf8Encode_byteOrderMark]
    exact ByteArray.ext hdata
  -- the bytes begin with those of the mark, so the text begins with its character
  obtain ⟨rest, hbytes⟩ : ∃ rest, text.toByteArray = [byteOrderMark].utf8Encode ++ rest := by
    have hsize : 3 ≤ text.toByteArray.size := by
      have hlength := congrArg ByteArray.size hmark
      rw [ByteArray.size_extract, show [byteOrderMark].utf8Encode.size = 3 by decide] at hlength
      omega
    refine ⟨text.toByteArray.extract 3 text.toByteArray.size, ?_⟩
    rw [← hmark, ← ByteArray.extract_eq_extract_append_extract 3 (by omega) hsize,
      ByteArray.extract_zero_size]
  have hvalid := text.isValidUTF8
  rw [hbytes, ByteArray.isValidUTF8_utf8Encode_singleton_append_iff] at hvalid
  obtain ⟨cs, rfl⟩ := hvalid
  have htext : text = String.ofList ([byteOrderMark] ++ cs) := by
    rw [← String.toByteArray_inj, hbytes, String.toByteArray_ofList, List.utf8Encode_append]
  rw [htext, String.toList_ofList] at h
  exact h rfl

/-- The text without one leading byte order mark. -/
def unmarked (text : String) : String :=
  if text.toList.head? = some byteOrderMark then .ofList text.toList.tail else text

theorem unmarked_of_head? {text : String} (h : text.toList.head? ≠ some byteOrderMark) :
    unmarked text = text := if_neg h

theorem dropByteOrderMark_toUTF8_unmarked (text : String) :
    dropByteOrderMark text.toUTF8 = (unmarked text).toUTF8 := by
  by_cases h : text.toList.head? = some byteOrderMark
  · obtain ⟨cs, hcs⟩ := List.head?_eq_some_iff.1 h
    have hbytes : text.toUTF8 = [byteOrderMark].utf8Encode ++ cs.utf8Encode := by
      rw [String.toUTF8_eq_toByteArray, ← String.ofList_toList (s := text), hcs,
        String.toByteArray_ofList, ← List.utf8Encode_append]
      rfl
    have hrest : (unmarked text).toUTF8 = cs.utf8Encode := by
      rw [unmarked, if_pos h, hcs, String.toUTF8_eq_toByteArray, String.toByteArray_ofList]
      rfl
    have hsize : 3 = [byteOrderMark].utf8Encode.size := by decide
    have hfront : (text.toUTF8.extract 0 3).data = #[0xEF, 0xBB, 0xBF] := by
      rw [hbytes, ByteArray.extract_append_eq_left hsize, utf8Encode_byteOrderMark]
    rw [dropByteOrderMark, if_pos hfront, hbytes, hrest]
    exact ByteArray.extract_append_eq_right hsize ByteArray.size_append
  · rw [unmarked_of_head? h, dropByteOrderMark_toUTF8 h]

/-- **A text is read back from its bytes in UTF-8.** -/
theorem decode?_toUTF8 (text : String) :
    decode? text.toUTF8 .utf8 = some (unmarked text) := by
  rw [decode?, dropByteOrderMark_toUTF8_unmarked, String.toUTF8_eq_toByteArray, String.fromUTF8?,
    dif_pos (unmarked text).isValidUTF8, String.fromUTF8]

end Charset

theorem Document.decode_toUTF8 {text : String}
    (h : text.toList.head? ≠ some Charset.byteOrderMark) : decode text.toUTF8 = .ok text := by
  rw [decode, decodeBytes?, Charset.fallbackOrder, List.findSome?_cons, Charset.decode?_toUTF8,
    Charset.unmarked_of_head? h]

end MediaScraper
