import MediaScraper.Proofs.Charset.Decoding
import MediaScraper.Proofs.Library.Merging
import MediaScraper.Proofs.Library.RoundTrip

/-!
# The charsets of a library

The charset of a library does not show in its scraper: a library in ISO-8859-1 that is read is also
read from its bytes in UTF-8, as the same scraper. A library in US-ASCII has the same text in each
charset, so each attempt to read it ends as the first one does, and the first one counts
(`read_charsets`).
-/

namespace MediaScraper

namespace Charset

/-- Other charsets than UTF-8 take the bytes for the numbers of characters. -/
theorem decode?_of_ne_utf8 {charset : Charset} (h : charset ≠ utf8) {bytes : ByteArray}
    {text : String} (hread : decode? bytes charset = some text) : text = widen bytes := by
  cases charset with
  | utf8 => exact absurd rfl h
  | latin1 | ascii =>
    simp only [decode?] at hread
    split_ifs at hread
    exact (Option.some.inj hread).symm

theorem toUTF8_of_ascii {bytes : ByteArray} {text : String} (htext : Numbers bytes text)
    (h : ∀ b ∈ bytes.data.toList, b.toNat < 0x80) :
    text.toUTF8.data.toList = bytes.data.toList := by
  have hencode : ∀ c ∈ text.toList, String.utf8EncodeChar c = [UInt8.ofNat c.toNat] := by
    intro c hc
    have hmem : c.toNat ∈ bytes.data.toList.map UInt8.toNat := htext ▸ List.mem_map_of_mem hc
    obtain ⟨b, hb, hnumber⟩ := List.mem_map.1 hmem
    have hsmall : c.val.toNat ≤ 0x7F := by
      have := h b hb
      rw [hnumber] at this
      exact Nat.le_of_lt_succ this
    rw [String.utf8EncodeChar]
    simp only [hsmall, if_true]
    rfl
  calc text.toUTF8.data.toList
      _ = text.toList.flatMap String.utf8EncodeChar := by
        rw [String.toUTF8_eq_toByteArray, ← String.ofList_toList (s := text),
          String.toByteArray_ofList, List.utf8Encode, List.data_toByteArray, String.toList_ofList]
      _ = text.toList.flatMap fun c => [UInt8.ofNat c.toNat] := List.flatMap_congr hencode
      _ = (text.toList.map Char.toNat).map UInt8.ofNat := by
        rw [List.map_map, List.map_eq_flatMap]
        rfl
      _ = bytes.data.toList := by
        rw [htext, List.map_map]
        exact List.map_id'' (fun b => UInt8.ofNat_toNat) _

/-- **The bytes of US-ASCII have one text** in all charsets. -/
theorem decode?_of_ascii {bytes : ByteArray} {text : String} (htext : Numbers bytes text)
    (h : ∀ b ∈ bytes.data.toList, b.toNat < 0x80) (charset : Charset) :
    decode? bytes charset = some text := by
  cases charset with
  | utf8 =>
    have hmark : unmarkedBytes bytes = bytes.data.toList := by
      rw [unmarkedBytes]
      cases hbytes : bytes.data.toList with
      | nil => rfl
      | cons b rest =>
        have hb : (0xEF : UInt8) ≠ b := by
          rintro rfl
          exact absurd (h 0xEF (hbytes ▸ List.mem_cons_self)) (by decide)
        simp [markBytes, List.isPrefixOf?, hb]
    rw [decode?_utf8_eq_some_iff, hmark]
    exact toUTF8_of_ascii htext h
  | latin1 =>
    rw [decode?_latin1_eq, if_neg, htext.eq_widen]
    rintro ⟨b, hb, hcontrol, -⟩
    exact absurd (h b hb) (Nat.not_lt.2 hcontrol)
  | ascii =>
    have hall : bytes.data.all (· < 0x80) = true := by
      rw [← Array.all_toList, List.all_eq_true]
      exact fun b hb => decide_eq_true (UInt8.lt_iff_toNat_lt.2 (h b hb))
    rw [decode?, if_pos hall, htext.eq_widen]

end Charset

namespace Scraper

open Charset (Numbers)

theorem readIn_cons {bytes : ByteArray} {charset : Charset} {text : String}
    (h : charset.decode? bytes = some text) (more : List Charset) (last : Failure) :
    readIn bytes (charset :: more) last =
      match readRepaired (Repair.library text) with
      | .ok library => .ok library
      | .error e => readIn bytes more e := by
  cases hread : readRepaired (Repair.library text) <;> simp only [readIn, h, hread]

/-- **Further attempts change nothing** if each charset gives the same text. -/
theorem readIn_of_error {bytes : ByteArray} {text : String} {e : Failure}
    (hread : readRepaired (Repair.library text) = .error e) {charsets : List Charset}
    (h : ∀ charset ∈ charsets, charset.decode? bytes = some text) :
    readIn bytes charsets e = .error e := by
  induction charsets with
  | nil => rfl
  | cons charset more ih =>
    obtain ⟨hcharset, hmore⟩ := List.forall_mem_cons.1 h
    rw [readIn_cons hcharset, hread]
    exact ih hmore

/-- A library in US-ASCII is read in UTF-8, well or badly. -/
theorem readBytes_of_ascii {bytes : ByteArray} {text : String} (htext : Numbers bytes text)
    (h : ∀ b ∈ bytes.data.toList, b.toNat < 0x80) :
    readBytes bytes = readRepaired (Repair.library text) := by
  have hdecode (charset : Charset) := Charset.decode?_of_ascii htext h charset
  rw [readBytes, Charset.fallbackOrder, readIn_cons (hdecode .utf8)]
  cases hread : readRepaired (Repair.library text) with
  | ok library => rfl
  | error e => exact readIn_of_error hread fun charset _ => hdecode charset

/-- A library that is read, but not in UTF-8, is also read from the bytes of its text in UTF-8. -/
theorem readBytes_toUTF8_of_numbers {bytes : ByteArray} {text : String}
    (htext : Numbers bytes text) (hutf8 : Charset.decode? bytes .utf8 = none) {library : Library}
    (hread : readBytes bytes = .ok library) : readBytes text.toUTF8 = .ok library := by
  have hmark : text.toList.head? ≠ some Charset.byteOrderMark := by
    intro hhead
    have hmem : Charset.byteOrderMark.toNat ∈ bytes.data.toList.map UInt8.toNat :=
      htext ▸ List.mem_map_of_mem (List.mem_of_mem_head? hhead)
    obtain ⟨b, -, hnumber⟩ := List.mem_map.1 hmem
    have hbyte := b.toNat_lt
    rw [hnumber] at hbyte
    exact absurd hbyte (by decide)
  obtain ⟨charset, -, found, hfound, hread⟩ := exists_text_of_readIn hread
  have hne : charset ≠ .utf8 := by
    rintro rfl
    rw [hutf8] at hfound
    cases hfound
  have hsame : found = text :=
    (Charset.decode?_of_ne_utf8 hne hfound).trans htext.eq_widen.symm
  have hagain : readRepaired (Repair.library (Charset.unmarked text)) = .ok library := by
    rw [Charset.unmarked_of_head? hmark, ← hsame]
    exact hread
  exact readBytes_toUTF8 hagain

/-- **The charset of a library does not show.** What is read from the numbers of a text's
characters, where these are no UTF-8, is read from its bytes in UTF-8, too. And what is read from
bytes of US-ASCII, with its fault if there is one, is what their text is read as, at once or with
the names of HTML written out. The shared libraries are the same. -/
theorem read_charsets (id : String) (imports : List String) (shared : List SharedLibrary)
    {bytes : ByteArray} {text : String} (htext : Numbers bytes text) :
    (Charset.decode? bytes .utf8 = none → ∀ scraper,
      read id bytes imports shared = .ok scraper →
        read id text.toUTF8 imports shared = .ok scraper) ∧
    ((∀ b ∈ bytes.data.toList, b.toNat < 0x80) →
      read id bytes imports shared = (do
        let own ← readRepaired (Repair.library text)
        let imported := (shared.filter (·.isImportedBy imports)).flatMap SharedLibrary.routines
        return ((empty id).insertAll own.routines).insertAll imported)) := by
  refine ⟨fun hutf8 scraper hread => ?_, fun hascii => ?_⟩
  · obtain ⟨own, hown, hread⟩ := bind_eq_ok_iff.1 hread
    exact bind_eq_ok_iff.2 ⟨own, readBytes_toUTF8_of_numbers htext hutf8 hown, hread⟩
  · rw [read, readBytes_of_ascii htext hascii]

/-- A library with a letter outside US-ASCII. -/
def accentedText : String := "<s><F dest=\"3\"><RegExp output=\"é\" dest=\"3\"/></F></s>"

/-- The library in ISO-8859-1. -/
def accentedBytes : ByteArray := ⟨(accentedText.toList.map fun c => UInt8.ofNat c.toNat).toArray⟩

theorem read_charsets_samples :
    (∃ scraper, Numbers accentedBytes accentedText ∧
      Charset.decode? accentedBytes .utf8 = none ∧
      read "id" accentedBytes [] [] = .ok scraper ∧
      read "id" accentedText.toUTF8 [] [] = .ok scraper) ∧
    Numbers "<s>".toUTF8 "<s>" ∧ (∀ b ∈ "<s>".toUTF8.data.toList, b.toNat < 0x80) ∧
      read "id" "<s>".toUTF8 [] [] = (do
        let own ← readRepaired (Repair.library "<s>")
        let imported := ([].filter (SharedLibrary.isImportedBy · [])).flatMap
          SharedLibrary.routines
        return ((empty "id").insertAll own.routines).insertAll imported) := by
  have haccented : Numbers accentedBytes accentedText := by
    unfold Numbers
    decide
  have hutf8 : Charset.decode? accentedBytes .utf8 = none := by decide
  have hplain : Numbers "<s>".toUTF8 "<s>" := by
    unfold Numbers
    decide
  have hascii : ∀ b ∈ "<s>".toUTF8.data.toList, b.toNat < 0x80 := by decide +kernel
  have hok : (read "id" accentedBytes [] []).isOk = true := by decide +kernel
  refine ⟨?_, hplain, hascii, (read_charsets "id" [] [] hplain).2 hascii⟩
  cases hread : read "id" accentedBytes [] [] with
  | error e =>
    rw [hread] at hok
    cases hok
  | ok scraper =>
    exact ⟨scraper, haccented, hutf8, rfl,
      (read_charsets "id" [] [] haccented).1 hutf8 scraper hread⟩

end Scraper
end MediaScraper
