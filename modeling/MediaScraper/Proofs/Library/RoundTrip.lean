import MediaScraper.Proofs.Library.Mending
import MediaScraper.Proofs.Library.Reading
import MediaScraper.Proofs.Scraper.Insertion
import MediaScraper.Proofs.Text.Charset

/-!
# Reading written libraries

Every library that writes a list of routines is read as these routines: its bytes decode to its text
at once, the repairs leave a text that writes the same routines (`library_ofWritten`), and reading
that text gives them (`readLibrary_ofWritten`). Of the routines of one name the scraper holds the
first.
-/

namespace MediaScraper.Scraper

open Xml

theorem head?_ofWritten {rs : List Routine} {s : List Char} (h : WritesLibrary rs s) :
    ∃ c ∈ s.head?, c = '<' ∨ isSpace c = true := by
  cases h with
  | @mk before after name content element values hbefore hafter hn hv hroutines helement =>
    cases before with
    | nil => exact ⟨'<', by rw [List.nil_append, helement.head?_append]; rfl, .inl rfl⟩
    | cons c cs => exact ⟨c, rfl, .inr (hbefore c List.mem_cons_self)⟩

theorem readBytes_toUTF8 {text : String} {library : Library}
    (h : readRepaired (Repair.library (Charset.unmarked text)) = .ok library) :
    readBytes text.toUTF8 = .ok library := by
  rw [readBytes, Charset.fallbackOrder, readIn, Charset.decode?_toUTF8]
  simp only [h]

theorem readBytes_ofWritten {rs : List Routine} {text : String} (h : WritesLibrary rs text.toList)
    (hw : ∀ r ∈ rs, r.Writable) : ∃ root, readBytes text.toUTF8 = .ok ⟨root, rs⟩ := by
  have hmark : text.toList.head? ≠ some Charset.byteOrderMark := by
    obtain ⟨c, hhead, hc⟩ := head?_ofWritten h
    rw [hhead]
    rintro ⟨⟩
    revert hc
    decide
  obtain ⟨root, hread⟩ := readLibrary_ofWritten (library_ofWritten h hw) hw
  refine ⟨root, readBytes_toUTF8 ?_⟩
  rw [Charset.unmarked_of_head? hmark, readRepaired, hread]

/-- **Libraries are read as they are written.** Writable routines have a library, and each text that
is one, however its brackets are written, its elements are closed and what of no meaning stands
between them, is read as a scraper of these routines: each name stands for the first routine of that
name, and nothing else is held. -/
theorem readText_ofWritten {rs : List Routine} (hw : ∀ r ∈ rs, r.Writable) :
    (∃ s, WritesLibrary rs s) ∧ ∀ id text, WritesLibrary rs text.toList →
      ∃ scraper, readText id text = .ok scraper ∧ scraper.id = id ∧
        (∀ name, scraper.find? name = rs.find? (·.name = name)) ∧
        scraper.routines.Sublist rs ∧ (scraper.routines.map (·.name)).Nodup := by
  refine ⟨exists_writesLibrary hw, fun id text h => ?_⟩
  obtain ⟨root, hread⟩ := readBytes_ofWritten h hw
  refine ⟨(empty id).insertAll rs, ?_, id_insertAll _ rs, fun name => ?_, ?_, ?_⟩
  · rw [readText, read, hread]
    rfl
  · rw [find?_insertAll, show (empty id).find? name = none from rfl, Option.none_or]
  · exact routines_insertAll (empty id) rs
  · exact nodup_insertAll (s := empty id) List.nodup_nil rs

/-! ## A library -/

/-- A routine with one rule, which has an expression. -/
def sampleRoutine : Routine :=
  ⟨"Find", false, 3, true,
    [.mk "$$1" "<b>" 2 false (some "!off") [] (some ⟨"a<", false, true, [1]⟩)]⟩

/-- A library of that routine, with a plain bracket, an element of no meaning and a space. -/
def sampleText : String :=
  "<s><Find dest=\"3+\" clearbuffers=\"no\"><x/> " ++
    "<RegExp input=\"$$1\" output=\"<b&gt;\" dest=\"2\" conditional=\"!off\">" ++
      "<expression clear=\"no\" repeat=\"yes\" noclean=\"1\">a&lt;</expression>" ++
    "</RegExp></Find></s>"

theorem writable_sampleRoutine : sampleRoutine.Writable := by
  have hexpression : Expression.Writable ⟨"a<", false, true, [1]⟩ := ⟨by decide, by decide⟩
  refine ⟨by decide, by decide, List.forall_mem_singleton.2 (.mk ?_ ?_ ?_ ?_ ?_ ?_ ?_ ?_)⟩
  · decide
  · decide
  · decide
  · decide
  · decide
  · rintro c ⟨⟩
    decide
  · rintro e ⟨⟩
    exact hexpression
  · exact fun x hx => absurd hx List.not_mem_nil

set_option maxRecDepth 4000 in
theorem writesLibrary_sampleText : WritesLibrary [sampleRoutine] sampleText.toList := by
  have htext : sampleText.toList = [] ++ (startTag "s".toList [] ++
      (startTag "Find".toList
          [⟨"dest".toList, "3+".toList⟩, ⟨"clearbuffers".toList, "no".toList⟩] ++
        (emptyTag "x".toList [] ++ ' ' ::
          (startTag "RegExp".toList
              [⟨"input".toList, "$$1".toList⟩, ⟨"output".toList, "<b&gt;".toList⟩,
                ⟨"dest".toList, "2".toList⟩, ⟨"conditional".toList, "!off".toList⟩] ++
            (startTag "expression".toList
                [⟨"clear".toList, "no".toList⟩, ⟨"repeat".toList, "yes".toList⟩,
                  ⟨"noclean".toList, "1".toList⟩] ++
              "a&lt;".toList ++ endTag "expression".toList ++ []) ++
            endTag "RegExp".toList ++ [])) ++
        endTag "Find".toList ++ []) ++
      endTag "s".toList) ++ [] := by
    -- the characters of a literal are named, since to take them from its bytes is slow
    delta sampleText
    conv_lhs =>
      rw [String.toList_append, String.toList_append, String.toList_append, String.toList_ofList,
        String.toList_ofList, String.toList_ofList, String.toList_ofList]
    decide
  rw [htext]
  have hplain {name raw : List Char} {value : String} (h : value.toList = raw)
      (hraw : ∀ c ∈ raw, plainInValue c = true) : Attribute.Spells ⟨name, raw⟩ (name, value) :=
    ⟨rfl, (congrArg (Spelling plainInValue · raw) h).mpr (spelling_self hraw)⟩
  have hpattern : WritesPattern "a<".toList "a&lt;".toList :=
    .text (.plain rfl (.named (rfl : Entity.predefined? ['l', 't'] = some '<') .nil))
  have houtput : Spelling plainInValue "<b>".toList "<b&gt;".toList :=
    .plain rfl (.plain rfl (.named (rfl : Entity.predefined? ['g', 't'] = some '>') .nil))
  have hnone : ValuesFit [] := fun v hv => absurd hv List.not_mem_nil
  refine .mk (by simp) (by simp) (by decide) hnone
    (.routine ?_ (.tags _ (.cons ?_ (.cons ?_ .nil))) .nil) (.tags _ .nil)
  · refine .foreign (.mk (by decide) (by decide) hnone .nil (.empty .nil)) (.space rfl ?_)
    refine .rule (.expression hpattern (.tags _ (.cons ?_ (.cons ?_ (.cons ?_ .nil)))) (.nil _))
      (.tags _ (.cons ?_ (.cons ⟨rfl, houtput⟩ (.cons ?_ (.cons ?_ .nil))))) (.nil _)
    all_goals exact hplain (by decide) (by decide)
  all_goals exact hplain (by decide) (by decide)

theorem readText_sampleText : sampleRoutine.Writable ∧
    WritesLibrary [sampleRoutine] sampleText.toList ∧
    ∃ scraper, readText "sample" sampleText = .ok scraper ∧
      scraper.find? "Find" = some sampleRoutine := by
  refine ⟨writable_sampleRoutine, writesLibrary_sampleText, ?_⟩
  obtain ⟨scraper, hread, -, hfind, -⟩ :=
    (readText_ofWritten (List.forall_mem_singleton.2 writable_sampleRoutine)).2 "sample" sampleText
      writesLibrary_sampleText
  exact ⟨scraper, hread, (hfind "Find").trans rfl⟩

end MediaScraper.Scraper
