import MediaScraper.Proofs.SearchResult.Written

/-!
# Reading search results back

The reader keeps one open entry, one open field and the entries that are finished. Between elements
no field is open, so what is read there is lost; in a field, every piece of its text is added to
what the entry holds (`follow_text`). A field is therefore read as one addition to the entry
(`follow_part`), and additions of the different fields of an entry may be exchanged
(`foldl_parts`), so an entry is read whatever the order of its fields (`follow_entity`).
-/

namespace MediaScraper

open Xml

namespace SearchResult

variable {r : SearchResult} {finished : List SearchResult} {opened : List (List Char)}

/-! ## Texts of fields -/

theorem addText_addText (r : SearchResult) (field : List Char) (s t : List Char) :
    (r.addText field (.ofList s)).addText field (.ofList t) =
      r.addText field (.ofList (s ++ t)) := by
  simp only [addText, String.ofList_append]
  split_ifs
  · simp only [String.append_assoc]
  · simp only [Option.getD_some, String.append_assoc]
  · simp only [Option.getD_some, String.append_assoc]
  · cases r.url <;> simp [Url.addText, String.append_assoc]
  · rfl

/-- `next` is the entry with a text added to a field. No text at all may have been added where the
text is empty. -/
def Gathers (field s : List Char) (r next : SearchResult) : Prop :=
  next = r.addText field (.ofList s) ∨ s = [] ∧ next = r

theorem Gathers.trans {field s t : List Char} {r₁ r₂ r₃ : SearchResult}
    (h : Gathers field s r₁ r₂) (h' : Gathers field t r₂ r₃) : Gathers field (s ++ t) r₁ r₃ := by
  rcases h with rfl | ⟨rfl, rfl⟩
  · rcases h' with rfl | ⟨rfl, rfl⟩
    · exact .inl (addText_addText r₁ field s t)
    · rw [List.append_nil]
      exact .inl rfl
  · exact h'

theorem step_text {raw s : List Char} (h : unescape raw = .ok s) (field : List Char) :
    Progress.step ⟨some r, some field, finished⟩ (.text raw) =
      .ok ⟨some (r.addText field (.ofList s)), some field, finished⟩ := by
  simp only [Progress.step, h, Progress.addText]

theorem follow_spelled {s w : List Char} (h : Spelling plainInText s w) {rest : List Char}
    (hrest : ∀ c ∈ rest.head?, c = '<') (r : SearchResult) (field : List Char) :
    ∃ next, Gathers field s r next ∧
      followFrom Progress.step opened ⟨some r, some field, finished⟩ (w ++ rest) =
        followFrom Progress.step opened ⟨some next, some field, finished⟩ rest := by
  have hraw : '<' ∉ w := h.not_mem (by decide) (by decide)
  by_cases hw : w = []
  · subst hw
    cases h
    exact ⟨r, .inr ⟨rfl, rfl⟩, rfl⟩
  · refine ⟨r.addText field (.ofList s), .inl rfl, ?_⟩
    exact followFrom_text _ hraw hrest
      (fun _ => step_text (unescape_of_spelling (by decide) h) field)
      fun hnil => absurd hnil hw

theorem follow_section {s w : List Char} (h : WritesSection s w) (r : SearchResult)
    (field rest : List Char) :
    ∃ next, Gathers field s r next ∧
      followFrom Progress.step opened ⟨some r, some field, finished⟩ (w ++ rest) =
        followFrom Progress.step opened ⟨some next, some field, finished⟩ rest := by
  cases h with
  | cdata hcontent =>
    exact ⟨r.addText field (.ofList s), .inl rfl, followFrom_cdataSection _ hcontent _ _ rest⟩
  | comment hnote => exact ⟨r, .inr ⟨rfl, rfl⟩, followFrom_comment _ hnote _ _ rest⟩

/-- **The pieces of a text are gathered** in the open field. -/
theorem follow_text {s w : List Char} (h : WritesText s w) {rest : List Char}
    (hrest : ∀ c ∈ rest.head?, c = '<') (r : SearchResult) (field : List Char) :
    ∃ next, Gathers field s r next ∧
      followFrom Progress.step opened ⟨some r, some field, finished⟩ (w ++ rest) =
        followFrom Progress.step opened ⟨some next, some field, finished⟩ rest := by
  induction h generalizing r with
  | last hspell => exact follow_spelled hspell hrest r field
  | @cut p w q sec t s hspell hsec _ ih =>
    have hhead : ∀ c ∈ (sec ++ (s ++ rest)).head?, c = '<' := by
      rw [List.head?_append, hsec.head?]
      rintro c ⟨⟩
      rfl
    obtain ⟨r₁, h₁, hread₁⟩ := follow_spelled hspell hhead r field
    obtain ⟨r₂, h₂, hread₂⟩ := follow_section hsec r₁ field (s ++ rest)
    obtain ⟨r₃, h₃, hread₃⟩ := ih r₂
    refine ⟨r₃, (h₁.trans h₂).trans h₃, ?_⟩
    rw [List.append_assoc, List.append_assoc, hread₁, hread₂, hread₃]

/-! ## Fields -/

/-- What a field adds to an entry. -/
def Part.addTo (r : SearchResult) : Part → SearchResult
  | .text name value => r.addText name value
  | .url u => { r with url := some u }

/-- A field that is read as it is written. -/
def Part.Fits : Part → Prop
  | .text name value =>
    name = "title".toList ∨ (name = "year".toList ∨ name = "id".toList) ∧ value ≠ ""
  | .url u => u.address ≠ "" ∧ ∀ f ∈ u.routine, allBlank f = false

theorem Writable.fits (h : r.Writable) : ∀ part ∈ r.parts, part.Fits := by
  intro part hpart
  simp only [parts, List.mem_cons, List.mem_append, Option.mem_toList, Option.map_eq_some_iff]
    at hpart
  rcases hpart with rfl | (⟨y, hy, rfl⟩ | ⟨i, hi, rfl⟩) | ⟨u, hu, rfl⟩
  · exact .inl rfl
  · exact .inr ⟨.inl rfl, (h.year y hy).2⟩
  · exact .inr ⟨.inr rfl, (h.id i hi).2⟩
  · exact ⟨(h.address u hu).2, h.routine u hu⟩

theorem Part.Fits.step_opening {name : List Char} {value : String}
    (h : (Part.text name value).Fits) (as : List Attribute) :
    Progress.step ⟨some r, none, finished⟩ (.opening ⟨name, tagSource name as⟩) =
      .ok ⟨some r, some name, finished⟩ := by
  rcases h with rfl | ⟨rfl | rfl, -⟩ <;> rfl

theorem Part.Fits.step_closing {name : List Char} {value : String}
    (h : (Part.text name value).Fits) :
    Progress.step ⟨some r, some name, finished⟩ (.closing name) = .ok ⟨some r, none, finished⟩ := by
  rcases h with rfl | ⟨rfl | rfl, -⟩ <;> rfl

theorem Part.Fits.isName {name : List Char} {value : String} (h : (Part.text name value).Fits) :
    IsName name := by
  rcases h with rfl | ⟨rfl | rfl, -⟩ <;> decide

theorem Part.Fits.eq_addText {name : List Char} {value : String} (h : (Part.text name value).Fits)
    {next : SearchResult} (hnext : Gathers name value.toList r next) :
    next = r.addText name value := by
  rcases hnext with hnext | ⟨hvalue, rfl⟩
  · rwa [String.ofList_toList] at hnext
  · have hempty : value = "" := by rwa [String.toList_eq_nil_iff] at hvalue
    rcases h with rfl | ⟨-, hne⟩
    · rw [hempty, addText, if_pos rfl, String.append_empty]
    · exact absurd hempty hne

/-- **A field is one addition to the entry.** -/
theorem follow_part {part : Part} {element : List Char} (h : WritesPart part element)
    (hpart : part.Fits) (r : SearchResult) (rest : List Char) :
    followFrom Progress.step opened ⟨some r, none, finished⟩ (element ++ rest) =
      followFrom Progress.step opened ⟨some (part.addTo r), none, finished⟩ rest := by
  have htag (name rest : List Char) : ∀ c ∈ (endTag name ++ rest).head?, c = '<' := by
    rintro c ⟨⟩
    rfl
  cases h with
  | @text name content _ value hcontent helement =>
    cases helement with
    | @tags as _ has =>
      obtain ⟨next, hnext, hread⟩ := follow_text hcontent (htag name rest) r name
      rw [List.append_assoc, List.append_assoc,
        followFrom_startTag _ hpart.isName (written_of_spells has (by simp)), hpart.step_opening]
      show followFrom Progress.step (name :: opened) _ _ = _
      rw [hread, followFrom_endTag _ hpart.isName, hpart.step_closing, hpart.eq_addText hnext]
      rfl
    | @empty as has =>
      have hnext : Gathers name value.toList r r := .inr ⟨hcontent.eq_nil, rfl⟩
      rw [followFrom_emptyTag _ hpart.isName (written_of_spells has (by simp)), Part.addTo,
        ← hpart.eq_addText hnext]
      rfl
  | @url u values content _ hu hcontent helement =>
    obtain ⟨haddress, hroutine⟩ := hpart
    cases helement with
    | @tags as _ has =>
      obtain ⟨next, hnext, hread⟩ := follow_text hcontent (htag _ rest)
        { r with url := some { u with address := "" } } Url.elementName
      have hopen : Progress.step ⟨some r, none, finished⟩
          (.opening ⟨Url.elementName, tagSource Url.elementName as⟩) =
            .ok ⟨some { r with url := some { u with address := "" } }, some Url.elementName,
              finished⟩ := by
        rw [Progress.step, if_neg (show Url.elementName ≠ "entity".toList by decide)]
        simp only [if_true, Url.ofTag_ofWritten has hu hroutine]
      have heq : next = Part.addTo r (.url u) := by
        rcases hnext with rfl | ⟨hnil, -⟩
        · rw [String.ofList_toList]
          show { r with url := some { u with address := "" ++ u.address } } = _
          rw [String.empty_append]
          rfl
        · exact absurd (String.toList_eq_nil_iff.1 hnil) haddress
      rw [List.append_assoc, List.append_assoc,
        followFrom_startTag _ (by decide) (written_of_spells has hu.fit.isName), hopen]
      show followFrom Progress.step (Url.elementName :: opened) _ _ = _
      rw [hread, followFrom_endTag _ (by decide), heq]
      rfl
    | @empty as has => exact absurd (String.toList_eq_nil_iff.1 hcontent.eq_nil) haddress

/-! ## Entries -/

theorem foldl_parts (r : SearchResult) : r.parts.foldl Part.addTo empty = r := by
  obtain ⟨title, year, id, url⟩ := r
  cases year <;> cases id <;> cases url <;>
    simp [parts, Part.addTo, addText, empty]

/-- Two fields of one entry may be exchanged: they are one and the same, or of different names. -/
theorem addTo_comm {p q : Part} (hp : p ∈ r.parts) (hq : q ∈ r.parts) (s : SearchResult) :
    q.addTo (p.addTo s) = p.addTo (q.addTo s) := by
  simp only [parts, List.mem_cons, List.mem_append, Option.mem_toList, Option.map_eq_some_iff]
    at hp hq
  rcases hp with rfl | (⟨y, hy, rfl⟩ | ⟨i, hi, rfl⟩) | ⟨u, hu, rfl⟩ <;>
    rcases hq with rfl | (⟨y', hy', rfl⟩ | ⟨i', hi', rfl⟩) | ⟨u', hu', rfl⟩ <;>
    simp_all [Part.addTo, addText]

/-- **Fields of an entry may be added in any order.** -/
theorem foldl_perm {ps : List Part} (h : ps.Perm r.parts) : ps.foldl Part.addTo empty = r := by
  rw [h.foldl_eq' fun p hp q hq s => addTo_comm (h.subset hp) (h.subset hq) s, foldl_parts]

theorem nonBlank?_of_trimmed {s : String} (h : Trimmed s) : nonBlank? s = some s := by
  rw [nonBlank?, h.1]
  simp [h.2]

theorem Writable.finish_eq (h : r.Writable) : r.finish = r := by
  have htext {s : Option String} (hs : ∀ t ∈ s, Trimmed t) : s.bind nonBlank? = s := by
    cases s with
    | none => rfl
    | some t => rw [Option.bind_some, nonBlank?_of_trimmed (hs t rfl)]
  have hurl : (r.url.map Url.trimmed).filter (fun u => !u.address.isEmpty) = r.url := by
    cases hu : r.url with
    | none => rfl
    | some u =>
      obtain ⟨htrim, hne⟩ := h.address u hu
      have htrimmed : u.trimmed = u := by rw [Url.trimmed, htrim]
      rw [Option.map_some, htrimmed, Option.filter_some, if_pos (by simpa using hne)]
  rw [finish, h.title, htext h.year, htext h.id, hurl]

/-- **An entry is read whatever the order of its fields.** -/
theorem follow_entity {s : List Char} (h : WritesEntity r s) (hr : r.Writable)
    (finished : List SearchResult) (rest : List Char) :
    followFrom Progress.step opened ⟨none, none, finished⟩ (s ++ rest) =
      followFrom Progress.step opened ⟨none, none, r :: finished⟩ rest := by
  cases h with
  | @mk ps content hperm hcontent =>
    have hname : IsName "entity".toList := by decide
    have hparts := followFrom_inSequence Progress.step hcontent ("entity".toList :: opened)
      (fun r => ⟨some r, none, finished⟩) Part.addTo (fun _ _ => rfl)
      (fun part hmem _ hpart r rest => follow_part hpart (hr.fits part (hperm.subset hmem)) r rest)
      empty (endTag "entity".toList ++ rest)
    rw [List.append_assoc, List.append_assoc, followFrom_startTag _ hname (by simp)]
    show followFrom Progress.step ("entity".toList :: opened) ⟨some empty, none, finished⟩ _ = _
    rw [hparts, foldl_perm hperm, followFrom_endTag _ hname]
    show followFrom Progress.step opened ⟨none, none, r.finish :: finished⟩ rest = _
    rw [hr.finish_eq]

theorem readAll_eq (xml : String) :
    readAll xml = followFrom Progress.step [] Progress.start xml.toList >>= fun p =>
      match p.current with
      | some _ => .error (.unreadable .unterminatedEntity)
      | none => .ok p.finished.reverse := by
  simp only [readAll, Xml.read, nest, followFrom, Reading.follow]
  generalize nestFrom _ _ _ _ = reading
  cases List.foldlM Progress.step Progress.start reading.events with
  | error e => rfl
  | ok p =>
    cases reading.fault with
    | some e => rfl
    | none => rfl

theorem readAll_of_writesResults {rs : List SearchResult} (hw : ∀ r ∈ rs, r.Writable)
    {text : String} (h : WritesResults rs text.toList) : readAll text = .ok rs := by
  generalize htext : text.toList = s at h
  cases h with
  | @mk before after content element hbefore hafter hcontent helement =>
    have hidle (finished : List SearchResult) (raw : List Char) :
        Progress.step ⟨none, none, finished⟩ (.text raw) = .ok ⟨none, none, finished⟩ := rfl
    have hentities (opened : List (List Char)) (rest : List Char) :
        followFrom Progress.step opened ⟨none, none, []⟩ (content ++ rest) =
          followFrom Progress.step opened ⟨none, none, rs.reverse⟩ rest := by
      have hentity (r : SearchResult) (hr : r ∈ rs) (entity : List Char) (h : WritesEntity r entity)
          (finished : List SearchResult) (rest : List Char) :
          followFrom Progress.step opened ⟨none, none, finished⟩ (entity ++ rest) =
            followFrom Progress.step opened ⟨none, none, r :: finished⟩ rest :=
        follow_entity h (hw r hr) finished rest
      have hread := followFrom_inSequence Progress.step hcontent opened
        (fun finished => ⟨none, none, finished⟩) (fun finished r => r :: finished) hidle hentity
        [] rest
      rwa [List.foldl_flip_cons_eq_append', List.append_nil] at hread
    have hname : IsName "results".toList := by decide
    have hroot (rest : List Char) :
        followFrom Progress.step [] ⟨none, none, []⟩ (element ++ rest) =
          followFrom Progress.step [] ⟨none, none, rs.reverse⟩ rest := by
      cases helement with
      | tags _ has =>
        rw [List.append_assoc, List.append_assoc,
          followFrom_startTag _ hname (written_of_spells has (by simp))]
        show followFrom Progress.step ["results".toList] ⟨none, none, []⟩ _ = _
        rw [hentities, followFrom_endTag _ hname]
        rfl
      | empty has =>
        -- An element that closes itself holds no entries.
        have hnil := hentities [] []
        rw [List.append_nil, followFrom_nil, followFrom_nil] at hnil
        rw [followFrom_emptyTag _ hname (written_of_spells has (by simp)),
          ← Except.ok.inj hnil]
        rfl
    rw [readAll_eq, htext, ← List.append_nil after, List.append_assoc, Progress.start,
      followFrom_spaces _ (hidle []) _ hbefore, hroot, followFrom_spaces _ (hidle _) _ hafter,
      followFrom_nil]
    simp only [bind, Except.bind, List.reverse_reverse]

/-- **Search results are read as they are written.** -/
theorem readAll_ofWritten {rs : List SearchResult} (hw : ∀ r ∈ rs, r.Writable) :
    (∃ s, WritesResults rs s) ∧
      ∀ text, WritesResults rs text.toList → readAll text = .ok rs :=
  ⟨exists_writesResults rs, fun _ h => readAll_of_writesResults hw h⟩

/-! ## A document -/

/-- An entry with a title that holds markup, an id and a url. -/
def sampleEntry : SearchResult :=
  ⟨"A <2>", none, some "t&1", some ⟨"http://a", some "Get", false, none, some "", true⟩⟩

/-- A document of that entry, with the title in three pieces and the url in front. -/
def sampleText : String :=
  "<results> <entity>" ++
    "<url gzip=\"yes\" function=\"Get\" cache=\"\">http://a</url>" ++
    "<title>A<!-- - --><![CDATA[ <2>]]></title> <id>t&amp;1</id>" ++
  "</entity></results>"

theorem writable_sampleEntry : sampleEntry.Writable := by
  constructor
  · decide
  · rintro y ⟨⟩
  · rintro i ⟨⟩
    exact ⟨by decide, by decide⟩
  · rintro u ⟨⟩
    exact ⟨by decide, by decide⟩
  · rintro u ⟨⟩ f ⟨⟩
    decide

set_option maxRecDepth 4000 in
theorem writesResults_sampleText : WritesResults [sampleEntry] sampleText.toList := by
  have htext : sampleText.toList = [] ++ (startTag "results".toList [] ++
      ' ' :: (startTag "entity".toList [] ++
          (startTag Url.elementName
                [⟨"gzip".toList, "yes".toList⟩, ⟨"function".toList, "Get".toList⟩,
                  ⟨"cache".toList, []⟩] ++ "http://a".toList ++ endTag Url.elementName ++
            (startTag "title".toList [] ++
                ("A".toList ++ comment " - ".toList ++ ([] ++ cdataSection " <2>".toList ++ [])) ++
                endTag "title".toList ++
              ' ' :: (startTag "id".toList [] ++ "t&amp;1".toList ++ endTag "id".toList ++ []))) ++
          endTag "entity".toList ++ []) ++
      endTag "results".toList) ++ [] := by
    delta sampleText
    conv_lhs =>
      rw [String.toList_append, String.toList_append, String.toList_append, String.toList_ofList,
        String.toList_ofList, String.toList_ofList, String.toList_ofList]
    decide
  rw [htext]
  have hplain {name raw : List Char} {value : String} (h : value.toList = raw)
      (hraw : ∀ c ∈ raw, plainInValue c = true) : Attribute.Spells ⟨name, raw⟩ (name, value) :=
    ⟨rfl, (congrArg (Spelling plainInValue · raw) h).mpr (spelling_self hraw)⟩
  have htitle : WritesText ("A".toList ++ [] ++ ([] ++ " <2>".toList ++ []))
      ("A".toList ++ comment " - ".toList ++ ([] ++ cdataSection " <2>".toList ++ [])) :=
    .cut (spelling_self (by decide)) (.comment (by decide))
      (.cut .nil (.cdata (by decide)) (.last .nil))
  have hid : WritesText "t&1".toList "t&amp;1".toList :=
    .last (.plain rfl
      (.named (rfl : Entity.predefined? ['a', 'm', 'p'] = some '&') (.plain rfl .nil)))
  have haddress : WritesText "http://a".toList "http://a".toList :=
    .last (spelling_self (by decide))
  let url : Url := ⟨"http://a", some "Get", false, none, some "", true⟩
  have hoptions : url.Options
      [("gzip".toList, "yes"), ("function".toList, "Get"), ("cache".toList, "")] :=
    ⟨by unfold NamesFit; decide, by decide, by decide, by decide, by decide, by decide⟩
  have hperm : [Part.url url, .text "title".toList "A <2>", .text "id".toList "t&1"].Perm
      sampleEntry.parts :=
    show ([.url url] ++ _ : List Part).Perm (_ ++ [.url url]) from List.perm_append_comm
  refine .mk (by simp) (by simp) (.space rfl (.item (.mk hperm ?_) .nil)) (.tags _ .nil)
  refine .item (.url hoptions haddress (.tags _ (.cons ?_ (.cons ?_ (.cons ?_ .nil))))) ?_
  · exact hplain (by decide) (by decide)
  · exact hplain (by decide) (by decide)
  · exact hplain (by decide) (by decide)
  · exact .item (.text htitle (.tags _ .nil)) (.space rfl (.item (.text hid (.tags _ .nil)) .nil))

theorem readAll_sampleText : sampleEntry.Writable ∧ WritesResults [sampleEntry] sampleText.toList ∧
    readAll sampleText = .ok [sampleEntry] :=
  ⟨writable_sampleEntry, writesResults_sampleText,
    (readAll_ofWritten (List.forall_mem_singleton.2 writable_sampleEntry)).2 sampleText
      writesResults_sampleText⟩

end SearchResult
end MediaScraper
