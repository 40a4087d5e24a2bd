import Mathlib.Data.List.Dedup
import MediaScraper.Proofs.Library.RoundTrip
import MediaScraper.Proofs.Text.Search

/-!
# Merging libraries

**Contributions.** A shared library contributes its routines if it is imported, reads and has the
root element of a shared library (`Contribution`); a library reads only if it does so to its end
(`whole_of_readBytes`). There is one contribution of a list of shared libraries, and it is what
reading a scraper takes from them (`contribution_iff`).

**Precedence.** A scraper holds the first routine of each name in the library itself and then in the
contributions (`read_merges`).
-/

namespace MediaScraper.Scraper

/-! ## Whole libraries -/

theorem fault_eq_none_of_readLibrary {xml : String} {library : Library}
    (h : readLibrary xml = .ok library) : (Xml.read xml).fault = none := by
  obtain ⟨p, -, h⟩ := bind_eq_ok_iff.1 h
  cases hfault : (Xml.read xml).fault with
  | none => rfl
  | some e =>
    rw [hfault] at h
    cases h

theorem exists_text_of_readIn {bytes : ByteArray} {charsets : List Charset} {last : Failure}
    {library : Library} (h : readIn bytes charsets last = .ok library) :
    ∃ charset ∈ charsets, ∃ text, charset.decode? bytes = some text ∧
      readRepaired (Repair.library text) = .ok library := by
  induction charsets generalizing last with
  | nil => cases h
  | cons charset more ih =>
    rw [readIn] at h
    have hbehind {last : Failure} (h : readIn bytes more last = .ok library) :
        ∃ other ∈ charset :: more, ∃ text, other.decode? bytes = some text ∧
          readRepaired (Repair.library text) = .ok library := by
      obtain ⟨other, hother, htext⟩ := ih h
      exact ⟨other, List.mem_cons_of_mem charset hother, htext⟩
    cases htext : charset.decode? bytes with
    | none =>
      rw [htext] at h
      exact hbehind h
    | some text =>
      rw [htext] at h
      simp only at h
      split at h
      · next hread =>
        cases h
        exact ⟨charset, List.mem_cons_self, text, htext, hread⟩
      · exact hbehind h

/-- **A library reads to its end**, or not at all: in one of the charsets its text, with the names
of HTML written out or not, has no fault. -/
theorem whole_of_readBytes {bytes : ByteArray} {library : Library}
    (h : readBytes bytes = .ok library) :
    ∃ charset ∈ Charset.fallbackOrder, ∃ text, charset.decode? bytes = some text ∧
      ∃ xml ∈ [Repair.library text, Repair.namedEntities (Repair.library text)],
        readLibrary xml = .ok library ∧ (Xml.read xml).fault = none := by
  obtain ⟨charset, hcharset, text, htext, hread⟩ := exists_text_of_readIn h
  have hwhole (xml : String)
      (hxml : xml ∈ [Repair.library text, Repair.namedEntities (Repair.library text)])
      (hread : readLibrary xml = .ok library) :
      ∃ xml ∈ [Repair.library text, Repair.namedEntities (Repair.library text)],
        readLibrary xml = .ok library ∧ (Xml.read xml).fault = none :=
    ⟨xml, hxml, hread, fault_eq_none_of_readLibrary hread⟩
  refine ⟨charset, hcharset, text, htext, ?_⟩
  rw [readRepaired] at hread
  split at hread
  · next hplain =>
    cases hread
    exact hwhole _ (by simp) hplain
  · dsimp only at hread
    split_ifs at hread
    exact hwhole _ (by simp) hread

/-! ## Contributions -/

/-- An id that is imported occurs in the path. -/
def IsImported (imports : List String) (path : String) : Prop :=
  ∃ id ∈ imports, id ≠ "" ∧ id.toList <:+: path.toList

/-- Why a shared library contributes nothing. -/
inductive Ignored (imports : List String) (c : SharedLibrary) : Prop
  | notImported : ¬ IsImported imports c.path → Ignored imports c
  | otherRoot {library : Library} : readBytes c.bytes = .ok library →
      library.root ≠ "scraperfunctions" → Ignored imports c
  | unreadable {e : Failure} : readBytes c.bytes = .error e → Ignored imports c

/-- What shared libraries contribute, one after the other. -/
inductive Contribution (imports : List String) : List SharedLibrary → List Routine → Prop
  | nil : Contribution imports [] []
  | cons {c : SharedLibrary} {library : Library} {more : List SharedLibrary} {rs : List Routine} :
      IsImported imports c.path → readBytes c.bytes = .ok library →
      library.root = "scraperfunctions" → Contribution imports more rs →
      Contribution imports (c :: more) (library.routines ++ rs)
  | ignored {c : SharedLibrary} {more : List SharedLibrary} {rs : List Routine} :
      Ignored imports c → Contribution imports more rs → Contribution imports (c :: more) rs

section

variable {imports : List String} {c : SharedLibrary}

theorem isImportedBy_iff : c.isImportedBy imports = true ↔ IsImported imports c.path := by
  simp [SharedLibrary.isImportedBy, IsImported, Text.occursIn_iff]

/-- What is taken from a shared library. -/
def taken (imports : List String) (c : SharedLibrary) : List Routine :=
  if c.isImportedBy imports then c.routines else []

theorem taken_of_ignored (h : Ignored imports c) : taken imports c = [] := by
  rw [taken]
  cases h with
  | notImported h => rw [if_neg (mt isImportedBy_iff.1 h)]
  | otherRoot hread hroot =>
    rw [SharedLibrary.routines, hread]
    simp only
    rw [sharedRoot, if_neg hroot, ite_self]
  | unreadable hread => rw [SharedLibrary.routines, hread, ite_self]

theorem taken_of_read {library : Library} (himported : IsImported imports c.path)
    (hread : readBytes c.bytes = .ok library) (hroot : library.root = "scraperfunctions") :
    taken imports c = library.routines := by
  rw [taken, if_pos (isImportedBy_iff.2 himported), SharedLibrary.routines, hread]
  simp only
  rw [sharedRoot, if_pos hroot]

/-- **There is one contribution** of a list of shared libraries. -/
theorem contribution_iff {shared : List SharedLibrary} {rs : List Routine} :
    Contribution imports shared rs ↔ rs = shared.flatMap (taken imports) := by
  constructor
  · intro h
    induction h with
    | nil => rfl
    | cons himported hread hroot _ ih =>
      rw [List.flatMap_cons, taken_of_read himported hread hroot, ih]
    | ignored h _ ih => rw [List.flatMap_cons, taken_of_ignored h, List.nil_append, ih]
  · rintro rfl
    induction shared with
    | nil => exact .nil
    | cons c shared ih =>
      rw [List.flatMap_cons]
      by_cases himported : IsImported imports c.path
      · cases hread : readBytes c.bytes with
        | error e =>
          have hignored : Ignored imports c := .unreadable hread
          rw [taken_of_ignored hignored]
          exact .ignored hignored ih
        | ok library =>
          by_cases hroot : library.root = "scraperfunctions"
          · rw [taken_of_read himported hread hroot]
            exact .cons himported hread hroot ih
          · have hignored : Ignored imports c := .otherRoot hread hroot
            rw [taken_of_ignored hignored]
            exact .ignored hignored ih
      · rw [taken_of_ignored (.notImported himported)]
        exact .ignored (.notImported himported) ih

theorem flatMap_filter_isImportedBy (imports : List String) (shared : List SharedLibrary) :
    (shared.filter (·.isImportedBy imports)).flatMap SharedLibrary.routines =
      shared.flatMap (taken imports) := by
  induction shared with
  | nil => rfl
  | cons c shared ih =>
    rw [List.filter_cons, List.flatMap_cons, taken]
    split
    · rw [List.flatMap_cons, ih]
    · rw [List.nil_append, ih]

end

/-! ## Precedence -/

theorem isSome_find? (s : Scraper) (name : String) :
    (s.find? name).isSome = true ↔ name ∈ s.routines.map (·.name) := by
  simp [find?, List.find?_isSome]

/-- A scraper that is read holds as many routines as there are names. -/
theorem size_insertAll (id : String) (rs : List Routine) :
    ((empty id).insertAll rs).size = (rs.map (·.name)).dedup.length := by
  have hnodup := nodup_insertAll (s := empty id) List.nodup_nil rs
  have hperm : (((empty id).insertAll rs).routines.map (·.name)).Perm (rs.map (·.name)).dedup := by
    refine (List.perm_ext_iff_of_nodup hnodup (List.nodup_dedup _)).2 fun name => ?_
    rw [← isSome_find?, find?_insertAll, List.mem_dedup]
    simp [find?, empty, List.find?_isSome]
  rw [size, ← hperm.length_eq, List.length_map]

theorem insertAll_append (s : Scraper) (rs rs' : List Routine) :
    (s.insertAll rs).insertAll rs' = s.insertAll (rs ++ rs') := by
  rw [insertAll, insertAll, insertAll, List.foldl_append]

theorem read_of_contribution {library : ByteArray} {imports : List String}
    {shared : List SharedLibrary} {rs : List Routine} (h : Contribution imports shared rs)
    (id : String) :
    read id library imports shared = (readBytes library).map fun own =>
      (empty id).insertAll (own.routines ++ rs) := by
  rw [contribution_iff.1 h, ← flatMap_filter_isImportedBy, read]
  cases readBytes library with
  | error e => rfl
  | ok own =>
    rw [Except.map, ← insertAll_append]
    rfl

/-- **The first routine of each name counts**, of the library itself and then of the shared libraries
in their order: of each that is imported, reads, and has the root element of a shared library. One
for which this does not hold makes no difference. Only if the library itself does not read there is
no scraper. -/
theorem read_merges (id : String) (library : ByteArray) (imports : List String)
    (shared : List SharedLibrary) :
    (∀ own, readBytes library = .ok own → ∃ contributed scraper,
      Contribution imports shared contributed ∧
        read id library imports shared = .ok scraper ∧ scraper.id = id ∧
        (∀ name, scraper.find? name = (own.routines ++ contributed).find? (·.name = name)) ∧
        scraper.size = ((own.routines ++ contributed).map (·.name)).dedup.length) ∧
    (∀ front c back, shared = front ++ c :: back → Ignored imports c →
      read id library imports shared = read id library imports (front ++ back)) ∧
    ∀ e, readBytes library = .error e → read id library imports shared = .error e := by
  refine ⟨fun own hown => ?_, ?_, fun e he => ?_⟩
  · refine ⟨_, _, contribution_iff.2 rfl, ?_, id_insertAll (empty id) _, fun name => ?_,
      size_insertAll id _⟩
    · rw [read_of_contribution (contribution_iff.2 rfl), hown]
      rfl
    · rw [find?_insertAll, show (empty id).find? name = none from rfl, Option.none_or]
  · rintro front c back rfl hc
    have hsame : (front ++ c :: back).flatMap (taken imports) =
        (front ++ back).flatMap (taken imports) := by
      simp [taken_of_ignored hc]
    rw [read_of_contribution (contribution_iff.2 rfl),
      read_of_contribution (contribution_iff.2 rfl), hsame]
  · rw [read_of_contribution (contribution_iff.2 rfl), he]
    rfl

/-! ## Libraries next to an addon -/

/-- A library of two routines. -/
def mainText : String := "<s><A dest=\"3\"/><B dest=\"4\"/></s>"

/-- A shared library with a routine of a name that there is already, and of a new one. -/
def firstShared : SharedLibrary :=
  ⟨"common/first.xml",
    "<scraperfunctions><A dest=\"5\"/><C dest=\"6\"/></scraperfunctions>".toUTF8⟩

/-- A shared library with a fault behind a routine. -/
def brokenShared : SharedLibrary :=
  ⟨"common/broken.xml", "<scraperfunctions><D dest=\"7\"/><E></scraperfunctions>".toUTF8⟩

/-- A shared library that is not imported. -/
def strangeShared : SharedLibrary :=
  ⟨"strange/third.xml", "<scraperfunctions><G dest=\"8\"/></scraperfunctions>".toUTF8⟩

theorem read_merges_mainText : ∃ scraper,
    read "id" mainText.toUTF8 ["common", ""] [firstShared, brokenShared, strangeShared] =
        .ok scraper ∧
      read "id" mainText.toUTF8 ["common", ""] [firstShared, strangeShared] = .ok scraper ∧
      scraper.size = 3 ∧ (scraper.find? "A").map (·.target) = some 3 ∧
      (scraper.find? "C").map (·.target) = some 6 ∧ (scraper.find? "D").isNone = true := by
  have hshown : (read "id" mainText.toUTF8 ["common", ""]
      [firstShared, strangeShared]).toOption.map (fun scraper =>
        (scraper.size, (scraper.find? "A").map (·.target), (scraper.find? "C").map (·.target),
          (scraper.find? "D").isNone)) = some (3, some 3, some 6, true) := by
    decide +kernel
  have hbroken : (readBytes brokenShared.bytes).toOption.isNone = true := by decide +kernel
  have hmerges := read_merges "id" mainText.toUTF8 ["common", ""]
    [firstShared, brokenShared, strangeShared]
  have hignored : Ignored ["common", ""] brokenShared := by
    cases hread : readBytes brokenShared.bytes with
    | error e => exact .unreadable hread
    | ok library =>
      rw [hread] at hbroken
      cases hbroken
  have hdropped := hmerges.2.1 [firstShared] brokenShared [strangeShared] rfl hignored
  cases hown : readBytes mainText.toUTF8 with
  | error e =>
    have hnone := (hmerges.2.2 e hown).symm.trans hdropped
    rw [List.singleton_append] at hnone
    rw [← hnone] at hshown
    cases hshown
  | ok own =>
    obtain ⟨contributed, scraper, -, hread, -⟩ := hmerges.1 own hown
    rw [hread, List.singleton_append] at hdropped
    rw [← hdropped] at hshown
    obtain ⟨hsize, hshown⟩ := Prod.mk.inj (Option.some.inj hshown)
    obtain ⟨hfirst, hshown⟩ := Prod.mk.inj hshown
    obtain ⟨hnew, hlost⟩ := Prod.mk.inj hshown
    exact ⟨scraper, hread, hdropped.symm, hsize, hfirst, hnew, hlost⟩

end MediaScraper.Scraper
