import MediaScraper.Diff
import MediaScraper.Proofs.Diff.Edits
import MediaScraper.Proofs.Text.Numeral

/-!
# Reports that are read

A report is read row by row (`rows`). Those rows of it that stand behind a blank or a minus are the
rows of the old text, and those behind a blank or a plus are the rows of the new one. No row is
without a sign but for empty ones, of which there is at most one for each text without a line feed
at its end. So it is for any edits from the one text to the other (`shows_showEdits`), and those
that are made lead there (`shows_report`).

The texts hold no carriage returns. So the lines that are compared are the rows with their line
feeds (`Lined`), and what is shown of a line is read as a row again (`rows_showLine`).
-/

namespace MediaScraper.Diff

/-! ## Rows -/

/-- What stands before each line feed, and what stands behind the last one, if it is not nothing. -/
def rows (s : List Char) : List (List Char) :=
  let parts := Text.splitAt '\n' s
  if parts.getLast? = some [] then parts.dropLast else parts

/-- The rows behind one of these signs, without it. -/
def unsigned (signs : List Char) (rows : List (List Char)) : List (List Char) :=
  rows.filterMap fun
    | [] => none
    | sign :: row => if sign ∈ signs then some row else none

/-- One, if something stands behind the last line feed. -/
def unfinished (s : List Char) : Nat := if s.getLast?.all (· = '\n') then 0 else 1

theorem splitAt_ne_nil (s : List Char) : Text.splitAt '\n' s ≠ [] := by
  cases s with
  | nil => exact List.cons_ne_nil [] []
  | cons c s =>
    rw [Text.splitAt, List.foldr_cons]
    split
    · exact List.cons_ne_nil _ _
    · split <;> exact List.cons_ne_nil _ _

theorem rows_cons {row : List Char} (h : '\n' ∉ row) (s : List Char) :
    rows (row ++ '\n' :: s) = row :: rows s := by
  have hne := splitAt_ne_nil s
  obtain ⟨part, parts, hparts⟩ := List.exists_cons_of_ne_nil hne
  simp only [rows, Text.splitAt_append_cons h, hparts, List.getLast?_cons_cons,
    List.dropLast_cons_cons]
  split <;> rfl

theorem rows_singleton {row : List Char} (h : '\n' ∉ row) (hne : row ≠ []) : rows row = [row] := by
  simp [rows, Text.splitAt_of_notMem h, hne]

/-! ## Lines -/

/-- A line without its line feed. -/
def bare (line : String) : List Char :=
  if isEnded line then line.toList.dropLast else line.toList

/-- A line that ends in a line feed, if in anything. -/
structure IsLine (line : String) : Prop where
  row : '\n' ∉ bare line
  toList : line.toList = if isEnded line then bare line ++ ['\n'] else bare line

/-- Lines that make up a text. -/
inductive Lined : List String → List Char → Prop
  | nil : Lined [] []
  | last {line : String} : IsLine line → isEnded line = false → line.toList ≠ [] →
      Lined [line] line.toList
  | cons {line : String} {lines : List String} {s : List Char} : IsLine line →
      isEnded line = true → Lined lines s → Lined (line :: lines) (line.toList ++ s)

theorem isLine_ended (row : List Char) (h : '\n' ∉ row) :
    IsLine (.ofList (row ++ ['\n'])) ∧ isEnded (.ofList (row ++ ['\n'])) = true := by
  have hended : isEnded (.ofList (row ++ ['\n'])) = true := by simp [isEnded]
  have hrow : bare (.ofList (row ++ ['\n'])) = row := by
    rw [bare, if_pos hended, String.toList_ofList, List.dropLast_concat]
  exact ⟨⟨by rwa [hrow], by rw [hrow, if_pos hended, String.toList_ofList]⟩, hended⟩

theorem isLine_open (row : List Char) (h : '\n' ∉ row) (hreturn : '\r' ∉ row) :
    IsLine (.ofList row) ∧ isEnded (.ofList row) = false := by
  have hended : isEnded (.ofList row) = false := by
    rw [isEnded, String.toList_ofList]
    split
    · next c hc =>
      have hmem := List.mem_of_getLast? hc
      have hne : c ≠ '\n' ∧ c ≠ '\r' := ⟨fun heq => h (heq ▸ hmem), fun heq => hreturn (heq ▸ hmem)⟩
      simp [hne]
    · rfl
  have hrow : bare (.ofList row) = row := by simp [bare, hended]
  exact ⟨⟨by rwa [hrow], by simp [hrow, hended]⟩, hended⟩

/-- The lines that are cut off a text, from an open line on. -/
theorem exists_linesFrom (line : List Char) (lines : List String) {cs : List Char}
    (hline : '\n' ∉ line ∧ '\r' ∉ line) (hcs : '\r' ∉ cs) :
    ∃ more, linesFrom line lines cs = lines.reverse ++ more ∧ Lined more (line.reverse ++ cs) := by
  induction cs generalizing line lines with
  | nil =>
    cases line with
    | nil => exact ⟨[], by simp [linesFrom], .nil⟩
    | cons c line =>
      obtain ⟨hfits, hended⟩ := isLine_open (c :: line).reverse
        (by rw [List.mem_reverse]; exact hline.1) (by rw [List.mem_reverse]; exact hline.2)
      refine ⟨[.ofList (c :: line).reverse], by simp [linesFrom], ?_⟩
      simpa using Lined.last hfits hended (by simp)
  | cons c cs ih =>
    obtain ⟨hc, hmore⟩ := List.ne_and_not_mem_of_not_mem_cons hcs
    by_cases hfeed : c = '\n'
    · subst hfeed
      obtain ⟨more, hcut, hlined⟩ :=
        ih [] (.ofList ('\n' :: line).reverse :: lines) (by simp) hmore
      obtain ⟨hfits, hended⟩ := isLine_ended line.reverse (by simpa using hline.1)
      refine ⟨.ofList (line.reverse ++ ['\n']) :: more, ?_, ?_⟩
      · simpa [linesFrom] using hcut
      · simpa using Lined.cons hfits hended hlined
    · obtain ⟨more, hcut, hlined⟩ :=
        ih (c :: line) lines (by simp [hline, hc, Ne.symm hfeed]) hmore
      refine ⟨more, ?_, by simpa using hlined⟩
      rw [linesFrom, if_neg (by simp [hfeed, hc.symm])]
      · exact hcut
      · rintro _ rfl
        exact absurd rfl hc

/-- **The lines of a text make it up.** -/
theorem lined_linesOf {s : String} (h : '\r' ∉ s.toList) : Lined (linesOf s) s.toList := by
  obtain ⟨lines, hlines, hlined⟩ := exists_linesFrom [] [] (by simp) h
  rwa [linesOf, hlines]

namespace Lined

variable {lines : List String} {s : List Char} (h : Lined lines s)
include h

theorem isLine : ∀ line ∈ lines, IsLine line := by
  induction h with
  | nil => nofun
  | last hfits => exact List.forall_mem_singleton.2 hfits
  | cons hfits _ _ ih => exact List.forall_mem_cons.2 ⟨hfits, ih⟩

theorem rows_eq : rows s = lines.map bare := by
  induction h with
  | nil => rfl
  | @last line hfits hended hne =>
    have htext := hfits.toList
    rw [hended] at htext
    rw [List.map_singleton, htext]
    exact rows_singleton hfits.row (htext ▸ hne)
  | @cons line lines s hfits hended _ ih =>
    have htext := hfits.toList
    rw [if_pos hended] at htext
    rw [List.map_cons, htext, List.append_assoc, ← ih]
    exact rows_cons hfits.row s

theorem countP_open : lines.countP (fun line => !isEnded line) = unfinished s := by
  induction h with
  | nil => rfl
  | @last line hfits hended hne =>
    have hlast : line.toList.getLast?.all (· = '\n') = false := by
      have hsome := List.getLast?_eq_some_getLast hne
      have hopen := hended
      rw [isEnded, hsome] at hopen
      rw [hsome]
      simpa using (Bool.or_eq_false_iff.1 hopen).1
    simp [unfinished, hended, hlast]
  | @cons line lines s hfits hended hlined ih =>
    rw [List.countP_cons_of_neg (by simp [hended]), ih]
    cases hs : s with
    | nil =>
      have htext := hfits.toList
      rw [if_pos hended] at htext
      simp [unfinished, htext]
    | cons c s =>
      rw [unfinished, unfinished, List.getLast?_append,
        List.getLast?_eq_some_getLast (List.cons_ne_nil c s)]
      rfl

end Lined

/-! ## Rows of a report -/

/-- The rows that show a line. -/
def shownRows (sign : Char) (line : String) : List (List Char) :=
  (sign :: bare line) :: if isEnded line then [] else [[]]

def Edit.rows : Edit → List (List Char)
  | .keep lines => lines.flatMap (shownRows ' ')
  | .delete lines => lines.flatMap (shownRows '-')
  | .insert lines => lines.flatMap (shownRows '+')

theorem rows_showLine {sign : Char} (hsign : sign ≠ '\n') {line : String} (h : IsLine line)
    (s : List Char) :
    rows ((showLine (.singleton sign) line).toList ++ s) = shownRows sign line ++ rows s := by
  have hrow : '\n' ∉ sign :: bare line := List.not_mem_cons_of_ne_of_not_mem hsign.symm h.row
  have htext := h.toList
  cases hended : isEnded line with
  | true =>
    rw [hended, if_pos rfl] at htext
    have hshown := rows_cons hrow s
    simpa [showLine, displayLine, shownRows, hended, htext] using hshown
  | false =>
    rw [hended, if_neg (by decide)] at htext
    have hshown := rows_cons hrow ('\n' :: s)
    have hempty : rows ([] ++ '\n' :: s) = [] :: rows s := rows_cons List.not_mem_nil s
    rw [List.nil_append] at hempty
    simpa [showLine, displayLine, shownRows, hended, htext, hempty] using hshown

theorem rows_join (sign : Char) (hsign : sign ≠ '\n') {lines : List String}
    (h : ∀ line ∈ lines, IsLine line) (s : List Char) :
    rows ((String.join (lines.map (showLine (.singleton sign)))).toList ++ s) =
      lines.flatMap (shownRows sign) ++ rows s := by
  induction lines with
  | nil => rfl
  | cons line lines ih =>
    obtain ⟨hline, hlines⟩ := List.forall_mem_cons.1 h
    rw [List.map_cons, String.join_cons, String.toList_append, List.append_assoc,
      rows_showLine hsign hline, ih hlines, List.flatMap_cons, List.append_assoc]

theorem rows_show {edit : Edit} (hbefore : ∀ line ∈ Edit.before [edit], IsLine line)
    (hafter : ∀ line ∈ Edit.after [edit], IsLine line) (s : List Char) :
    rows (edit.show.toList ++ s) = edit.rows ++ rows s := by
  cases edit with
  | keep lines => exact rows_join ' ' (by decide) (by simpa using hbefore) s
  | delete lines => exact rows_join '-' (by decide) (by simpa using hbefore) s
  | insert lines => exact rows_join '+' (by decide) (by simpa using hafter) s

/-- **The rows of what is shown of edits** are those of their lines, in order. -/
theorem rows_showEdits {edits : List Edit} (hbefore : ∀ line ∈ Edit.before edits, IsLine line)
    (hafter : ∀ line ∈ Edit.after edits, IsLine line) (s : List Char) :
    rows ((showEdits edits).toList ++ s) = edits.flatMap Edit.rows ++ rows s := by
  unfold showEdits
  induction edits with
  | nil => rfl
  | cons edit edits ih =>
    rw [← List.singleton_append, Edit.before_append] at hbefore
    rw [← List.singleton_append, Edit.after_append] at hafter
    obtain ⟨hbefore, hbefore'⟩ := List.forall_mem_append.1 hbefore
    obtain ⟨hafter, hafter'⟩ := List.forall_mem_append.1 hafter
    rw [List.map_cons, String.join_cons, String.toList_append, List.append_assoc,
      rows_show hbefore hafter, ih hbefore' hafter', List.flatMap_cons, List.append_assoc]

/-! ## Reading a report -/

theorem unsigned_append (signs : List Char) (rows more : List (List Char)) :
    unsigned signs (rows ++ more) = unsigned signs rows ++ unsigned signs more :=
  List.filterMap_append

theorem unsigned_shownRows (signs : List Char) (sign : Char) (lines : List String) :
    unsigned signs (lines.flatMap (shownRows sign)) =
      if sign ∈ signs then lines.map bare else [] := by
  have hline (line : String) :
      unsigned signs (shownRows sign line) = if sign ∈ signs then [bare line] else [] := by
    cases hended : isEnded line <;> split <;> simp [unsigned, shownRows, *]
  induction lines with
  | nil => split <;> rfl
  | cons line lines ih =>
    rw [List.flatMap_cons, unsigned_append, hline, ih]
    split <;> rfl

theorem unsigned_before (edits : List Edit) :
    unsigned [' ', '-'] (edits.flatMap Edit.rows) = (Edit.before edits).map bare := by
  induction edits with
  | nil => rfl
  | cons edit edits ih =>
    rw [List.flatMap_cons, unsigned_append, ih]
    cases edit <;> simp [Edit.rows, unsigned_shownRows]

theorem unsigned_after (edits : List Edit) :
    unsigned [' ', '+'] (edits.flatMap Edit.rows) = (Edit.after edits).map bare := by
  induction edits with
  | nil => rfl
  | cons edit edits ih =>
    rw [List.flatMap_cons, unsigned_append, ih]
    cases edit <;> simp [Edit.rows, unsigned_shownRows]

theorem count_shownRows (sign : Char) (lines : List String) :
    (lines.flatMap (shownRows sign)).count [] = lines.countP fun line => !isEnded line := by
  induction lines with
  | nil => rfl
  | cons line lines ih =>
    rw [List.flatMap_cons, List.count_append, ih, List.countP_cons, Nat.add_comm]
    cases hended : isEnded line <;> simp [shownRows, hended]

theorem count_rows (edits : List Edit) :
    (edits.flatMap Edit.rows).count [] ≤
      (Edit.before edits).countP (fun line => !isEnded line) +
        (Edit.after edits).countP fun line => !isEnded line := by
  induction edits with
  | nil => exact Nat.le_refl 0
  | cons edit edits ih =>
    rw [List.flatMap_cons, List.count_append]
    cases edit <;> simp only [Edit.rows, count_shownRows, Edit.before_keep, Edit.before_delete,
      Edit.before_insert, Edit.after_keep, Edit.after_delete, Edit.after_insert,
      List.countP_append] <;> omega

theorem signed_of_mem_rows {edits : List Edit} {row : List Char}
    (h : row ∈ edits.flatMap Edit.rows) : row = [] ∨ ∃ sign ∈ row.head?, sign ∈ [' ', '-', '+'] := by
  have hshown {sign : Char} {lines : List String} (hsign : sign ∈ [' ', '-', '+'])
      (h : row ∈ lines.flatMap (shownRows sign)) :
      row = [] ∨ ∃ sign ∈ row.head?, sign ∈ [' ', '-', '+'] := by
    obtain ⟨line, -, hrow⟩ := List.mem_flatMap.1 h
    rcases List.mem_cons.1 hrow with rfl | hrow
    · exact .inr ⟨sign, rfl, hsign⟩
    · split at hrow
      · cases hrow
      · exact .inl (List.mem_singleton.1 hrow)
  obtain ⟨edit, -, hrow⟩ := List.mem_flatMap.1 h
  cases edit <;> exact hshown (by decide) hrow

/-- A text that shows what has changed from one text to another, row by row: every row stands behind
a sign, but for an empty one for each text without a line feed at its end. -/
structure Shows (shown old new : List Char) : Prop where
  before : unsigned [' ', '-'] (rows shown) = rows old
  after : unsigned [' ', '+'] (rows shown) = rows new
  signed : ∀ row ∈ rows shown, row = [] ∨ ∃ sign ∈ row.head?, sign ∈ [' ', '-', '+']
  empty : (rows shown).count [] ≤ unfinished old + unfinished new
  /-- What is printed next begins a new row. -/
  apart : ∀ next, rows (shown ++ next) = rows shown ++ rows next

/-- **What is shown of edits** that lead from the lines of one text to those of another shows what
has changed, whichever edits they are. -/
theorem shows_showEdits {edits : List Edit} {old new : String}
    (hbefore : Edit.before edits = linesOf old) (hafter : Edit.after edits = linesOf new)
    (hold : '\r' ∉ old.toList) (hnew : '\r' ∉ new.toList) :
    Shows (showEdits edits).toList old.toList new.toList := by
  have hold := lined_linesOf hold
  have hnew := lined_linesOf hnew
  have hnext (next : List Char) :
      rows ((showEdits edits).toList ++ next) = edits.flatMap Edit.rows ++ rows next :=
    rows_showEdits (by rw [hbefore]; exact hold.isLine) (by rw [hafter]; exact hnew.isLine) next
  have hrows : rows (showEdits edits).toList = edits.flatMap Edit.rows := by
    have hnil := hnext []
    rwa [List.append_nil, show rows [] = [] from rfl, List.append_nil] at hnil
  constructor
  · rw [hrows, unsigned_before, hbefore, hold.rows_eq]
  · rw [hrows, unsigned_after, hafter, hnew.rows_eq]
  · rw [hrows]
    exact fun row => signed_of_mem_rows
  · rw [hrows, ← hold.countP_open, ← hnew.countP_open, ← hbefore, ← hafter]
    exact count_rows edits
  · rw [hrows]
    exact hnext

/-- **A report shows what has changed.** -/
theorem shows_report {old new : String} (hold : '\r' ∉ old.toList) (hnew : '\r' ∉ new.toList) :
    Shows (report old new).toList old.toList new.toList := by
  obtain ⟨hbefore, hafter⟩ := alike_edits (linesOf old) (linesOf new)
  simp only [Edit.before_delete, Edit.before_insert, Edit.before_nil, Edit.after_delete,
    Edit.after_insert, Edit.after_nil, List.append_nil] at hbefore hafter
  exact shows_showEdits hbefore hafter hold hnew

end MediaScraper.Diff
