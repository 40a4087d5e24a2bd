import MediaScraper.Proofs.Html.Lines

/-!
# Runs of text in fragments

A fragment in which no tag begins is one run of text: its text is that run with the references
resolved, and without NUL (`text_of_not_mem`). A formatting element around such a run changes
nothing (`text_bold`).
-/

namespace MediaScraper.Html

open Builder

/-! ## Reading tokens -/

theorem read_skip (b : Builder) (w rest : List Char) :
    b.read w.length (w ++ rest) = b.read 0 rest := by
  induction w with
  | nil => rfl
  | cons c w ih => exact ih

theorem read_of_token {b : Builder} {w rest : List Char} {t : Token} (hw : w ≠ [])
    (h : Token.read b.model (b.current.space ≠ .html) (w ++ rest) = (t, w.length)) :
    b.read 0 (w ++ rest) = (b.accept t).read 0 rest := by
  cases w with
  | nil => exact absurd rfl hw
  | cons c w =>
    rw [List.cons_append] at h ⊢
    rw [Builder.read, h]
    exact read_skip _ w rest

/-- Up to the next bracket everything is one token. -/
theorem Token.read_run {w rest : List Char} (hw : w ≠ []) (hbracket : '<' ∉ w)
    (hrest : ∀ c ∈ rest.head?, c = '<') (inForeign : Bool) :
    Token.read .markup inForeign (w ++ rest) = (.text (unescape false w), w.length) := by
  have hrun : (w ++ rest).takeWhile (· ≠ '<') = w := by
    have hall : ∀ c ∈ w, decide (c ≠ '<') = true := fun c hc =>
      decide_eq_true fun heq => hbracket (heq ▸ hc)
    rw [List.takeWhile_append_of_pos hall]
    cases rest with
    | nil => rw [List.takeWhile_nil, List.append_nil]
    | cons c rest => rw [hrest c rfl]; simp
  cases w with
  | nil => exact absurd rfl hw
  | cons c w =>
    obtain ⟨hc, -⟩ := List.ne_and_not_mem_of_not_mem_cons hbracket
    rw [Token.read]
    · simp only [hrun]
    · rintro rest heq
      exact hc (List.cons.inj heq).1.symm

/-! ## Runs of text -/

/-- The text that a run of a fragment stands for. -/
def runText (w : List Char) : List Char := (unescape false w).filter (· ≠ '\x00')

theorem accept_text {b : Builder} (hskip : b.skipsLine = false) (hspace : b.current.space = .html)
    (hmode : b.mode = .body) (hresume : b.resumeFormatting = b) (s : List Char) :
    b.accept (.text s) = b.insertText (s.filter (· ≠ '\x00')) := by
  have hself : { b with skipsLine := false } = b := by rw [← hskip]
  have hhome (s : List Char) : b.isForeign (.text s) = false := by
    rw [isForeign]
    simp only [hspace, if_true]
  have htake (s : List Char) : b.takeToken (.text s) = b.insertText s := by
    rw [takeToken, takeFrom, if_neg (by simp [hhome]), step, hmode]
    simp only [done, inBody, hresume]
  simp only [accept, hself, hskip, Bool.false_and, Bool.false_eq_true, if_false]
  rw [takeText, if_neg (by simp [hhome])]
  simp only [htake, hmode, reduceCtorEq, if_false]
  split
  · next h => rw [insertText, if_pos h]
  · rfl

theorem text_insertText_start (s : List Char) : (start.insertText s).finish.text 0 = .ofList s := by
  rw [insertText]
  split
  · next h => rw [List.isEmpty_iff.1 h]; rfl
  · have hforest : start.forest.insert (start.placeIn start.current) (.text s) =
        ⟨#[⟨.html, "html", [], none, #[.text s]⟩]⟩ := rfl
    have hfinish (f : Forest) : ({ start with forest := f } : Builder).finish = f := rfl
    have hwalk : Forest.walk ⟨#[⟨.html, "html", [], none, #[.text s]⟩]⟩ 0 = [.text s] := rfl
    simp only [hforest, hfinish, Forest.text, hwalk, List.flatMap_singleton]

/-- **A fragment without tags** is a run of text. -/
theorem text_of_not_mem {g : String} (h : '<' ∉ g.toList) :
    text g = .ofList (runText (normalize g.toList)) := by
  have hbracket : '<' ∉ normalize g.toList := not_mem_normalize (by decide) h
  rw [text, Forest.ofFragment]
  generalize normalize g.toList = w at hbracket
  by_cases hw : w = []
  · subst hw
    rfl
  · have hend : ∀ c ∈ ([] : List Char).head?, c = '<' := by rintro c ⟨⟩
    have hread := read_of_token (b := start) hw (Token.read_run hw hbracket hend _)
    rw [List.append_nil, accept_text rfl rfl rfl rfl, Builder.read] at hread
    rw [hread, text_insertText_start, runText]

/-! ## A formatting element -/

/-- The builder behind the tag `<b>`. -/
def bold : Builder := start.accept (.opening ⟨"b", [], false⟩)

theorem finish_accept_closing_bold (s : List Char) :
    ((bold.insertText s).accept (.closing "b")).finish = (bold.insertText s).forest := by
  have hforest (f : Forest) : ({ bold with forest := f }.accept (.closing "b")).finish = f := rfl
  rw [insertText]
  split
  · exact hforest bold.forest
  · exact hforest _

theorem text_insertText_bold (s : List Char) : (bold.insertText s).forest.text 0 = .ofList s := by
  rw [insertText]
  split
  · next h => rw [List.isEmpty_iff.1 h]; rfl
  · have hforest : bold.forest.insert (bold.placeIn bold.current) (.text s) =
        ⟨#[⟨.html, "html", [], none, #[.element 1]⟩, ⟨.html, "b", [], some 0, #[.text s]⟩]⟩ := rfl
    have hwalk : Forest.walk ⟨#[⟨.html, "html", [], none, #[.element 1]⟩,
        ⟨.html, "b", [], some 0, #[.text s]⟩]⟩ 0 = [.element 1, .text s] := rfl
    simp only [hforest, Forest.text, hwalk, List.flatMap_cons, List.flatMap_nil, List.nil_append,
      List.append_nil]

theorem model_insertText (b : Builder) (s : List Char) : (b.insertText s).model = b.model := by
  rw [insertText]
  split <;> rfl

/-- **A run of text in a formatting element** stands for what it stands for alone. -/
theorem text_bold {w : String} (hbracket : '<' ∉ w.toList) (hline : '\r' ∉ w.toList) :
    text ("<b>" ++ w ++ "</b>") = .ofList (runText w.toList) := by
  have hnormal : normalize ("<b>" ++ w ++ "</b>").toList =
      "<b>".toList ++ (w.toList ++ "</b>".toList) := by
    rw [String.toList_append, String.toList_append, List.append_assoc]
    refine normalize_of_not_mem (by rintro ⟨⟩) ?_
    simp only [List.mem_append, not_or]
    exact ⟨by decide, hline, by decide⟩
  have hopen (rest : List Char) : start.read 0 ("<b>".toList ++ rest) = bold.read 0 rest :=
    read_of_token (t := .opening ⟨"b", [], false⟩) (by decide) rfl
  have hclose (b : Builder) (hmodel : b.model = .markup) :
      b.read 0 "</b>".toList = b.accept (.closing "b") := by
    have htoken : Token.read b.model (b.current.space ≠ .html) ("</b>".toList ++ []) =
        (.closing "b", "</b>".toList.length) := by
      rw [hmodel]
      rfl
    have hread := read_of_token (by decide) htoken
    rwa [List.append_nil, Builder.read] at hread
  rw [text, Forest.ofFragment, hnormal, hopen]
  generalize w.toList = w at hbracket
  by_cases hw : w = []
  · subst hw
    rw [List.nil_append, hclose bold rfl]
    exact (congrArg (Forest.text · 0) (finish_accept_closing_bold [])).trans (text_insertText_bold [])
  · have hend : ∀ c ∈ "</b>".toList.head?, c = '<' := by
      rintro c ⟨⟩
      rfl
    rw [read_of_token (b := bold) hw (Token.read_run hw hbracket hend _),
      accept_text rfl rfl rfl rfl, hclose _ (model_insertText _ _), finish_accept_closing_bold,
      text_insertText_bold, runText]

end MediaScraper.Html
