import Mathlib.Data.List.DropRight
import MediaScraper.Unicode.Blank

/-!
# Trimmed texts

Trimming cuts blanks off both ends (`exists_trim`) until the characters there are none
(`head?_trim`, `getLast?_trim`), and there is only one such text (`trim_eq`). So trimming again
changes nothing (`trim_trim`), and what holds nothing but blanks is trimmed to nothing
(`trim_eq_nil_iff`).
-/

namespace MediaScraper.Blank

theorem trimEnd_eq (s : List Char) : trimEnd s = s.rdropWhile isBlank := rfl

theorem trimStart_append {before s : List Char} (h : ∀ c ∈ before, isBlank c = true) :
    trimStart (before ++ s) = trimStart s := List.dropWhile_append_of_pos h

theorem trimStart_append_eq (s t : List Char) :
    trimStart (s ++ t) = if trimStart s = [] then trimStart t else trimStart s ++ t := by
  by_cases h : trimStart s = []
  · rw [if_pos h, trimStart_append (List.dropWhile_eq_nil_iff.1 h)]
  · rw [if_neg h]
    exact List.dropWhile_append.trans (if_neg fun hempty => h (List.isEmpty_iff.1 hempty))

theorem trimStart_eq_self {s : List Char} (h : ∀ c ∈ s.head?, isBlank c = false) :
    trimStart s = s := by
  cases s with
  | nil => rfl
  | cons c s => exact List.dropWhile_cons_of_neg (by simp [h c rfl])

theorem trimEnd_append {s behind : List Char} (h : ∀ c ∈ behind, isBlank c = true) :
    trimEnd (s ++ behind) = trimEnd s := by
  rw [trimEnd, List.reverse_append, List.dropWhile_append_of_pos fun c hc =>
    h c (List.mem_reverse.1 hc), trimEnd]

theorem trimEnd_append_eq (s t : List Char) :
    trimEnd (s ++ t) = if trimEnd t = [] then trimEnd s else s ++ trimEnd t := by
  simp only [trimEnd, List.reverse_append, List.dropWhile_append, List.isEmpty_iff,
    List.reverse_eq_nil_iff]
  split_ifs
  · rfl
  · rw [List.reverse_append, List.reverse_reverse]

theorem trimEnd_eq_self {s : List Char} (h : ∀ c ∈ s.getLast?, isBlank c = false) :
    trimEnd s = s := by
  rw [trimEnd_eq, List.rdropWhile_eq_self_iff]
  intro hs
  simp [h _ (List.getLast?_eq_some_getLast hs)]

/-- What ends in no blank is kept, with what is kept behind it. -/
theorem trimEnd_append_of_getLast? {s : List Char} (h : ∀ c ∈ s.getLast?, isBlank c = false)
    (t : List Char) : trimEnd (s ++ t) = s ++ trimEnd t := by
  rw [trimEnd_append_eq]
  split_ifs with ht
  · rw [ht, List.append_nil, trimEnd_eq_self h]
  · rfl

/-- **Trimming gives the text between blanks** that has none at its ends. -/
theorem trim_eq {before s behind : List Char} (hbefore : ∀ c ∈ before, isBlank c = true)
    (hbehind : ∀ c ∈ behind, isBlank c = true) (hhead : ∀ c ∈ s.head?, isBlank c = false)
    (hlast : ∀ c ∈ s.getLast?, isBlank c = false) : trim (before ++ s ++ behind) = s := by
  rw [trim, List.append_assoc, trimStart_append hbefore]
  cases s with
  | nil =>
    rw [List.nil_append, trimStart, List.dropWhile_eq_nil_iff.2 hbehind]
    rfl
  | cons c s =>
    have hfront : trimStart (c :: s ++ behind) = c :: s ++ behind := trimStart_eq_self hhead
    rw [hfront, trimEnd_append hbehind, trimEnd_eq_self hlast]

theorem head?_trimStart (s : List Char) : ∀ c ∈ (trimStart s).head?, isBlank c = false := by
  intro c hc
  have hhead := List.head?_dropWhile_not isBlank s
  rw [show (s.dropWhile isBlank).head? = some c from hc] at hhead
  simpa using hhead

theorem getLast?_trimEnd (s : List Char) : ∀ c ∈ (trimEnd s).getLast?, isBlank c = false := by
  intro c hc
  rw [trimEnd, List.getLast?_reverse] at hc
  exact head?_trimStart s.reverse c hc

theorem exists_trimEnd (s : List Char) :
    ∃ behind, s = trimEnd s ++ behind ∧ ∀ c ∈ behind, isBlank c = true :=
  ⟨s.rtakeWhile isBlank, List.rdropWhile_append_rtakeWhile.symm, fun _ => List.mem_rtakeWhile_imp⟩

/-- **Trimming takes blanks off both ends**, and nothing else. -/
theorem exists_trim (s : List Char) :
    ∃ before behind, s = before ++ trim s ++ behind ∧ (∀ c ∈ before, isBlank c = true) ∧
      ∀ c ∈ behind, isBlank c = true := by
  obtain ⟨behind, htext, hbehind⟩ := exists_trimEnd (trimStart s)
  refine ⟨s.takeWhile isBlank, behind, ?_, fun c => List.mem_takeWhile_imp, hbehind⟩
  rw [trim, List.append_assoc, ← htext]
  exact List.takeWhile_append_dropWhile.symm

theorem getLast?_trim (s : List Char) : ∀ c ∈ (trim s).getLast?, isBlank c = false :=
  getLast?_trimEnd (trimStart s)

theorem head?_trim (s : List Char) : ∀ c ∈ (trim s).head?, isBlank c = false := by
  intro c hc
  obtain ⟨behind, htext, -⟩ := exists_trimEnd (trimStart s)
  refine head?_trimStart s c ?_
  obtain ⟨rest, hrest⟩ := List.head?_eq_some_iff.1 hc
  rw [htext, show trimEnd (trimStart s) = c :: rest from hrest]
  rfl

theorem mem_trim_iff {c : Char} (hc : isBlank c = false) {s : List Char} :
    c ∈ trim s ↔ c ∈ s := by
  obtain ⟨before, behind, htext, hbefore, hbehind⟩ := exists_trim s
  have hnot {w : List Char} (hw : ∀ d ∈ w, isBlank d = true) : c ∉ w := fun hmem =>
    absurd (hw c hmem) (by rw [hc]; exact Bool.false_ne_true)
  have hmem : c ∈ before ++ trim s ++ behind ↔ c ∈ trim s := by
    simp only [List.mem_append, hnot hbefore, hnot hbehind, false_or, or_false]
  rw [← htext] at hmem
  exact hmem.symm

theorem trim_trim (s : List Char) : trim (trim s) = trim s := by
  have htrim : trim ([] ++ trim s ++ []) = trim s :=
    trim_eq nofun nofun (head?_trim s) (getLast?_trim s)
  rwa [List.nil_append, List.append_nil] at htrim

theorem trim_eq_nil_iff {s : List Char} : trim s = [] ↔ ∀ c ∈ s, isBlank c = true := by
  constructor
  · intro h
    obtain ⟨before, behind, htext, hbefore, hbehind⟩ := exists_trim s
    rw [h, List.append_nil] at htext
    rw [htext]
    exact List.forall_mem_append.2 ⟨hbefore, hbehind⟩
  · intro h
    have htrim : trim (s ++ [] ++ []) = [] := trim_eq h nofun nofun nofun
    rwa [List.append_nil, List.append_nil] at htrim

end MediaScraper.Blank
