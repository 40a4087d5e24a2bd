import MediaScraper.Pattern.Search
import MediaScraper.Proofs.Text.Bytes

/-!
# Places of a text

A place of a text lies between two parts of it (`Place.between`), and it is told by the number of
bytes before it (`Place.IsIn.eq_of_offset`). A span between two places holds the text between them
(`Span.text_between`).
-/

namespace MediaScraper.Pattern

namespace Place

/-- The place between two parts of a text. -/
def between (before rest : List Char) : Place :=
  ⟨Text.byteLength before, before.getLast?, rest⟩

@[simp]
theorem advance?_between_cons (before rest : List Char) (c : Char) :
    (between before (c :: rest)).advance? = some (between (before ++ [c]) rest) := by
  rw [advance?, between, between, Text.byteLength_append, Text.byteLength_cons, Text.byteLength_nil,
    List.getLast?_concat]
  rfl

@[simp]
theorem advance?_between_nil (before : List Char) : (between before []).advance? = none := rfl

/-- A place of this text. -/
def IsIn (s : List Char) (p : Place) : Prop :=
  ∃ before rest, s = before ++ rest ∧ p = between before rest

theorem isIn_between (before rest : List Char) : IsIn (before ++ rest) (between before rest) :=
  ⟨before, rest, rfl, rfl⟩

theorem IsIn.eq_of_offset {s : List Char} {p q : Place} (hp : IsIn s p) (hq : IsIn s q)
    (h : p.offset = q.offset) : p = q := by
  obtain ⟨before, rest, rfl, rfl⟩ := hp
  obtain ⟨before', rest', heq, rfl⟩ := hq
  obtain ⟨rfl, rfl⟩ := Text.append_inj_of_bytes heq h
  rfl

theorem IsIn.offset_le {s : List Char} {p : Place} (h : IsIn s p) :
    p.offset ≤ Text.byteLength s := by
  obtain ⟨before, rest, rfl, rfl⟩ := h
  rw [Text.byteLength_append]
  exact Nat.le_add_right _ _

theorem IsIn.advance? {s : List Char} {p q : Place} (h : IsIn s p) (hq : p.advance? = some q) :
    IsIn s q := by
  obtain ⟨before, rest, rfl, rfl⟩ := h
  cases rest with
  | nil => cases hq
  | cons c rest =>
    rw [advance?_between_cons] at hq
    cases hq
    exact ⟨before ++ [c], rest, by simp, rfl⟩

end Place

/-! ## Spans -/

/-- The span of a part of a text. -/
def Span.between (before part rest : List Char) : Span :=
  ⟨.between before (part ++ rest), .between (before ++ part) rest⟩

theorem Span.text_between (before part rest : List Char) :
    (Span.between before part rest).text = part := by
  rw [Span.text, Span.between, Place.between, Place.between, Text.byteLength_append,
    Nat.add_sub_cancel_left, Text.takeBytes_append]

theorem Span.isEmpty_between {before part rest : List Char} (h : part ≠ []) :
    (Span.between before part rest).isEmpty = false := by
  have hpos : Text.byteLength part ≠ 0 := fun h' => h (Text.byteLength_eq_zero.1 h')
  simp only [Span.isEmpty, Span.between, Place.between, Text.byteLength_append,
    decide_eq_false_iff_not]
  omega

end MediaScraper.Pattern
