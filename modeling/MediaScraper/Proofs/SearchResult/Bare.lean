import MediaScraper.Proofs.Interpreter.Inertness
import MediaScraper.Proofs.Repair.Unbroken
import MediaScraper.Proofs.Xml.Tag

/-!
# Bare documents

A text is bare if its tags have no attributes and are those of search results (`IsBare`). When a
rule writes such a text, no call comes of it (`IsBare.not_asks`): no tag has the attribute that
asks for one, and none begins a chain. It holds no declaration and no split tag, so when it is read
again it needs no repair (`IsBare.unbroken`).
-/

namespace MediaScraper

open Xml

namespace SearchResult

/-- The names of the elements of search results. -/
def elementNames : List (List Char) :=
  ["results".toList, "entity".toList, "title".toList, "year".toList, "id".toList, "url".toList]

/-- A text whose tags have these names and no attributes. -/
inductive IsBare : List Char → Prop
  | nil : IsBare []
  | text {w s : List Char} : '<' ∉ w → IsBare s → IsBare (w ++ s)
  | startTag {name s : List Char} :
      name ∈ elementNames → IsBare s → IsBare (startTag name [] ++ s)
  | endTag {name s : List Char} : name ∈ elementNames → IsBare s → IsBare (endTag name ++ s)

theorem startTag_nil_append (name s : List Char) :
    startTag name [] ++ s = '<' :: (name ++ '>' :: s) := by
  simp [startTag, tagSource, attributesText]

namespace IsBare

variable {s t : List Char}

theorem append (hs : IsBare s) (ht : IsBare t) : IsBare (s ++ t) := by
  induction hs with
  | nil => exact ht
  | text hw _ ih => exact List.append_assoc .. ▸ ih.text hw
  | startTag hname _ ih => exact List.append_assoc .. ▸ ih.startTag hname
  | endTag hname _ ih => exact List.append_assoc .. ▸ ih.endTag hname

theorem of_not_mem (hs : '<' ∉ s) : IsBare s := List.append_nil s ▸ IsBare.nil.text hs

theorem element {name : List Char} (hname : name ∈ elementNames) (hs : IsBare s) :
    IsBare (Xml.startTag name [] ++ s ++ Xml.endTag name) := by
  have hend : IsBare (Xml.endTag name) := List.append_nil (Xml.endTag name) ▸ IsBare.nil.endTag hname
  rw [List.append_assoc]
  exact (hs.append hend).startTag hname

/-! ## Calls -/

/-- No tag has attributes, so the search for one that asks for a call begins anew behind it. -/
theorem isHintedFrom_eq_false (h : IsBare s) : Call.isHintedFrom .nothing s = false := by
  have hstart : ∀ name ∈ elementNames, 'f' ∉ (Xml.startTag name []).map Char.toLower ∧
      (Xml.startTag name []).foldl Call.Hint.step .nothing = .nothing := by decide
  have hend : ∀ name ∈ elementNames, 'f' ∉ (Xml.endTag name).map Char.toLower ∧
      (Xml.endTag name).foldl Call.Hint.step .nothing = .nothing := by decide
  induction h with
  | nil => rfl
  | text hw _ ih => rw [Call.isHintedFrom_plain hw, ih]
  | startTag hname _ ih =>
    rw [Call.isHintedFrom_append (hstart _ hname).1, (hstart _ hname).2, ih]
  | endTag hname _ ih => rw [Call.isHintedFrom_append (hend _ hname).1, (hend _ hname).2, ih]

theorem chainFrom?_eq_none (h : IsBare s) : Call.chainFrom? s = none := by
  have hnames : ∀ name ∈ elementNames, ∃ d w, name = d :: w ∧ d ≠ 'c' ∧ '<' ∉ name := by
    intro name hname
    have hfacts : ∀ name ∈ elementNames, name ≠ [] ∧ 'c' ∉ name.head? ∧ '<' ∉ name := by decide
    obtain ⟨hne, hhead, hbracket⟩ := hfacts name hname
    obtain ⟨d, w, rfl⟩ := List.exists_cons_of_ne_nil hne
    exact ⟨d, w, rfl, fun heq => hhead (heq ▸ rfl), hbracket⟩
  induction h with
  | nil => rfl
  | text hw _ ih => rw [Call.chainFrom?_plain hw, ih]
  | @startTag name s hname _ ih =>
    obtain ⟨d, w, rfl, hd, hbracket⟩ := hnames name hname
    have hrest : '<' ∉ d :: (w ++ ['>']) := by simpa using hbracket
    rw [startTag_nil_append, List.append_cons]
    exact (Call.chainFrom?_tag hd hrest s).trans ih
  | @endTag name s hname _ ih =>
    obtain ⟨d, w, rfl, -, hbracket⟩ := hnames name hname
    have hrest : '<' ∉ '/' :: (d :: w ++ ['>']) := by simpa using hbracket
    exact (Call.chainFrom?_tag (by decide) hrest s).trans ih

/-- **A bare text asks for no call.** -/
theorem not_asks (h : IsBare s) : ¬ Call.Asks (.ofList s) := by
  rintro (hhint | hchain)
  · rw [Call.isHinted, String.toList_ofList, h.isHintedFrom_eq_false] at hhint
    cases hhint
  · rw [Call.chain?, String.toList_ofList, h.chainFrom?_eq_none] at hchain
    cases hchain

/-! ## Repairs -/

theorem unbroken (h : IsBare s) : Repair.Unbroken s := by
  have hnames : ∀ name ∈ elementNames, IsName name := by decide
  induction h with
  | nil => exact Repair.unbroken_nil
  | text hw _ ih => exact ih.append hw
  | @startTag name s hname _ ih =>
    rw [startTag_nil_append]
    exact Repair.unbroken_tag (hnames name hname) (by decide)
      ((Repair.unbroken_cons_of_ne (by decide)).2 ih)
  | @endTag name s hname _ ih =>
    have htag : Xml.endTag name ++ s = '<' :: '/' :: (name ++ '>' :: s) := by simp [Xml.endTag]
    rw [htag]
    exact Repair.unbroken_endTag (hnames name hname) ih

end IsBare
end SearchResult
end MediaScraper
