import Mathlib.Data.List.Infix
import MediaScraper.Diff.Search

/-!
# The texts of edits

Edits are alike if they have the same text before them and the same text after them (`Alike`). The
edits that turn one text into another are like those which delete all of the old text and insert all
of the new one (`alike_edits`), whatever the search finds:

* where the texts are cut does not matter, as long as their parts are put together again in order
  (`alike_editsFrom`);
* sliding an insertion over kept lines, and joining or exchanging neighbours, gives edits alike
  (`alike_slideUp`, `alike_moveUp`, `alike_settle`, `alike_arrange`).
-/

namespace MediaScraper.Diff.Edit

/-! ## Texts -/

section

variable (lines : List String) (edits more : List Edit)

@[simp] theorem before_nil : before [] = [] := rfl

@[simp] theorem before_keep : before (.keep lines :: edits) = lines ++ before edits := rfl

@[simp] theorem before_delete : before (.delete lines :: edits) = lines ++ before edits := rfl

@[simp] theorem before_insert : before (.insert lines :: edits) = before edits := rfl

@[simp] theorem before_append : before (edits ++ more) = before edits ++ before more :=
  List.flatMap_append

@[simp] theorem after_nil : after [] = [] := rfl

@[simp] theorem after_keep : after (.keep lines :: edits) = lines ++ after edits := rfl

@[simp] theorem after_delete : after (.delete lines :: edits) = after edits := rfl

@[simp] theorem after_insert : after (.insert lines :: edits) = lines ++ after edits := rfl

@[simp] theorem after_append : after (edits ++ more) = after edits ++ after more :=
  List.flatMap_append

end

/-- Edits with the same texts before and after them. -/
structure Alike (edits edits' : List Edit) : Prop where
  before : before edits = before edits'
  after : after edits = after edits'

namespace Alike

variable {edits edits' more more' : List Edit}

theorem refl (edits : List Edit) : Alike edits edits := ⟨rfl, rfl⟩

theorem symm (h : Alike edits edits') : Alike edits' edits := ⟨h.before.symm, h.after.symm⟩

theorem trans (h : Alike edits edits') (h' : Alike edits' more) : Alike edits more :=
  ⟨h.before.trans h'.before, h.after.trans h'.after⟩

theorem append (h : Alike edits edits') (h' : Alike more more') :
    Alike (edits ++ more) (edits' ++ more') := by
  constructor
  · rw [before_append, before_append, h.before, h'.before]
  · rw [after_append, after_append, h.after, h'.after]

theorem cons (edit : Edit) (h : Alike edits edits') : Alike (edit :: edits) (edit :: edits') :=
  (refl [edit]).append h

end Alike

/-! ## Lines that there may not be -/

theorem alike_keeping (lines : List String) : Alike (keeping lines) [.keep lines] := by
  cases lines <;> exact ⟨rfl, rfl⟩

theorem alike_deleting (lines : List String) : Alike (editing .delete lines) [.delete lines] := by
  cases lines <;> exact ⟨rfl, rfl⟩

theorem alike_inserting (lines : List String) : Alike (editing .insert lines) [.insert lines] := by
  cases lines <;> exact ⟨rfl, rfl⟩

theorem alike_keepFirst (lines : List String) (edits : List Edit) :
    Alike (keepFirst lines edits) (.keep lines :: edits) := by
  unfold keepFirst
  split
  · constructor <;> simp
  · exact (alike_keeping lines).append (.refl _)

/-- The edits are listed from the last one. -/
theorem alike_keepLast (lines : List String) (edits : List Edit) :
    Alike (keepLast lines edits).reverse (edits.reverse ++ [.keep lines]) := by
  unfold keepLast
  split
  · constructor <;> simp
  · have hreverse : (keeping lines).reverse = keeping lines := by cases lines <;> rfl
    rw [List.reverse_append, hreverse]
    exact (Alike.refl _).append (alike_keeping lines)

/-! ## Sliding -/

/-- **Sliding up** takes lines from above the insertion and puts the same lines below it. -/
theorem alike_slideUp (inserted passed kept : List String) :
    Alike [.keep (slideUp inserted passed kept).1.reverse,
        .insert (slideUp inserted passed kept).2.1.reverse,
        .keep (slideUp inserted passed kept).2.2]
      [.keep kept.reverse, .insert inserted.reverse, .keep passed] := by
  fun_induction slideUp inserted passed kept with
  | case1 => exact .refl _
  | case2 => exact .refl _
  | case3 passed kept more others ih =>
    refine ih.trans ?_
    constructor <;> simp
  | case4 => exact .refl _

/-- **Sliding down** takes lines from below the insertion and puts the same lines above it. -/
theorem alike_slideDown (inserted passed kept : List String) :
    Alike [.keep (slideDown inserted passed kept).2.2.reverse,
        .insert (slideDown inserted passed kept).2.1,
        .keep (slideDown inserted passed kept).1]
      [.keep passed.reverse, .insert inserted, .keep kept] := by
  fun_induction slideDown inserted passed kept with
  | case1 => exact .refl _
  | case2 => exact .refl _
  | case3 passed kept more others ih =>
    refine ih.trans ?_
    constructor <;> simp
  | case4 => exact .refl _

/-! ## Moving -/

/-- All edits, from the first to the last. -/
def Place.whole (p : Place) : List Edit := p.above.reverse ++ p.edit :: p.below

section

variable {above below : List Edit} {lines kept kept' lines' passed : List String}

theorem alike_whole_slideUp
    (h : slideUp lines.reverse [] kept.reverse = (kept', lines', passed)) :
    Alike (Place.whole ⟨.keep kept'.reverse :: above, .insert lines'.reverse,
        keepFirst passed below⟩)
      (Place.whole ⟨.keep kept :: above, .insert lines, below⟩) := by
  have hslid := alike_slideUp lines.reverse [] kept.reverse
  rw [h, List.reverse_reverse, List.reverse_reverse] at hslid
  have hbelow : Alike (.insert lines'.reverse :: keepFirst passed below)
      (.insert lines'.reverse :: .keep passed :: below) :=
    (alike_keepFirst passed below).cons _
  have hmiddle := (Alike.refl above.reverse).append (hslid.append (.refl below))
  constructor
  · simpa [Place.whole, hbelow.before] using hmiddle.before
  · simpa [Place.whole, hbelow.after] using hmiddle.after

theorem alike_whole_slideDown (h : slideDown lines [] kept = (kept', lines', passed)) :
    Alike (Place.whole ⟨keepLast passed.reverse above, .insert lines', .keep kept' :: below⟩)
      (Place.whole ⟨above, .insert lines, .keep kept :: below⟩) := by
  have hslid := alike_slideDown lines [] kept
  rw [h] at hslid
  have habove := alike_keepLast passed.reverse above
  have hmiddle := (Alike.refl above.reverse).append (hslid.append (.refl below))
  constructor
  · simpa [Place.whole, habove.before] using hmiddle.before
  · simpa [Place.whole, habove.after] using hmiddle.after

end

/-- **An edit moves up** without changing the texts. -/
theorem alike_moveUp (edit : Edit) (below above : List Edit) :
    Alike (moveUp edit below above).whole (Place.whole ⟨above, edit, below⟩) := by
  fun_induction moveUp edit below above with
  | case1 => exact .refl _
  | case2 below above lines kept lines' passed hslide ih =>
    refine ih.trans (.trans ?_ (alike_whole_slideUp hslide))
    constructor <;> simp [Place.whole]
  | case3 below above lines kept kept' lines' passed _ hslide => exact alike_whole_slideUp hslide
  | case4 below above lines more ih | case5 below above lines more ih
  | case6 below above lines more ih | case7 below above lines more ih =>
    refine ih.trans ?_
    constructor <;> simp [Place.whole]
  | case8 => exact .refl _

/-- **An edit moves down** without changing the texts. -/
theorem alike_moveDown (above : List Edit) (edit : Edit) (below : List Edit) :
    Alike (moveDown above edit below).whole (Place.whole ⟨above, edit, below⟩) := by
  fun_induction moveDown above edit below with
  | case1 => exact .refl _
  | case2 above below lines kept lines' passed hslide ih =>
    refine ih.trans (.trans ?_ (alike_whole_slideDown hslide))
    constructor <;> simp [Place.whole]
  | case3 above below lines kept kept' lines' passed _ hslide => exact alike_whole_slideDown hslide
  | case4 above below lines more ih | case5 above below lines more ih
  | case6 above below lines more ih | case7 above below lines more ih =>
    refine ih.trans ?_
    constructor <;> simp [Place.whole]
  | case8 => exact .refl _

theorem alike_settleFrom (ofKind : Edit → Bool) (fuel : Nat) (above below : List Edit) :
    Alike (settleFrom ofKind fuel above below) (above.reverse ++ below) := by
  fun_induction settleFrom ofKind fuel above below with
  | case1 => exact .refl _
  | case2 => exact .symm (by simpa using Alike.refl _)
  | case3 fuel above edit below _ up down ih =>
    have hmoved : Alike down.whole (above.reverse ++ edit :: below) :=
      (alike_moveDown up.above up.edit up.below).trans (alike_moveUp edit below above)
    exact ih.trans (by simpa [Place.whole] using hmoved)
  | case4 fuel above edit below _ ih => simpa using ih

theorem alike_settle (edits : List Edit) : Alike (settle edits) edits :=
  (alike_settleFrom isInsert _ [] _).trans (alike_settleFrom isDelete _ [] edits)

/-! ## Order -/

theorem alike_arrangeFrom (deleted inserted : List String) (edits : List Edit) :
    Alike (arrangeFrom deleted inserted edits) (.delete deleted :: .insert inserted :: edits) := by
  fun_induction arrangeFrom deleted inserted edits with
  | case1 deleted inserted => exact (alike_deleting deleted).append (alike_inserting inserted)
  | case2 deleted inserted lines edits ih | case3 deleted inserted lines edits ih =>
    refine ih.trans ?_
    constructor <;> simp
  | case4 deleted inserted lines edits ih =>
    have hchanged := (alike_deleting deleted).append (alike_inserting inserted)
    refine (hchanged.append (ih.cons (.keep lines))).trans ?_
    constructor <;> simp

theorem alike_arrange (edits : List Edit) : Alike (arrange edits) edits :=
  (alike_arrangeFrom [] [] edits).trans ⟨rfl, rfl⟩

end Edit

/-! ## Edits that are found -/

open Edit

theorem take_commonStart (old new : List String) :
    new.take (commonStart old new) = old.take (commonStart old new) := by
  fun_induction commonStart old new with
  | case1 s old new ih => rw [List.take_succ_cons, List.take_succ_cons, ih]
  | case2 => rfl
  | case3 => rfl

theorem drop_commonStart (old new : List String) :
    new.drop (new.length - commonStart old.reverse new.reverse) =
      old.drop (old.length - commonStart old.reverse new.reverse) := by
  have hsame := take_commonStart old.reverse new.reverse
  rwa [List.take_reverse, List.take_reverse, List.reverse_inj] at hsame

/-- **The edits that are found turn the old text into the new one**, wherever the texts are cut. -/
theorem alike_editsFrom (fuel : Nat) (old new : List String) :
    Alike (editsFrom fuel old new) [.delete old, .insert new] := by
  induction fuel generalizing old new with
  | zero => exact (alike_deleting old).append (alike_inserting new)
  | succ fuel ih =>
    unfold editsFrom
    extract_lets first start old' new' last finish old'' new'' middle
    have hmiddle : Alike middle [.delete old'', .insert new''] := by
      unfold middle
      split
      · exact (alike_deleting old'').append (alike_inserting new'')
      · split
        · next column row _ =>
          refine ((ih _ _).append (ih _ _)).trans ?_
          constructor <;> simp
        · exact .refl _
    have hstart : new.take first = start := take_commonStart old new
    have hfinish : new'.drop (new'.length - last) = finish := drop_commonStart old' new'
    refine (((alike_keeping _).append hmiddle).append (alike_keeping _)).trans ?_
    constructor
    · simp [start, old', old'', finish]
    · simp only [← hfinish, ← hstart]
      simp [new', new'']

/-- **The edits that turn one text into another** have these two texts. -/
theorem alike_edits (old new : List String) :
    Alike (edits old new) [.delete old, .insert new] :=
  (alike_arrange _).trans ((alike_settle _).trans (alike_editsFrom _ old new))

end MediaScraper.Diff
