import Mathlib.Data.List.Basic
import MediaScraper.Text.Search

/-!
# Texts and their bytes

The bytes of a text are those of its parts (`byteLength_append`), and there are some if there is a
character. So the number of bytes before a place of a text tells the place (`append_inj_of_bytes`),
and taking the bytes of a beginning gives this beginning (`takeBytes_append`).
-/

namespace MediaScraper.Text

/-! ## The number of bytes -/

theorem foldl_utf8Size (n : Nat) (s : List Char) :
    s.foldl (fun n c => n + c.utf8Size) n = n + byteLength s := by
  rw [byteLength]
  induction s generalizing n with
  | nil => rfl
  | cons c s ih => rw [List.foldl_cons, List.foldl_cons, ih, ih (0 + c.utf8Size)]; omega

@[simp]
theorem byteLength_nil : byteLength [] = 0 := rfl

theorem byteLength_cons (c : Char) (s : List Char) :
    byteLength (c :: s) = c.utf8Size + byteLength s := by
  rw [byteLength, List.foldl_cons, foldl_utf8Size, Nat.zero_add]

theorem byteLength_append (s t : List Char) :
    byteLength (s ++ t) = byteLength s + byteLength t := by
  rw [byteLength, List.foldl_append, foldl_utf8Size, foldl_utf8Size, Nat.zero_add]

theorem byteLength_eq_zero {s : List Char} : byteLength s = 0 ↔ s = [] := by
  cases s with
  | nil => exact ⟨fun _ => rfl, fun _ => rfl⟩
  | cons c s =>
    rw [byteLength_cons]
    have hpos := c.utf8Size_pos
    exact ⟨fun h => by omega, fun h => by cases h⟩

theorem utf8ByteSize_eq_byteLength (s : String) : s.utf8ByteSize = byteLength s.toList := by
  induction s using String.push_induction with
  | empty => rfl
  | push s c ih =>
    rw [String.utf8ByteSize_push, ih, String.toList_push, byteLength_append, byteLength_cons,
      byteLength_nil, Nat.add_zero]

/-- **A place of a text is told by the bytes before it.** -/
theorem append_inj_of_bytes {s t s' t' : List Char} (h : s ++ t = s' ++ t')
    (hbytes : byteLength s = byteLength s') : s = s' ∧ t = t' := by
  induction s generalizing s' with
  | nil =>
    obtain rfl := byteLength_eq_zero.1 hbytes.symm
    exact ⟨rfl, h⟩
  | cons c s ih =>
    cases s' with
    | nil => exact absurd (byteLength_eq_zero.1 hbytes) (List.cons_ne_nil c s)
    | cons d s' =>
      obtain ⟨rfl, hrest⟩ := List.cons.inj h
      rw [byteLength_cons, byteLength_cons, Nat.add_left_cancel_iff] at hbytes
      obtain ⟨rfl, rfl⟩ := ih hrest hbytes
      exact ⟨rfl, rfl⟩

/-! ## Taking bytes -/

theorem takeBytesFrom_append (taken s t : List Char) :
    takeBytesFrom taken (byteLength s) (s ++ t) = taken.reverse ++ s := by
  induction s generalizing taken with
  | nil => cases t <;> simp [takeBytesFrom]
  | cons c s ih =>
    have hne : ¬ byteLength (c :: s) = 0 := by
      rw [byteLength_eq_zero]
      exact List.cons_ne_nil c s
    rw [List.cons_append, takeBytesFrom, if_neg hne, byteLength_cons, Nat.add_sub_cancel_left, ih]
    simp

/-- **Taking the bytes of a beginning** gives the beginning. -/
theorem takeBytes_append (s t : List Char) : takeBytes (byteLength s) (s ++ t) = s :=
  takeBytesFrom_append [] s t

end MediaScraper.Text
