import MediaScraper.Registers

/-!
# What registers hold

Writing a register leaves the others as they are (`get_set_of_ne`, `get_append_of_ne`). Inputs
replace what the first registers hold and leave the others as they are (`get_load`).

Registers are what they hold (`ext_get`), so what is appended twice is appended in one
(`append_append`). Two register files may agree on some registers only
(`AgreeOn`); they still do when the same is written to one of these in both (`AgreeOn.set`,
`AgreeOn.append`).
-/

namespace MediaScraper.Registers

variable {i j : Nat}

/-! ## Single registers -/

theorem get_empty (i : Nat) : empty.get i = "" := by
  rw [get, empty, Vector.getElem?_replicate]
  split <;> rfl

theorem get_set_self (h : i < count) (r : Registers) (text : String) :
    (r.set i text).get i = text := by
  have hi : i < 21 := h
  rw [get, set, Vector.getElem?_setIfInBounds_self_of_lt hi, Option.getD_some]

theorem get_set_of_ne (h : i ≠ j) (r : Registers) (text : String) :
    (r.set i text).get j = r.get j := by
  rw [get, get, set, Vector.getElem?_setIfInBounds_ne h]

theorem get_append_of_ne (h : i ≠ j) (r : Registers) (text : String) :
    (r.append i text).get j = r.get j := get_set_of_ne h r _

/-- **Inputs replace** what the registers of their numbers hold. -/
theorem get_load (h : i < count) (r : Registers) (inputs : List String) :
    (r.load inputs).get i = inputs[i]?.getD (r.get i) := by
  have hi : i < 21 := h
  simp [get, load, hi]

/-! ## Registers that hold the same -/

theorem get_of_le (h : count ≤ i) (r : Registers) : r.get i = "" := by
  have hi : 21 ≤ i := h
  rw [get, Vector.getElem?_eq_none hi, Option.getD_none]

/-- **Registers are what they hold.** -/
theorem ext_get {r r' : Registers} (h : ∀ i, r.get i = r'.get i) : r = r' := by
  obtain ⟨slots⟩ := r
  obtain ⟨slots'⟩ := r'
  congr 1
  refine Vector.ext fun i hi => ?_
  have hget := h i
  simpa [get, hi] using hget

/-! ## Appending -/

theorem get_append_self (h : i < count) (r : Registers) (text : String) :
    (r.append i text).get i = r.get i ++ text := get_set_self h r _

theorem append_empty (r : Registers) (i : Nat) : r.append i "" = r := by
  refine ext_get fun j => ?_
  by_cases hij : i = j
  · subst hij
    rcases Nat.lt_or_ge i count with hlt | hge
    · rw [get_append_self hlt, String.append_empty]
    · rw [get_of_le hge, get_of_le hge]
  · rw [get_append_of_ne hij]

theorem append_set (r : Registers) (i : Nat) (a b : String) :
    (r.set i a).append i b = r.set i (a ++ b) := by
  refine ext_get fun j => ?_
  by_cases hij : i = j
  · subst hij
    rcases Nat.lt_or_ge i count with hlt | hge
    · rw [get_append_self hlt, get_set_self hlt, get_set_self hlt]
    · rw [get_of_le hge, get_of_le hge]
  · rw [get_append_of_ne hij, get_set_of_ne hij, get_set_of_ne hij]

theorem append_append (r : Registers) (i : Nat) (a b : String) :
    (r.append i a).append i b = r.append i (a ++ b) := by
  have happend := append_set r i (r.get i ++ a) b
  rwa [String.append_assoc] at happend

/-- What is appended to a register stands behind what has been written there. -/
theorem append_of_written (r : Registers) (i : Nat) (append : Bool) (a b : String) :
    (if append then r.append i a else r.set i a).append i b =
      r.set i ((if append then r.get i else "") ++ (a ++ b)) := by
  cases append with
  | true => exact append_append r i a b
  | false => exact (append_set r i a b).trans (by simp)

theorem append_of_get_eq {r : Registers} (h : r.get i = "") (text : String) :
    r.append i text = r.set i text := by
  rw [append, h, String.empty_append]

/-! ## Registers that agree -/

/-- The registers of these numbers hold the same. -/
def AgreeOn (is : List Nat) (r r' : Registers) : Prop := ∀ i ∈ is, r.get i = r'.get i

theorem AgreeOn.mono {is js : List Nat} {r r' : Registers} (h : AgreeOn is r r')
    (hsub : ∀ i ∈ js, i ∈ is) : AgreeOn js r r' := fun i hi => h i (hsub i hi)

theorem AgreeOn.set {is : List Nat} {r r' : Registers} (h : AgreeOn is r r') (i : Nat)
    (text : String) : AgreeOn is (r.set i text) (r'.set i text) := by
  intro j hj
  by_cases hij : i = j
  · subst hij
    rcases Nat.lt_or_ge i count with hlt | hge
    · rw [get_set_self hlt, get_set_self hlt]
    · rw [get_of_le hge, get_of_le hge]
  · rw [get_set_of_ne hij, get_set_of_ne hij, h j hj]

theorem AgreeOn.append {is : List Nat} {r r' : Registers} (h : AgreeOn is r r') {i : Nat}
    (hi : i ∈ is) (text : String) : AgreeOn is (r.append i text) (r'.append i text) := by
  rw [Registers.append, Registers.append, h i hi]
  exact h.set i _

end MediaScraper.Registers
