/-!
# Registers

A routine works on a fixed number of registers, each of which holds a text. A register that does not
exist reads as the empty text and cannot be written.
-/

namespace MediaScraper

/-- The texts of all registers. -/
structure Registers where
  slots : Vector String 21

namespace Registers

/-- The number of registers. -/
def count : Nat := 21

/-- All registers empty. -/
def empty : Registers := ⟨.replicate 21 ""⟩

/-- The text of a register. -/
def get (r : Registers) (i : Nat) : String := r.slots[i]?.getD ""

/-- Write a register, if it exists. -/
def set (r : Registers) (i : Nat) (text : String) : Registers := ⟨r.slots.setIfInBounds i text⟩

/-- Write a text behind what a register holds. -/
def append (r : Registers) (i : Nat) (text : String) : Registers := r.set i (r.get i ++ text)

/-- Write inputs into the first registers; inputs that have no register are left out. -/
def load (r : Registers) (inputs : List String) : Registers :=
  ⟨r.slots.mapIdx fun i old => inputs[i]?.getD old⟩

/-- Are all registers empty? -/
def isClear (r : Registers) : Bool := r.slots.all String.isEmpty

/-- The registers that hold a text, with their numbers. -/
def filled (r : Registers) : List (Nat × String) :=
  r.slots.toList.zipIdx.filterMap fun (text, i) => if text.isEmpty then none else some (i, text)

end Registers
end MediaScraper
