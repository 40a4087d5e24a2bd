import MediaScraper.Diff.Edit

/-!
# Finding edits

Few edits turn one text into another if they follow a short path through the grid whose columns are
the lines of the old text and whose rows are those of the new one. A step to the right deletes a
line, a step down inserts one, and a step along a diagonal keeps a line that both texts have.

Paths are searched from both corners at once. After `d` steps that are not along a diagonal, a path
ends on one of the diagonals `d`, `d - 2`, …, `-d`, and of the paths to one diagonal only the
furthest matters: a `Frontier` holds their columns in this order. Where the two searches meet, the
texts are cut, and the parts are treated in the same way.
-/

namespace MediaScraper.Diff

/-- How far the paths have come that end after a number of steps. -/
structure Frontier where
  steps : Nat
  columns : Array Nat

namespace Frontier

/-- The column on a diagonal, if it is one of the frontier's. -/
def column? (f : Frontier) (diagonal : Int) : Option Nat :=
  if diagonal.natAbs ≤ f.steps then f.columns[((f.steps - diagonal) / 2).toNat]? else none

end Frontier

/-- The columns after one more step, between the columns on two neighbouring diagonals. -/
def stepBetween (upper : Nat) : List Nat → List Nat
  | [] => [upper]
  | lower :: columns => (if lower < upper then upper else lower + 1) :: stepBetween lower columns

/-- The columns after one more step. -/
def stepFrom : List Nat → List Nat
  | [] => [0]
  | column :: columns => (column + 1) :: stepBetween column columns

/-- The number of lines that both texts have from a column and a row on. -/
def agreement (old new : Array String) : Nat → Nat → Nat → Nat
  | 0, _, _ => 0
  | fuel + 1, column, row =>
    if column < old.size ∧ row < new.size ∧ old[column]? = new[row]? then
      agreement old new fuel (column + 1) (row + 1) + 1
    else 0

/-- A stretch of agreement that ends a path. -/
structure Snake where
  diagonal : Int
  start : Nat
  finish : Nat

/-- The row of a column on a diagonal. -/
def rowOf (diagonal : Int) (column : Nat) : Nat := (column - diagonal).toNat

/-- The ends of all paths after one more step. -/
def snakes (old new : Array String) (steps : Nat) (columns : List Nat) : List Snake :=
  (stepFrom columns).mapIdx fun i start =>
    let diagonal : Int := steps - 2 * i
    ⟨diagonal, start, start + agreement old new old.size start (rowOf diagonal start)⟩

def Frontier.ofSnakes (steps : Nat) (snakes : List Snake) : Frontier :=
  ⟨steps, (snakes.map (·.finish)).toArray⟩

/-- Does this path meet one of the paths from the other corner? -/
def meets (old new : Array String) (other : Frontier) (snake : Snake) : Bool :=
  let shift : Int := old.size - new.size
  match other.column? (shift - snake.diagonal) with
  | some column => old.size ≤ snake.finish + column
  | none => false

/-- The column and the row where the searches meet. `oldBack` and `newBack` are the texts from
their ends. -/
def meetingFrom (old new oldBack newBack : Array String) :
    Nat → Nat → List Nat → Frontier → Option (Nat × Nat)
  | 0, _, _, _ => none
  | fuel + 1, steps, columns, backward =>
    let isOdd := (old.size + new.size) % 2 = 1
    let forward := snakes old new steps columns
    match if isOdd then forward.find? (meets old new backward) else none with
    | some snake => some (snake.start, rowOf snake.diagonal snake.start)
    | none =>
      let frontier := Frontier.ofSnakes steps forward
      let back := snakes oldBack newBack steps backward.columns.toList
      match if isOdd then none else back.find? (meets old new frontier) with
      | some snake =>
        some (old.size - snake.finish, new.size - rowOf snake.diagonal snake.finish)
      | none =>
        meetingFrom old new oldBack newBack fuel (steps + 1) frontier.columns.toList
          (Frontier.ofSnakes steps back)

/-- The column and the row where to cut two texts. -/
def meeting? (old new : List String) : Option (Nat × Nat) :=
  let limit := (old.length + new.length + 1) / 2 + 1
  meetingFrom old.toArray new.toArray old.reverse.toArray new.reverse.toArray limit 0 [] ⟨0, #[]⟩

/-- The number of lines at the beginning that two texts have in common. -/
def commonStart : List String → List String → Nat
  | s :: old, t :: new => if s = t then commonStart old new + 1 else 0
  | _, _ => 0

/-- Edits that turn one text into another. -/
def editsFrom : Nat → List String → List String → List Edit
  | 0, old, new => Edit.editing .delete old ++ Edit.editing .insert new
  | fuel + 1, old, new =>
    let first := commonStart old new
    let start := old.take first
    let old := old.drop first
    let new := new.drop first
    let last := commonStart old.reverse new.reverse
    let finish := old.drop (old.length - last)
    let old := old.take (old.length - last)
    let new := new.take (new.length - last)
    let middle :=
      if old.isEmpty ∨ new.isEmpty then Edit.editing .delete old ++ Edit.editing .insert new
      else
        match meeting? old new with
        | some (column, row) =>
          editsFrom fuel (old.take column) (new.take row) ++
            editsFrom fuel (old.drop column) (new.drop row)
        | none => [.delete old, .insert new]
    Edit.keeping start ++ middle ++ Edit.keeping finish

/-- The edits that turn one text into another, settled and in order. -/
def edits (old new : List String) : List Edit :=
  Edit.arrange (Edit.settle (editsFrom (old.length + new.length + 1) old new))

end MediaScraper.Diff
