/-!
# Edits

A text is turned into another one by edits, each of which keeps, deletes or inserts lines.
`Edit.before` and `Edit.after` give the two texts back; every rearrangement of edits in this module
leaves both as they are.

**Sliding.** An insertion between kept lines can often stand in more than one place: where the line
before it is also its own last line, it may begin one line earlier. Each insertion first slides up
as far as it goes and then down as far as it goes, and so meets its neighbours and joins with them.
-/

namespace MediaScraper.Diff

inductive Edit where
  | keep (lines : List String)
  | delete (lines : List String)
  | insert (lines : List String)
deriving DecidableEq

namespace Edit

/-- The lines before the edits. -/
def before (edits : List Edit) : List String :=
  edits.flatMap fun
    | .keep lines => lines
    | .delete lines => lines
    | .insert _ => []

/-- The lines after the edits. -/
def after (edits : List Edit) : List String :=
  edits.flatMap fun
    | .keep lines => lines
    | .delete _ => []
    | .insert lines => lines

/-- Keep lines, if there are any. -/
def keeping (lines : List String) : List Edit := if lines.isEmpty then [] else [.keep lines]

/-! ## Sliding -/

/-- An edit among its neighbours; those above it are listed from the nearest one. -/
structure Place where
  above : List Edit
  edit : Edit
  below : List Edit

/-- Keep lines before these edits. -/
def keepFirst (lines : List String) : List Edit → List Edit
  | .keep more :: edits => .keep (lines ++ more) :: edits
  | edits => keeping lines ++ edits

/-- Keep lines behind these edits, which are listed from the last one. -/
def keepLast (lines : List String) : List Edit → List Edit
  | .keep more :: edits => .keep (more ++ lines) :: edits
  | edits => keeping lines ++ edits

/-- Slide inserted lines up over kept ones, both listed from the last line. `passed` are the lines
passed so far. The kept lines that are left, the inserted lines and the passed ones are returned,
the first two still from the last line. -/
def slideUp (inserted passed : List String) : List String → List String × List String × List String
  | [] => ([], inserted, passed)
  | kept :: more =>
    match inserted with
    | [] => (kept :: more, inserted, passed)
    | last :: others =>
      if last = kept then slideUp (others ++ [last]) (kept :: passed) more
      else (kept :: more, inserted, passed)

/-- Slide inserted lines down over kept ones. `passed` are the lines passed so far, from the last
one. -/
def slideDown (inserted passed : List String) :
    List String → List String × List String × List String
  | [] => ([], inserted, passed)
  | kept :: more =>
    match inserted with
    | [] => (kept :: more, inserted, passed)
    | first :: others =>
      if first = kept then slideDown (others ++ [first]) (kept :: passed) more
      else (kept :: more, inserted, passed)

/-- Move an edit up over its neighbours, as far as it goes. -/
def moveUp (edit : Edit) (below : List Edit) : List Edit → Place
  | [] => ⟨[], edit, below⟩
  | neighbour :: above =>
    match edit, neighbour with
    | .insert lines, .keep kept =>
      match slideUp lines.reverse [] kept.reverse with
      | ([], lines, passed) => moveUp (.insert lines.reverse) (keepFirst passed below) above
      | (kept, lines, passed) =>
        ⟨.keep kept.reverse :: above, .insert lines.reverse, keepFirst passed below⟩
    | .insert lines, .insert more => moveUp (.insert (more ++ lines)) below above
    | .delete lines, .delete more => moveUp (.delete (more ++ lines)) below above
    | .insert _, .delete _ | .delete _, .insert _ => moveUp edit (neighbour :: below) above
    | _, _ => ⟨neighbour :: above, edit, below⟩

/-- Move an edit down over its neighbours, as far as it goes. -/
def moveDown (above : List Edit) (edit : Edit) : List Edit → Place
  | [] => ⟨above, edit, []⟩
  | neighbour :: below =>
    match edit, neighbour with
    | .insert lines, .keep kept =>
      match slideDown lines [] kept with
      | ([], lines, passed) => moveDown (keepLast passed.reverse above) (.insert lines) below
      | (kept, lines, passed) => ⟨keepLast passed.reverse above, .insert lines, .keep kept :: below⟩
    | .insert lines, .insert more => moveDown above (.insert (lines ++ more)) below
    | .delete lines, .delete more => moveDown above (.delete (lines ++ more)) below
    | .insert _, .delete _ | .delete _, .insert _ => moveDown (neighbour :: above) edit below
    | _, _ => ⟨above, edit, neighbour :: below⟩

/-- Move every edit of a kind up and then down, from the first to the last. -/
def settleFrom (ofKind : Edit → Bool) : Nat → List Edit → List Edit → List Edit
  | 0, above, below => above.reverse ++ below
  | _, above, [] => above.reverse
  | fuel + 1, above, edit :: below =>
    if ofKind edit then
      let up := moveUp edit below above
      let down := moveDown up.above up.edit up.below
      settleFrom ofKind fuel (down.edit :: down.above) down.below
    else settleFrom ofKind fuel (edit :: above) below

def isDelete : Edit → Bool
  | .delete _ => true
  | _ => false

def isInsert : Edit → Bool
  | .insert _ => true
  | _ => false

/-- Move all deletions, and then all insertions. -/
def settle (edits : List Edit) : List Edit :=
  let fuel := 4 * (edits.length + (before edits).length + (after edits).length)
  settleFrom isInsert fuel [] (settleFrom isDelete fuel [] edits)

/-! ## Order -/

/-- An edit for lines, if there are any. -/
def editing (edit : List String → Edit) (lines : List String) : List Edit :=
  if lines.isEmpty then [] else [edit lines]

/-- Between kept lines, put what is deleted before what is inserted. -/
def arrangeFrom (deleted inserted : List String) : List Edit → List Edit
  | [] => editing .delete deleted ++ editing .insert inserted
  | .delete lines :: edits => arrangeFrom (deleted ++ lines) inserted edits
  | .insert lines :: edits => arrangeFrom deleted (inserted ++ lines) edits
  | .keep lines :: edits =>
    editing .delete deleted ++ editing .insert inserted ++ .keep lines :: arrangeFrom [] [] edits

def arrange (edits : List Edit) : List Edit := arrangeFrom [] [] edits

end Edit
end MediaScraper.Diff
