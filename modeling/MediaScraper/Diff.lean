import MediaScraper.Diff.Search

/-!
# Showing what has changed

Two texts are compared line by line. Every line is shown behind a sign: a blank if both texts have
it, a minus if only the old one has it, and a plus if only the new one has it.
-/

namespace MediaScraper.Diff

/-- Cut a text behind its line ends, which are a line feed, a carriage return, or one behind the
other. `line` is the open line and `lines` are the finished ones, both in reverse. -/
def linesFrom (line : List Char) (lines : List String) : List Char → List String
  | [] => (if line.isEmpty then lines else .ofList line.reverse :: lines).reverse
  | '\r' :: '\n' :: cs => linesFrom [] (.ofList ('\n' :: '\r' :: line).reverse :: lines) cs
  | c :: cs =>
    if c = '\n' ∨ c = '\r' then linesFrom [] (.ofList (c :: line).reverse :: lines) cs
    else linesFrom (c :: line) lines cs

/-- The lines of a text, with their ends. -/
def linesOf (s : String) : List String := linesFrom [] [] s.toList

/-- Does a line have its end? -/
def isEnded (line : String) : Bool :=
  match line.toList.getLast? with
  | some c => c = '\n' || c = '\r'
  | none => false

/-- A changed line as it stands in a report: the end that it may lack is added. -/
def displayLine (line : String) : String := line ++ if isEnded line then "" else "\n"

/-- A changed line behind its sign, on its own. Behind a line without an end the row is ended once
more, although the line is displayed with one. -/
def showLine (sign : String) (line : String) : String :=
  sign ++ displayLine line ++ if isEnded line then "" else "\n"

def Edit.show : Edit → String
  | .keep lines => .join (lines.map (showLine " "))
  | .delete lines => .join (lines.map (showLine "-"))
  | .insert lines => .join (lines.map (showLine "+"))

/-- What is shown of edits. -/
def showEdits (edits : List Edit) : String := .join (edits.map Edit.show)

/-- The changes from one text to another. -/
def report (old new : String) : String := showEdits (edits (linesOf old) (linesOf new))

end MediaScraper.Diff
