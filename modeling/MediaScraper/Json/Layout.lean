/-!
# Writing JSON

JSON is written with each item on a line of its own, indented by two spaces for every level. A
`Layout` is a text that still waits for its level.
-/

namespace MediaScraper.Json

/-- A character as it is written in a string. -/
def escapeChar (c : Char) : List Char :=
  match [('"', '"'), ('\\', '\\'), ('\x08', 'b'), ('\x0c', 'f'), ('\n', 'n'), ('\r', 'r'),
      ('\t', 't')].lookup c with
  | some e => ['\\', e]
  | none =>
    if c < ' ' then
      let digits := Nat.toDigits 16 c.toNat
      '\\' :: 'u' :: List.replicate (4 - digits.length) '0' ++ digits
    else [c]

/-- A text at a level of indentation. -/
abbrev Layout := Nat → String

namespace Layout

def text (s : String) : Layout := fun _ => .ofList ('"' :: s.toList.flatMap escapeChar ++ ['"'])

def number (n : Nat) : Layout := fun _ => toString n

def flag (b : Bool) : Layout := fun _ => if b then "true" else "false"

def null : Layout := fun _ => "null"

def option {α : Type} (write : α → Layout) : Option α → Layout
  | some a => write a
  | none => null

/-- The beginning of a line at a level. -/
def line (level : Nat) : String := .ofList ('\n' :: .replicate (2 * level) ' ')

/-- Items between brackets. -/
def enclose (first last : String) (items : List Layout) : Layout := fun level =>
  if items.isEmpty then first ++ last
  else
    first ++ line (level + 1) ++
      ("," ++ line (level + 1)).intercalate (items.map fun item => item (level + 1)) ++
      line level ++ last

def list (items : List Layout) : Layout := enclose "[" "]" items

/-- A key with its value. -/
def member (key : String) (value : Layout) : Layout :=
  fun level => text key level ++ ": " ++ value level

def object (members : List (String × Layout)) : Layout :=
  enclose "\x7b" "\x7d" (members.map fun m => member m.1 m.2)

end Layout
end MediaScraper.Json
