import MediaScraper.Unicode.Blank
import MediaScraper.Unicode.CaseFolding
import MediaScraper.Unicode.Category
import MediaScraper.Unicode.Digit
import MediaScraper.Unicode.Property
import MediaScraper.Unicode.Script
import MediaScraper.Unicode.Word

/-!
# Named classes of characters

Patterns name classes in three ways: by a letter such as `\d`, by a name in brackets such as
`[:alpha:]`, and by a property such as `\p{Greek}`. Property names are compared in small letters
and without separators, a leading `is` does not count, and characters outside of ASCII are ignored.
-/

namespace MediaScraper.Pattern.CharClass

def ascii : CharSet := .range 0 0x7F

/-- The class of the letters `d`, `s` and `w`. -/
inductive Letter where
  | digit
  | space
  | word
deriving DecidableEq

/-- The characters of a class, over Unicode or over ASCII. -/
def Letter.set (unicode : Bool) : Letter → CharSet
  | .digit => if unicode then digitChars else .range 0x30 0x39
  | .space => if unicode then blanks else ⟨[⟨0x9, 0xD⟩, ⟨0x20, 0x20⟩]⟩
  | .word =>
    if unicode then wordChars else ⟨[⟨0x30, 0x39⟩, ⟨0x41, 0x5A⟩, ⟨0x5F, 0x5F⟩, ⟨0x61, 0x7A⟩]⟩

/-- The class of a name in brackets. -/
def bracketName? (name : List Char) : Option CharSet :=
  match String.ofList name with
  | "alnum" => some ⟨[⟨0x30, 0x39⟩, ⟨0x41, 0x5A⟩, ⟨0x61, 0x7A⟩]⟩
  | "alpha" => some ⟨[⟨0x41, 0x5A⟩, ⟨0x61, 0x7A⟩]⟩
  | "ascii" => some ascii
  | "blank" => some ⟨[⟨0x9, 0x9⟩, ⟨0x20, 0x20⟩]⟩
  | "cntrl" => some ⟨[⟨0x0, 0x1F⟩, ⟨0x7F, 0x7F⟩]⟩
  | "digit" => some ⟨[⟨0x30, 0x39⟩]⟩
  | "graph" => some ⟨[⟨0x21, 0x7E⟩]⟩
  | "lower" => some ⟨[⟨0x61, 0x7A⟩]⟩
  | "print" => some ⟨[⟨0x20, 0x7E⟩]⟩
  | "punct" => some ⟨[⟨0x21, 0x2F⟩, ⟨0x3A, 0x40⟩, ⟨0x5B, 0x60⟩, ⟨0x7B, 0x7E⟩]⟩
  | "space" => some ⟨[⟨0x9, 0xD⟩, ⟨0x20, 0x20⟩]⟩
  | "upper" => some ⟨[⟨0x41, 0x5A⟩]⟩
  | "word" => some ⟨[⟨0x30, 0x39⟩, ⟨0x41, 0x5A⟩, ⟨0x5F, 0x5F⟩, ⟨0x61, 0x7A⟩]⟩
  | "xdigit" => some ⟨[⟨0x30, 0x39⟩, ⟨0x41, 0x46⟩, ⟨0x61, 0x66⟩]⟩
  | _ => none

/-! ## Properties -/

/-- A property name as it is compared. -/
def normalize (name : List Char) : String :=
  let (isPrefixed, rest) := match name with
    | a :: b :: rest => if a.toLower = 'i' ∧ b.toLower = 's' then (true, rest) else (false, name)
    | _ => (false, name)
  let kept := rest.filter fun c => c.toNat < 0x80 && c ≠ ' ' && c ≠ '_' && c ≠ '-'
  let kept := kept.map Char.toLower
  if isPrefixed ∧ kept = ['c'] then "isc" else .ofList kept

/-- The runs that a table lists under a name. -/
def lookupRuns (table : List (List String × List Nat)) (name : String) : Option CharSet :=
  (table.find? fun entry => entry.1.contains name).map fun entry => .ofRuns entry.2

/-- The union of categories that are listed under these names. -/
def unionOf (names : List String) : CharSet :=
  .ofRanges (names.flatMap fun name =>
    match lookupRuns Category.single name with
    | some s => s.ranges
    | none => [])

/-- The general category of a name, or one of the classes `any`, `assigned` and `ascii`. -/
def category? (name : String) : Option CharSet :=
  if name = "any" then some .all
  else if name = "assigned" then some Category.assigned
  else if name = "ascii" then some ascii
  else if Category.unassignedNames.contains name then some Category.assigned.compl
  else if Category.otherNames.contains name then
    some ((unionOf ["cc", "cf", "co"]).union Category.assigned.compl)
  else
    match Category.united.find? fun entry => entry.1.contains name with
    | some entry => some (unionOf entry.2)
    | none => lookupRuns Category.single name

def script? (name : String) : Option CharSet := lookupRuns Script.table name

/-- All characters that a script uses. -/
def scriptExtensions? (name : String) : Option CharSet :=
  match Script.table.find? fun entry => entry.1.contains name with
  | none => none
  | some (names, runs) =>
    match Script.extended.find? fun entry => names.contains entry.1 with
    | some entry => some (.ofRuns entry.2)
    | none => some (.ofRuns runs)

/-- The property of a name that a character has or has not. -/
def property? (name : String) : Option CharSet :=
  if ["whitespace", "wspace", "space"].contains name then some blanks
  else lookupRuns Property.table name

/-- Names that mean a category although they abbreviate a property too. -/
def categoryFirst : List String := ["cf", "sc", "lc"]

/-- The class of a single name: a property, a category or a script. -/
def ofName? (name : List Char) : Option CharSet :=
  let name := normalize name
  let property := if categoryFirst.contains name then none else property? name
  property <|> category? name <|> script? name

/-- The class of the characters whose property of a name has a value. -/
def ofValue? (name value : List Char) : Option CharSet :=
  let value := normalize value
  match normalize name with
  | "gc" | "generalcategory" => category? value
  | "sc" | "script" => script? value
  | "scx" | "scriptextensions" => scriptExtensions? value
  | _ => none

end MediaScraper.Pattern.CharClass
