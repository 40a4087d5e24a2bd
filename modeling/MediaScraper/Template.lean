import MediaScraper.Text.Numeral
import MediaScraper.Text.Search
import MediaScraper.Text.Segment

/-!
# Templates

A template is text with three kinds of tokens:

1. `\N`, a digit after a backslash, stands for a group of the current match;
2. `$$N`, digits after two dollar signs, stands for the content of a register;
3. `$INFO[key]` stands for the value of a setting.

The kinds are replaced one after the other, each in the stretches that the kinds before it left
over. What has been put in is final: no kind looks at it again, and it never joins with its
neighbours to make a token.
-/

namespace MediaScraper.Template

/-! ## Tokens -/

/-- The group token at the beginning of a text: its number. -/
def group? : List Char → Option (Nat × Nat)
  | '\\' :: c :: _ => if c.isDigit then some (c.toNat - '0'.toNat, 2) else none
  | _ => none

/-- The register token at the beginning of a text: its digits. -/
def register? : List Char → Option (List Char × Nat)
  | '$' :: '$' :: cs =>
    let digits := cs.takeWhile Char.isDigit
    if digits.isEmpty then none else some (digits, digits.length + 2)
  | _ => none

/-- The setting token at the beginning of a text: its key. -/
def property? (s : List Char) : Option (List Char × Nat) :=
  match "$INFO[".toList.isPrefixOf? s with
  | none => none
  | some rest =>
    let (key, rest) := rest.span (· ≠ ']')
    match rest with
    | [] => none
    | _ :: _ => if key.isEmpty then none else some (key, key.length + 7)

/-- The register that digits name, if a machine word can hold its number. -/
def registerIndex? (digits : List Char) : Option Nat := Numeral.word? digits

/-! ## Rendering -/

/-- What registers and settings hold while a template is rendered. -/
structure Source where
  register : Nat → String
  property : String → String

namespace Source

/-- The text for a register token; nothing when its number is too large to name one. -/
def registerText (src : Source) (digits : List Char) : List Char :=
  match registerIndex? digits with
  | some index => (src.register index).toList
  | none => []

def propertyText (src : Source) (key : List Char) : List Char :=
  (src.property (.ofList key)).toList

/-- The text for a group token; nothing when there is no such group. -/
def groupText (groups : List String) (index : Nat) : List Char :=
  match groups[index]? with
  | some group => group.toList
  | none => []

end Source

/-- A part of a template that is still open for replacement, or final. -/
inductive Part where
  | opened (s : List Char)
  | final (s : List Char)

def Part.text : Part → List Char
  | .opened s => s
  | .final s => s

/-- Replace one kind of token in the open parts. -/
def fill {τ : Type} (read : List Char → Option (τ × Nat)) (value : τ → List Char)
    (parts : List Part) : List Part :=
  parts.flatMap fun
    | .final s => [.final s]
    | .opened s => (Text.segment read s).map fun
      | .plain s => .opened s
      | .token t => .final (value t)

def join (parts : List Part) : String := .ofList (parts.flatMap Part.text)

/-- Render a template for a match with these groups. -/
def render (template : String) (groups : List String) (src : Source) : String :=
  join <| fill property? src.propertyText <| fill register? src.registerText <|
    fill group? (Source.groupText groups) [.opened template.toList]

/-- Replace the register tokens of a text and nothing else. A text without two dollar signs one
after the other is left as it is. -/
def fillRegisters (s : String) (src : Source) : String :=
  if Text.occursIn "$$".toList s.toList then
    join (fill register? src.registerText [.opened s.toList])
  else s

/-- Replace the setting tokens of a text and nothing else. A text in which none begins is left as it
is. -/
def fillProperties (s : String) (src : Source) : String :=
  if Text.occursIn "$INFO[".toList s.toList then
    join (fill property? src.propertyText [.opened s.toList])
  else s

/-- The registers that the tokens of a text name, in order. -/
def references (s : String) : List Nat :=
  (Text.tokens register? s.toList).filterMap registerIndex?

end MediaScraper.Template
