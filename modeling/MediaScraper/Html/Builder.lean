import MediaScraper.Html.Forest

/-!
# Building a document

A document is built from its tokens by an automaton with a stack of open elements (`Builder`). This
module has its moves: where a node is put, and how elements are opened and closed.
-/

namespace MediaScraper.Html

/-- Where in the grammar of a document the next token stands. -/
inductive Mode where
  | body
  /-- In an element that holds nothing but text. -/
  | text
  | table
  /-- In text that stands directly in a table. -/
  | tableText
  | caption
  | columnGroup
  | tableBody
  | row
  | cell
  | select
  | selectInTable
  | template
deriving DecidableEq

/-- An entry of the list of active formatting. -/
inductive Entry where
  /-- A bound: formatting before it does not act behind it. -/
  | marker
  | element (node : Nat) (tag : Tag)

structure Builder where
  forest : Forest
  /-- The open elements, innermost first; the last one is the root. -/
  stack : List OpenElement
  /-- The active formatting, newest first. -/
  formatting : List Entry
  mode : Mode
  /-- The mode that follows a text. -/
  resume : Mode
  /-- The modes of the open templates, innermost first. -/
  templates : List Mode
  /-- The open form. -/
  form : Option Nat
  /-- Does a node that has no place in a table go before the table? -/
  fosters : Bool
  /-- Is a line feed to be dropped if it comes next? -/
  skipsLine : Bool
  /-- What may follow in the text. -/
  model : ContentModel
  /-- Text in a table that has no place yet. -/
  held : List Char

/-- The root as an open element. -/
def rootElement : OpenElement := ⟨0, .html, "html"⟩

namespace Builder

/-- The builder before the first token. -/
def start : Builder where
  forest := .start
  stack := [rootElement]
  formatting := []
  mode := .body
  resume := .body
  templates := []
  form := none
  fosters := false
  skipsLine := false
  model := .markup
  held := []

/-- The innermost open element. -/
def current (b : Builder) : OpenElement := b.stack.head?.getD rootElement

/-- Is an element of this name open? -/
def isOpen (b : Builder) (name : String) : Bool := b.stack.any (·.isNamed name)

/-- Is an element of this name in scope? -/
def hasInScope (b : Builder) (bound : OpenElement → Bool) (name : String) : Bool :=
  inScope bound (·.isNamed name) b.stack

/-! ## Places -/

/-- The place for what a table cannot hold: before the innermost table, or in a template
within it. -/
def fosterPlace : List OpenElement → Place
  | [] => .inside 0
  | e :: es =>
    if e.isNamed "template" then .inside e.node
    else if e.isNamed "table" then .before e.node ((es.head?.map (·.node)).getD 0)
    else fosterPlace es

/-- The place for a node that belongs in an element. -/
def placeIn (b : Builder) (target : OpenElement) : Place :=
  if b.fosters && target.isOneOf tableFrame then fosterPlace b.stack else .inside target.node

/-- Put text into the current element. -/
def insertText (b : Builder) (s : List Char) : Builder :=
  if s.isEmpty then b
  else
    let place := b.placeIn b.current
    { b with forest := b.forest.insert place (.text s) }

/-- Make an element and put it into the current one, without opening it. -/
def place (b : Builder) (space : Namespace) (name : String)
    (attributes : List (String × String)) : Builder :=
  let place := b.placeIn b.current
  let node := b.forest.size
  { b with forest := (b.forest.make space name attributes).insert place (.element node) }

/-- Put an element into the current one and open it. -/
def openIn (b : Builder) (space : Namespace) (name : String)
    (attributes : List (String × String)) : Builder :=
  let node := b.forest.size
  let b := b.place space name attributes
  { b with stack := ⟨node, space, name⟩ :: b.stack }

/-- Open the element of a tag. -/
def insert (b : Builder) (tag : Tag) : Builder := b.openIn .html tag.name tag.attributes

/-- Open an element that no tag asked for. -/
def insertPhantom (b : Builder) (name : String) : Builder := b.openIn .html name []

/-- Put an element without content. -/
def insertVoid (b : Builder) (tag : Tag) : Builder := b.place .html tag.name tag.attributes

/-! ## Closing elements -/

/-- Close the innermost element. -/
def pop (b : Builder) : Builder := { b with stack := b.stack.drop 1 }

/-- Close elements up to one of these, and this one too. -/
def popThrough (b : Builder) (wanted : OpenElement → Bool) : Builder :=
  { b with stack := (b.stack.dropWhile fun e => !wanted e).drop 1 }

/-- Close elements up to one of this name, and this one too. -/
def popThroughNamed (b : Builder) (name : String) : Builder := b.popThrough (·.isNamed name)

/-- Close elements until one of these is the current one. -/
def popTo (b : Builder) (names : List String) : Builder :=
  { b with stack := b.stack.dropWhile fun e => !e.isOneOf names }

/-- Close the elements that close by themselves, other than one. -/
def closeImplied (b : Builder) (names : List String) (other : String) : Builder :=
  { b with stack := b.stack.dropWhile fun e => e.isOneOf names && !e.isNamed other }

/-- Close an element with all that is open within it. -/
def close (b : Builder) (name : String) : Builder :=
  (b.closeImplied implied name).popThroughNamed name

/-- Close an open paragraph. -/
def closeParagraph (b : Builder) : Builder :=
  if b.hasInScope boundsButton "p" then b.close "p" else b

/-- Forget the formatting up to the newest bound, and the bound itself. -/
def clearFormatting (b : Builder) : Builder :=
  let isElement : Entry → Bool := fun
    | .marker => false
    | .element _ _ => true
  { b with formatting := (b.formatting.dropWhile isElement).drop 1 }

/-- Take an element off the stack, wherever it stands. -/
def removeOpen (b : Builder) (node : Nat) : Builder :=
  { b with stack := b.stack.filter fun e => e.node ≠ node }

/-- The mode that the open elements call for. -/
def modeOf (templates : List Mode) : List OpenElement → Mode
  | [] => .body
  | [_] => .body
  | e :: es =>
    if e.space ≠ .html then modeOf templates es
    else if e.name = "select" then
      match es.find? fun e => e.isOneOf ["template", "table"] with
      | some e => if e.name = "table" then .selectInTable else .select
      | none => .select
    else if cells.contains e.name then .cell
    else if e.name = "tr" then .row
    else if tableSections.contains e.name then .tableBody
    else if e.name = "caption" then .caption
    else if e.name = "colgroup" then .columnGroup
    else if e.name = "table" then .table
    else if e.name = "template" then templates.head?.getD .body
    else modeOf templates es

/-- Set the mode by the open elements. -/
def resetMode (b : Builder) : Builder := { b with mode := modeOf b.templates b.stack }

end Builder

end MediaScraper.Html
