import MediaScraper.Html.Token
import MediaScraper.Html.Element

/-!
# The nodes of a document

Elements are numbered in the order in which they are made, and the root has the number zero. An
element knows its children and its parent; text stands among the children. `Forest.walk` lists what
lies below an element in the order of the document.
-/

namespace MediaScraper.Html

/-- What stands in an element. -/
inductive Child where
  | text (s : List Char)
  | element (node : Nat)
deriving DecidableEq

structure Element where
  space : Namespace
  name : String
  attributes : List (String × String)
  parent : Option Nat
  children : Array Child

/-- A collection of elements; element zero is the root. -/
structure Forest where
  elements : Array Element

/-- A place for a node. -/
inductive Place where
  /-- As the last child of an element. -/
  | inside (parent : Nat)
  /-- Before an element, or inside another one if that element has no parent. -/
  | before (sibling fallback : Nat)

namespace Forest

/-- The forest that is only a root. -/
def start : Forest := ⟨#[⟨.html, "html", [], none, #[]⟩]⟩

/-- The number that the next element gets. -/
def size (f : Forest) : Nat := f.elements.size

/-- Make an element that stands nowhere yet. -/
def make (f : Forest) (space : Namespace) (name : String)
    (attributes : List (String × String)) : Forest :=
  ⟨f.elements.push ⟨space, name, attributes, none, #[]⟩⟩

def modify (f : Forest) (node : Nat) (change : Element → Element) : Forest :=
  ⟨f.elements.modify node change⟩

def parent? (f : Forest) (node : Nat) : Option Nat := f.elements[node]?.bind (·.parent)

def children (f : Forest) (node : Nat) : Array Child :=
  (f.elements[node]?.map (·.children)).getD #[]

/-- Note the parent of a child. -/
def adopt (f : Forest) (child : Child) (parent : Nat) : Forest :=
  match child with
  | .text _ => f
  | .element node => f.modify node fun e => { e with parent := some parent }

/-- Put a child behind the others. -/
def append (f : Forest) (parent : Nat) (child : Child) : Forest :=
  (f.modify parent fun e => { e with children := e.children.push child }).adopt child parent

/-- Put a child before one of its future siblings. -/
def insertBefore (f : Forest) (parent sibling : Nat) (child : Child) : Forest :=
  (f.modify parent fun e =>
    let rest := e.children.toList.span (· ≠ .element sibling)
    { e with children := (rest.1 ++ child :: rest.2).toArray }).adopt child parent

/-- Take an element away from its parent. -/
def detach (f : Forest) (node : Nat) : Forest :=
  match f.parent? node with
  | none => f
  | some parent =>
    let f := f.modify parent fun e =>
      { e with children := e.children.filter (· ≠ .element node) }
    f.modify node fun e => { e with parent := none }

/-- Put a child, which stands nowhere, at a place. -/
def insert (f : Forest) (place : Place) (child : Child) : Forest :=
  match place with
  | .inside parent => f.append parent child
  | .before sibling fallback =>
    match f.parent? sibling with
    | some parent => f.insertBefore parent sibling child
    | none => f.append fallback child

/-- Move all children of an element to the end of another one. -/
def moveChildren (f : Forest) (source target : Nat) : Forest :=
  let moved := f.children source
  let f := f.modify source fun e => { e with children := #[] }
  moved.foldl (fun f child => f.append target child) f

/-- Add the attributes whose names an element does not have. -/
def addAttributes (f : Forest) (node : Nat) (attributes : List (String × String)) : Forest :=
  f.modify node fun e =>
    let missing := attributes.filter fun a => (e.attributes.lookup a.1).isNone
    { e with attributes := e.attributes ++ missing }

/-! ## In the order of the document -/

/-- List the children that are `waiting` with all that lies below them; `passed` is the list so far,
in reverse. -/
def walkFrom (f : Forest) (passed : List Child) : Nat → List Child → List Child
  | 0, _ => passed.reverse
  | _, [] => passed.reverse
  | fuel + 1, child :: waiting =>
    match child with
    | .text _ => walkFrom f (child :: passed) fuel waiting
    | .element node => walkFrom f (child :: passed) fuel ((f.children node).toList ++ waiting)

/-- The number of children in all. -/
def total (f : Forest) : Nat := f.elements.foldl (fun n e => n + e.children.size) 0

/-- All that lies below an element, in the order of the document. Every child stands in one place,
so there are no more steps than children. -/
def walk (f : Forest) (node : Nat) : List Child :=
  f.walkFrom [] (f.total + 1) (f.children node).toList

/-- The text below an element. -/
def text (f : Forest) (node : Nat) : String :=
  .ofList ((f.walk node).flatMap fun
    | .text s => s
    | .element _ => [])

end Forest

end MediaScraper.Html
