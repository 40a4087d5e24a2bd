import MediaScraper.Html.Insertion
import MediaScraper.Unicode.Blank

/-!
# Fragments of HTML

What a page holds between two places is a fragment: often broken, never refused. This module gives
the text of a fragment (`text`), the text of what a pattern has captured (`clean`), and the request
for a routine that a fragment may hold (`callSite?`).
-/

namespace MediaScraper.Html

/-- The nodes of a fragment. -/
def Forest.ofFragment (s : String) : Forest := (Builder.start.read 0 (normalize s.toList)).finish

/-- The text of a fragment: markup is left out, and references are resolved. -/
def text (s : String) : String := (Forest.ofFragment s).text 0

/-- The text of a captured stretch. Where no tag can begin, only closed references are resolved. -/
def clean (s : String) : String :=
  if s.toList.contains '<' then text s
  else if s.toList.contains '&' then .ofList (Entity.unescape s.toList)
  else s

/-- An element that asks for a routine to run on its content. -/
structure CallSite where
  /-- The name of the element. -/
  tag : String
  routine : String
  /-- The text below the element. -/
  payload : String
deriving DecidableEq

/-- The root, and the elements that stand in another one, in the order of their making. What is put
before a table is made after it. -/
def Forest.order (f : Forest) : List Nat :=
  (List.range f.size).filter fun node => node = 0 || (f.parent? node).isSome

/-- The value of an attribute. -/
def Forest.attribute? (f : Forest) (node : Nat) (name : String) : Option String :=
  f.elements[node]?.bind fun e => e.attributes.lookup name

/-- Does this element have a `function` attribute, and is it no link of a chain? -/
def Forest.mayCall (f : Forest) (node : Nat) : Bool :=
  (f.attribute? node "function").isSome && f.elements[node]?.any fun e => e.name != "chain"

/-- The request of a fragment: the element with a `function` attribute that is made first, chains
apart. If the attribute of this one is blank there is no request, whatever follows. -/
def callSite? (s : String) : Option CallSite := do
  let f := Forest.ofFragment s
  let node ← f.order.find? f.mayCall
  let element ← f.elements[node]?
  let routine := trimBlanks (← f.attribute? node "function")
  if routine.isEmpty then none else some ⟨element.name, routine, f.text node⟩

end MediaScraper.Html
