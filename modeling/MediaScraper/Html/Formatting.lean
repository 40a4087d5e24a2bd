import MediaScraper.Html.Builder

/-!
# Formatting

**Active formatting.** An element such as `b` formats the text up to its end tag, even where other
elements end before it. The list of active formatting remembers the tags of such elements; where one
of them has been closed by force, it is opened again before the next text (`resumeFormatting`).

**Misnested end tags.** When the end tag of a formatting element comes while a block within it is
open, the element is split: one copy stays around what came before the block, and another one goes
into the block (`endFormatting`).
-/

namespace MediaScraper.Html

/-- Is this entry about this node? -/
def Entry.isOf (node : Nat) : Entry → Bool
  | .marker => false
  | .element n _ => n == node

/-- The tag behind this node, if its formatting is active. -/
def tagOf? (node : Nat) : List Entry → Option Tag
  | [] => none
  | .marker :: entries => tagOf? node entries
  | .element n tag :: entries => if n = node then some tag else tagOf? node entries

/-- The newest active formatting of a name, with its node. -/
def newest? (name : String) : List Entry → Option (Nat × Tag)
  | [] | .marker :: _ => none
  | .element node tag :: entries =>
    if tag.name = name then some (node, tag) else newest? name entries

/-- Do two tags call for the same formatting, whatever the order of their attributes? -/
def Tag.isLike (s t : Tag) : Bool :=
  s.name == t.name && s.attributes.length == t.attributes.length &&
    s.attributes.all fun a => t.attributes.contains a

/-- The nodes of the entries up to the newest bound whose tags are like this one, newest first. -/
def likes (tag : Tag) : List Entry → List Nat
  | [] | .marker :: _ => []
  | .element node t :: entries =>
    if tag.isLike t then node :: likes tag entries else likes tag entries

/-- Leave out the entry about a node. -/
def forget (node : Nat) (entries : List Entry) : List Entry := entries.filter fun e => !e.isOf node

namespace Builder

/-- Open the element of a tag whose formatting stays active. Of four elements that are alike the
oldest one is forgotten. -/
def openFormatting (b : Builder) (tag : Tag) : Builder :=
  let alike := likes tag b.formatting
  let formatting :=
    match alike.getLast? with
    | some oldest => if alike.length < 3 then b.formatting else forget oldest b.formatting
    | none => b.formatting
  let node := b.forest.size
  { b.insert tag with formatting := .element node tag :: formatting }

/-- Is the element of this entry open, or is the entry a bound? -/
def isOpenOrMarker (b : Builder) : Entry → Bool
  | .marker => true
  | .element node _ => b.stack.any fun e => e.node = node

/-- Open these elements again, the first one outermost. -/
def reopen (b : Builder) : List Entry → Builder
  | [] => b
  | .marker :: entries => reopen b entries
  | .element _ tag :: entries =>
    let node := b.forest.size
    let b := b.insert tag
    reopen { b with formatting := .element node tag :: b.formatting } entries

/-- Open the elements again whose formatting is active though they have been closed. -/
def resumeFormatting (b : Builder) : Builder :=
  match b.formatting.span fun e => !b.isOpenOrMarker e with
  | ([], _) => b
  | (closed, rest) => reopen { b with formatting := rest } closed.reverse

/-! ## The end of formatting -/

/-- The end tag of any element without rules of its own: it closes the innermost element of its
name, unless a special element hides it. -/
def closeAny (b : Builder) (name : String) : Builder :=
  match b.stack.find? fun e => e.isNamed name || e.isOneOf special with
  | some e =>
    if e.isNamed name then (b.closeImplied implied name).popThrough (·.node = e.node) else b
  | none => b

/-- The state of the way from a block out to the formatting element around it. -/
structure Climb where
  forest : Forest
  formatting : List Entry
  /-- The open elements that stay around the block, outermost first. -/
  kept : List OpenElement
  /-- The node that goes into the next one. -/
  last : Nat
  /-- The copy that the new formatting element comes after. -/
  bookmark : Option Nat

/-- Pass the open elements from the block outwards. The first three of those whose formatting is
active are copied around the block, and the others are closed. -/
def climb (block : Nat) (steps : Nat) (c : Climb) : List OpenElement → Climb
  | [] => c
  | e :: es =>
    match tagOf? e.node c.formatting with
    | none => climb block (steps + 1) c es
    | some tag =>
      if steps ≥ 3 then
        climb block (steps + 1) { c with formatting := forget e.node c.formatting } es
      else
        let copy := c.forest.size
        let forest := (c.forest.make .html tag.name tag.attributes).detach c.last
        let c : Climb := {
          forest := forest.append copy (.element c.last)
          formatting := c.formatting.map fun entry =>
            if entry.isOf e.node then .element copy tag else entry
          kept := ⟨copy, .html, tag.name⟩ :: c.kept
          last := copy
          bookmark := if c.last = block then some copy else c.bookmark }
        climb block (steps + 1) c es

/-- Put the entry for the new formatting element in the place of the old one, or right behind the
copy that the bookmark names. -/
def replaceEntry (old : Nat) (bookmark : Option Nat) (entry : Entry) (entries : List Entry) :
    List Entry :=
  match bookmark with
  | none => entries.map fun e => if e.isOf old then entry else e
  | some copy => forget old (entries.flatMap fun e => if e.isOf copy then [entry, e] else [e])

/-- Split the formatting element of a node at a block within it: `beyond` are the open elements
within the block, `between` those from the block out to the formatting element, and `outside` those
around it. -/
def split (b : Builder) (node : Nat) (tag : Tag) (beyond : List OpenElement) (block : OpenElement)
    (between outside : List OpenElement) : Builder :=
  let c := climb block.node 0 ⟨b.forest, b.formatting, [], block.node, none⟩ between
  let ancestor := outside.head?.getD rootElement
  let inner := beyond ++ block :: c.kept.reverse
  let formatting : OpenElement := ⟨node, .html, tag.name⟩
  let place := { b with stack := inner ++ formatting :: outside }.placeIn ancestor
  let forest := (c.forest.detach c.last).insert place (.element c.last)
  let copy := forest.size
  let forest := (forest.make .html tag.name tag.attributes).moveChildren block.node copy
  { b with
    forest := forest.append block.node (.element copy)
    formatting := replaceEntry node c.bookmark (.element copy tag) c.formatting
    stack := beyond ++ ⟨copy, .html, tag.name⟩ :: block :: (c.kept.reverse ++ outside) }

/-- One round of the end of a formatting element; `none` when there is nothing left to do. -/
def endRound (b : Builder) (name : String) : Builder × Bool :=
  match newest? name b.formatting with
  | none => (b.closeAny name, false)
  | some (node, tag) =>
    match b.stack.span fun e => e.node ≠ node with
    | (_, []) => ({ b with formatting := forget node b.formatting }, false)
    | (above, _ :: outside) =>
      if above.any bounds then (b, false)
      else
        match above.reverse.span fun e => !e.isOneOf special with
        | (_, []) => ({ b with stack := outside, formatting := forget node b.formatting }, false)
        | (between, block :: beyond) =>
          (b.split node tag beyond.reverse block between.reverse outside, true)

/-- As many rounds as there is something to do, but no more than a number. -/
def endRounds (name : String) : Nat → Builder → Builder
  | 0, b => b
  | rounds + 1, b =>
    match b.endRound name with
    | (b, true) => endRounds name rounds b
    | (b, false) => b

/-- The end tag of a formatting element. -/
def endFormatting (b : Builder) (name : String) : Builder :=
  if b.current.isNamed name ∧ (tagOf? b.current.node b.formatting).isNone then b.pop
  else endRounds name 8 b

end Builder

end MediaScraper.Html
