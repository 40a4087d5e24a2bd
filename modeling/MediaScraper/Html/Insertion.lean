import MediaScraper.Html.Formatting

/-!
# The grammar of documents

What a token does depends on the mode (`Mode`). A rule changes the builder, and may ask that the
token be taken once more under the mode that it has set (`Step`). The modes of the parts of a table
pass what is not theirs on to the table, and the table passes it on to the rules of the body, with
what has no place in a table put before it.

The document is read as the content of a `body`.
-/

namespace MediaScraper.Html

/-- What a rule gives: the new state, and whether the token is to be taken again. -/
abbrev Step := Builder × Bool

namespace Builder

/-- The token has been used up. -/
def done (b : Builder) : Step := (b, false)

/-- The token is to be taken again in a mode. -/
def again (b : Builder) (mode : Mode) : Step := ({ b with mode }, true)

/-- The token is to be taken again in the mode that the open elements call for. -/
def againReset (b : Builder) : Step := (b.resetMode, true)

/-- Open an element that holds nothing but text. -/
def insertRaw (b : Builder) (tag : Tag) (model : ContentModel) : Builder :=
  { b.insert tag with mode := .text, resume := b.mode, model }

/-! ## Elements of the head -/

/-- The start tag of an element of the head. -/
def metadataStart (b : Builder) (tag : Tag) : Builder :=
  if metadataVoids.contains tag.name then b.insertVoid tag
  else if tag.name = "title" then b.insertRaw tag (.escapable tag.name)
  else if tag.name = "script" then b.insertRaw tag .script
  else if tag.name = "template" then
    { b.insert tag with
      formatting := .marker :: b.formatting, mode := .template,
      templates := .template :: b.templates }
  else b.insertRaw tag (.raw tag.name)

/-- The end tag of a template. -/
def templateEnd (b : Builder) : Builder :=
  if b.isOpen "template" then
    let b := ((b.closeImplied impliedInTemplate "").popThroughNamed "template").clearFormatting
    { b with templates := b.templates.drop 1 }.resetMode
  else b

/-! ## The body -/

/-- Close the list item, or the part of a definition, that a new one follows. -/
def closeItem (b : Builder) (names : List String) : Builder :=
  let stops := special.filter fun name => name ∉ ["address", "div", "p"]
  match b.stack.find? fun e => e.isOneOf names || e.isOneOf stops with
  | some e => if e.isOneOf names then b.close e.name else b
  | none => b

/-- The start tag of an `a`, which ends an open one. -/
def anchorStart (b : Builder) (tag : Tag) : Builder :=
  let b :=
    match newest? "a" b.formatting with
    | none => b
    | some (node, _) =>
      let b := b.endFormatting "a"
      { b with formatting := forget node b.formatting }.removeOpen node
  b.resumeFormatting.openFormatting tag

/-- Begin foreign content. -/
def enterForeign (b : Builder) (space : Namespace) (tag : Tag) : Builder :=
  let b := b.resumeFormatting
  if tag.isSelfClosing then b.place space tag.name tag.attributes
  else b.openIn space tag.name tag.attributes

/-- A start tag in the body. -/
def bodyStart (b : Builder) (tag : Tag) : Builder :=
  let name := tag.name
  if name = "html" then
    if b.isOpen "template" then b else { b with forest := b.forest.addAttributes 0 tag.attributes }
  else if metadata.contains name then b.metadataStart tag
  else if ["body", "frameset", "frame", "head"].contains name || tableParts.contains name then b
  else if blocks.contains name then b.closeParagraph.insert tag
  else if headings.contains name then
    let b := b.closeParagraph
    (if b.current.isOneOf headings then b.pop else b).insert tag
  else if name = "pre" || name = "listing" then
    { b.closeParagraph.insert tag with skipsLine := true }
  else if name = "form" then
    if b.isOpen "template" then b.closeParagraph.insert tag
    else if b.form.isSome then b
    else
      let b := b.closeParagraph
      { b.insert tag with form := some b.forest.size }
  else if name = "li" then ((b.closeItem ["li"]).closeParagraph).insert tag
  else if name = "dd" || name = "dt" then ((b.closeItem ["dd", "dt"]).closeParagraph).insert tag
  else if name = "plaintext" then { b.closeParagraph.insert tag with model := .plain }
  else if name = "button" then
    let b :=
      if b.hasInScope bounds name then (b.closeImplied implied "").popThroughNamed name else b
    b.resumeFormatting.insert tag
  else if name = "a" then b.anchorStart tag
  else if formatters.contains name then b.resumeFormatting.openFormatting tag
  else if name = "nobr" then
    let b := b.resumeFormatting
    let b := if b.hasInScope bounds name then (b.endFormatting name).resumeFormatting else b
    b.openFormatting tag
  else if enclosing.contains name then
    let b := b.resumeFormatting.insert tag
    { b with formatting := .marker :: b.formatting }
  else if name = "table" then { b.closeParagraph.insert tag with mode := .table }
  else if voids.contains name then b.resumeFormatting.insertVoid tag
  else if bareVoids.contains name then b.insertVoid tag
  else if name = "hr" then b.closeParagraph.insertVoid tag
  else if name = "image" then b.resumeFormatting.insertVoid { tag with name := "img" }
  else if name = "textarea" then { b.insertRaw tag (.escapable name) with skipsLine := true }
  else if name = "xmp" then b.closeParagraph.resumeFormatting.insertRaw tag (.raw name)
  else if name = "iframe" || name = "noembed" || name = "noscript" then b.insertRaw tag (.raw name)
  else if name = "select" then
    let inTable := [Mode.table, .caption, .tableBody, .row, .cell].contains b.mode
    { b.resumeFormatting.insert tag with mode := if inTable then .selectInTable else .select }
  else if name = "optgroup" || name = "option" then
    (if b.current.isNamed "option" then b.pop else b).resumeFormatting.insert tag
  else if name = "rb" || name = "rtc" then
    (if b.hasInScope bounds "ruby" then b.closeImplied implied "" else b).insert tag
  else if name = "rp" || name = "rt" then
    (if b.hasInScope bounds "ruby" then b.closeImplied implied "rtc" else b).insert tag
  else if name = "math" then b.enterForeign .mathMl tag
  else if name = "svg" then b.enterForeign .svg tag
  else b.resumeFormatting.insert tag

/-- The end tag of a form: the form is closed, but what is open within it stays open. -/
def formEnd (b : Builder) : Builder :=
  if b.isOpen "template" then
    if b.hasInScope bounds "form" then (b.closeImplied implied "").popThroughNamed "form" else b
  else
    match b.form with
    | none => b
    | some node =>
      let b := { b with form := none }
      if inScope bounds (·.node = node) b.stack then (b.closeImplied implied "").removeOpen node
      else b

/-- An end tag in the body. -/
def bodyEnd (b : Builder) (name : String) : Builder :=
  if name = "template" then b.templateEnd
  else if name = "body" || name = "html" then b
  else if closable.contains name then
    if b.hasInScope bounds name then (b.closeImplied implied "").popThroughNamed name else b
  else if name = "form" then b.formEnd
  else if name = "p" then
    (if b.hasInScope boundsButton "p" then b else b.insertPhantom "p").close "p"
  else if name = "li" then if b.hasInScope boundsList name then b.close name else b
  else if name = "dd" || name = "dt" then if b.hasInScope bounds name then b.close name else b
  else if headings.contains name then
    if inScope bounds (·.isOneOf headings) b.stack then
      (b.closeImplied implied "").popThrough (·.isOneOf headings)
    else b
  else if name = "a" || name = "nobr" || formatters.contains name then b.endFormatting name
  else if enclosing.contains name then
    if b.hasInScope bounds name then
      ((b.closeImplied implied "").popThroughNamed name).clearFormatting
    else b
  else if name = "br" then b.bodyStart ⟨"br", [], false⟩
  else b.closeAny name

/-- The rules of the body. -/
def inBody (b : Builder) : Token → Builder
  | .opening tag => b.bodyStart tag
  | .closing name => b.bodyEnd name
  | .text s => b.resumeFormatting.insertText s
  | .comment | .nothing => b

/-- The rules of an element that holds nothing but text. -/
def inText (b : Builder) : Token → Builder
  | .text s => b.insertText s
  | .closing _ => { b.pop with mode := b.resume, model := .markup }
  | _ => b

/-! ## Tables -/

/-- The rules of the body, with nodes that have no place in the table put before it. -/
def inBodyFostering (b : Builder) (token : Token) : Builder :=
  { { b with fosters := true }.inBody token with fosters := false }

/-- The names of the elements that the rules of a table stop at. -/
def tableContext : List String := ["table", "template", "html"]

def sectionContext : List String := ["tbody", "tfoot", "thead", "template", "html"]

def rowContext : List String := ["tr", "template", "html"]

/-- A start tag that stands directly in a table. -/
def tableStart (b : Builder) (tag : Tag) : Step :=
  let name := tag.name
  if name = "caption" then
    let b := (b.popTo tableContext).insert tag
    done { b with formatting := .marker :: b.formatting, mode := .caption }
  else if name = "colgroup" then
    done { (b.popTo tableContext).insert tag with mode := .columnGroup }
  else if name = "col" then ((b.popTo tableContext).insertPhantom "colgroup").again .columnGroup
  else if tableSections.contains name then
    done { (b.popTo tableContext).insert tag with mode := .tableBody }
  else if name = "tr" || cells.contains name then
    ((b.popTo tableContext).insertPhantom "tbody").again .tableBody
  else if name = "table" then
    if b.hasInScope boundsTable name then (b.popThroughNamed name).againReset else b.done
  else if ["style", "script", "template"].contains name then done (b.metadataStart tag)
  else if name = "input" && ((tag.attributes.lookup "type").any fun t => t.toLower == "hidden") then
    done (b.insertVoid tag)
  else if name = "form" then
    if b.isOpen "template" || b.form.isSome then b.done
    else done { b.insertVoid tag with form := some b.forest.size }
  else done (b.inBodyFostering (.opening tag))

/-- The rules of a table. -/
def inTable (b : Builder) (token : Token) : Step :=
  match token with
  | .opening tag => b.tableStart tag
  | .closing name =>
    if name = "table" then
      done (if b.hasInScope boundsTable name then (b.popThroughNamed name).resetMode else b)
    else if name = "body" || name = "html" || tableParts.contains name then b.done
    else if name = "template" then done b.templateEnd
    else done (b.inBodyFostering token)
  | .text _ =>
    if b.current.isOneOf tableFrame then { b with resume := b.mode }.again .tableText
    else done (b.inBodyFostering token)
  | .comment | .nothing => b.done

/-- Put the text that stands directly in a table: blanks stay there, and other text goes before the
table. -/
def placeHeld (b : Builder) : Builder :=
  let s := b.held
  let b := { b with held := [], mode := b.resume }
  if s.all isSpace then b.insertText s else b.inBodyFostering (.text s)

/-- The rules of text that stands directly in a table. -/
def inTableText (b : Builder) : Token → Step
  | .text s => done { b with held := b.held ++ s }
  | _ => (b.placeHeld, true)

/-- The rules of the caption of a table. -/
def inCaption (b : Builder) (token : Token) : Step :=
  let close := (((b.closeImplied implied "").popThroughNamed "caption").clearFormatting)
  let isOpen := b.hasInScope boundsTable "caption"
  match token with
  | .opening tag =>
    if tableParts.contains tag.name then if isOpen then close.again .table else b.done
    else done (b.inBody token)
  | .closing name =>
    if name = "table" then if isOpen then close.again .table else b.done
    else if name = "caption" then done (if isOpen then { close with mode := .table } else b)
    else if name = "body" || name = "html" || tableParts.contains name then b.done
    else done (b.inBody token)
  | _ => done (b.inBody token)

/-- Leave a group of columns and take the token again, if a group is the current element. -/
def leaveColumns (b : Builder) : Step :=
  if b.current.isNamed "colgroup" then b.pop.again .table else b.done

/-- The rules of a group of columns. -/
def inColumnGroup (b : Builder) : Token → Step
  | .opening tag =>
    if tag.name = "html" then done (b.bodyStart tag)
    else if tag.name = "col" then done (b.insertVoid tag)
    else if tag.name = "template" then done (b.metadataStart tag)
    else b.leaveColumns
  | .closing name =>
    if name = "colgroup" then
      done (if b.current.isNamed "colgroup" then { b.pop with mode := .table } else b)
    else if name = "col" then b.done
    else if name = "template" then done b.templateEnd
    else b.leaveColumns
  | .text _ => b.leaveColumns
  | .comment | .nothing => b.done

/-- The rules of the sections of a table. -/
def inTableBody (b : Builder) (token : Token) : Step :=
  let leave := ((b.popTo sectionContext).pop).again .table
  let isOpen := inScope boundsTable (·.isOneOf tableSections) b.stack
  match token with
  | .opening tag =>
    if tag.name = "tr" then done { (b.popTo sectionContext).insert tag with mode := .row }
    else if cells.contains tag.name then ((b.popTo sectionContext).insertPhantom "tr").again .row
    else if tableParts.contains tag.name then if isOpen then leave else b.done
    else b.inTable token
  | .closing name =>
    if tableSections.contains name then
      done <|
        if b.hasInScope boundsTable name then { (b.popTo sectionContext).pop with mode := .table }
        else b
    else if name = "table" then if isOpen then leave else b.done
    else b.inTable token
  | _ => b.inTable token

/-- The rules of a row. -/
def inRow (b : Builder) (token : Token) : Step :=
  let leave := (b.popTo rowContext).pop
  let isOpen := b.hasInScope boundsTable "tr"
  match token with
  | .opening tag =>
    if cells.contains tag.name then
      let b := (b.popTo rowContext).insert tag
      done { b with mode := .cell, formatting := .marker :: b.formatting }
    else if tableParts.contains tag.name then if isOpen then leave.again .tableBody else b.done
    else b.inTable token
  | .closing name =>
    if name = "tr" then done (if isOpen then { leave with mode := .tableBody } else b)
    else if name = "table" then if isOpen then leave.again .tableBody else b.done
    else if tableSections.contains name then
      if b.hasInScope boundsTable name && isOpen then leave.again .tableBody else b.done
    else b.inTable token
  | _ => b.inTable token

/-- The rules of a cell. -/
def inCell (b : Builder) (token : Token) : Step :=
  let close := ((b.closeImplied implied "").popThrough (·.isOneOf cells)).clearFormatting
  match token with
  | .opening tag =>
    if tableParts.contains tag.name then
      if inScope boundsTable (·.isOneOf cells) b.stack then close.again .row else b.done
    else done (b.inBody token)
  | .closing name =>
    if cells.contains name then
      done <|
        if b.hasInScope boundsTable name then
          { ((b.closeImplied implied "").popThroughNamed name).clearFormatting with mode := .row }
        else b
    else if ["body", "caption", "col", "colgroup", "html"].contains name then b.done
    else if tableFrame.contains name then
      if b.hasInScope boundsTable name then close.again .row else b.done
    else done (b.inBody token)
  | _ => done (b.inBody token)

/-! ## Choices -/

/-- Close an open option, and then an open group of options. -/
def closeOption (b : Builder) : Builder := if b.current.isNamed "option" then b.pop else b

def closeGroup (b : Builder) : Builder := if b.current.isNamed "optgroup" then b.pop else b

/-- The rules of a choice. Tags that have no meaning there are dropped. -/
def inSelect (b : Builder) (token : Token) : Step :=
  let isOpen := b.hasInScope boundsSelect "select"
  let leave := b.popThroughNamed "select"
  match token with
  | .opening tag =>
    let name := tag.name
    if name = "html" then done (b.bodyStart tag)
    else if name = "option" then done (b.closeOption.insert tag)
    else if name = "optgroup" then done (b.closeOption.closeGroup.insert tag)
    else if name = "hr" then done (b.closeOption.closeGroup.insertVoid tag)
    else if name = "select" then done (if isOpen then leave.resetMode else b)
    else if ["input", "keygen", "textarea"].contains name then
      if isOpen then leave.againReset else b.done
    else if name = "script" || name = "template" then done (b.metadataStart tag)
    else b.done
  | .closing name =>
    if name = "optgroup" then
      let isInGroup := (b.stack.drop 1).head?.any (·.isNamed "optgroup")
      done (if isInGroup then b.closeOption.closeGroup else b.closeGroup)
    else if name = "option" then done b.closeOption
    else if name = "select" then done (if isOpen then leave.resetMode else b)
    else if name = "template" then done b.templateEnd
    else b.done
  | .text s => done (b.insertText s)
  | .comment | .nothing => b.done

/-- The rules of a choice in a table: the tags of the table end it. -/
def inSelectInTable (b : Builder) (token : Token) : Step :=
  let ends : List String := ["caption", "table", "tbody", "tfoot", "thead", "tr", "td", "th"]
  let leave := (b.popThroughNamed "select").againReset
  match token with
  | .opening tag => if ends.contains tag.name then leave else b.inSelect token
  | .closing name =>
    if ends.contains name then if b.hasInScope boundsTable name then leave else b.done
    else b.inSelect token
  | _ => b.inSelect token

/-! ## Templates -/

/-- The rules of a template: the first tag says what it is a template for. -/
def inTemplate (b : Builder) (token : Token) : Step :=
  let become (mode : Mode) : Step := { b with templates := mode :: b.templates.drop 1 }.again mode
  match token with
  | .opening tag =>
    let name := tag.name
    if metadata.contains name then done (b.metadataStart tag)
    else if name = "caption" || name = "colgroup" || tableSections.contains name then become .table
    else if name = "col" then become .columnGroup
    else if name = "tr" then become .tableBody
    else if cells.contains name then become .row
    else become .body
  | .closing name => done (if name = "template" then b.templateEnd else b)
  | .text _ => done (b.inBody token)
  | .comment | .nothing => b.done

/-! ## Foreign content -/

/-- Does the current element take this token by the rules of foreign content? -/
def isForeign (b : Builder) (token : Token) : Bool :=
  let e := b.current
  if e.space = .html then false
  else
    match token with
    | .text _ => !e.holdsText && !e.holdsHtml
    | .opening tag =>
      !(e.holdsText && tag.name != "mglyph" && tag.name != "malignmark") && !e.holdsHtml &&
        !(e.space = .mathMl && e.name == "annotation-xml" && tag.name == "svg")
    | _ => true

/-- The rules of one mode. -/
def step (b : Builder) (token : Token) : Step :=
  match b.mode with
  | .body => done (b.inBody token)
  | .text => done (b.inText token)
  | .table => b.inTable token
  | .tableText => b.inTableText token
  | .caption => b.inCaption token
  | .columnGroup => b.inColumnGroup token
  | .tableBody => b.inTableBody token
  | .row => b.inRow token
  | .cell => b.inCell token
  | .select => b.inSelect token
  | .selectInTable => b.inSelectInTable token
  | .template => b.inTemplate token

/-- Leave foreign content, up to an element whose content is HTML. -/
def leaveForeign (b : Builder) : Builder :=
  { b with stack := b.stack.dropWhile fun e => !(e.space = .html || e.holdsText || e.holdsHtml) }

/-- The open elements that an end tag in foreign content leaves open, if an element of its name is
open there. -/
def foreignEnd? (name : String) : List OpenElement → Option (List OpenElement)
  | [] => none
  | e :: es =>
    if e.space = .html then none
    else if e.name.toLower = name then some es
    else foreignEnd? name es

/-- Does a start tag end foreign content? -/
def breaksOut (tag : Tag) : Bool :=
  breakouts.contains tag.name ||
    tag.name == "font" && tag.attributes.any fun a => ["color", "face", "size"].contains a.1

/-- The rules of foreign content. -/
def inForeign (b : Builder) (token : Token) : Step :=
  match token with
  | .opening tag =>
    if breaksOut tag then b.leaveForeign.step token
    else
      let space := b.current.space
      let name := space.spell tag.name
      done <|
        if tag.isSelfClosing then b.place space name tag.attributes
        else b.openIn space name tag.attributes
  | .closing name =>
    if name = "br" || name = "p" then b.leaveForeign.step token
    else
      match foreignEnd? name b.stack with
      | some stack => done { b with stack }
      | none => if b.stack.dropLast.any (·.space = .html) then b.step token else b.done
  | .text s => done (b.insertText (replaceNul s))
  | .comment | .nothing => b.done

/-! ## Tokens -/

/-- Take a token until a rule has used it up. -/
def takeFrom : Nat → Builder → Token → Builder
  | 0, b, _ => b
  | fuel + 1, b, token =>
    match if b.isForeign token then b.inForeign token else b.step token with
    | (b, false) => b
    | (b, true) => takeFrom fuel b token

/-- Take a token. Whenever it is taken again an element or a mode has been left for good, so that
the bound on the repetitions is never met. -/
def takeToken (b : Builder) (token : Token) : Builder := takeFrom (2 * b.stack.length + 16) b token

/-- Take a run of characters that are all blanks or no blanks at all. A group of columns keeps
blanks. -/
def takeRun (b : Builder) (run : List Char) : Builder :=
  if b.mode = .columnGroup && run.all isSpace then b.insertText run else b.takeToken (.text run)

/-- Take the text of a token. Outside of foreign content NUL is dropped. -/
def takeText (b : Builder) (s : List Char) : Builder :=
  if b.isForeign (.text s) then b.takeToken (.text s)
  else
    let s := s.filter (· ≠ '\x00')
    if s.isEmpty then b
    else if b.mode = .columnGroup then
      (s.splitBy fun c d => isSpace c == isSpace d).foldl takeRun b
    else b.takeToken (.text s)

/-- Take the next token. -/
def accept (b : Builder) (token : Token) : Builder :=
  let skips := b.skipsLine
  let b := { b with skipsLine := false }
  match token with
  | .nothing => b
  | .text s => b.takeText (if skips && s.head? = some '\n' then s.drop 1 else s)
  | _ => b.takeToken token

/-- Place the text that is still held back. -/
def finish (b : Builder) : Forest := (if b.mode = .tableText then b.placeHeld else b).forest

/-- Read the tokens of a text; `skip` characters still belong to the last one. -/
def read (b : Builder) : Nat → List Char → Builder
  | _, [] => b
  | skip + 1, _ :: cs => read b skip cs
  | 0, c :: cs =>
    let (token, n) := Token.read b.model (b.current.space ≠ .html) (c :: cs)
    read (b.accept token) (n - 1) cs

end Builder

end MediaScraper.Html
