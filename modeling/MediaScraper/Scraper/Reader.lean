import MediaScraper.Charset
import MediaScraper.Failure
import MediaScraper.Repair
import MediaScraper.Scraper.Basic
import MediaScraper.Settings
import MediaScraper.Xml.Attribute

/-!
# Reading scrapers from libraries

A library is a document of markup:

    <scraper>
      <GetTitle dest="3" clearbuffers="no">
        <RegExp input="$$1" output="\1" dest="3+" conditional="!skip">
          <RegExp …/>
          <expression noclean="1" repeat="yes" clear="no">…</expression>
        </RegExp>
      </GetTitle>
    </scraper>

Each child of the root element is a routine named after its tag. Reading keeps the open elements
on a stack of *frames*; elements of no meaning are ignored with all they hold.

Libraries come in several charsets and with known faults. In each charset that accepts the bytes,
the repaired text is read, and read again with the names of HTML written out if that fails. The
last failure counts.
-/

namespace MediaScraper.Scraper

/-! ## Attributes -/

/-- The attributes of a tag with their values; values are read in order, up to the first fault. -/
def attributeValues (tag : Xml.Tag) : Except Failure (List (List Char × String)) := do
  let (attributes, fault) := tag.attributes
  let values ← attributes.mapM fun a =>
    match a.value with
    | .ok value => .ok (a.name, value)
    | .error e => .error (.unreadable (.markup (.reference e)))
  match fault with
  | none => .ok values
  | some e => .error (.unreadable (.attribute e))

/-- Read a target: a register number, and `+` behind it to append. What is no number is register
zero. -/
def readTarget (value : Option String) : Nat × Bool :=
  let s := Blank.trim ((value.getD "").toList)
  match s.getLast? with
  | some '+' => ((Numeral.word? (Blank.trim s.dropLast)).getD 0, true)
  | _ => ((Numeral.word? s).getD 0, false)

/-- Read a flag; a missing or blank one has its default, and one that is no flag is off. -/
def readFlag (value : Option String) (default : Bool) : Bool :=
  match value with
  | none => default
  | some v => if allBlank v then default else (parseFlag v).getD false

/-- Read the groups that keep their markup: numbers between commas; what is none is left out. -/
def readGroups (value : Option String) : List Nat :=
  Expression.sortGroups <|
    (Text.splitAt ',' ((value.getD "").toList)).filterMap fun s => Numeral.word? (Blank.trim s)

/-! ## Frames -/

/-- An element that is open. -/
inductive Frame where
  | root
  | routine (r : Routine)
  | rule (r : Rule)
  | expression (e : Expression)
  /-- An element of no meaning. -/
  | ignored

/-- What has been read: the name of the root element, the open elements with the innermost first,
and the routines that are closed, the latest first. -/
structure Progress where
  root : Option String
  stack : List Frame
  routines : List Routine

def Progress.start : Progress := ⟨none, [], []⟩

/-- A routine without rules. -/
def openRoutine (name : List Char) (attributes : List (List Char × String)) : Routine :=
  let (target, append) := readTarget (attributes.lookup "dest".toList)
  { name := .ofList name
    clearsOnEntry := readFlag (attributes.lookup "clearbuffers".toList) true
    target, append
    rules := [] }

/-- A rule without children and expression. -/
def openRule (attributes : List (List Char × String)) : Rule :=
  let (target, append) := readTarget (attributes.lookup "dest".toList)
  let input := (attributes.lookup "input".toList).getD ""
  .mk (if input.isEmpty then Rule.defaultInput else input)
    ((attributes.lookup "output".toList).getD "") target append
    ((attributes.lookup "conditional".toList).filter fun c => !c.isEmpty) [] none

/-- An expression with an empty pattern. -/
def openExpression (attributes : List (List Char × String)) : Expression :=
  { pattern := ""
    clearOnNoMatch := readFlag (attributes.lookup "clear".toList) false
    repeats := readFlag (attributes.lookup "repeat".toList) false
    rawGroups := readGroups (attributes.lookup "noclean".toList) }

/-- The frame of an element inside of another. -/
def openInside (parent : Frame) (tag : Xml.Tag) : Except Failure Frame :=
  match parent with
  | .root => return .routine (openRoutine tag.name (← attributeValues tag))
  | .routine _ =>
    if tag.name = "RegExp".toList then return .rule (openRule (← attributeValues tag))
    else return .ignored
  | .rule _ =>
    if tag.name = "RegExp".toList then return .rule (openRule (← attributeValues tag))
    else if tag.name = "expression".toList then
      return .expression (openExpression (← attributeValues tag))
    else return .ignored
  | _ => return .ignored

/-- Open an element. There is one root element. -/
def Progress.open (p : Progress) (tag : Xml.Tag) : Except Failure Progress :=
  match p.stack with
  | [] =>
    match p.root with
    | some _ => .error (.unreadable (.secondRoot (.ofList tag.name)))
    | none => .ok { p with root := some (.ofList tag.name), stack := [.root] }
  | parent :: _ => do
    let frame ← openInside parent tag
    return { p with stack := frame :: p.stack }

/-- Attach what a frame holds to the frame around it. -/
def Frame.attach (inner : Frame) (outer : Frame) : Frame :=
  match inner, outer with
  | .rule r, .routine parent => .routine { parent with rules := parent.rules ++ [r] }
  | .rule r, .rule parent => .rule (parent.addChild r)
  | .expression e, .rule parent => .rule (parent.setExpression e)
  | _, outer => outer

/-- Close the innermost element. -/
def Progress.close (p : Progress) : Progress :=
  match p.stack with
  | [] => p
  | inner :: rest =>
    let routines := match inner with
      | .routine r => r :: p.routines
      | _ => p.routines
    let stack := match rest with
      | [] => []
      | outer :: rest => inner.attach outer :: rest
    { p with stack, routines }

/-- Add text to the pattern of the innermost element, if that is an expression. -/
def Progress.addText (p : Progress) (text : String) : Progress :=
  match p.stack with
  | .expression e :: rest =>
    { p with stack := .expression { e with pattern := e.pattern ++ text } :: rest }
  | _ => p

/-- Is the innermost element an expression? -/
def Progress.inExpression (p : Progress) : Bool :=
  match p.stack with
  | .expression _ :: _ => true
  | _ => false

/-- Follow one event. Text matters in an expression only. -/
def Progress.step (p : Progress) : Xml.Event → Except Failure Progress
  | .opening tag => p.open tag
  | .selfClosed tag => do return (← p.open tag).close
  | .closing _ => if p.stack.isEmpty then .error (.unreadable .unbalancedEnd) else .ok p.close
  | .text raw =>
    if p.inExpression then
      match Xml.unescape raw with
      | .ok text => .ok (p.addText (.ofList text))
      | .error e => .error (.unreadable (.markup (.reference e)))
    else .ok p
  | .cdata content => .ok (p.addText (.ofList content))
  | .other => .ok p

/-- A document of routines: the name of its root element, and the routines in order. -/
structure Library where
  root : String
  routines : List Routine

/-- Read a document of routines. -/
def readLibrary (xml : String) : Except Failure Library := do
  let reading := Xml.read xml
  let p ← reading.events.foldlM Progress.step Progress.start
  match reading.fault with
  | some e => throw (.unreadable (.markup e))
  | none =>
    if p.stack.isEmpty then
      match p.root with
      | some root => return ⟨root, p.routines.reverse⟩
      | none => throw (.unreadable .noRoot)
    else throw (.unreadable (.unclosedElements p.stack.length))

/-! ## Libraries as bytes -/

/-- Read a repaired text; if that fails, read it with the names of HTML written out. -/
def readRepaired (text : String) : Except Failure Library :=
  match readLibrary text with
  | .ok l => .ok l
  | .error e =>
    let decoded := Repair.namedEntities text
    if decoded = text then .error e else readLibrary decoded

/-- Read the bytes of a library in each charset in turn, until one succeeds. -/
def readIn (bytes : ByteArray) : List Charset → Failure → Except Failure Library
  | [], last => .error last
  | charset :: more, last =>
    match charset.decode? bytes with
    | none => readIn bytes more last
    | some text =>
      match readRepaired (Repair.library text) with
      | .ok l => .ok l
      | .error e => readIn bytes more e

def readBytes (bytes : ByteArray) : Except Failure Library :=
  readIn bytes Charset.fallbackOrder (.unreadable .noCharset)

/-! ## Shared libraries -/

/-- A library of shared routines, as it stands next to an addon. -/
structure SharedLibrary where
  path : String
  bytes : ByteArray

/-- Does one of the imported ids occur in the path? -/
def SharedLibrary.isImportedBy (shared : SharedLibrary) (imports : List String) : Bool :=
  imports.any fun id => !id.isEmpty && Text.occursIn id.toList shared.path.toList

/-- The name of the root element of a shared library. -/
def sharedRoot : String := "scraperfunctions"

/-- The routines that a shared library contributes: none if it does not read, or if its root element
is not that of a shared library. -/
def SharedLibrary.routines (shared : SharedLibrary) : List Routine :=
  match readBytes shared.bytes with
  | .ok library => if library.root = sharedRoot then library.routines else []
  | .error _ => []

/-- Read a scraper: the routines of its library, then those of the shared libraries that
it imports. -/
def read (id : String) (library : ByteArray) (imports : List String) (shared : List SharedLibrary) :
    Except Failure Scraper := do
  let own ← readBytes library
  let imported := (shared.filter (·.isImportedBy imports)).flatMap SharedLibrary.routines
  return ((empty id).insertAll own.routines).insertAll imported

/-- Read a scraper from the text of its library alone. -/
def readText (id text : String) : Except Failure Scraper := read id text.toUTF8 [] []

end MediaScraper.Scraper
