import MediaScraper.Text.Search
import MediaScraper.Text.Segment
import MediaScraper.Xml.Error

/-!
# Markup as a sequence of events

A text of markup is read from the left as *events*: tags, stretches of text and CDATA, and what
carries no content (comments, instructions, declarations and document types). Reading needs no more
than what begins at the next character (`event`), so events follow one another without gaps.

End tags must fit the open elements (`nest`); elements that are still open at the end are no
fault of the reading. A `Reading` holds the events up to the first fault.
-/

namespace MediaScraper.Xml

/-- A character that separates the parts of a tag. -/
def isSpace (c : Char) : Bool := c = ' ' || c = '\t' || c = '\r' || c = '\n'

/-- A start tag: its name, and all that stands between the brackets, the name included and the slash
of a self-closed element left out. -/
structure Tag where
  name : List Char
  source : List Char
deriving DecidableEq

inductive Event where
  | opening (tag : Tag)
  | selfClosed (tag : Tag)
  | closing (name : List Char)
  /-- Text with its references as they are written. -/
  | text (raw : List Char)
  | cdata (content : List Char)
  /-- A comment, an instruction, a declaration or a document type. -/
  | other
deriving DecidableEq

/-- The events of a text, up to its end or up to a fault. -/
structure Reading where
  events : List Event
  fault : Option Error

/-! ## What begins at a bracket -/

/-- What stands before the `>` that ends a tag: the first one outside of quotes. -/
def tagBody? (quote : Option Char) (before : List Char) : List Char → Option (List Char)
  | [] => none
  | c :: cs =>
    match quote with
    | some q => tagBody? (if c = q then none else some q) (c :: before) cs
    | none =>
      if c = '>' then some before.reverse
      else tagBody? (if c = '"' ∨ c = '\'' then some c else none) (c :: before) cs

/-- The name at the beginning of a tag. -/
def tagName (source : List Char) : List Char := source.takeWhile fun c => !isSpace c

/-- The tag between brackets. -/
def Tag.ofSource (source : List Char) : Tag := ⟨tagName source, source⟩

/-- The name in an end tag, without the spaces behind it. -/
def endName (body : List Char) : List Char :=
  if body.all isSpace then body else (body.reverse.dropWhile isSpace).reverse

/-- What stands before the `>` that ends a document type: the first one outside of
inner brackets. -/
def doctypeBody? (depth : Nat) (before : List Char) : List Char → Option (List Char)
  | [] => none
  | '<' :: cs => doctypeBody? (depth + 1) ('<' :: before) cs
  | '>' :: cs =>
    match depth with
    | 0 => some before.reverse
    | depth + 1 => doctypeBody? depth ('>' :: before) cs
  | c :: cs => doctypeBody? depth (c :: before) cs

/-- What begins with `<!`, given what follows these two, with its length. -/
def declaration (cs : List Char) : Except Error (Event × Nat) :=
  match cs with
  | '-' :: _ =>
    match ("--".toList.isPrefixOf? cs).bind (Text.breakAt? "-->".toList) with
    | some (content, _) => .ok (.other, content.length + 7)
    | none => .error (.unclosed .comment)
  | '[' :: _ =>
    match ("[CDATA[".toList.isPrefixOf? cs).bind (Text.breakAt? "]]>".toList) with
    | some (content, _) => .ok (.cdata content, content.length + 12)
    | none => .error (.unclosed .cdata)
  | 'D' :: _ | 'd' :: _ =>
    match doctypeBody? 0 [] cs with
    | none => .error (.unclosed .doctype)
    | some body =>
      if Text.startsIgnoringCase "DOCTYPE".toList body then
        if (body.drop 7).all isSpace then .error .noDoctypeName
        else .ok (.other, body.length + 3)
      else .error (.unclosed .doctype)
  | _ => .error .invalidMarkup

/-- What begins with `<`, given what follows it, with its length. -/
def markup (cs : List Char) : Except Error (Event × Nat) :=
  match cs with
  | '!' :: rest => declaration rest
  | '?' :: _ =>
    match Text.breakAt? "?>".toList cs with
    | some (c :: body, _) => .ok (.other, (c :: body).length + 3)
    | _ => .error (.unclosed .instruction)
  | _ =>
    match tagBody? none [] cs with
    | none => .error (.unclosed .tag)
    | some body =>
      let length := body.length + 2
      match body with
      | '/' :: name => .ok (.closing (endName name), length)
      | _ =>
        if body.getLast? = some '/' then .ok (.selfClosed (.ofSource body.dropLast), length)
        else .ok (.opening (.ofSource body), length)

/-- The event at the beginning of a text, with its length. -/
def event : List Char → Except Error (Event × Nat)
  | [] => .ok (.other, 0)
  | c :: cs =>
    if c = '<' then markup cs
    else
      let raw := c :: cs.takeWhile (· ≠ '<')
      .ok (.text raw, raw.length)

/-! ## Nesting -/

/-- Follow the open elements, innermost first, and stop at an end tag that does not fit. `passed`
are the events so far, in reverse. -/
def nestFrom (fault : Option Error) (opened : List (List Char)) (passed : List Event) :
    List Event → Reading
  | [] => ⟨passed.reverse, fault⟩
  | e :: es =>
    match e with
    | .opening tag => nestFrom fault (tag.name :: opened) (e :: passed) es
    | .closing name =>
      match opened with
      | [] => ⟨passed.reverse, some (.unmatchedEnd (.ofList name))⟩
      | expected :: opened =>
        if name = expected then nestFrom fault opened (e :: passed) es
        else ⟨passed.reverse, some (.mismatchedEnd (.ofList expected) (.ofList name))⟩
    | _ => nestFrom fault opened (e :: passed) es

/-- Cut a reading at the first end tag that fits no open element. -/
def nest (events : List Event) (fault : Option Error) : Reading := nestFrom fault [] [] events

/-- Read a text of markup. -/
def read (s : String) : Reading :=
  let (events, fault) := Text.items event s.toList
  nest events fault

end MediaScraper.Xml
