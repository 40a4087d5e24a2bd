import MediaScraper.Html.Reference
import MediaScraper.Text.Search

/-!
# The tokens of HTML

Any text is a sequence of tokens: reading never fails. What a `<` begins depends on the element that
the text stands in (`ContentModel`): in most elements there are tags and comments, in some only the
end tag of the element itself counts, and in `plaintext` nothing does.

`Token.read` gives the token at the beginning of a text and the number of its characters.
-/

namespace MediaScraper.Html

/-- A start tag. -/
structure Tag where
  name : String
  attributes : List (String × String)
  isSelfClosing : Bool
deriving DecidableEq

inductive Token where
  | opening (tag : Tag)
  | closing (name : String)
  | text (s : List Char)
  | comment
  /-- What leaves no trace: a document type, or a tag that is not finished. -/
  | nothing
deriving DecidableEq

/-- What a text may hold. -/
inductive ContentModel where
  /-- Tags, comments and references. -/
  | markup
  /-- Text with references, up to the end tag of the element. -/
  | escapable (name : String)
  /-- Text without references, up to the end tag of the element. -/
  | raw (name : String)
  /-- A script, in which a comment may hide an end tag. -/
  | script
  /-- Text up to the end. -/
  | plain

/-- A character that separates the parts of a tag. -/
def isSpace (c : Char) : Bool := c = ' ' || c = '\t' || c = '\n' || c = '\x0c' || c = '\r'

/-- Put the replacement character in place of NUL. -/
def replaceNul (s : List Char) : List Char := s.map fun c => if c = '\x00' then replacement else c

/-! ## Tags -/

/-- Where the reading of a tag stands. -/
inductive Spot where
  | name
  /-- Before an attribute. -/
  | between
  | slash
  | key
  | afterKey
  | beforeValue
  | quoted (quote : Char)
  | bare
deriving DecidableEq

/-- A tag that is being read. Names, keys and values are held in reverse, and so are the
attributes. -/
structure Draft where
  spot : Spot
  name : List Char
  attributes : List (String × String)
  key : List Char
  value : List Char

/-- The text of a name: letters from `A` to `Z` are written small. -/
def nameOf (reversed : List Char) : String :=
  .ofList ((replaceNul reversed.reverse).map Char.toLower)

namespace Draft

/-- Keep the attribute that has been read, unless there is one of its name. -/
def finishAttribute (d : Draft) (spot : Spot) : Draft :=
  let key := nameOf d.key
  let value := String.ofList (unescape true (replaceNul d.value.reverse))
  let attributes :=
    if (d.attributes.lookup key).isSome then d.attributes else (key, value) :: d.attributes
  { d with spot, attributes, key := [], value := [] }

/-- Begin an attribute. -/
def beginKey (d : Draft) (c : Char) : Draft := { d with spot := .key, key := [c], value := [] }

/-- Read one more character. -/
def step (d : Draft) (c : Char) : Draft :=
  match d.spot with
  | .name =>
    if isSpace c then { d with spot := .between }
    else if c = '/' then { d with spot := .slash }
    else { d with name := c :: d.name }
  | .between | .slash =>
    if isSpace c then { d with spot := .between }
    else if c = '/' then { d with spot := .slash }
    else d.beginKey c
  | .key =>
    if isSpace c then { d with spot := .afterKey }
    else if c = '/' then d.finishAttribute .slash
    else if c = '=' then { d with spot := .beforeValue }
    else { d with key := c :: d.key }
  | .afterKey =>
    if isSpace c then d
    else if c = '/' then d.finishAttribute .slash
    else if c = '=' then { d with spot := .beforeValue }
    else (d.finishAttribute .between).beginKey c
  | .beforeValue =>
    if isSpace c then d
    else if c = '"' ∨ c = '\'' then { d with spot := .quoted c }
    else { d with spot := .bare, value := [c] }
  | .quoted q =>
    if c = q then d.finishAttribute .between else { d with value := c :: d.value }
  | .bare =>
    if isSpace c then d.finishAttribute .between else { d with value := c :: d.value }

/-- Does a `>` end the tag here? Only within quotes it does not. -/
def isOpen (d : Draft) : Bool :=
  match d.spot with
  | .quoted _ => false
  | _ => true

/-- The tag that has been read. -/
def finish (d : Draft) : Tag :=
  let isSelfClosing := d.spot = .slash
  let d :=
    match d.spot with
    | .key | .afterKey | .beforeValue | .bare => d.finishAttribute .between
    | _ => d
  ⟨nameOf d.name, d.attributes.reverse, isSelfClosing⟩

end Draft

/-- Read a tag up to its `>`; `seen` characters have been read. -/
def readTagFrom (d : Draft) (seen : Nat) : List Char → Option (Tag × Nat)
  | [] => none
  | c :: cs =>
    if c = '>' ∧ d.isOpen then some (d.finish, seen + 1) else readTagFrom (d.step c) (seen + 1) cs

/-- The tag whose name begins here, with the number of characters up to the end of the tag. -/
def readTag (cs : List Char) : Option (Tag × Nat) := readTagFrom ⟨.name, [], [], [], []⟩ 0 cs

/-! ## Comments -/

/-- Where the reading of a comment stands. -/
inductive CommentSpot where
  /-- At the beginning, with or without a first dash. -/
  | start (dash : Bool)
  /-- In the comment, behind some dashes; more than two count as two. -/
  | dashes (n : Nat)
  /-- Behind two dashes and an exclamation mark. -/
  | bang

/-- The next spot of a comment; none is left where the comment ends. -/
def CommentSpot.step? (spot : CommentSpot) (c : Char) : Option CommentSpot :=
  match spot with
  | .start dash =>
    if c = '>' then none
    else if c = '-' then some (if dash then .dashes 2 else .start true)
    else some (.dashes 0)
  | .dashes n =>
    if c = '-' then some (.dashes (min 2 (n + 1)))
    else if n = 2 ∧ c = '>' then none
    else if n = 2 ∧ c = '!' then some .bang
    else some (.dashes 0)
  | .bang => if c = '>' then none else if c = '-' then some (.dashes 1) else some (.dashes 0)

/-- The number of characters up to the end of a comment, counted on from `seen`. -/
def commentLength (spot : CommentSpot) (seen : Nat) : List Char → Nat
  | [] => seen
  | c :: cs =>
    match spot.step? c with
    | none => seen + 1
    | some spot => commentLength spot (seen + 1) cs

/-- The number of characters through the next `>`, or up to the end. -/
def throughBracket (cs : List Char) : Nat := (Text.lengthThrough? ['>'] 0 cs).getD cs.length

/-! ## What a bracket begins -/

/-- What `<!` begins, given what follows these two characters. -/
def declaration (inForeign : Bool) (cs : List Char) : Token × Nat :=
  match "--".toList.isPrefixOf? cs with
  | some rest => (.comment, commentLength (.start false) 4 rest)
  | none =>
    if Text.startsIgnoringCase "doctype".toList cs then (.nothing, throughBracket cs + 2)
    else
      match if inForeign then "[CDATA[".toList.isPrefixOf? cs else none with
      | some rest =>
        match Text.breakAt? "]]>".toList rest with
        | some (content, _) => (.text content, content.length + 12)
        | none => (.text rest, rest.length + 9)
      | none => (.comment, throughBracket cs + 2)

/-- What `<` begins, given what follows it. A bracket that begins nothing is text. -/
def bracket (inForeign : Bool) (cs : List Char) : Token × Nat :=
  match cs with
  | '!' :: rest => declaration inForeign rest
  | '?' :: rest => (.comment, throughBracket rest + 2)
  | '/' :: [] => (.text ['<', '/'], 2)
  | '/' :: c :: rest =>
    if c.isAlpha then
      match readTag (c :: rest) with
      | some (tag, n) => (.closing tag.name, n + 2)
      | none => (.nothing, rest.length + 3)
    else if c = '>' then (.nothing, 3)
    else (.comment, throughBracket (c :: rest) + 2)
  | c :: rest =>
    if c.isAlpha then
      match readTag (c :: rest) with
      | some (tag, n) => (.opening tag, n + 1)
      | none => (.nothing, rest.length + 2)
    else (.text ['<'], 1)
  | [] => (.text ['<'], 1)

/-! ## Text that only an end tag ends -/

/-- A character that may follow the name in an end tag. -/
def endsName (c : Char) : Bool := isSpace c || c = '/' || c = '>'

/-- Does the text begin with this name, and does the name end there? -/
def beginsWithName (name : List Char) (cs : List Char) : Bool :=
  Text.startsIgnoringCase name cs && (cs.drop name.length).head?.any endsName

/-- Does the end tag of this name begin here? -/
def beginsEndTag (name : List Char) : List Char → Bool
  | '<' :: '/' :: cs => beginsWithName name cs
  | _ => false

/-- The number of characters before the end tag of this name, counted on from `seen`. -/
def lengthBeforeEnd (name : List Char) (seen : Nat) : List Char → Nat
  | [] => seen
  | c :: cs => if beginsEndTag name (c :: cs) then seen else lengthBeforeEnd name (seen + 1) cs

/-- What hides the end tag of a script. -/
inductive Veil where
  /-- Outside of comments. -/
  | nothing
  /-- In a comment, behind some dashes. -/
  | comment (dashes : Nat)
  /-- In a script within a comment, behind some dashes: here an end tag does not count. -/
  | script (dashes : Nat)

/-- Follow the dashes of a comment: two or more of them and a bracket end it. -/
def Veil.step (veil : Veil) (c : Char) : Veil :=
  let dashes (n : Nat) := if c = '-' then min 2 (n + 1) else 0
  match veil with
  | .nothing => .nothing
  | .comment n => if n = 2 ∧ c = '>' then .nothing else .comment (dashes n)
  | .script n => if n = 2 ∧ c = '>' then .nothing else .script (dashes n)

/-- What a bracket in a script changes, given what follows it, with the number of characters that
are passed by this. -/
def Veil.atBracket (veil : Veil) (cs : List Char) : Option (Veil × Nat) :=
  let script := "script".toList
  match veil with
  | .nothing => if "!--".toList.isPrefixOf cs then some (.comment 2, 3) else none
  | .comment _ => if beginsWithName script cs then some (.script 0, script.length + 1) else none
  | .script _ =>
    if cs.head? = some '/' ∧ beginsWithName script (cs.drop 1) then
      some (.comment 0, script.length + 2)
    else none

/-- Does an end tag count here? -/
def Veil.allowsEnd : Veil → Bool
  | .script _ => false
  | _ => true

/-- The number of characters before the end tag of a script, counted on from `seen`; `skip`
characters are passed already. -/
def scriptLength (veil : Veil) (seen : Nat) : Nat → List Char → Nat
  | _, [] => seen
  | skip + 1, _ :: cs => scriptLength veil (seen + 1) skip cs
  | 0, c :: cs =>
    if veil.allowsEnd ∧ beginsEndTag "script".toList (c :: cs) then seen
    else
      match if c = '<' then veil.atBracket cs else none with
      | some (veil, skip) => scriptLength veil (seen + 1) skip cs
      | none => scriptLength (veil.step c) (seen + 1) 0 cs

/-- The token where an end tag ends a stretch of `n` characters: the stretch, or the end
tag itself. -/
def beforeEnd (n : Nat) (write : List Char → List Char) (cs : List Char) : Token × Nat :=
  if n = 0 then bracket false (cs.drop 1) else (.text (write (replaceNul (cs.take n))), n)

/-! ## Reading -/

/-- The token at the beginning of a text, with the number of its characters. -/
def Token.read (model : ContentModel) (inForeign : Bool) (cs : List Char) : Token × Nat :=
  match model with
  | .plain => (.text (replaceNul cs), cs.length)
  | .raw name => beforeEnd (lengthBeforeEnd name.toList 0 cs) id cs
  | .escapable name => beforeEnd (lengthBeforeEnd name.toList 0 cs) (unescape false) cs
  | .script => beforeEnd (scriptLength .nothing 0 0 cs) id cs
  | .markup =>
    match cs with
    | '<' :: rest => bracket inForeign rest
    | _ =>
      let run := cs.takeWhile (· ≠ '<')
      (.text (unescape false run), run.length)

/-- Write the line ends of a text as line feeds; `lines` is what has been written, in reverse. -/
def unifyLines (lines : List Char) : List Char → List Char
  | [] => lines.reverse
  | '\r' :: '\n' :: cs => unifyLines ('\n' :: lines) cs
  | '\r' :: cs => unifyLines ('\n' :: lines) cs
  | c :: cs => unifyLines (c :: lines) cs

/-- A text with line feeds at its line ends, and without a byte order mark at its beginning. -/
def normalize (s : List Char) : List Char :=
  unifyLines [] (if s.head? = some '\uFEFF' then s.drop 1 else s)

end MediaScraper.Html
