import MediaScraper.Entity.Escape
import MediaScraper.Html.Fragment
import MediaScraper.Unicode.Word

/-!
# Calls in texts

A text that is about to be written can ask for another routine in two ways:

1. an element with a `function` attribute: the text of the element is the payload, and the result
   takes the place of the whole text;
2. `<chain function="F">payload</chain>`: the payload is taken as it is written, and the result, in
   an element of the routine's name, takes the place of the whole text.

A call that fails becomes an inline marker. The text in the marker is escaped.
-/

namespace MediaScraper

/-- Why a call gets no result. -/
inductive CallFailure where
  | emptyName
  | unknownRoutine (name : String)
  | tooDeep (limit : Nat)
deriving DecidableEq

namespace CallFailure

def message : CallFailure → String
  | .emptyName => "Malformed call marker: empty function name"
  | .unknownRoutine name => "Invalid Function Name: " ++ name
  | .tooDeep limit => "Call depth limit of " ++ toString limit ++ " exceeded"

/-- What takes the place of a text whose call fails. -/
def marker (text : String) (failure : CallFailure) : String :=
  "\n<error>" ++ Entity.escapeText text ++ "\n<msg>" ++ failure.message ++ "</msg></error>\n"

end CallFailure

namespace Call

/-! ## Elements that call -/

/-- How much of a start tag with a `function` attribute has been seen. -/
inductive Hint where
  /-- Nothing of it. -/
  | nothing
  | bracket
  /-- The bracket and a part of the name. -/
  | name
  /-- The bracket, the name and a blank; the flag tells whether a word has just been going on. -/
  | attributes (inWord : Bool)
deriving DecidableEq

/-- A letter that the name of an element may begin with: one of `a` to `z`, up to case. -/
def beginsName (c : Char) : Bool := c.isAlpha || c = '\u017F' || c = '\u212A'

/-- A character that the name of an element may go on with. -/
def continuesName (c : Char) : Bool := isWordChar c || c = '.' || c = ':' || c = '-'

/-- Does `function` stand here, with an equals sign behind it? -/
def isFunctionKey (cs : List Char) : Bool :=
  let key := "function".toList
  Text.startsIgnoringCase key cs && ((cs.drop key.length).dropWhile isBlank).head? = some '='

/-- Take one more character. -/
def Hint.step (hint : Hint) (c : Char) : Hint :=
  let restart : Hint := if c = '<' then .bracket else .nothing
  match hint with
  | .nothing => restart
  | .bracket => if beginsName c then .name else restart
  | .name => if continuesName c then .name else if isBlank c then .attributes false else restart
  | .attributes _ => if c = '>' then .nothing else .attributes (isWordChar c)

/-- Look for the hint from where a part of it has been seen. -/
def isHintedFrom (hint : Hint) : List Char → Bool
  | [] => false
  | c :: cs =>
    (hint = .attributes false && isFunctionKey (c :: cs)) || isHintedFrom (hint.step c) cs

/-- Does the text look as if it held an element that calls? Only such a text is read as HTML. -/
def isHinted (text : String) : Bool := isHintedFrom .nothing text.toList

/-- The element that calls, in a text that looks as if it held one. -/
def site? (text : String) : Option Html.CallSite :=
  if isHinted text then Html.callSite? text else none

/-! ## Chains -/

/-- What a chain begins with, up to the name of the routine. -/
def chainStart : List Char := "<chain function=\"".toList

/-- What follows the name. -/
def nameEnd : List Char := "\">".toList

def chainEnd : List Char := "</chain>".toList

/-- The name at the beginning of a text, up to a quote, and what follows the bracket behind it. -/
def chainName? (cs : List Char) : Option (List Char × List Char) :=
  let (name, rest) := cs.span (· ≠ '"')
  (nameEnd.isPrefixOf? rest).map fun rest => (name, rest)

/-- What stands before the last end of a chain. -/
def beforeLastEnd? (cs : List Char) : Option (List Char) :=
  (Text.breakAt? chainEnd.reverse cs.reverse).map fun r => r.2.reverse

/-- The name and the payload of the first chain. It reaches to the last end tag of the text. -/
def chainFrom? : List Char → Option (List Char × List Char)
  | [] => none
  | c :: cs =>
    match (chainStart.isPrefixOf? (c :: cs)).bind chainName? with
    | some (name, rest) => (beforeLastEnd? rest).map fun payload => (name, payload)
    | none => chainFrom? cs

/-- The routine that the first chain of a text asks for, and its payload. -/
def chain? (text : String) : Option (String × String) :=
  (chainFrom? text.toList).map fun r => (.ofList r.1, .ofList r.2)

/-- What takes the place of a text whose chain has this result. -/
def chainResult (routine result : String) : String :=
  "<" ++ routine ++ ">" ++ result ++ "</" ++ routine ++ ">"

end Call
end MediaScraper
