import MediaScraper.Text.Numeral

/-!
# What can be wrong with markup

Three kinds of fault are told apart: the reader of tags meets text that is no markup or tags that do
not nest (`Xml.Error`), a reference in a text or a value cannot be resolved (`ReferenceError`), and
the attributes of a tag are written wrongly (`AttributeError`). Places are counted in bytes of
UTF-8: in a text from its start, in a tag from behind its `<`.
-/

namespace MediaScraper.Xml

/-- Why a reference such as `&amp;` cannot be resolved. -/
inductive ReferenceError where
  /-- A name that stands for no character; its place in the text. -/
  | unknownName (start stop : Nat) (name : String)
  /-- An ampersand that no semicolon closes; the text has `stop` bytes. -/
  | unclosed (start stop : Nat)
  | signedNumber
  | badNumber (fault : Numeral.Fault)
  /-- A number that is no scalar value. -/
  | notScalar (number : Nat)
  /-- The number zero. -/
  | zero
deriving DecidableEq

def ReferenceError.message : ReferenceError → String
  | .unknownName start stop name =>
    "at " ++ toString start ++ ".." ++ toString stop ++ ": unrecognized entity \x60" ++ name ++
      "\x60"
  | .unclosed start stop =>
    "Error while escaping character at range " ++ toString start ++ ".." ++ toString stop ++
      ": Cannot find ';' after '&'"
  | .signedNumber => "invalid character reference: unexpected number sign"
  | .badNumber fault => "invalid character reference: " ++ fault.message
  | .notScalar number =>
    "invalid character reference: \x60" ++ toString number ++ "\x60 is not a valid codepoint"
  | .zero => "invalid character reference: 0x0 character is not permitted in XML"

/-- Why the attributes of a tag cannot be read. -/
inductive AttributeError where
  | expectedEq (position : Nat)
  | expectedValue (position : Nat)
  | unquotedValue (position : Nat)
  | expectedQuote (position : Nat) (quote : Char)
  | duplicated (position previous : Nat)
deriving DecidableEq

def AttributeError.message : AttributeError → String
  | .expectedEq position => "position " ++ toString position ++
      ": attribute key must be directly followed by \x60=\x60 or space"
  | .expectedValue position => "position " ++ toString position ++
      ": \x60=\x60 must be followed by an attribute value"
  | .unquotedValue position => "position " ++ toString position ++
      ": attribute value must be enclosed in \x60\"\x60 or \x60'\x60"
  | .expectedQuote position quote => "position " ++ toString position ++
      ": missing closing quote \x60" ++ quote.toString ++ "\x60 in attribute value"
  | .duplicated position previous => "position " ++ toString position ++
      ": duplicated attribute, previous declaration at position " ++ toString previous

/-- What begins at a `<` and never ends. -/
inductive Unclosed where
  | instruction
  | comment
  | doctype
  | cdata
  | tag
deriving DecidableEq

def Unclosed.name : Unclosed → String
  | .instruction => "processing instruction or xml declaration"
  | .comment => "comment"
  | .doctype => "DOCTYPE"
  | .cdata => "CDATA"
  | .tag => "tag"

/-- The text that would have ended it. -/
def Unclosed.closer : Unclosed → String
  | .instruction => "?>"
  | .comment => "-->"
  | .doctype => ">"
  | .cdata => "]]>"
  | .tag => ">"

/-- Why markup cannot be read on. -/
inductive Error where
  /-- `<!` that opens no comment, CDATA section or document type. -/
  | invalidMarkup
  | unclosed (what : Unclosed)
  /-- An end tag of another name than the open element. -/
  | mismatchedEnd (expected found : String)
  /-- An end tag without an open element. -/
  | unmatchedEnd (found : String)
  | noDoctypeName
  | reference (e : ReferenceError)
deriving DecidableEq

def Error.message : Error → String
  | .invalidMarkup => "syntax error: unknown or missed symbol in markup"
  | .unclosed what => "syntax error: " ++ what.name ++ " not closed: \x60" ++ what.closer ++
      "\x60 not found before end of input"
  | .mismatchedEnd expected found => "ill-formed document: expected \x60</" ++ expected ++
      ">\x60, but \x60</" ++ found ++ ">\x60 was found"
  | .unmatchedEnd found => "ill-formed document: close tag \x60</" ++ found ++
      ">\x60 does not match any open tag"
  | .noDoctypeName =>
    "ill-formed document: \x60<!DOCTYPE>\x60 declaration does not contain " ++
      "a name of a document type"
  | .reference e => e.message

end MediaScraper.Xml
