import MediaScraper.Failure
import MediaScraper.Settings
import MediaScraper.Xml.Attribute

/-!
# Addresses to fetch

A routine asks for a page by a `<url>` element: its text is the address, and its attributes say how
to request the page. Text without any markup is an address as it stands.
-/

namespace MediaScraper

/-- An address and the options of its request. -/
structure Url where
  address : String
  /-- The routine to run over the page. -/
  routine : Option String
  /-- Send the query of the address as the body of the request. -/
  post : Bool
  /-- The referrer to present. -/
  spoof : Option String
  /-- The key under which the page is kept. -/
  cache : Option String
  gzip : Bool
deriving DecidableEq

namespace Url

/-- An address without options. -/
def ofAddress (address : String) : Url := ⟨address, none, false, none, none, false⟩

/-- The url with one attribute taken in; a later attribute of a name has precedence. -/
def withAttribute (url : Url) (name : List Char) (value : String) : Url :=
  if name = "function".toList then
    if allBlank value then url else { url with routine := some value }
  else if name = "post".toList then { url with post := (parseFlag value).getD false }
  else if name = "spoof".toList then { url with spoof := some value }
  else if name = "cache".toList then { url with cache := some value }
  else if name = "gzip".toList then { url with gzip := (parseFlag value).getD false }
  else url

/-- The options that the attributes of a tag give to a url without address. -/
def ofTag (tag : Xml.Tag) : Except Failure Url := do
  let (attributes, fault) := tag.attributes
  let url ← attributes.foldlM (fun url a =>
    match a.value with
    | .ok value => .ok (url.withAttribute a.name value)
    | .error e => .error (.unreadable (.markup (.reference e)))) (ofAddress "")
  match fault with
  | none => return url
  | some e => throw (.unreadable (.attribute e))

def addText (url : Url) (text : String) : Url := { url with address := url.address ++ text }

def trimmed (url : Url) : Url := { url with address := trimBlanks url.address }

def elementName : List Char := "url".toList

/-- Look for the first url element. `current` is the url whose element is open, and nothing is the
answer when there is no element, or none that ends. -/
def find (fault : Option Xml.Error) (current : Option Url) :
    List Xml.Event → Except Failure (Option Url)
  | [] =>
    match fault with
    | some e => .error (.unreadable (.markup e))
    | none => .ok none
  | e :: es =>
    match e, current with
    | .opening tag, none =>
      if tag.name = elementName then
        match ofTag tag with
        | .ok url => find fault (some url) es
        | .error e => .error e
      else find fault none es
    | .selfClosed tag, none =>
      if tag.name = elementName then .error (.unreadable .noAddress) else find fault none es
    | .text raw, some url =>
      match Xml.unescape raw with
      | .ok text => find fault (some (url.addText (.ofList text))) es
      | .error e => .error (.unreadable (.markup (.reference e)))
    | .cdata content, some url => find fault (some (url.addText (.ofList content))) es
    | .closing name, some url =>
      if name = elementName then .ok (some url.trimmed) else find fault (some url) es
    | _, current => find fault current es

/-- Read the first url element of a text, or a bare address. -/
def parse (text : String) : Except Failure Url :=
  let text := trimBlanks text
  if text.toList.contains '<' then
    let reading := Xml.read text
    match find reading.fault none reading.events with
    | .ok (some url) => .ok url
    | .ok none => .error (.unreadable (.noUrlElement text))
    | .error e => .error e
  else if text.isEmpty then .error (.unreadable .emptyAddress)
  else .ok (ofAddress text)

/-- The address to request and the body to send with it, if there is one. -/
def requestParts (url : Url) : String × Option String :=
  if url.post then
    match Text.breakAt? ['?'] url.address.toList with
    | some (address, query) => (.ofList address, some (.ofList query))
    | none => (url.address, none)
  else (url.address, none)

end Url
end MediaScraper
