import MediaScraper.Text.Excerpt
import MediaScraper.Xml.Error

/-!
# Failures

What a caller can be told. Each failure is a cause, and `message` gives its wording.
-/

namespace MediaScraper

/-- Why a run of a routine was stopped from outside. -/
inductive Interruption where
  | cancelled
  | deadlineExceeded
deriving DecidableEq

def Interruption.message : Interruption → String
  | .cancelled => "Scrape cancelled"
  | .deadlineExceeded => "Scrape exceeded its deadline"

/-- Why a document cannot be read. -/
inductive Unreadable where
  | markup (e : Xml.Error)
  | attribute (e : Xml.AttributeError)
  /-- The bytes of the document are accepted by no charset. -/
  | noCharset
  /-- The document ends with so many open elements. -/
  | unclosedElements (count : Nat)
  /-- An end tag where no element is open. -/
  | unbalancedEnd
  | noRoot
  | secondRoot (name : String)
  | emptyAddress
  /-- An address element without content. -/
  | noAddress
  /-- Markup without an address element. -/
  | noUrlElement (text : String)
  | unterminatedEntity
deriving DecidableEq

def Unreadable.message : Unreadable → String
  | .markup e => e.message
  | .attribute e => e.message
  | .noCharset => "no supported charset could decode the input"
  | .unclosedElements count => "document ends with " ++ toString count ++ " unclosed elements"
  | .unbalancedEnd => "unbalanced end tag"
  | .noRoot => "no root element"
  | .secondRoot name => "second root element <" ++ name ++ ">"
  | .emptyAddress => "empty url"
  | .noAddress => "url element has no address"
  | .noUrlElement text => "no <url> element in " ++ Text.excerpt text
  | .unterminatedEntity => "unterminated <entity> in search results"

/-- Why an addon manifest is refused. -/
inductive BadManifest where
  | attribute (e : Xml.AttributeError)
  | noId
deriving DecidableEq

def BadManifest.message : BadManifest → String
  | .attribute e => e.message
  | .noId => "addon element has no id"

/-- A failure that reaches the caller. -/
inductive Failure where
  | unreadable (reason : Unreadable)
  | manifest (reason : BadManifest)
  /-- A document of so many bytes that no charset accepts. -/
  | undecodable (size : Nat)
  | interrupted (reason : Interruption)
  /-- A page that its source does not deliver. -/
  | fetch (address reason : String)
deriving DecidableEq

def Failure.message : Failure → String
  | .unreadable reason => "Unparseable scraper definition: " ++ reason.message
  | .manifest reason => "Invalid addon manifest: " ++ reason.message
  | .undecodable size => "Document could not be decoded: " ++ toString size ++
      " bytes match none of UTF-8, ISO-8859-1, US-ASCII"
  | .interrupted reason => reason.message
  | .fetch address reason => "Fetch failed for " ++ address ++ ": " ++ reason

end MediaScraper
