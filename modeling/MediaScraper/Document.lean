import MediaScraper.Charset
import MediaScraper.Failure

/-!
# Documents

A document arrives as bytes; its text is that of the first charset that accepts them.
-/

namespace MediaScraper.Document

/-- The text of a document. -/
def decode (bytes : ByteArray) : Except Failure String :=
  match decodeBytes? bytes with
  | some text => .ok text
  | none => .error (.undecodable bytes.size)

end MediaScraper.Document
