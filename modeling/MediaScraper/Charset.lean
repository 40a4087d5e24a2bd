/-!
# Charsets

The bytes of a document are decoded by the first charset that accepts them.

* **UTF-8** accepts well-formed sequences and drops one leading byte order mark.
* **ISO-8859-1** gives each byte the character of that number. The bytes `0x80` to `0x9F` stand
  for control characters that no page uses, so they count as a mismatch.
* **US-ASCII** accepts bytes below `0x80`.
-/

namespace MediaScraper

inductive Charset where
  | utf8
  | latin1
  | ascii
deriving DecidableEq

namespace Charset

/-- The charsets in the order in which they are tried. -/
def fallbackOrder : List Charset := [utf8, latin1, ascii]

def name : Charset → String
  | utf8 => "UTF-8"
  | latin1 => "ISO-8859-1"
  | ascii => "US-ASCII"

/-- The bytes without one leading byte order mark. -/
def dropByteOrderMark (bytes : ByteArray) : ByteArray :=
  if (bytes.extract 0 3).data = #[0xEF, 0xBB, 0xBF] then bytes.extract 3 bytes.size else bytes

/-- The text whose characters have the bytes as their numbers. -/
def widen (bytes : ByteArray) : String :=
  .ofList (bytes.data.toList.map fun b => Char.ofNat b.toNat)

/-- The text that the bytes stand for, if the charset accepts them. -/
def decode? (bytes : ByteArray) : Charset → Option String
  | utf8 => String.fromUTF8? (dropByteOrderMark bytes)
  | latin1 =>
    if bytes.data.any fun b => 0x80 ≤ b && b < 0xA0 then none else some (widen bytes)
  | ascii => if bytes.data.all (· < 0x80) then some (widen bytes) else none

end Charset

/-- The text of a document in the first charset that accepts it. -/
def decodeBytes? (bytes : ByteArray) : Option String :=
  Charset.fallbackOrder.findSome? (Charset.decode? bytes)

end MediaScraper
