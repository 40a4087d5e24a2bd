/-!
# Reading JSON byte by byte

JSON is read from bytes, each of which is held as the character of its number. The cursor knows the
line and the number of bytes read in it, so that a fault can say where it is. A fault concerns
either what has just been read (`faultHere`) or the byte that comes next (`faultNext`).
-/

namespace MediaScraper.Json

/-- What is left of a document, and where it begins. -/
structure Cursor where
  rest : List Char
  line : Nat
  column : Nat

namespace Cursor

/-- The beginning of a document. -/
def ofBytes (bytes : ByteArray) : Cursor :=
  ⟨bytes.data.toList.map fun b => Char.ofNat b.toNat, 1, 0⟩

/-- The cursor behind the next byte, if there is one. -/
def advance (c : Cursor) : Cursor :=
  match c.rest with
  | [] => c
  | '\n' :: rest => ⟨rest, c.line + 1, 0⟩
  | _ :: rest => ⟨rest, c.line, c.column + 1⟩

/-- A blank of JSON. -/
def isBlank (c : Char) : Bool := c = ' ' || c = '\n' || c = '\t' || c = '\r'

/-- The cursor behind the bytes at the beginning of `rest` that are of a kind. -/
def skipFrom (ofKind : Char → Bool) (line column : Nat) : List Char → Cursor
  | [] => ⟨[], line, column⟩
  | c :: rest =>
    if ofKind c then
      if c = '\n' then skipFrom ofKind (line + 1) 0 rest else skipFrom ofKind line (column + 1) rest
    else ⟨c :: rest, line, column⟩

/-- The cursor behind the next bytes that are of a kind. -/
def skipWhile (ofKind : Char → Bool) (c : Cursor) : Cursor := skipFrom ofKind c.line c.column c.rest

end Cursor

/-- Why a document is refused. -/
inductive Cause where
  | endInList
  | endInObject
  | endInString
  | endInValue
  | noColon
  | noCommaInList
  | noCommaInObject
  | noLiteral
  | noValue
  | badEscape
  | badNumber
  | numberTooGreat
  | notUtf8
  | controlInString
  | keyIsNoString
  | loneSurrogate
  | endOfSurrogates
  | trailingComma
  | trailingCharacters
  | tooDeep
  /-- The document is well formed but does not hold what is asked for. -/
  | refused (reason : String)
deriving DecidableEq

def Cause.message : Cause → String
  | .endInList => "EOF while parsing a list"
  | .endInObject => "EOF while parsing an object"
  | .endInString => "EOF while parsing a string"
  | .endInValue => "EOF while parsing a value"
  | .noColon => "expected \x60:\x60"
  | .noCommaInList => "expected \x60,\x60 or \x60]\x60"
  | .noCommaInObject => "expected \x60,\x60 or \x60\x7d\x60"
  | .noLiteral => "expected ident"
  | .noValue => "expected value"
  | .badEscape => "invalid escape"
  | .badNumber => "invalid number"
  | .numberTooGreat => "number out of range"
  | .notUtf8 => "invalid unicode code point"
  | .controlInString => "control character (\\u0000-\\u001F) found while parsing a string"
  | .keyIsNoString => "key must be a string"
  | .loneSurrogate => "lone leading surrogate in hex escape"
  | .endOfSurrogates => "unexpected end of hex escape"
  | .trailingComma => "trailing comma"
  | .trailingCharacters => "trailing characters"
  | .tooDeep => "recursion limit exceeded"
  | .refused reason => reason

/-- A cause with its place. -/
structure Fault where
  cause : Cause
  line : Nat
  column : Nat
deriving DecidableEq

def Fault.message (f : Fault) : String :=
  f.cause.message ++ " at line " ++ toString f.line ++ " column " ++ toString f.column

/-- Reading from a document. -/
abbrev Reader := StateT Cursor (Except Fault)

namespace Reader

/-- The next byte, which stays unread. -/
def peek : Reader (Option Char) := return (← get).rest.head?

/-- Read the next byte. -/
def next : Reader (Option Char) := do
  let c ← peek
  modify Cursor.advance
  return c

/-- Read the next byte and forget it. -/
def skip : Reader Unit := modify Cursor.advance

/-- Read bytes while they are of a kind, and keep them. -/
def takeWhile (ofKind : Char → Bool) : Reader (List Char) := do
  let taken := (← get).rest.takeWhile ofKind
  modify (Cursor.skipWhile ofKind)
  return taken

/-- Read blanks. -/
def skipBlanks : Reader Unit := modify (Cursor.skipWhile Cursor.isBlank)

/-- The first byte behind blanks, which stays unread. -/
def peekBehindBlanks : Reader (Option Char) := do
  skipBlanks
  peek

/-- A fault where the cursor stands. -/
def faultHere {α : Type} (cause : Cause) : Reader α := do
  let c ← get
  throw ⟨cause, c.line, c.column⟩

/-- A fault at the next byte. -/
def faultNext {α : Type} (cause : Cause) : Reader α := do
  let c := (← get).advance
  throw ⟨cause, c.line, c.column⟩

end Reader
end MediaScraper.Json
