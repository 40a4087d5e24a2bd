import MediaScraper.Json.Number

/-!
# Values in JSON

A value is read in full, but of lists and objects only their kind is kept. Nesting is bounded.
-/

namespace MediaScraper.Json

/-- A value, as far as it matters. -/
inductive Value where
  | null
  | flag (b : Bool)
  | number (n : Number)
  | text (s : String)
  | list
  | object

/-- The greatest nesting of lists and objects that is refused no more. -/
def maxNesting : Nat := 127

open Reader

/-! ## Strings -/

/-- The bytes of a character. -/
def utf8 (c : Char) : List Char :=
  (String.singleton c).toUTF8.data.toList.map fun b => Char.ofNat b.toNat

/-- Read the four digits of an escape. -/
def readHex : Reader Nat := do
  let digits := (← get).rest.take 4
  modify fun c => digits.foldl (fun c _ => c.advance) c
  if digits.length < 4 then faultHere .endInString
  else
    match Numeral.valueFrom? 16 0 digits with
    | some n => return n
    | none => faultHere .badEscape

/-- Read a byte which has to be this one, within a pair of surrogates. -/
def readInPair (expected : Char) : Reader Unit := do
  match ← peek with
  | none => faultHere .endInString
  | some c =>
    skip
    if c ≠ expected then faultHere .endOfSurrogates

/-- Read the number of a character behind `\u`. Characters beyond the basic plane are written as a
pair of surrogates. -/
def readCodePoint : Reader Nat := do
  let high ← readHex
  if 0xDC00 ≤ high ∧ high ≤ 0xDFFF then faultHere .loneSurrogate
  else if high < 0xD800 ∨ 0xDFFF < high then return high
  else
    readInPair '\\'
    readInPair 'u'
    let low ← readHex
    if 0xDC00 ≤ low ∧ low ≤ 0xDFFF then return (high - 0xD800) * 0x400 + (low - 0xDC00) + 0x10000
    else faultHere .loneSurrogate

/-- Read an escape behind its backslash. -/
def readEscape : Reader (List Char) := do
  match ← next with
  | none => faultHere .endInString
  | some '"' => return ['"']
  | some '\\' => return ['\\']
  | some '/' => return ['/']
  | some 'b' => return ['\x08']
  | some 'f' => return ['\x0c']
  | some 'n' => return ['\n']
  | some 'r' => return ['\r']
  | some 't' => return ['\t']
  | some 'u' => return utf8 (Char.ofNat (← readCodePoint))
  | some _ => faultHere .badEscape

/-- A byte of a string that stands for itself. -/
def isPlain (c : Char) : Bool := c ≠ '"' && c ≠ '\\' && ' ' ≤ c

/-- Read a string up to its closing quote; `chunks` are its bytes so far, in reverse order of the
chunks. -/
def readChunks : Nat → List (List Char) → Reader (List (List Char))
  | 0, _ => faultHere .endInString
  | fuel + 1, chunks => do
    let plain ← takeWhile isPlain
    match ← next with
    | none => faultHere .endInString
    | some '"' => return plain :: chunks
    | some '\\' => do
      let escaped ← readEscape
      readChunks fuel (escaped :: plain :: chunks)
    | some _ => faultHere .controlInString

/-- Read a string of at most so many chunks behind its opening quote. -/
def readString (fuel : Nat) : Reader String := do
  let chunks ← readChunks fuel []
  let bytes := (chunks.reverse.flatten.map fun c => c.toNat.toUInt8).toArray
  match String.fromUTF8? ⟨bytes⟩ with
  | some s => return s
  | none => faultHere .notUtf8

/-! ## Values -/

/-- Read what is left of a literal. -/
def readLiteral : List Char → Reader Unit
  | [] => pure ()
  | expected :: rest => do
    match ← next with
    | none => faultHere .endInValue
    | some c => if c = expected then readLiteral rest else faultHere .noLiteral

/-- Read the colon behind a key. -/
def readColon : Reader Unit := do
  match ← peekBehindBlanks with
  | some ':' => skip
  | some _ => faultNext .noColon
  | none => faultNext .endInObject

/-- Go to the next item of a list; `false` when the list ends, with its bracket read. -/
def nextItem (isFirst : Bool) : Reader Bool := do
  match ← peekBehindBlanks with
  | none => faultNext .endInList
  | some ']' =>
    skip
    return false
  | some c =>
    if isFirst then return true
    else if c = ',' then
      skip
      match ← peekBehindBlanks with
      | some ']' => faultNext .trailingComma
      | some _ => return true
      | none => faultNext .endInValue
    else faultNext .noCommaInList

/-- Read the next key of an object; `none` when the object ends, with its bracket read. -/
def nextKey (fuel : Nat) (isFirst : Bool) : Reader (Option String) := do
  match ← peekBehindBlanks with
  | none => faultNext .endInObject
  | some '}' =>
    skip
    return none
  | some c =>
    let c ← do
      if isFirst then pure (some c)
      else if c = ',' then
        skip
        peekBehindBlanks
      else faultNext .noCommaInObject
    match c with
    | some '"' =>
      skip
      return some (← readString fuel)
    | some '}' => faultNext .trailingComma
    | some _ => faultNext .keyIsNoString
    | none => faultNext .endInValue

mutual

/-- Read a value. There are `depth` levels left for what is nested in it; `fuel` is more than the
bytes left. -/
def readValue : Nat → Nat → Reader Value
  | 0, _ => faultHere .endInValue
  | fuel + 1, depth => do
    match ← peekBehindBlanks with
    | none => faultNext .endInValue
    | some 'n' =>
      skip
      readLiteral "ull".toList
      return .null
    | some 't' =>
      skip
      readLiteral "rue".toList
      return .flag true
    | some 'f' =>
      skip
      readLiteral "alse".toList
      return .flag false
    | some '-' =>
      skip
      return .number (← Number.read true)
    | some '"' =>
      skip
      return .text (← readString fuel)
    | some '[' =>
      if depth ≤ 1 then faultNext .tooDeep
      else
        skip
        readItems fuel (depth - 1) true
        return .list
    | some '{' =>
      if depth ≤ 1 then faultNext .tooDeep
      else
        skip
        readMembers fuel (depth - 1) true
        return .object
    | some c => if c.isDigit then return .number (← Number.read false) else faultNext .noValue

/-- Read the items of a list behind its bracket. -/
def readItems : Nat → Nat → Bool → Reader Unit
  | 0, _, _ => faultHere .endInList
  | fuel + 1, depth, isFirst => do
    if ← nextItem isFirst then
      let _ ← readValue fuel depth
      readItems fuel depth false

/-- Read the members of an object behind its bracket. -/
def readMembers : Nat → Nat → Bool → Reader Unit
  | 0, _, _ => faultHere .endInObject
  | fuel + 1, depth, isFirst => do
    match ← nextKey fuel isFirst with
    | none => pure ()
    | some _ =>
      readColon
      let _ ← readValue fuel depth
      readMembers fuel depth false

end

/-! ## Objects -/

/-- Read the members of an object behind its bracket, and take each value by a rule. A value that
the rule refuses is reported where the object goes on. -/
def readEntries {α : Type} (accept : Value → Except String α) :
    Nat → Bool → List (String × α) → Reader (List (String × α))
  | 0, _, _ => faultHere .endInObject
  | fuel + 1, isFirst, entries => do
    match ← nextKey fuel isFirst with
    | none => return entries.reverse
    | some key =>
      readColon
      let value ← readValue fuel maxNesting
      match accept value with
      | .ok a => readEntries accept fuel false ((key, a) :: entries)
      | .error reason =>
        if (← peekBehindBlanks) = some '}' then skip
        faultHere (.refused reason)

end MediaScraper.Json
