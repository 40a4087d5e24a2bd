import MediaScraper.Xml.Event
import MediaScraper.Xml.Reference

/-!
# Attributes

The attributes of a tag are written as a name, `=` and a value in quotes of either kind, with spaces
between and around them. A name counts once in a tag: a second one is a fault, which is found behind
its `=` and before its value. Attributes are read in order, so those before a fault stand.
-/

namespace MediaScraper.Xml

/-- An attribute with its value as it is written. -/
structure Attribute where
  name : List Char
  raw : List Char
deriving DecidableEq

/-- Count the places of a fault from an earlier start. -/
def AttributeError.shift (n : Nat) : AttributeError → AttributeError
  | .expectedEq p => .expectedEq (n + p)
  | .expectedValue p => .expectedValue (n + p)
  | .unquotedValue p => .unquotedValue (n + p)
  | .expectedQuote p q => .expectedQuote (n + p) q
  | .duplicated p q => .duplicated (n + p) (n + q)

/-- The value at the beginning of what follows `=`, with the characters it takes. -/
def attributeValue (cs : List Char) : Except AttributeError (List Char × Nat) :=
  let gap := cs.takeWhile isSpace
  match cs.drop gap.length with
  | [] => .error (.expectedValue (Text.byteLength cs))
  | q :: rest =>
    if q = '"' ∨ q = '\'' then
      let value := rest.takeWhile (· ≠ q)
      match rest.drop value.length with
      | [] => .error (.expectedQuote (Text.byteLength cs) q)
      | _ :: _ => .ok (value, gap.length + value.length + 2)
    else .error (.unquotedValue (Text.byteLength gap))

/-- The number of characters through the `=` that follows a name. -/
def throughEq (cs : List Char) : Except AttributeError Nat :=
  let gap := cs.takeWhile isSpace
  if (cs.drop gap.length).head? = some '=' then .ok (gap.length + 1)
  else .error (.expectedEq (Text.byteLength gap))

/-- Read attributes from a place on. `seen` are the names so far with their places, `read` the
attributes so far in reverse, and `skip` characters still belong to the last one. -/
def attributesFrom (position : Nat) (seen : List (List Char × Nat)) (read : List Attribute) :
    Nat → List Char → List Attribute × Option AttributeError
  | _, [] => (read.reverse, none)
  | skip + 1, c :: cs => attributesFrom (position + c.utf8Size) seen read skip cs
  | 0, c :: cs =>
    if isSpace c then attributesFrom (position + 1) seen read 0 cs
    else
      let more := cs.takeWhile fun d => d ≠ '=' && !isSpace d
      let name := c :: more
      let behind := position + Text.byteLength name
      match throughEq (cs.drop more.length) with
      | .error e => (read.reverse, some (e.shift behind))
      | .ok eq =>
        match seen.lookup name with
        | some previous => (read.reverse, some (.duplicated position previous))
        | none =>
          match attributeValue (cs.drop (more.length + eq)) with
          | .error e => (read.reverse, some (e.shift (behind + eq)))
          | .ok (value, n) =>
            attributesFrom (position + c.utf8Size) ((name, position) :: seen)
              (⟨name, value⟩ :: read) (more.length + eq + n) cs

/-- The attributes of a tag, up to the first fault. -/
def Tag.attributes (tag : Tag) : List Attribute × Option AttributeError :=
  attributesFrom (Text.byteLength tag.name) [] [] 0 (tag.source.drop tag.name.length)

/-- The value that an attribute stands for. -/
def Attribute.value (a : Attribute) : Except ReferenceError String :=
  (unescape a.raw).map String.ofList

end MediaScraper.Xml
