import MediaScraper.Json.Value
import MediaScraper.Settings
import MediaScraper.Text.Quoted

/-!
# Settings in JSON

Settings are stored as one flat object of texts, numbers and flags. A key may be given more than
once; the last value counts.
-/

namespace MediaScraper.Settings

open Json Reader

/-- The text of a setting. -/
def textOf : Value → Except String String
  | .flag b => .ok (if b then "true" else "false")
  | .number n => .ok n.render
  | .text s => .ok s
  | .null | .list | .object => .error "data did not match any variant of untagged enum SettingValue"

/-- What a value is called that stands in the place of the object. -/
def describe : Value → String
  | .null => "null"
  | .flag b => if b then "boolean \x60true\x60" else "boolean \x60false\x60"
  | .number n =>
    let kind := match n with
      | .double _ _ => "floating point"
      | _ => "integer"
    kind ++ " \x60" ++ n.render ++ "\x60"
  | .text s => "string " ++ Text.quote s
  | .list => "sequence"
  | .object => "map"

/-- Refuse a value that is no object. -/
def refuse {α : Type} (value : Value) : Reader α :=
  faultHere (.refused ("invalid type: " ++ describe value ++ ", expected a map"))

/-- Read a document up to its end. -/
def read : Reader Settings := do
  match ← peekBehindBlanks with
  | none => faultNext .endInValue
  | some '[' => refuse .list
  | some '{' =>
    skip
    let entries ← readEntries textOf ((← get).rest.length + 2) true []
    match ← peekBehindBlanks with
    | some _ => faultNext .trailingCharacters
    | none => return ofList entries
  | some _ => refuse (← readValue ((← get).rest.length + 2) maxNesting)

/-- The settings that a document holds. -/
def ofJson (bytes : ByteArray) : Except Fault Settings := (read.run (.ofBytes bytes)).map (·.1)

end MediaScraper.Settings
