import MediaScraper.Url

/-!
# Search results

A document of search results lists `<entity>` elements, each with a title, and perhaps a year, an id
and a url. The text of an entity goes to the field whose element was opened last; any end tag but
that of the entity ends the field.
-/

namespace MediaScraper

/-- One entry of the results of a search. -/
structure SearchResult where
  title : String
  year : Option String
  id : Option String
  url : Option Url
deriving DecidableEq

namespace SearchResult

def empty : SearchResult := ⟨"", none, none, none⟩

/-- Add text to the field of this name. -/
def addText (r : SearchResult) (field : List Char) (text : String) : SearchResult :=
  if field = "title".toList then { r with title := r.title ++ text }
  else if field = "year".toList then { r with year := some (r.year.getD "" ++ text) }
  else if field = "id".toList then { r with id := some (r.id.getD "" ++ text) }
  else if field = "url".toList then { r with url := r.url.map (·.addText text) }
  else r

/-- A text without the blanks at its ends, unless nothing is left. -/
def nonBlank? (s : String) : Option String :=
  let t := trimBlanks s
  if t.isEmpty then none else some t

/-- The entry with its fields trimmed; blank ones are left out. -/
def finish (r : SearchResult) : SearchResult :=
  { title := trimBlanks r.title
    year := r.year.bind nonBlank?
    id := r.id.bind nonBlank?
    url := (r.url.map Url.trimmed).filter fun u => !u.address.isEmpty }

/-- What has been read: the entry whose element is open, the field that takes text, and the finished
entries with the latest first. -/
structure Progress where
  current : Option SearchResult
  field : Option (List Char)
  finished : List SearchResult

def Progress.start : Progress := ⟨none, none, []⟩

def Progress.addText (p : Progress) (text : String) : Progress :=
  match p.current, p.field with
  | some r, some field => { p with current := some (r.addText field text) }
  | _, _ => p

/-- Follow one event. Elements that close themselves say nothing. -/
def Progress.step (p : Progress) : Xml.Event → Except Failure Progress
  | .opening tag =>
    if tag.name = "entity".toList then .ok { p with current := some empty }
    else
      match p.current with
      | none => .ok p
      | some r =>
        if tag.name = Url.elementName then
          match Url.ofTag tag with
          | .ok url =>
            .ok { p with current := some { r with url := some url }, field := some tag.name }
          | .error e => .error e
        else .ok { p with field := some tag.name }
  | .text raw =>
    match p.current, p.field with
    | some _, some _ =>
      match Xml.unescape raw with
      | .ok text => .ok (p.addText (.ofList text))
      | .error e => .error (.unreadable (.markup (.reference e)))
    | _, _ => .ok p
  | .cdata content => .ok (p.addText (.ofList content))
  | .closing name =>
    if name = "entity".toList then
      match p.current with
      | some r => .ok { p with current := none, finished := r.finish :: p.finished }
      | none => .ok p
    else .ok { p with field := none }
  | _ => .ok p

/-- Read a document of search results. -/
def readAll (xml : String) : Except Failure (List SearchResult) := do
  let reading := Xml.read xml
  let p ← reading.events.foldlM Progress.step Progress.start
  match reading.fault with
  | some e => throw (.unreadable (.markup e))
  | none =>
    match p.current with
    | some _ => throw (.unreadable .unterminatedEntity)
    | none => return p.finished.reverse

end SearchResult
end MediaScraper
