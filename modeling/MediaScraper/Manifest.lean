import MediaScraper.Scraper.Reader

/-!
# Addon manifests

A manifest (`addon.xml`) says what an addon is: its id, name and version, the library it
brings with the kind of media it is for, and the addons it requires.
-/

namespace MediaScraper

/-- The media that a scraper is for. -/
inductive MediaKind where
  | movies
  | tvShows
  | musicVideos
  | albums
  | artists
  | other
deriving DecidableEq

/-- How the extension point of every scraper starts. -/
def scraperPoint : List Char := "xbmc.metadata.scraper.".toList

/-- The kind of a scraper's extension point. -/
def MediaKind.ofPoint (point : String) : MediaKind :=
  match (scraperPoint.isPrefixOf? point.toList).map String.ofList with
  | some "movies" => .movies
  | some "tvshows" => .tvShows
  | some "musicvideos" => .musicVideos
  | some "albums" => .albums
  | some "artists" => .artists
  | _ => .other

def MediaKind.name : MediaKind → String
  | .movies => "movies"
  | .tvShows => "tvshows"
  | .musicVideos => "musicvideos"
  | .albums => "albums"
  | .artists => "artists"
  | .other => "other"

/-- What a manifest says. -/
structure Manifest where
  id : String
  name : String
  version : String
  /-- The file of the scraper library. -/
  library : Option String
  kind : Option MediaKind
  /-- The required addons that may bring shared routines. -/
  imports : List String
deriving DecidableEq

namespace Manifest

def empty : Manifest := ⟨"", "", "", none, none, []⟩

/-- Required addons that bring no routines. -/
def frameworkImports : List String := ["xbmc.metadata", "xbmc.addon"]

/-- The value of a tag's first attribute of a name. A fault counts only if it comes before. -/
def attribute? (tag : Xml.Tag) (name : List Char) : Except Failure (Option String) :=
  let (attributes, fault) := tag.attributes
  match attributes.find? (·.name = name) with
  | some a =>
    match a.value with
    | .ok value => .ok (some value)
    | .error e => .error (.unreadable (.markup (.reference e)))
  | none =>
    match fault with
    | some e => .error (.manifest (.attribute e))
    | none => .ok none

/-- Take in an element, given the name of the element around it. -/
def visit (m : Manifest) (parent : Option (List Char)) (tag : Xml.Tag) : Except Failure Manifest :=
  if tag.name = "addon".toList ∧ parent = none then do
    let id := (← attribute? tag "id".toList).getD ""
    let name := (← attribute? tag "name".toList).getD ""
    let version := (← attribute? tag "version".toList).getD ""
    return { m with id, name, version }
  else if tag.name = "import".toList ∧ parent = some "requires".toList then do
    match ← attribute? tag "addon".toList with
    | some addon =>
      if frameworkImports.contains addon then return m
      else return { m with imports := m.imports ++ [addon] }
    | none => return m
  else if tag.name = "extension".toList ∧ parent = some "addon".toList then do
    let point := (← attribute? tag "point".toList).getD ""
    if scraperPoint.isPrefixOf point.toList then
      let library ← attribute? tag "library".toList
      return { m with kind := some (.ofPoint point), library }
    else return m
  else return m

/-- Follow one event; `path` holds the names of the open elements, innermost first. -/
def step (state : Manifest × List (List Char)) (e : Xml.Event) :
    Except Failure (Manifest × List (List Char)) :=
  let (m, path) := state
  match e with
  | .opening tag => do return (← m.visit path.head? tag, tag.name :: path)
  | .selfClosed tag => do return (← m.visit path.head? tag, path)
  | .closing _ => .ok (m, path.tail)
  | _ => .ok (m, path)

/-- Read a manifest. It must give an id. -/
def parse (xml : String) : Except Failure Manifest := do
  let reading := Xml.read xml
  let (m, _) ← reading.events.foldlM step (empty, [])
  match reading.fault with
  | some e => throw (.unreadable (.markup e))
  | none => if m.id.isEmpty then throw (.manifest .noId) else return m

/-- Does the addon scrape a kind of media? A library of shared routines does not. -/
def isScraper (m : Manifest) : Bool :=
  m.library.isSome &&
    match m.kind with
    | some kind => kind ≠ .other
    | none => false

/-- Read the library of the addon, with the shared libraries that it imports. -/
def scraper (m : Manifest) (library : ByteArray) (shared : List Scraper.SharedLibrary) :
    Except Failure Scraper :=
  Scraper.read m.id library m.imports shared

end Manifest
end MediaScraper
