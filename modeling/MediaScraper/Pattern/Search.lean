import Std.Data.HashSet
import MediaScraper.Pattern.Program
import MediaScraper.Text.Search

/-!
# Searching for matches

A program runs on a text as a search for a way from its entry to acceptance: depth first, in order
of precedence. An instruction at a place of the text that did not lead to acceptance once will not
do so again, so each pair of both is tried only once, also when the search starts over at the next
place. The first way found is the match: it starts as early as possible, and among the matches that
start there it has precedence.
-/

namespace MediaScraper.Pattern

/-- A place of a text. -/
structure Place where
  /-- The number of bytes before the place. -/
  offset : Nat
  before : Option Char
  rest : List Char

namespace Place

def start (s : List Char) : Place := ⟨0, none, s⟩

/-- The place behind the next character. -/
def advance? (p : Place) : Option Place :=
  match p.rest with
  | [] => none
  | c :: cs => some ⟨p.offset + c.utf8Size, some c, cs⟩

/-- Does a word character stand there? -/
def isWord (unicode : Bool) : Option Char → Bool
  | some c => if unicode then isWordChar c else c.isAlphanum || c = '_'
  | none => false

/-- Does the condition hold at the place? -/
def holds (p : Place) : Look → Bool
  | .textStart => p.before.isNone
  | .textEnd => p.rest.isEmpty
  | .lineStart => p.before.isNone || p.before = some '\n'
  | .lineEnd => p.rest.isEmpty || p.rest.head? = some '\n'
  | .anyLineStart =>
    p.before.isNone || p.before = some '\n' || (p.before = some '\r' && p.rest.head? ≠ some '\n')
  | .anyLineEnd =>
    p.rest.isEmpty || p.rest.head? = some '\r' ||
      (p.rest.head? = some '\n' && p.before ≠ some '\r')
  | .word edge unicode =>
    let before := isWord unicode p.before
    let behind := isWord unicode p.rest.head?
    match edge with
    | .boundary => before != behind
    | .interior => before == behind
    | .start => !before && behind
    | .stop => before && !behind
    | .startHalf => !before
    | .stopHalf => !behind

end Place

/-- The places remembered under numbers, the latest first. -/
abbrev Saves := List (Nat × Place)

/-- What is left to try: go on with an instruction at a place. -/
structure Job where
  counter : Nat
  place : Place
  saves : Saves

namespace Program

/-- Pairs of an instruction and a place, as one number. -/
abbrev Tried := Std.HashSet Nat

def key (p : Program) (j : Job) : Nat := j.place.offset * p.code.size + j.counter

/-- The jobs that follow from a job, those with precedence first. Acceptance has no successors. -/
def successors (i : Instruction) (j : Job) : List Job :=
  match i with
  | .take s next =>
    match j.place.advance? with
    | some place =>
      match j.place.rest with
      | c :: _ => if s.contains c then [⟨next, place, j.saves⟩] else []
      | [] => []
    | none => []
  | .look l next => if j.place.holds l then [⟨next, j.place, j.saves⟩] else []
  | .save slot next => [⟨next, j.place, (slot, j.place) :: j.saves⟩]
  | .choose first second => [⟨first, j.place, j.saves⟩, ⟨second, j.place, j.saves⟩]
  | .accept => []

/-- Try jobs until one is accepted. Each step takes a job away or tries a new pair. -/
def tryJobs (p : Program) : Nat → List Job → Tried → Option Saves × Tried
  | 0, _, tried => (none, tried)
  | _ + 1, [], tried => (none, tried)
  | fuel + 1, j :: jobs, tried =>
    if tried.contains (p.key j) then p.tryJobs fuel jobs tried
    else
      match p.code[j.counter]? with
      | some .accept => (some j.saves, tried)
      | some i => p.tryJobs fuel (successors i j ++ jobs) (tried.insert (p.key j))
      | none => p.tryJobs fuel jobs (tried.insert (p.key j))

/-- More steps than a search can take over a text of so many bytes. -/
def fuel (p : Program) (bytes : Nat) : Nat := 3 * (p.code.size * (bytes + 1)) + 2

/-- Search from a place on; `rest` is what follows it. -/
def searchFrom (p : Program) (fuel : Nat) (tried : Tried) (before : Option Char) (offset : Nat) :
    List Char → Option Saves
  | [] => (p.tryJobs fuel [⟨p.entry, ⟨offset, before, []⟩, []⟩] tried).1
  | c :: cs =>
    match p.tryJobs fuel [⟨p.entry, ⟨offset, before, c :: cs⟩, []⟩] tried with
    | (some saves, _) => some saves
    | (none, tried) => p.searchFrom fuel tried (some c) (offset + c.utf8Size) cs

end Program

/-! ## Matches -/

/-- What a group matched: from one place up to another. -/
structure Span where
  start : Place
  stop : Place

/-- The text between the two places. -/
def Span.text (s : Span) : List Char := Text.takeBytes (s.stop.offset - s.start.offset) s.start.rest

def Span.isEmpty (s : Span) : Bool := s.start.offset = s.stop.offset

/-- A match: the span of the whole, and those of the groups that took part. -/
structure Match where
  whole : Span
  groups : List (Option Span)

/-- The span of a group. -/
def Saves.span? (saves : Saves) (index : Nat) : Option Span := do
  return ⟨← saves.lookup (2 * index), ← saves.lookup (2 * index + 1)⟩

/-- The match that places tell, for so many groups. -/
def Match.ofSaves? (groups : Nat) (saves : Saves) : Option Match := do
  let whole ← Saves.span? saves 0
  return ⟨whole, (List.range groups).map fun i => Saves.span? saves (i + 1)⟩

/-- The first match at or behind a place. `size` is the number of bytes of the text. -/
def Program.find? (p : Program) (groups size : Nat) (place : Place) : Option Match :=
  (p.searchFrom (p.fuel size) ∅ place.before place.offset place.rest).bind (Match.ofSaves? groups)

/-- The first match at or behind a place, but not an empty one where the last match ended. -/
def Program.findNext? (p : Program) (groups size : Nat) (place : Place) (lastEnd : Option Nat) :
    Option Match :=
  match p.find? groups size place with
  | none => none
  | some m =>
    if m.whole.isEmpty ∧ lastEnd = some m.whole.stop.offset then
      place.advance?.bind (p.find? groups size)
    else some m

/-- The matches from a place on, at most so many; none overlaps the one before. -/
def Program.findAllFrom (p : Program) (groups size : Nat) :
    Nat → Place → Option Nat → List Match
  | 0, _, _ => []
  | n + 1, place, lastEnd =>
    match p.findNext? groups size place lastEnd with
    | none => []
    | some m => m :: p.findAllFrom groups size n m.whole.stop (some m.whole.stop.offset)

end MediaScraper.Pattern
