import MediaScraper.Proofs.Xml.Content

/-!
# Points in a document

Between two events of a document stands a point (`Point`): some elements are open there, each with
what has been read of its content, and something may stand before the outermost of them. An event
leads from one point to the next (`Point.follow`). Where each end tag fits the innermost element, no
event is lost on the way (`Point.events_foldl`), and of the events of a text this holds
(`exists_nested`).
-/

namespace MediaScraper.Xml

/-- What stands in an element, and behind it something else. -/
def Content.append : Content → Content → Content
  | .nil, d => d
  | .text raw next, d => .text raw (next.append d)
  | .cdata content next, d => .cdata content (next.append d)
  | .aside source next, d => .aside source (next.append d)
  | .empty tag next, d => .empty tag (next.append d)
  | .element tag content spaces next, d => .element tag content spaces (next.append d)

theorem Content.events_append (c d : Content) : (c.append d).events = c.events ++ d.events := by
  induction c with
  | nil => rfl
  | text raw next ih | cdata content next ih | aside source next ih | empty tag next ih =>
    rw [append, events, events, ih, List.cons_append]
  | element tag content spaces next _ ih =>
    rw [append, events, events, ih, List.cons_append, List.append_assoc, List.cons_append]

/-- An element that is open, with what has been read in it. -/
structure Open where
  tag : Tag
  content : Content

/-- What has been read before the outermost open element, and the open elements, innermost first. -/
structure Point where
  before : Content
  path : List Open

namespace Point

def start : Point := ⟨.nil, []⟩

/-- The names of the open elements. -/
def names (p : Point) : List (List Char) := p.path.map fun o => o.tag.name

/-- The events that have been read. -/
def events (p : Point) : List Event :=
  p.before.events ++ p.path.reverse.flatMap fun o => .opening o.tag :: o.content.events

/-- Read something in the innermost element. -/
def put (p : Point) (c : Content) : Point :=
  match p.path with
  | [] => { p with before := p.before.append c }
  | o :: path => { p with path := { o with content := o.content.append c } :: path }

/-- Close the innermost element, which then stands in the one around it. -/
def close (p : Point) : Point :=
  match p.path with
  | [] => p
  | o :: path => put { p with path } (.element o.tag o.content [] .nil)

/-- The point behind an event. -/
def follow (p : Point) : Event → Point
  | .opening tag => { p with path := ⟨tag, .nil⟩ :: p.path }
  | .selfClosed tag => p.put (.empty tag .nil)
  | .closing _ => p.close
  | .text raw => p.put (.text raw .nil)
  | .cdata content => p.put (.cdata content .nil)
  | .other => p.put (.aside [] .nil)

variable (p : Point)

theorem events_put (c : Content) : (p.put c).events = p.events ++ c.events := by
  unfold put
  split
  · next hpath => simp [events, hpath, Content.events_append]
  · next o path hpath => simp [events, hpath, Content.events_append]

theorem names_put (c : Content) : (p.put c).names = p.names := by
  unfold put
  split
  · next hpath => simp [names, hpath]
  · next o path hpath => simp [names, hpath]

variable {p}

/-- **An event that fits** the open elements is kept. -/
theorem of_openBehind? {e : Event} {opened : List (List Char)}
    (h : openBehind? p.names e = some opened) :
    (p.follow e).events = p.events ++ [e] ∧ (p.follow e).names = opened := by
  cases e with
  | opening tag =>
    cases h
    exact ⟨by simp [follow, events, Content.events], rfl⟩
  | selfClosed tag | text raw | cdata content | other =>
    cases h
    exact ⟨events_put p _, names_put p _⟩
  | closing name =>
    obtain ⟨before, path⟩ := p
    cases path with
    | nil => cases h
    | cons o path =>
      simp only [names, List.map_cons, openBehind?] at h
      split at h
      · next hname =>
        cases h
        refine ⟨?_, names_put _ _⟩
        rw [follow, close, events_put, hname]
        simp [events, Content.events]
      · cases h

/-- **Events that fit are kept**, from a point on. -/
theorem events_foldl {es : List Event} {opened : List (List Char)}
    (h : es.foldlM openBehind? p.names = some opened) :
    (es.foldl follow p).events = p.events ++ es ∧ (es.foldl follow p).names = opened := by
  induction es generalizing p with
  | nil =>
    cases h
    exact ⟨(List.append_nil _).symm, rfl⟩
  | cons e es ih =>
    rw [List.foldlM_cons] at h
    obtain ⟨inner, hinner, h⟩ := Option.bind_eq_some_iff.1 h
    obtain ⟨hevents, hnames⟩ := of_openBehind? hinner
    rw [← hnames] at h
    obtain ⟨hall, hlast⟩ := ih h
    refine ⟨?_, hlast⟩
    rw [List.foldl_cons, hall, hevents, List.append_assoc, List.singleton_append]

end Point

/-! ## The events of a text -/

theorem events_of_openBehind?_eq_none {opened : List (List Char)} {e : Event}
    (h : openBehind? opened e = none) (fault : Option Error) (es : List Event) :
    (nestFrom fault opened [] (e :: es)).events = [] := by
  cases e with
  | closing name =>
    cases opened with
    | nil => rfl
    | cons expected opened =>
      rw [openBehind?] at h
      split at h
      · cases h
      · next hname => rw [nestFrom, if_neg hname, List.reverse_nil]
  | _ => cases h

theorem exists_nested_nestFrom (fault : Option Error) (opened : List (List Char))
    (es : List Event) :
    ∃ last, (nestFrom fault opened [] es).events.foldlM openBehind? opened = some last := by
  induction es generalizing opened with
  | nil => exact ⟨opened, rfl⟩
  | cons e es ih =>
    cases hopen : openBehind? opened e with
    | none => exact ⟨opened, by rw [events_of_openBehind?_eq_none hopen]; rfl⟩
    | some inner =>
      obtain ⟨last, hlast⟩ := ih inner
      refine ⟨last, ?_⟩
      rw [nestFrom_of_openBehind? hopen, nestFrom_passed, List.reverse_singleton,
        List.singleton_append, List.foldlM_cons, hopen]
      exact hlast

/-- **Each end tag of a text closes the innermost element**: up to every point, the events fit. -/
theorem exists_nested {s : String} {es rest : List Event} (h : (read s).events = es ++ rest) :
    ∃ opened last, es.foldlM openBehind? [] = some opened ∧
      rest.foldlM openBehind? opened = some last := by
  obtain ⟨last, hlast⟩ := exists_nested_nestFrom (Text.items event s.toList).2 []
    (Text.items event s.toList).1
  have hall : (es ++ rest).foldlM openBehind? [] = some last := h ▸ hlast
  rw [List.foldlM_append] at hall
  obtain ⟨opened, hopened, hrest⟩ := Option.bind_eq_some_iff.1 hall
  exact ⟨opened, last, hopened, hrest⟩

end MediaScraper.Xml
