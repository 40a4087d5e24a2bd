/-!
# Cutting a text at its tokens

A *token reader* looks at the beginning of a text and says which token stands there and how many
characters it takes. `segment` runs a reader over a whole text: from the left, at each place where
a token stands, the token is cut out and reading goes on behind it. What lies between tokens is
kept as it is.

A token takes at least one character: a reader that claims none is taken to have read one.
-/

namespace MediaScraper.Text

/-- A part of a segmented text: a stretch outside all tokens, or a token. -/
inductive Piece (τ : Type) where
  | plain (s : List Char)
  | token (t : τ)

variable {τ : Type}

/-- Put a stretch, held in reverse, on a list of pieces that is itself in reverse. -/
def pushPlain (stretch : List Char) (pieces : List (Piece τ)) : List (Piece τ) :=
  if stretch.isEmpty then pieces else .plain stretch.reverse :: pieces

/-- Segment what is left of a text. `skip` characters still belong to the last token, `stretch` is
the open stretch and `pieces` are the finished pieces, both in reverse. -/
def segmentFrom (read : List Char → Option (τ × Nat)) :
    Nat → List Char → List (Piece τ) → List Char → List (Piece τ)
  | _, stretch, pieces, [] => (pushPlain stretch pieces).reverse
  | skip + 1, stretch, pieces, _ :: cs => segmentFrom read skip stretch pieces cs
  | 0, stretch, pieces, c :: cs =>
    match read (c :: cs) with
    | some (t, n) => segmentFrom read (n - 1) [] (.token t :: pushPlain stretch pieces) cs
    | none => segmentFrom read 0 (c :: stretch) pieces cs

/-- Cut a text at every token that the reader finds. -/
def segment (read : List Char → Option (τ × Nat)) (s : List Char) : List (Piece τ) :=
  segmentFrom read 0 [] [] s

/-- The tokens of a text, in order. -/
def tokens (read : List Char → Option (τ × Nat)) (s : List Char) : List τ :=
  (segment read s).filterMap fun
    | .plain _ => none
    | .token t => some t

/-- Write something else for every token. -/
def replaceTokens (read : List Char → Option (τ × Nat)) (write : τ → List Char) (s : List Char) :
    List Char :=
  (segment read s).flatMap fun
    | .plain s => s
    | .token t => write t

/-! ## Reading without gaps -/

variable {ε : Type}

/-- Read on from where `skip` characters still belong to the last item; `items` are the items so
far, in reverse. -/
def itemsFrom (read : List Char → Except ε (τ × Nat)) :
    Nat → List τ → List Char → List τ × Option ε
  | _, items, [] => (items.reverse, none)
  | skip + 1, items, _ :: cs => itemsFrom read skip items cs
  | 0, items, c :: cs =>
    match read (c :: cs) with
    | .ok (t, n) => itemsFrom read (n - 1) (t :: items) cs
    | .error e => (items.reverse, some e)

/-- Read a text as items that follow one another: the items up to the end or up to the
first fault. -/
def items (read : List Char → Except ε (τ × Nat)) (s : List Char) : List τ × Option ε :=
  itemsFrom read 0 [] s

end MediaScraper.Text
