import MediaScraper.Pattern.Regex

/-!
# The size of a pattern

Patterns must not grow without bound: counted repetitions are written out, so a short pattern can
ask for a huge automaton. The measure is that of an automaton over the bytes of UTF-8. A state takes
32 bytes, each way on of a choice four more, and each range of bytes of a state with several ranges
eight more. The pattern is measured once for reading forwards, with its groups, and once for reading
backwards, without them. Neither may take more than ten million bytes.

A set of characters beyond ASCII becomes sequences of byte ranges (`sequences`). Forwards they make
a tree in which equal subtrees are shared; backwards, equal beginnings are shared.

What is counted is an automaton that is built part by part. One that is made smaller before it is
measured, say by sharing how two alternatives begin, may be accepted where this one is not, so what
is said about patterns that are not accepted is said for every such bound (`Pattern.compileWith`).
-/

namespace MediaScraper.Pattern.Size

/-- The greatest size that is accepted. -/
def limit : Nat := 10000000

def state : Nat := 32

/-! ## Sets as sequences of byte ranges -/

/-- A range of bytes. -/
abbrev ByteRange := Nat × Nat

/-- The bytes of a character in UTF-8. -/
def encode (n : Nat) : List Nat :=
  if n < 0x80 then [n]
  else if n < 0x800 then [0xC0 + n / 0x40, 0x80 + n % 0x40]
  else if n < 0x10000 then [0xE0 + n / 0x1000, 0x80 + n / 0x40 % 0x40, 0x80 + n % 0x40]
  else [0xF0 + n / 0x40000, 0x80 + n / 0x1000 % 0x40, 0x80 + n / 0x40 % 0x40, 0x80 + n % 0x40]

/-- The greatest characters of one, two and three bytes. -/
def lengthBounds : List Nat := [0x7F, 0x7FF, 0xFFFF]

/-- The place behind which a range must be cut so that its parts have a fixed number of bytes and
vary in whole blocks of continuation bytes. -/
def cut? (lo hi : Nat) : Option Nat :=
  match lengthBounds.find? fun m => lo ≤ m ∧ m < hi with
  | some m => some m
  | none =>
    if hi < 0x80 then none
    else
      [0x40, 0x1000, 0x40000].findSome? fun block =>
        if lo / block = hi / block then none
        else if lo % block ≠ 0 then some (lo / block * block + block - 1)
        else if hi % block ≠ block - 1 then some (hi / block * block - 1)
        else none

/-- The sequences of byte ranges of the characters from `lo` to `hi`; `fuel` bounds the number of
cuts on the way to one of them. -/
def sequences (lo hi : Nat) : Nat → List (List ByteRange)
  | 0 => []
  | fuel + 1 =>
    match cut? lo hi with
    | some m => sequences lo m fuel ++ sequences (m + 1) hi fuel
    | none => [(encode lo).zip (encode hi)]

def setSequences (s : CharSet) : List (List ByteRange) :=
  s.ranges.flatMap fun r => sequences r.lo r.hi 64

/-- Sequences by their first range, where neighbours have the same one. -/
def groupByHead : List (List ByteRange) → List (ByteRange × List (List ByteRange))
  | [] => []
  | [] :: rest => groupByHead rest
  | (r :: tail) :: rest =>
    match groupByHead rest with
    | (q, tails) :: groups =>
      if q = r then (r, tail :: tails) :: groups else (r, [tail]) :: (q, tails) :: groups
    | [] => [(r, [tail])]

/-- A state over bytes: ranges with the states they lead to. State zero is where all
sequences end. -/
abbrev Node := List (ByteRange × Nat)

/-- The number of a node among the known ones; a new one is added. -/
def intern (nodes : List Node) (node : Node) : List Node × Nat :=
  match nodes.findIdx? (· == node) with
  | some i => (nodes, nodes.length - i)
  | none => (node :: nodes, nodes.length + 1)

/-- Share the states of sequences of at most `depth` ranges. -/
def share : Nat → List Node → List (List ByteRange) → List Node × Nat
  | 0, nodes, _ => (nodes, 0)
  | depth + 1, nodes, seqs =>
    match groupByHead seqs with
    | [] => (nodes, 0)
    | groups =>
      let (nodes, node) := groups.foldl (fun (nodes, node) (range, tails) =>
        let (nodes, target) := share depth nodes tails
        (nodes, (range, target) :: node)) (nodes, [])
      intern nodes node

/-- The number of different beginnings of sequences of at most `depth` ranges. -/
def beginnings : Nat → List (List ByteRange) → Nat
  | 0, _ => 0
  | depth + 1, seqs =>
    (groupByHead seqs).foldl (fun n group => n + 1 + beginnings depth group.2) 0

/-! ## The measure -/

/-- Is the set within ASCII? -/
def isAscii (s : CharSet) : Bool := s.ranges.all (·.hi < 0x80)

/-- The size of a set, read forwards or backwards. -/
def setSize (backwards : Bool) (s : CharSet) : Nat :=
  match s.ranges with
  | [] => state
  | [r] =>
    if r.lo = r.hi then state * (encode r.lo).length
    else if r.hi < 0x80 then 2 * state + 8
    else wide
  | _ => if isAscii s then 2 * state + 8 * s.ranges.length else wide
where
  /-- The size of a set beyond ASCII. -/
  wide : Nat :=
    let seqs := setSequences s
    if backwards then 2 * state + 4 * seqs.length + state * beginnings 4 seqs
    else
      let (nodes, _) := share 4 [] seqs
      nodes.foldr (fun node n => state + 8 * node.length + n) state

/-- The size of a repetition, given that of its body. -/
def repetitionSize (body : Nat) (consuming : Bool) (min : Nat) (max : Option Nat) : Nat :=
  match max with
  | none =>
    if min = 0 then (if consuming then body + 40 else body + 112) else min * body + 40
  | some max =>
    if min = 0 ∧ max = 1 then body + 72
    else
      (if min = 0 then state else min * body) +
        (if min = max then 0 else state + (max - min) * (body + 40))

/-- How an expression stands in the one around it. -/
inductive Context where
  | alone
  | inCat
  | inAlt

/-- The size of an expression. Parts of a concatenation that match nothing do not count, and each
alternative counts for the choice before it. -/
def size (backwards : Bool) : Context → Regex → Nat
  | .inCat, .empty => 0
  | .inAlt, .empty => state + 4
  | .alone, .empty => state
  | ctx, .set s => setSize backwards s + asBranch ctx
  | ctx, .look _ => state + asBranch ctx
  | ctx, .capture _ r =>
    (if backwards then 0 else 2 * state) + size backwards .alone r + asBranch ctx
  | ctx, .cat a b => size backwards .inCat a + size backwards .inCat b + asBranch ctx
  | .inAlt, .alt a b => size backwards .inAlt a + size backwards .inAlt b
  | _, .alt a b => 2 * state + size backwards .inAlt a + size backwards .inAlt b
  | ctx, .repeated min max _ r =>
    repetitionSize (size backwards .alone r) r.consumes min max + asBranch ctx
where
  /-- What a branch of a choice adds. -/
  asBranch : Context → Nat
    | .inAlt => 4
    | _ => 0

/-- The states around every pattern: an end, and a loop to the place where matching starts. -/
def surroundings : Nat := 104

/-- Is the pattern small enough, in both directions? -/
def fits (r : Regex) : Bool :=
  size false .alone r + surroundings + 2 * state ≤ limit &&
    size true .alone r + surroundings ≤ limit

end MediaScraper.Pattern.Size
