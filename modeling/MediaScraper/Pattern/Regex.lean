import MediaScraper.Unicode.CharSet
import MediaScraper.Unicode.Word

/-!
# Regular expressions

A regular expression whose flags have been resolved: sets of characters, conditions on a place of
the text, captured groups, and their combinations. Among the ways to match, earlier alternatives
come first, and a repetition prefers more rounds, or fewer if it is not greedy.
-/

namespace MediaScraper.Pattern

/-- A condition on whether word characters stand before and behind a place. -/
inductive WordEdge where
  | boundary
  | interior
  | start
  | stop
  | startHalf
  | stopHalf
deriving DecidableEq

/-- A condition on a place of the text. -/
inductive Look where
  | textStart
  | textEnd
  | lineStart
  | lineEnd
  /-- At the start of a line, where lines end with a carriage return, a line feed or both. -/
  | anyLineStart
  | anyLineEnd
  /-- Word characters are those of Unicode, or else those of ASCII. -/
  | word (edge : WordEdge) (unicode : Bool)
deriving DecidableEq

/-- A regular expression. -/
inductive Regex where
  | empty
  /-- One character of the set. -/
  | set (s : CharSet)
  | look (l : Look)
  | capture (index : Nat) (r : Regex)
  | cat (a b : Regex)
  | alt (a b : Regex)
  /-- From `min` up to `max` rounds. -/
  | repeated (min : Nat) (max : Option Nat) (greedy : Bool) (r : Regex)
deriving Inhabited

namespace Regex

/-- Is every match of the expression empty, because it only looks? -/
def onlyLooks : Regex → Bool
  | empty => true
  | set _ => false
  | look _ => true
  | capture _ r => r.onlyLooks
  | cat a b => a.onlyLooks && b.onlyLooks
  | alt a b => a.onlyLooks && b.onlyLooks
  | repeated _ _ _ r => r.onlyLooks

/-- Does every match of the expression take a character, as far as its shape tells? -/
def consumes : Regex → Bool
  | empty => false
  | set s => !s.isEmpty
  | look _ => false
  | capture _ r => r.consumes
  | cat a b => a.consumes || b.consumes
  | alt a b => a.consumes && b.consumes
  | repeated min _ _ r => 0 < min && r.consumes

/-- The greatest index of a captured group. -/
def groupCount : Regex → Nat
  | empty | set _ | look _ => 0
  | capture index r => max index r.groupCount
  | cat a b => max a.groupCount b.groupCount
  | alt a b => max a.groupCount b.groupCount
  | repeated _ _ _ r => r.groupCount

/-! ## Building -/

/-- Repeat an expression. What can only look is repeated at most once; no round at all leaves
nothing, not even the groups inside. -/
def mkRepeated (min : Nat) (max : Option Nat) (greedy : Bool) (r : Regex) : Regex :=
  let (min, max) :=
    if r.onlyLooks then (Nat.min min 1, some ((max.map (Nat.min 1)).getD 1)) else (min, max)
  if min = 0 ∧ max = some 0 then empty
  else if min = 1 ∧ max = some 1 then r
  else repeated min max greedy r

/-- Join neighbours two by two; `joined` holds what is joined, in reverse. -/
def joinPairs (joined : List Regex) : List Regex → List Regex
  | a :: b :: rest => joinPairs (cat a b :: joined) rest
  | [r] => (r :: joined).reverse
  | [] => joined.reverse

/-- Join expressions into one until one is left, in at most this many passes. -/
def joinPasses : Nat → List Regex → Regex
  | _, [] => empty
  | _, [r] => r
  | 0, r :: rest => rest.foldl cat r
  | n + 1, rs => joinPasses n (joinPairs [] rs)

/-- One expression after the other. The tree is kept flat, as concatenations can be very long. -/
def concat (rs : List Regex) : Regex := joinPasses rs.length rs

/-- The set of an expression that is one. -/
def asSet? : Regex → Option CharSet
  | set s => some s
  | _ => none

/-- Alternatives, the first with precedence. Alternatives that are all sets make one set. -/
def alternatives (rs : List Regex) : Regex :=
  match rs with
  | [] => empty
  | [r] => r
  | r :: rest =>
    match rs.mapM asSet? with
    | some sets => set (.ofRanges (sets.flatMap (·.ranges)))
    | none => rest.foldl alt r

end Regex
end MediaScraper.Pattern
