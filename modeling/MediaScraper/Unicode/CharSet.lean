/-!
# Sets of characters as sorted ranges

A set of characters is a list of ranges of scalar values. The operations keep the list in
*normal form*: ranges are non-empty, in increasing order, and no two of them touch. Surrogate
code points are never members, so `0xD7FF` and `0xE000` count as neighbours.

Membership reads the list from the left and stops at the first range that lies above the
character, which is right on a sorted list.
-/

namespace MediaScraper

/-- The scalar values from `lo` to `hi`, both included. -/
structure CharRange where
  lo : Nat
  hi : Nat
deriving DecidableEq

/-- A set of characters, as ranges in increasing order. -/
structure CharSet where
  ranges : List CharRange
deriving DecidableEq

namespace CharSet

/-- The greatest scalar value. -/
def maxScalar : Nat := 0x10FFFF

def empty : CharSet := ⟨[]⟩

/-- All characters: every code point outside the surrogates. -/
def all : CharSet := ⟨[⟨0, 0xD7FF⟩, ⟨0xE000, maxScalar⟩]⟩

def singleton (n : Nat) : CharSet := ⟨[⟨n, n⟩]⟩

def range (lo hi : Nat) : CharSet := ⟨[⟨lo, hi⟩]⟩

def containsFrom (n : Nat) : List CharRange → Bool
  | [] => false
  | r :: rs => if n < r.lo then false else n ≤ r.hi || containsFrom n rs

/-- Is the character with this scalar value in the set? -/
def containsScalar (s : CharSet) (n : Nat) : Bool := containsFrom n s.ranges

def contains (s : CharSet) (c : Char) : Bool := s.containsScalar c.toNat

def isEmpty (s : CharSet) : Bool := s.ranges.isEmpty

/-- The number of characters, when the ranges do not overlap. -/
def size (s : CharSet) : Nat := s.ranges.foldr (fun r n => r.hi + 1 - r.lo + n) 0

/-! ## Normal form -/

/-- Put a range in front of ranges that start no earlier, joining it with those it touches. -/
def joinFrom (r : CharRange) : List CharRange → List CharRange
  | [] => [r]
  | q :: qs => if q.lo ≤ r.hi + 1 then joinFrom ⟨r.lo, max r.hi q.hi⟩ qs else r :: joinFrom q qs

/-- Join the neighbours of a list of ranges that is sorted by its lower ends. -/
def joinSorted : List CharRange → List CharRange
  | [] => []
  | r :: rs => joinFrom r rs

/-- The part of a range outside the surrogates. -/
def dropSurrogates (r : CharRange) : List CharRange :=
  [⟨r.lo, min r.hi 0xD7FF⟩, ⟨max r.lo 0xE000, r.hi⟩].filter fun q => q.lo ≤ q.hi

/-- The set covered by ranges in any order. -/
def ofRanges (rs : List CharRange) : CharSet :=
  ⟨joinSorted ((rs.flatMap dropSurrogates).mergeSort fun a b => a.lo ≤ b.lo)⟩

/-! ## Operations -/

def union (s t : CharSet) : CharSet := ofRanges (s.ranges ++ t.ranges)

/-- The gaps between sorted ranges, from `lo` up to the greatest scalar value. -/
def gaps (lo : Nat) : List CharRange → List CharRange
  | [] => if lo ≤ maxScalar then [⟨lo, maxScalar⟩] else []
  | r :: rs => if lo < r.lo then ⟨lo, r.lo - 1⟩ :: gaps (r.hi + 1) rs else gaps (r.hi + 1) rs

def compl (s : CharSet) : CharSet := ofRanges (gaps 0 s.ranges)

def inter (s t : CharSet) : CharSet := (s.compl.union t.compl).compl

def diff (s t : CharSet) : CharSet := s.inter t.compl

/-- The characters that lie in exactly one of the two sets. -/
def symmDiff (s t : CharSet) : CharSet := (s.diff t).union (t.diff s)

/-! ## Runs

Tables list a set by *runs*: the length of a gap, then the length of the run of members behind it,
and so on from zero. -/

/-- The ranges of runs that start at `start`. -/
def rangesOfRuns (start : Nat) : List Nat → List CharRange
  | gap :: len :: rest =>
    ⟨start + gap, start + gap + len - 1⟩ :: rangesOfRuns (start + gap + len) rest
  | _ => []

def ofRuns (runs : List Nat) : CharSet := ⟨rangesOfRuns 0 runs⟩

end CharSet
end MediaScraper
