import MediaScraper.Unicode.Blank

/-!
# Scrapers

A scraper is a set of named *routines*. A routine is a list of *rules*, and a rule may hold
further rules, which run before it. Each rule matches an expression against its input and writes its
rendered output to a register.
-/

namespace MediaScraper

/-- What a rule matches against its input. -/
structure Expression where
  pattern : String
  /-- Empty the target when nothing matches. -/
  clearOnNoMatch : Bool
  /-- Go on after the first match and append every further one. -/
  repeats : Bool
  /-- The groups that keep their markup, in increasing order and each once. -/
  rawGroups : List Nat
deriving DecidableEq

namespace Expression

/-- A blank expression matches nothing: its rule renders the input as it is. -/
def isBlank (e : Expression) : Bool := allBlank e.pattern

/-- Does this group keep its markup? -/
def keepsMarkup (e : Expression) (group : Nat) : Bool := e.rawGroups.contains group

/-- Put a number in its place among increasing ones. -/
def insertGroup (n : Nat) : List Nat → List Nat
  | [] => [n]
  | m :: ms => if n < m then n :: m :: ms else if n = m then m :: ms else m :: insertGroup n ms

/-- The numbers of a list, in increasing order and each once. -/
def sortGroups (ns : List Nat) : List Nat := ns.foldr insertGroup []

end Expression

/-- A rule and the rules that run before it. -/
inductive Rule where
  | mk (input output : String) (target : Nat) (append : Bool) (condition : Option String)
      (children : List Rule) (expression : Option Expression)
deriving Inhabited

namespace Rule

/-- Where a rule finds its input, when it does not say. -/
def defaultInput : String := "$$1"

def input : Rule → String
  | mk i _ _ _ _ _ _ => i

def output : Rule → String
  | mk _ o _ _ _ _ _ => o

/-- The register that the rule writes. -/
def target : Rule → Nat
  | mk _ _ t _ _ _ _ => t

/-- Does the rule append to its target? -/
def append : Rule → Bool
  | mk _ _ _ a _ _ _ => a

/-- The flag on which the rule runs; after `!`, the flag on which it does not. -/
def condition : Rule → Option String
  | mk _ _ _ _ c _ _ => c

def children : Rule → List Rule
  | mk _ _ _ _ _ cs _ => cs

def expression : Rule → Option Expression
  | mk _ _ _ _ _ _ e => e

/-- The rule with one more child, after the others. -/
def addChild : Rule → Rule → Rule
  | mk i o t a c cs e, child => mk i o t a c (cs ++ [child]) e

/-- The rule with another expression. -/
def setExpression : Rule → Expression → Rule
  | mk i o t a c cs _, e => mk i o t a c cs (some e)

end Rule

/-- A named list of rules. -/
structure Routine where
  name : String
  /-- Empty all registers before a run. -/
  clearsOnEntry : Bool
  /-- The register that holds the result. -/
  target : Nat
  append : Bool
  rules : List Rule

/-- The routines of an addon; of two routines of one name, the first counts. -/
structure Scraper where
  id : String
  routines : List Routine

namespace Scraper

def empty (id : String) : Scraper := ⟨id, []⟩

/-- The routine of this name. -/
def find? (s : Scraper) (name : String) : Option Routine := s.routines.find? (·.name = name)

def contains (s : Scraper) (name : String) : Bool := s.routines.any (·.name = name)

/-- Add a routine, unless there is one of its name. -/
def insert (s : Scraper) (r : Routine) : Scraper :=
  if s.contains r.name then s else { s with routines := s.routines ++ [r] }

def insertAll (s : Scraper) (rs : List Routine) : Scraper := rs.foldl insert s

def size (s : Scraper) : Nat := s.routines.length

/-- The names of the routines, in the order of their characters' numbers. -/
def names (s : Scraper) : List String := (s.routines.map (·.name)).mergeSort fun a b => a ≤ b

end Scraper
end MediaScraper
