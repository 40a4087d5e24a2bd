import MediaScraper.Pattern.Regex

/-!
# Matching programs

A regular expression is compiled to instructions that name those that follow them. Compilation goes
from the end: an expression is compiled for the instruction that comes after it (`next`), which
gives the instruction at which it is entered. Where a choice has several ways on, an earlier one has
precedence.
-/

namespace MediaScraper.Pattern

/-- One instruction of a program. -/
inductive Instruction where
  /-- Take one character of the set. -/
  | take (s : CharSet) (next : Nat)
  | look (l : Look) (next : Nat)
  /-- Remember the place under a number: twice the index of a group for its start, and one more for
  its end. -/
  | save (slot : Nat) (next : Nat)
  /-- Go on in one of two ways, the first with precedence. -/
  | choose (first second : Nat)
  | accept
deriving Inhabited

/-- Instructions, and the one at which matching starts. -/
structure Program where
  code : Array Instruction
  entry : Nat

namespace Program

/-- The program that accepts at once. -/
def accepting : Program := ⟨#[.accept], 0⟩

/-- Enter at a new instruction. -/
def push (p : Program) (i : Instruction) : Program :=
  let entry := p.code.size
  ⟨p.code.push i, entry⟩

/-- A choice that prefers its first way, or its second if it is not greedy. -/
def choice (greedy : Bool) (first second : Nat) : Instruction :=
  if greedy then .choose first second else .choose second first

/-- Do something to a program so many times. -/
def iterate (f : Program → Program) : Nat → Program → Program
  | 0, p => p
  | n + 1, p => iterate f n (f p)

/-- One round or more: a loop that is left to where the program was entered before. -/
def loop (body : Program → Program) (greedy : Bool) (p : Program) : Program :=
  let again := p.code.size
  let exit := p.entry
  let ⟨code, entry⟩ := body (p.push .accept)
  ⟨code.setIfInBounds again (choice greedy entry exit), entry⟩

/-- No round or more, of a body that always takes a character: the loop is entered at its choice. -/
def loopFromChoice (body : Program → Program) (greedy : Bool) (p : Program) : Program :=
  let again := p.code.size
  ⟨(loop body greedy p).code, again⟩

/-- At most one round; leaving goes on at `exit`. -/
def optionalTo (exit : Nat) (body : Program → Program) (greedy : Bool) (p : Program) : Program :=
  let q := body p
  q.push (choice greedy q.entry exit)

/-- A repetition of `body`, which takes a character in every round if `consuming`. -/
def repetition (body : Program → Program) (consuming : Bool) (min : Nat) (max : Option Nat)
    (greedy : Bool) (p : Program) : Program :=
  match max with
  | some max => iterate body min (iterate (optionalTo p.entry body greedy) (max - min) p)
  | none =>
    match min with
    | 0 =>
      if consuming then loopFromChoice body greedy p
      else optionalTo p.entry (loop body greedy) greedy p
    | min + 1 => iterate body min (loop body greedy p)

end Program

/-- Put an expression in front of a program. -/
def Regex.compile : Regex → Program → Program
  | empty, p => p
  | set s, p => p.push (.take s p.entry)
  | look l, p => p.push (.look l p.entry)
  | capture index r, p =>
    let q := r.compile (p.push (.save (2 * index + 1) p.entry))
    q.push (.save (2 * index) q.entry)
  | cat a b, p => a.compile (b.compile p)
  | alt a b, p =>
    let exit := p.entry
    let ⟨code, second⟩ := b.compile p
    let q := a.compile ⟨code, exit⟩
    q.push (.choose q.entry second)
  | repeated min max greedy r, p => Program.repetition r.compile r.consumes min max greedy p

/-- The program of a whole expression, which captures the match as group zero. -/
def Regex.program (r : Regex) : Program := (capture 0 r).compile .accepting

end MediaScraper.Pattern
