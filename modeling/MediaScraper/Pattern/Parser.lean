import MediaScraper.Pattern.CharClass
import MediaScraper.Pattern.Regex
import MediaScraper.Text.Numeral
import MediaScraper.Text.Search

/-!
# Reading patterns

A pattern is read from the left with the flags in force (`Flags`) and the open groups on a stack.
Patterns start out case-insensitive, with `^` and `$` at lines and with `.` matching every
character.

What is not accepted is not told apart: reading gives nothing. Not accepted are, among others,
assertions about what stands before or behind, back references, escapes of letters without a
meaning, operators with nothing to repeat, unknown properties, two groups of one name, sets that
only exist for bytes, and nesting deeper than 250.
-/

namespace MediaScraper.Pattern

/-! ## Flags -/

/-- What the flags of a pattern say. -/
structure Flags where
  ignoreCase : Bool
  multiLine : Bool
  dotAll : Bool
  /-- Repetitions prefer few rounds, and many with a question mark. -/
  swapGreed : Bool
  unicode : Bool
  /-- Lines end with a carriage return, a line feed or both. -/
  anyLineEnds : Bool
  /-- Blanks and comments in the pattern do not count. -/
  verbose : Bool

/-- The flags at the start of a pattern. -/
def Flags.initial : Flags := ⟨true, true, true, false, true, false, false⟩

/-- Set the flag of a letter. -/
def Flags.set? (fl : Flags) (on : Bool) : Char → Option Flags
  | 'i' => some { fl with ignoreCase := on }
  | 'm' => some { fl with multiLine := on }
  | 's' => some { fl with dotAll := on }
  | 'U' => some { fl with swapGreed := on }
  | 'u' => some { fl with unicode := on }
  | 'R' => some { fl with anyLineEnds := on }
  | 'x' => some { fl with verbose := on }
  | _ => none

/-- The flags of a group or directive, up to `:` or `)`, and what follows. No letter and no minus
sign stands twice, and a letter follows the minus sign. -/
def readFlags (fl : Flags) (seen : List Char) (negated : Bool) :
    List Char → Option (Flags × List Char × List Char)
  | [] => none
  | c :: cs =>
    if c = ':' ∨ c = ')' then
      if seen.head? = some '-' then none else some (fl, seen, c :: cs)
    else if seen.contains c then none
    else if c = '-' then readFlags fl ('-' :: seen) true cs
    else
      match fl.set? (!negated) c with
      | some fl => readFlags fl (c :: seen) negated cs
      | none => none

/-! ## Blanks and numbers -/

/-- Drop blanks and comments; a comment goes from `#` to the end of the line. -/
def dropVerbose (inComment : Bool) : List Char → List Char
  | [] => []
  | c :: cs =>
    if inComment then dropVerbose (c ≠ '\n') cs
    else if isBlank c then dropVerbose false cs
    else if c = '#' then dropVerbose true cs
    else c :: cs

/-- Drop what does not count before the next character. -/
def Flags.skip (fl : Flags) (cs : List Char) : List Char :=
  if fl.verbose then dropVerbose false cs else cs

/-- The digits at the beginning of a text, between which verbose blanks do not count. -/
def readDigits (fl : Flags) : Nat → List Char → List Char → List Char × List Char
  | 0, digits, cs => (digits.reverse, cs)
  | n + 1, digits, cs =>
    match cs with
    | c :: rest =>
      if c.isDigit then readDigits fl n (c :: digits) (fl.skip rest) else (digits.reverse, cs)
    | [] => (digits.reverse, [])

/-- A count: digits with blanks around. Nothing inside when there are no digits; no result when it
is too large. -/
def readCount (fl : Flags) (cs : List Char) : Option (Option Nat × List Char) :=
  let cs := cs.dropWhile isBlank
  let (digits, cs) := readDigits fl cs.length [] cs
  let cs := fl.skip (cs.dropWhile isBlank)
  if digits.isEmpty then some (none, cs)
  else
    match Numeral.readUnsigned 10 0xFFFFFFFF digits with
    | .ok n => some (some n, cs)
    | .error _ => none

/-- The bounds of a counted repetition, given what follows its brace. -/
def readBounds (fl : Flags) (cs : List Char) : Option (Nat × Option Nat × List Char) := do
  let (low, cs) ← readCount fl (fl.skip cs)
  let low ← low
  match cs with
  | ',' :: cs =>
    let cs := fl.skip cs
    match cs with
    | '\x7d' :: cs => return (low, none, cs)
    | _ =>
      let (high, cs) ← readCount fl cs
      let high ← high
      match cs with
      | '\x7d' :: cs => if low ≤ high then return (low, some high, cs) else none
      | _ => none
  | '\x7d' :: cs => return (low, some low, cs)
  | _ => none

/-! ## Escapes -/

/-- What an escape stands for. -/
inductive Escaped where
  /-- A character; whether it is written as two digits in base sixteen. -/
  | char (c : Char) (asByte : Bool)
  | look (l : Look)
  | set (s : CharSet)

/-- The character of a number in base sixteen. -/
def ofHex? (digits : List Char) : Option Char :=
  match Numeral.readUnsigned 16 0xFFFFFFFF digits with
  | .ok n => if n.isValidChar then some (Char.ofNat n) else none
  | .error _ => none

/-- So many digits in base sixteen, between which verbose blanks do not count. -/
def readHexDigits (fl : Flags) : Nat → List Char → List Char → Option (List Char × List Char)
  | 0, digits, cs => some (digits.reverse, cs)
  | n + 1, digits, cs =>
    match cs with
    | c :: rest =>
      if (Numeral.digit? 16 c).isSome then readHexDigits fl n (c :: digits) (fl.skip rest) else none
    | [] => none

/-- What stands before the closing brace, and what follows it; verbose blanks do not count. -/
def readBraced (fl : Flags) : Nat → List Char → List Char → Option (List Char × List Char)
  | 0, _, _ => none
  | n + 1, body, cs =>
    match fl.skip cs with
    | [] => none
    | '\x7d' :: rest => some (body.reverse, rest)
    | c :: rest => readBraced fl n (c :: body) rest

/-- A character by its number, given the number of digits where no brace follows. -/
def readHex (fl : Flags) (count : Nat) (cs : List Char) : Option (Escaped × List Char) :=
  match fl.skip cs with
  | '{' :: rest => do
    let (digits, rest) ← readBraced fl rest.length.succ [] rest
    return (.char (← ofHex? digits) false, fl.skip rest)
  | cs => do
    let (digits, rest) ← readHexDigits fl count [] cs
    return (.char (← ofHex? digits) (count = 2), rest)

/-- Close a set up to case if case does not count, then negate it. -/
def foldAndNegate (fl : Flags) (negated : Bool) (s : CharSet) : CharSet :=
  let s := if fl.ignoreCase then CaseFolding.close s else s
  if negated then s.compl else s

/-- The class of a property, given what follows `\p`. Only Unicode has properties. -/
def readProperty (fl : Flags) (negated : Bool) (cs : List Char) : Option (CharSet × List Char) :=
  if fl.unicode then
    match fl.skip cs with
    | [] => none
    | '{' :: rest => do
      let (body, rest) ← readBraced fl rest.length.succ [] rest
      let (s, differs) ←
        match Text.breakAt? ['!', '='] body with
        | some (name, value) => (CharClass.ofValue? name value).map (·, true)
        | none =>
          match Text.breakAt? [':'] body <|> Text.breakAt? ['='] body with
          | some (name, value) => (CharClass.ofValue? name value).map (·, false)
          | none => (CharClass.ofName? body).map (·, false)
      return (foldAndNegate fl (negated != differs) s, rest)
    | c :: rest =>
      if c = '\\' then none
      else do return (foldAndNegate fl negated (← CharClass.ofName? [c]), fl.skip rest)
  else none

/-- The class of a letter. Without Unicode, a negated one would match single bytes. -/
def letterClass (fl : Flags) (negated : Bool) (letter : CharClass.Letter) : Option Escaped :=
  if fl.unicode then
    some (.set (if negated then (letter.set true).compl else letter.set true))
  else if negated then none
  else some (.set (letter.set false))

/-- A word edge in braces, given what follows the opening brace. What does not begin like one is
left to be read as a repetition. -/
def readWordEdge (fl : Flags) (cs : List Char) : Option (Option (WordEdge × List Char)) :=
  let isNameChar (c : Char) : Bool := c.isAlpha || c = '-'
  match fl.skip cs with
  | [] => none
  | c :: rest =>
    if isNameChar c then do
      let (body, rest) ← readBraced fl (c :: rest).length.succ [] (c :: rest)
      let edge ←
        match String.ofList body with
        | "start" => some WordEdge.start
        | "end" => some .stop
        | "start-half" => some .startHalf
        | "end-half" => some .stopHalf
        | _ => none
      return some (edge, rest)
    else some none

/-- Characters that mean something in a pattern. -/
def isMeta (c : Char) : Bool := "\\.+*?()|[]\x7b\x7d^$#&-~".toList.contains c

/-- Other characters that may be escaped without need: those of ASCII, but for letters, digits and
angles. -/
def isEscapable (c : Char) : Bool :=
  c.toNat < 0x80 && !c.isAlphanum && c ≠ '<' && c ≠ '>'

/-- An escape, given what follows the backslash. -/
def readEscape (fl : Flags) (cs : List Char) : Option (Escaped × List Char) :=
  let word (edge : WordEdge) : Escaped := .look (.word edge fl.unicode)
  match cs with
  | [] => none
  | c :: rest =>
    match c with
    | 'x' => readHex fl 2 rest
    | 'u' => readHex fl 4 rest
    | 'U' => readHex fl 8 rest
    | 'p' => do let (s, rest) ← readProperty fl false rest; return (.set s, rest)
    | 'P' => do let (s, rest) ← readProperty fl true rest; return (.set s, rest)
    | 'd' => do return (← letterClass fl false .digit, rest)
    | 'D' => do return (← letterClass fl true .digit, rest)
    | 's' => do return (← letterClass fl false .space, rest)
    | 'S' => do return (← letterClass fl true .space, rest)
    | 'w' => do return (← letterClass fl false .word, rest)
    | 'W' => do return (← letterClass fl true .word, rest)
    | 'a' => some (.char '\x07' false, rest)
    | 'f' => some (.char '\x0c' false, rest)
    | 't' => some (.char '\t' false, rest)
    | 'n' => some (.char '\n' false, rest)
    | 'r' => some (.char '\r' false, rest)
    | 'v' => some (.char '\x0b' false, rest)
    | 'A' => some (.look .textStart, rest)
    | 'z' => some (.look .textEnd, rest)
    | 'b' =>
      match rest with
      | '{' :: inner =>
        match readWordEdge fl inner with
        | none => none
        | some (some (edge, after)) => some (word edge, after)
        | some none => some (word .boundary, rest)
      | _ => some (word .boundary, rest)
    | 'B' => some (word .interior, rest)
    | '<' => some (word .start, rest)
    | '>' => some (word .stop, rest)
    | c => if isMeta c ∨ isEscapable c then some (.char c false, rest) else none

/-! ## Sets in brackets -/

/-- Items of a set that stand side by side: their ranges, how many they are, and the depth of the
deepest. -/
structure ItemUnion where
  ranges : List CharRange
  count : Nat
  depth : Nat

namespace ItemUnion

def empty : ItemUnion := ⟨[], 0, 0⟩

def add (u : ItemUnion) (ranges : List CharRange) (depth : Nat) : ItemUnion :=
  ⟨ranges ++ u.ranges, u.count + 1, max u.depth depth⟩

/-- The depth of the items taken together. -/
def joinedDepth (u : ItemUnion) : Nat := if u.count ≤ 1 then u.depth else u.depth + 1

end ItemUnion

inductive SetOperator where
  | intersection
  | difference
  | symmetricDifference

def SetOperator.apply : SetOperator → CharSet → CharSet → CharSet
  | .intersection => CharSet.inter
  | .difference => CharSet.diff
  | .symmetricDifference => CharSet.symmDiff

/-- What is open while a set is read: brackets with the items before them, or an operator with its
left side. -/
inductive SetFrame where
  | bracket (negated : Bool) (outer : ItemUnion)
  | operator (op : SetOperator) (lhs : CharSet) (depth : Nat)

/-- Close characters up to case, as far as case does not count. Without Unicode, case is that of
ASCII. -/
def foldSet (fl : Flags) (s : CharSet) : CharSet :=
  if fl.ignoreCase then
    if fl.unicode then CaseFolding.close s
    else (CaseFolding.close (s.inter CharClass.ascii)).inter CharClass.ascii |>.union s
  else s

/-- The set of items, after the operators that wait for their right side, and its depth. -/
def finishOperand (fl : Flags) (u : ItemUnion) : List SetFrame → CharSet × Nat × List SetFrame
  | .operator op lhs depth :: frames =>
    (op.apply (foldSet fl lhs) (foldSet fl (.ofRanges u.ranges)), max depth u.joinedDepth + 1,
      frames)
  | frames => (.ofRanges u.ranges, u.joinedDepth, frames)

/-- Close and negate a set. Without Unicode, what is left must be of ASCII. -/
def finishSet (fl : Flags) (negated : Bool) (s : CharSet) : Option CharSet :=
  let s := foldSet fl s
  if fl.unicode then some (if negated then s.compl else s)
  else if negated then none
  else if (s.diff CharClass.ascii).isEmpty then some s
  else none

/-- The literal hyphens, or else the bracket, that may follow the opening of a set. -/
def readLeading (fl : Flags) (u : ItemUnion) : Nat → List Char → ItemUnion × List Char
  | 0, cs => (u, cs)
  | n + 1, cs =>
    match cs with
    | '-' :: rest => readLeading fl (u.add [⟨0x2D, 0x2D⟩] 0) n (fl.skip rest)
    | ']' :: rest =>
      if u.count = 0 then (u.add [⟨0x5D, 0x5D⟩] 0, fl.skip rest) else (u, cs)
    | _ => (u, cs)

/-- The opening of a set, given what follows its bracket: whether it is negated, and its first
items. -/
def openSet (fl : Flags) (cs : List Char) : Option (Bool × ItemUnion × List Char) :=
  match fl.skip cs with
  | [] => none
  | '^' :: rest =>
    let (u, rest) := readLeading fl .empty cs.length (fl.skip rest)
    if rest.isEmpty then none else some (true, u, rest)
  | cs =>
    let (u, rest) := readLeading fl .empty cs.length cs
    if rest.isEmpty then none else some (false, u, rest)

/-- A named class such as `[:alpha:]`, given what follows its first bracket. -/
def readBracketName (cs : List Char) : Option (Bool × CharSet × List Char) :=
  match cs with
  | ':' :: rest =>
    let (negated, rest) := match rest with
      | '^' :: rest => (true, rest)
      | rest => (false, rest)
    match Text.breakAt? [':'] rest with
    | some (name, ']' :: rest) => (CharClass.bracketName? name).map fun s => (negated, s, rest)
    | _ => none
  | _ => none

/-- An item of a set: a character, or what an escape stands for. -/
def readSetItem (fl : Flags) (cs : List Char) : Option (Escaped × List Char) :=
  match cs with
  | [] => none
  | '\\' :: rest => readEscape fl rest
  | c :: rest => some (.char c false, rest)

/-- The ranges of an item that is no range. Without Unicode, characters of sets are of ASCII. -/
def itemRanges (fl : Flags) : Escaped → Option (List CharRange)
  | .char c _ => if fl.unicode || c.toNat < 0x80 then some [⟨c.toNat, c.toNat⟩] else none
  | .set s => some s.ranges
  | .look _ => none

/-- An item or a range of two characters. -/
def readRange (fl : Flags) (cs : List Char) : Option (List CharRange × List Char) := do
  let (first, rest) ← readSetItem fl cs
  match fl.skip rest with
  | [] => none
  | '-' :: behind =>
    match fl.skip behind with
    | ']' :: _ | '-' :: _ => return (← itemRanges fl first, '-' :: behind)
    | behind =>
      let (last, rest) ← readSetItem fl behind
      match first, last with
      | .char a _, .char b _ =>
        if a ≤ b ∧ (fl.unicode ∨ b.toNat < 0x80) then return ([⟨a.toNat, b.toNat⟩], rest) else none
      | _, _ => none
  | rest => return (← itemRanges fl first, rest)

/-- Read a set from inside of its brackets: the set, its depth and what follows. -/
def readSetFrom (fl : Flags) :
    Nat → List SetFrame → ItemUnion → List Char → Option (CharSet × Nat × List Char)
  | 0, _, _, _ => none
  | n + 1, frames, u, cs =>
    let operator (op : SetOperator) (rest : List Char) :=
      let (lhs, depth, frames) := finishOperand fl u frames
      readSetFrom fl n (.operator op lhs depth :: frames) .empty rest
    match fl.skip cs with
    | [] => none
    | '[' :: rest =>
      match readBracketName rest with
      | some (negated, s, rest) =>
        match finishSet fl negated s with
        | some s => readSetFrom fl n frames (u.add s.ranges 0) rest
        | none => none
      | none =>
        match openSet fl rest with
        | some (negated, inner, rest) => readSetFrom fl n (.bracket negated u :: frames) inner rest
        | none => none
    | ']' :: rest =>
      let (s, depth, frames) := finishOperand fl u frames
      match frames with
      | .bracket negated outer :: frames =>
        match finishSet fl negated s with
        | none => none
        | some s =>
          if frames.isEmpty then some (s, depth + 1, rest)
          else readSetFrom fl n frames (outer.add s.ranges (depth + 1)) rest
      | _ => none
    | '&' :: '&' :: rest => operator .intersection rest
    | '-' :: '-' :: rest => operator .difference rest
    | '~' :: '~' :: rest => operator .symmetricDifference rest
    | cs =>
      match readRange fl cs with
      | some (ranges, rest) => readSetFrom fl n frames (u.add ranges 0) rest
      | none => none

/-- Read a set, given what follows its opening bracket. -/
def readSet (fl : Flags) (cs : List Char) : Option (CharSet × Nat × List Char) := do
  let (negated, u, rest) ← openSet fl cs
  readSetFrom fl cs.length.succ [.bracket negated .empty] u rest

/-! ## Patterns -/

/-- A part of a concatenation, with the depth of its nesting. A directive that sets flags is no part
that can be repeated. -/
structure Item where
  regex : Regex
  depth : Nat
  directive : Bool

/-- What is around a group: the group's index if it captures, the flags and parts before it, and the
alternatives before those. -/
structure GroupFrame where
  index : Option Nat
  flags : Flags
  items : List Item
  branches : List (Regex × Nat)

/-- What has been read: the flags in force, the parts of the current alternative and the
alternatives before it, the latest first; the open groups, innermost first; the number of captured
groups and their names. -/
structure Progress where
  flags : Flags
  items : List Item
  branches : List (Regex × Nat)
  frames : List GroupFrame
  groups : Nat
  names : List (List Char)

def Progress.start : Progress := ⟨.initial, [], [], [], 0, []⟩

/-- The greatest depth of nesting that is accepted. -/
def nestLimit : Nat := 250

/-- The parts of an alternative as one expression, and its depth. -/
def finishBranch (items : List Item) : Regex × Nat :=
  let depth := items.foldl (fun d i => max d i.depth) 0
  match items with
  | [] => (.empty, 0)
  | [i] => (i.regex, i.depth)
  | _ => (.concat (items.reverse.map (·.regex)), depth + 1)

/-- The alternatives of a group as one expression, and its depth. -/
def finishGroup (items : List Item) (branches : List (Regex × Nat)) : Regex × Nat :=
  match branches with
  | [] => finishBranch items
  | _ =>
    let all := (finishBranch items :: branches).reverse
    (.alternatives (all.map (·.1)), all.foldl (fun d b => max d b.2) 0 + 1)

/-- The character that a pattern writes plainly or as an escape. -/
def literal (fl : Flags) (c : Char) (asByte : Bool) : Option Regex :=
  let single := CharSet.singleton c.toNat
  if fl.unicode then some (.set (foldSet fl single))
  else if c.toNat < 0x80 then some (.set (foldSet fl single))
  else if asByte then none
  else some (.set single)

/-- The set of a dot. Without Unicode it would match single bytes. -/
def dot (fl : Flags) : Option Regex :=
  if fl.unicode then
    some (.set (if fl.dotAll then .all
      else if fl.anyLineEnds then (⟨[⟨0xA, 0xA⟩, ⟨0xD, 0xD⟩]⟩ : CharSet).compl
      else (CharSet.singleton 0xA).compl))
  else none

def lineStart (fl : Flags) : Look :=
  if fl.multiLine then (if fl.anyLineEnds then .anyLineStart else .lineStart) else .textStart

def lineEnd (fl : Flags) : Look :=
  if fl.multiLine then (if fl.anyLineEnds then .anyLineEnd else .lineEnd) else .textEnd

namespace Progress

def add (p : Progress) (r : Regex) (depth : Nat) : Progress :=
  { p with items := ⟨r, depth, false⟩ :: p.items }

/-- Repeat the last part. Behind the operator, a question mark changes the preference. -/
def repeatLast (p : Progress) (min : Nat) (max : Option Nat) (cs : List Char) :
    Option (Progress × List Char) :=
  match p.items with
  | [] => none
  | last :: items =>
    if last.directive then none
    else
      let (lazy', cs) := match cs with
        | '?' :: cs => (true, cs)
        | cs => (false, cs)
      let r := last.regex.mkRepeated min max (lazy' == p.flags.swapGreed)
      some ({ p with items := ⟨r, last.depth + 1, false⟩ :: items }, cs)

/-- Open a group. -/
def openGroup (p : Progress) (index : Option Nat) (inner : Flags) : Progress :=
  { p with
    flags := inner, items := [], branches := []
    frames := ⟨index, p.flags, p.items, p.branches⟩ :: p.frames }

/-- Close the innermost group. -/
def closeGroup (p : Progress) : Option Progress :=
  match p.frames with
  | [] => none
  | f :: frames =>
    let (r, depth) := finishGroup p.items p.branches
    let r := match f.index with
      | some index => Regex.capture index r
      | none => r
    some { p with
      flags := f.flags, frames, branches := f.branches
      items := ⟨r, depth + 1, false⟩ :: f.items }

end Progress

def isNumber (c : Char) : Bool :=
  digitChars.contains c || (CharSet.ofRuns Category.nl).contains c ||
    (CharSet.ofRuns Category.no).contains c

/-- A character of a group's name. -/
def isNameChar (first : Bool) (c : Char) : Bool :=
  c = '_' || (CharSet.ofRuns Property.alphabetic).contains c ||
    (!first && (c = '.' || c = '[' || c = ']' || isNumber c))

/-- The name of a group, given what follows its angle. -/
def readName (cs : List Char) : Option (List Char × List Char) :=
  match Text.breakAt? ['>'] cs with
  | some (c :: name, rest) =>
    if isNameChar true c && name.all (isNameChar false) then some (c :: name, rest) else none
  | _ => none

/-- What opens with a parenthesis, given what follows it. -/
def readGroup (p : Progress) (cs : List Char) : Option (Progress × List Char) :=
  let cs := p.flags.skip cs
  let named (rest : List Char) : Option (Progress × List Char) := do
    let (name, rest) ← readName rest
    if p.names.contains name then none
    else
      let p := { p with groups := p.groups + 1, names := name :: p.names }
      return (p.openGroup (some p.groups) p.flags, rest)
  match cs with
  | '?' :: '=' :: _ | '?' :: '!' :: _ | '?' :: '<' :: '=' :: _ | '?' :: '<' :: '!' :: _ => none
  | '?' :: 'P' :: '<' :: rest => named rest
  | '?' :: '<' :: rest => named rest
  | '?' :: rest =>
    match readFlags p.flags [] false rest with
    | none => none
    | some (fl, _, ':' :: rest) => some (p.openGroup none fl, rest)
    | some (fl, seen, rest) =>
      if seen.isEmpty then none
      else some ({ p with flags := fl, items := ⟨.empty, 0, true⟩ :: p.items }, rest.tail)
  | _ =>
    let p := { p with groups := p.groups + 1 }
    some (p.openGroup (some p.groups) p.flags, cs)

/-- Read what stands at the beginning of the rest of a pattern. -/
def Progress.step (p : Progress) (c : Char) (cs : List Char) : Option (Progress × List Char) :=
  match c with
  | '(' => readGroup p cs
  | ')' => p.closeGroup.map (·, cs)
  | '|' => some ({ p with items := [], branches := finishBranch p.items :: p.branches }, cs)
  | '[' => do
    let (s, depth, rest) ← readSet p.flags cs
    return (p.add (.set s) depth, rest)
  | '?' => p.repeatLast 0 (some 1) cs
  | '*' => p.repeatLast 0 none cs
  | '+' => p.repeatLast 1 none cs
  | '{' => do
    let (min, max, rest) ← readBounds p.flags cs
    p.repeatLast min max (p.flags.skip rest)
  | '\\' => do
    let (e, rest) ← readEscape p.flags cs
    match e with
    | .char c asByte => return (p.add (← literal p.flags c asByte) 0, rest)
    | .look l => return (p.add (.look l) 0, rest)
    | .set s => return (p.add (.set s) 0, rest)
  | '.' => do return (p.add (← dot p.flags) 0, cs)
  | '^' => some (p.add (.look (lineStart p.flags)) 0, cs)
  | '$' => some (p.add (.look (lineEnd p.flags)) 0, cs)
  | c => do return (p.add (← literal p.flags c false) 0, cs)

/-- Read the rest of a pattern; every step takes a character. -/
def Progress.run : Nat → Progress → List Char → Option Progress
  | 0, p, cs => if cs.isEmpty then some p else none
  | n + 1, p, cs =>
    match p.flags.skip cs with
    | [] => some p
    | c :: cs =>
      match p.step c cs with
      | some (p, cs) => p.run n cs
      | none => none

/-- Read a pattern. -/
def parse? (pattern : List Char) : Option Regex := do
  let p ← Progress.start.run pattern.length pattern
  if p.frames.isEmpty then
    let (r, depth) := finishGroup p.items p.branches
    if depth ≤ nestLimit then return r else none
  else none

end MediaScraper.Pattern
