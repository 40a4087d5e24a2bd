import MediaScraper.Interpreter.Basic
import MediaScraper.Pattern.Basic
import MediaScraper.Repair
import MediaScraper.Template

/-!
# How rules run

A rule whose condition does not hold is passed over, with all that is below it. Otherwise its
children run first, and then the rule itself: it takes its input, matches its expression, renders
its output for every match that counts, and writes it to its target. A text that asks for a call is
replaced by the outcome of the call before it is written.
-/

namespace MediaScraper.Interpreter

/-! ## Reading -/

/-- The text of a register as rules read it: repaired, and with its settings put in. -/
def readRegister (t : Interpreter) (registers : Registers) (i : Nat) : String :=
  Template.fillProperties (Repair.buffer (registers.get i)) ⟨fun _ => "", t.settings.value⟩

/-- What templates refer to. -/
def source (t : Interpreter) (registers : Registers) : Template.Source :=
  ⟨t.readRegister registers, t.settings.value⟩

/-- The input that a rule names: the registers it refers to, one after the other, or else the text
itself. -/
def resolveInput (t : Interpreter) (registers : Registers) (input : String) : String :=
  match Template.references input with
  | [] => Template.fillProperties input (t.source registers)
  | references => .join (references.map (t.readRegister registers))

/-- Does a condition hold? A flag that is missing or no flag at all counts as set; `!` turns it
round. -/
def holds (t : Interpreter) (condition : String) : Bool :=
  match condition.toList with
  | '!' :: key => !(t.settings.flag? (.ofList key)).getD true
  | key => (t.settings.flag? (.ofList key)).getD true

/-- The texts of the groups of a match, the whole match first. Markup is taken out where it is not
to be kept. -/
def groupTexts (e : Expression) (m : Pattern.Match) : List String :=
  (some m.whole :: m.groups).mapIdx fun i span =>
    let raw := String.ofList ((span.map Pattern.Span.text).getD [])
    if e.keepsMarkup i then raw else Html.clean raw

/-! ## Writing -/

/-- The outcome of a call in place of a text. -/
def outcome (text : String) (write : String → String) : Except CallFailure String → String
  | .ok result => write result
  | .error failure => failure.marker text

/-- Replace a text that asks for calls by their outcome: first that of an element, which `site?`
finds, then that of a chain. -/
def dispatchWith (site? : String → Option Html.CallSite) (call : Caller) (text : String) :
    Run String := do
  let text ←
    match site? text with
    | some site => pure (outcome text id (← call site.routine site.payload))
    | none => pure text
  match Call.chain? text with
  | some (routine, payload) =>
    pure (outcome text (Call.chainResult routine) (← call routine payload))
  | none => pure text

/-- Replace a text that asks for calls by their outcome. Only a hinted text is read as HTML. -/
def dispatch (call : Caller) (text : String) : Run String := dispatchWith Call.site? call text

/-- Write a text to a register, after the calls that it asks for. -/
def write (call : Caller) (target : Nat) (append : Bool) (text : String) : Run Unit := do
  let text ← dispatch call text
  Run.modifyRegisters fun r => if append then r.append target text else r.set target text

/-- Render an output for a match, and write it. -/
def writeMatch (t : Interpreter) (call : Caller) (output : String) (target : Nat) (append : Bool)
    (groups : List String) : Run Unit := do
  let registers := (← get).registers
  write call target append (Template.render output groups (t.source registers))

/-- Append the output for each of these matches. -/
def writeFurther (t : Interpreter) (call : Caller) (output : String) (target : Nat)
    (e : Expression) : List Pattern.Match → Run Unit
  | [] => pure ()
  | m :: ms => do
    t.checkpoint
    t.writeMatch call output target true (groupTexts e m)
    t.writeFurther call output target e ms

/-- Write the output for the matches of an expression in an input. -/
def writeMatches (t : Interpreter) (call : Caller) (output : String) (target : Nat) (append : Bool)
    (e : Expression) (input : String) : Run Unit := do
  let registers := (← get).registers
  let pattern := Pattern.compile (Template.fillRegisters e.pattern (t.source registers))
  let found := if e.repeats then pattern.findAll input else (pattern.firstMatch? input).toList
  match found with
  | [] => if e.clearOnNoMatch then write call target false "" else pure ()
  | m :: ms =>
    t.writeMatch call output target append (groupTexts e m)
    t.writeFurther call output target e ms

/-! ## Rules -/

/-- Run a rule without its children. Without an expression the whole input counts as group 1. -/
def act (t : Interpreter) (call : Caller) (input output : String) (target : Nat) (append : Bool)
    (expression : Option Expression) : Run Unit := do
  let registers := (← get).registers
  let input := t.resolveInput registers input
  match expression.filter fun e => !e.isBlank with
  | some e => t.writeMatches call output target append e input
  | none => t.writeMatch call output target append ["", input]

mutual

/-- Run a rule. -/
def runRule (t : Interpreter) (call : Caller) : Rule → Run Unit
  | .mk input output target append condition children expression =>
    if condition.all t.holds then do
      t.runRules call children
      t.act call input output target append expression
    else pure ()

/-- Run rules one after the other. -/
def runRules (t : Interpreter) (call : Caller) : List Rule → Run Unit
  | [] => pure ()
  | rule :: rules => do
    t.checkpoint
    t.runRule call rule
    t.runRules call rules

end

/-- Run a routine: its result is what its target holds in the end. -/
def runRoutine (t : Interpreter) (call : Caller) (routine : Routine) (inputs : List String) :
    Run String := do
  Run.modifyRegisters fun r => (if routine.clearsOnEntry then .empty else r).load inputs
  t.runRules call routine.rules
  return t.readRegister (← get).registers routine.target

end MediaScraper.Interpreter
