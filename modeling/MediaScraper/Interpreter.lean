import MediaScraper.Interpreter.Rule

/-!
# Running routines

Rules may ask for routines, whose rules may ask for others. The nesting of calls is bounded by a
*reserve*: a run whose reserve is used up gives no answer. Where the limits bound the depth of
calls, that bound is reserve enough; a reserve that was enough once stays enough when it grows.

A called routine gets its payload in register 1. Whether it clears the registers or not, what it
writes is gone when it ends, and only its result is left.
-/

namespace MediaScraper.Interpreter

/-- The routine that a call is for, unless the call fails. -/
def callee (t : Interpreter) (depth : Nat) (name : String) : Except CallFailure Routine :=
  if allBlank name then .error .emptyName
  else
    match t.scraper.find? name with
    | none => .error (.unknownRoutine name)
    | some routine =>
      match t.limits.callDepth with
      | some limit => if limit ≤ depth then .error (.tooDeep limit) else .ok routine
      | none => .ok routine

/-- Answer the calls of a routine that is itself nested to a depth. -/
def answer (t : Interpreter) (depth : Nat) (reserve : Nat) : Caller := fun name payload => do
  match t.callee depth name with
  | .error failure =>
    Run.record ⟨depth, name, some failure⟩
    return .error failure
  | .ok routine =>
    Run.record ⟨depth, name, none⟩
    match reserve with
    | 0 => Run.exhausted
    | reserve + 1 =>
      let result ← Run.onOwnRegisters (← get).registers
        (t.runRoutine (t.answer (depth + 1) reserve) routine ["", payload])
      return .ok result

/-- Run the routine of a name; there is nothing to do for a name that no routine has. -/
def runNamed (t : Interpreter) (reserve : Nat) (name : String) (inputs : List String) :
    Run String :=
  match t.scraper.find? name with
  | none => pure ""
  | some routine => t.runRoutine (t.answer 0 reserve) routine inputs

/-- The reserve of a run: the bound on the depth of calls, or more than any run could use. -/
def reserve (t : Interpreter) : Nat := t.limits.callDepth.getD 0x100000000

/-- What a run leaves: its result or why it was stopped, and the registers. -/
structure Ending where
  result : Except Interruption String
  registers : Registers

/-- Run a routine on given registers, with a given reserve. -/
def endingWith? (t : Interpreter) (reserve : Nat) (registers : Registers) (name : String)
    (inputs : List String) : Option Ending :=
  ((t.runNamed reserve name inputs).run.run ⟨registers, [], 0⟩).map fun r => ⟨r.1, r.2.registers⟩

/-- Run a routine on given registers. -/
def ending? (t : Interpreter) (registers : Registers) (name : String) (inputs : List String) :
    Option Ending :=
  t.endingWith? t.reserve registers name inputs

/-- Run a routine on empty registers. -/
def result? (t : Interpreter) (name : String) (inputs : List String) :
    Option (Except Interruption String) :=
  (t.ending? .empty name inputs).map (·.result)

/-- The result of a routine on empty registers, or the empty text if the run was stopped. -/
def text? (t : Interpreter) (name : String) (inputs : List String) : Option String :=
  (t.result? name inputs).map fun r => r.toOption.getD ""

end MediaScraper.Interpreter
