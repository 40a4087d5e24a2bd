import MediaScraper.Call
import MediaScraper.Failure
import MediaScraper.Registers
import MediaScraper.Scraper.Basic
import MediaScraper.Settings

/-!
# Runs

A run works on a `Machine`: the registers, and a record of the calls that texts have asked for. It
ends in one of three ways: with a value, stopped from outside, or without an answer, when the bound
on the nesting of calls is used up (`Run`). The registers are kept even if the run is stopped.

A run can be stopped at its checkpoints only. There it looks whether it has been cancelled, and
whether its deadline is over. When that comes to be seen is up to the outside, so it is given with
the limits: by the number of checkpoints that are passed before.
-/

namespace MediaScraper

/-- What bounds a run. -/
structure Limits where
  /-- The greatest nesting of calls. -/
  callDepth : Option Nat
  /-- Is the run cancelled, from some checkpoint on? -/
  cancelled : Bool
  /-- Is the deadline over, from that checkpoint on? -/
  expired : Bool
  /-- The number of checkpoints before that one. -/
  delay : Nat := 0

namespace Limits

/-- No limits. -/
def none : Limits := ⟨.none, false, false, 0⟩

/-- Why a run has to stop behind the delay; a cancelled run is not asked for its deadline. -/
def interruption? (l : Limits) : Option Interruption :=
  if l.cancelled then some .cancelled else if l.expired then some .deadlineExceeded else .none

end Limits

/-- A call that a text asked for. -/
structure CallRecord where
  /-- The nesting of the rule that wrote the text. -/
  depth : Nat
  routine : String
  /-- Why the routine was not run. -/
  failure : Option CallFailure
deriving DecidableEq

/-- What a run works on. -/
structure Machine where
  registers : Registers
  /-- The calls so far, the newest first. -/
  calls : List CallRecord
  /-- The checkpoints passed so far, where there is one to stop the run. -/
  passed : Nat

/-- An interpreter of scrapers. -/
structure Interpreter where
  scraper : Scraper
  settings : Settings
  limits : Limits

/-- A run that gives a value. -/
abbrev Run := ExceptT Interruption (StateT Machine Option)

namespace Run

/-- A run that gives no answer. -/
def exhausted {α : Type} : Run α := fun _ => none

/-- Change the registers. -/
def modifyRegisters (f : Registers → Registers) : Run Unit :=
  modify fun m => { m with registers := f m.registers }

/-- Note a call. -/
def record (call : CallRecord) : Run Unit := modify fun m => { m with calls := call :: m.calls }

/-- Pass a checkpoint. -/
def pass : Run Unit := modify fun m => { m with passed := m.passed + 1 }

/-- Run on registers of its own; the registers of the caller come back afterwards. -/
def onOwnRegisters {α : Type} (own : Registers) (run : Run α) : Run α := fun m =>
  (run { m with registers := own }).map fun (result, after) =>
    (result, { after with registers := m.registers })

end Run

namespace Interpreter

/-- How a call to a routine with a payload is answered. -/
abbrev Caller := String → String → Run (Except CallFailure String)

/-- Stop here if the run has to. -/
def checkpoint (t : Interpreter) : Run Unit :=
  match t.limits.interruption? with
  | some e => do
    if t.limits.delay ≤ (← get).passed then throw e else Run.pass
  | none => pure ()

end Interpreter
end MediaScraper
