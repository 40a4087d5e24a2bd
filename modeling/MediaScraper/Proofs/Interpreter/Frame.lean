import MediaScraper.Proofs.Interpreter.Traversal
import MediaScraper.Proofs.Registers

/-!
# What a run leaves alone

A routine writes the targets of its own rules, children included. Every other register holds in the
end what it held when the rules began: its input, or else what it held on entry
(`get_of_endingWith?`).

Calls do not matter for that: they work on registers of their own, so they leave all registers of
their caller as they are (`keeps_answer`), at any depth, and also if they are stopped.
-/

namespace MediaScraper

namespace Run

variable {α β γ : Type} {look : Registers → γ}

/-! ## Runs that keep registers -/

/-- However the run ends, the registers look as they did. -/
def Keeps (look : Registers → γ) (x : Run α) : Prop :=
  ∀ m r after, x m = some (r, after) → look after.registers = look m.registers

theorem keeps_pure (a : α) : Keeps look (pure a : Run α) := by
  intro m r after h
  cases h
  rfl

theorem keeps_get : Keeps look (get : Run Machine) := by
  intro m r after h
  cases h
  rfl

theorem keeps_record (call : CallRecord) : Keeps look (record call) := by
  intro m r after h
  cases h
  rfl

theorem keeps_exhausted : Keeps look (exhausted : Run α) := by
  intro m r after h
  cases h

/-- What is done on registers of its own does not show. -/
theorem keeps_onOwnRegisters (own : Registers) (x : Run α) :
    Keeps look (onOwnRegisters own x) := by
  intro m r after h
  obtain ⟨⟨r', after'⟩, -, heq⟩ := Option.map_eq_some_iff.1 h
  cases heq
  rfl

theorem Keeps.bind {x : Run α} {f : α → Run β} (hx : Keeps look x) (hf : ∀ a, Keeps look (f a)) :
    Keeps look (x >>= f) := by
  intro m r after h
  rcases bind_eq_some.1 h with ⟨a, m', hfirst, hrest⟩ | ⟨e, hfirst, -⟩
  · rw [hf a m' r after hrest, hx m _ m' hfirst]
  · exact hx m _ after hfirst

theorem congruence_keeps (reads : List Nat) {targets : List Nat} {i : Nat} (hi : i ∉ targets) :
    Congruence reads targets (fun x _ => Keeps (·.get i) x) where
  pure := keeps_pure
  bind := Keeps.bind
  look hf := keeps_get.bind fun m => hf m m fun _ _ => rfl
  write target ht append text := by
    have hne : target ≠ i := fun heq => hi (heq ▸ ht)
    intro m r after h
    obtain ⟨-, rfl⟩ := modifyRegisters_eq_some h
    cases append with
    | true => exact Registers.get_append_of_ne hne _ text
    | false => exact Registers.get_set_of_ne hne _ text

end Run

namespace Interpreter

open Run

variable {γ : Type} {look : Registers → γ} {t : Interpreter}

/-! ## Calls -/

theorem keeps_checkpoint (t : Interpreter) : Keeps look t.checkpoint := by
  intro m r after h
  obtain ⟨r', n, hcheckpoint⟩ := checkpoint_apply t m
  rw [hcheckpoint] at h
  cases h
  rfl

/-- **Calls leave the registers of their caller alone**, at any depth and however they end. -/
theorem keeps_answer (t : Interpreter) (depth reserve : Nat) (name payload : String) :
    Keeps look (t.answer depth reserve name payload) := by
  unfold answer
  cases t.callee depth name with
  | error failure => exact (keeps_record _).bind fun _ => keeps_pure _
  | ok routine =>
    refine (keeps_record _).bind fun _ => ?_
    cases reserve with
    | zero => exact keeps_exhausted
    | succ reserve =>
      refine keeps_get.bind fun m => ?_
      exact (keeps_onOwnRegisters _ _).bind fun _ => keeps_pure _

/-! ## Routines -/

/-- A register that is no target is kept by every part of a run. -/
theorem related_keeps (reads : List Nat) {targets : List Nat} {i : Nat} (hi : i ∉ targets)
    (depth reserve : Nat) :
    Related reads targets (fun x _ => Keeps (·.get i) x) t t (t.answer depth reserve)
      (t.answer depth reserve) :=
  { congruence_keeps reads hi with
    settings := rfl
    checkpoint := keeps_checkpoint t
    call := keeps_answer t depth reserve }

theorem keeps_runRule {rule : Rule} {i : Nat} (hi : i ∉ rule.targets) (depth reserve : Nat) :
    Keeps (·.get i) (t.runRule (t.answer depth reserve) rule) :=
  (related_keeps rule.reads hi depth reserve).runRule rule (fun _ hj => hj) fun _ hj => hj

theorem keeps_runRules {rules : List Rule} {i : Nat} (hi : i ∉ Rule.targetsOf rules)
    (depth reserve : Nat) : Keeps (·.get i) (t.runRules (t.answer depth reserve) rules) :=
  (related_keeps (Rule.readsOf rules) hi depth reserve).runRules rules (fun _ hj => hj)
    fun _ hj => hj

/-- **The frame of a routine.** A register that is no target of its rules holds in the end its
input, or else what the routine found there after clearing, at whichever checkpoint the run has been
stopped, if at all. What is called meanwhile, at any depth, leaves all registers of its caller as
they are. -/
theorem get_of_endingWith? {reserve : Nat} {registers : Registers} {name : String}
    {inputs : List String} {ending : Ending} {routine : Routine}
    (hfind : t.scraper.find? name = some routine)
    (h : t.endingWith? reserve registers name inputs = some ending) :
    (∀ i < Registers.count, i ∉ routine.targets → ending.registers.get i =
      inputs[i]?.getD (if routine.clearsOnEntry then "" else registers.get i)) ∧
      ∀ depth reserve name payload m r after,
        t.answer depth reserve name payload m = some (r, after) →
        after.registers = m.registers := by
  refine ⟨fun i hcount hi => ?_, fun depth reserve name payload =>
    (keeps_answer t depth reserve name payload : Keeps id _)⟩
  obtain ⟨after, hrun, hregisters⟩ := endingWith?_eq_some h
  rw [runNamed, hfind] at hrun
  obtain ⟨r, hrules, -⟩ := runRoutine_eq_some hrun
  have hkept : after.registers.get i =
      ((if routine.clearsOnEntry then .empty else registers).load inputs).get i :=
    keeps_runRules hi 0 reserve _ _ _ hrules
  rw [hregisters, hkept, Registers.get_load hcount]
  cases routine.clearsOnEntry with
  | true => rw [if_pos rfl, if_pos rfl, Registers.get_empty]
  | false => rfl

/-- Two routines of one rule each, which write register 2 and register 3. -/
def twoRoutines : Interpreter :=
  ⟨⟨"sample", [⟨"Find", false, 2, false, [.mk "$$1" "found" 2 false none [] none]⟩,
    ⟨"Make", true, 3, false, [.mk "$$1" "made" 3 false none [] none]⟩]⟩, .empty, .none⟩

/-- A routine of two rules, between which it is cancelled. -/
def halfway : Interpreter :=
  ⟨⟨"sample", [⟨"Find", false, 2, false, [.mk "$$1" "found" 2 false none [] none,
    .mk "$$1" "missed" 3 false none [] none]⟩]⟩, .empty, ⟨none, true, false, 1⟩⟩

theorem get_of_endingWith?_twoRoutines :
    (∃ ending, halfway.endingWith? 0 (.set .empty 5 "kept") "Find" ["", "x"] = some ending ∧
      (ending.result, ending.registers.get 2) = (.error .cancelled, "found") ∧
      ending.registers.get 1 = "x" ∧ ending.registers.get 5 = "kept") ∧
    (∃ ending, twoRoutines.endingWith? 0 (.set .empty 5 "kept") "Find" ["", "x"] = some ending ∧
      ending.registers.get 1 = "x" ∧ ending.registers.get 5 = "kept") ∧
      ∃ r after, twoRoutines.answer 0 1 "Make" "p" ⟨.set .empty 3 "kept", [], 0⟩ = some (r, after) ∧
        after.registers = .set .empty 3 "kept" := by
  have hstopped : (halfway.endingWith? 0 (.set .empty 5 "kept") "Find" ["", "x"]).map
      (fun ending => (ending.result, ending.registers.get 2)) =
        some (.error .cancelled, "found") := by
    decide
  have hends :
      (twoRoutines.endingWith? 0 (.set .empty 5 "kept") "Find" ["", "x"]).isSome = true := by
    decide
  have hanswered :
      (twoRoutines.answer 0 1 "Make" "p" ⟨.set .empty 3 "kept", [], 0⟩).isSome = true := by
    decide
  obtain ⟨stopped, hstop, hresult⟩ := Option.map_eq_some_iff.1 hstopped
  obtain ⟨ending, hending⟩ := Option.isSome_iff_exists.1 hends
  obtain ⟨⟨r, after⟩, hafter⟩ := Option.isSome_iff_exists.1 hanswered
  obtain ⟨hframe, hcalls⟩ := get_of_endingWith? rfl hending
  obtain ⟨hframe', -⟩ := get_of_endingWith? rfl hstop
  exact ⟨⟨stopped, hstop, hresult, hframe' 1 (by decide) (by decide),
      hframe' 5 (by decide) (by decide)⟩,
    ⟨ending, hending, hframe 1 (by decide) (by decide), hframe 5 (by decide) (by decide)⟩,
    r, after, hafter, hcalls 0 1 "Make" "p" _ r after hafter⟩

end Interpreter
end MediaScraper
