import MediaScraper.Proofs.Interpreter.Traversal

/-!
# Flat routines

Where settings are fixed, so are the conditions of rules. So the rules of a routine can be written
as one list without conditions: the rules that run at all, each behind its children
(`Rule.flatAll`).

**One routine.** Rules and their flat list are the same run, if nothing stops it on the way
(`runRules_flatAll`). In particular a rule whose condition fails does nothing, and nothing below it
does.

**All routines.** A call runs another routine, whose rules are flat, too. By induction on the
reserve, calls are answered alike (`answer_flat`), so a scraper and the flat one run alike
(`endingWith?_flat`).
-/

namespace MediaScraper

mutual

/-- The rules that run when a rule does, in order, without conditions and children. -/
def Rule.flat (holds : String → Bool) : Rule → List Rule
  | .mk input output target append condition children expression =>
    if condition.all holds then
      Rule.flatAll holds children ++ [.mk input output target append none [] expression]
    else []

/-- The rules that run when these do, in order, without conditions and children. -/
def Rule.flatAll (holds : String → Bool) : List Rule → List Rule
  | [] => []
  | rule :: rules => rule.flat holds ++ Rule.flatAll holds rules

end

def Routine.flat (holds : String → Bool) (r : Routine) : Routine :=
  { r with rules := Rule.flatAll holds r.rules }

def Scraper.flat (holds : String → Bool) (s : Scraper) : Scraper :=
  { s with routines := s.routines.map (·.flat holds) }

namespace Interpreter

/-- The interpreter of the flat scraper. -/
def flat (t : Interpreter) : Interpreter := { t with scraper := t.scraper.flat t.holds }

variable {t : Interpreter}

/-! ## One routine -/

section

variable (h : t.limits.interruption? = none) (call : Caller)
include h

mutual

theorem runRules_flat : ∀ rule : Rule, t.runRules call (rule.flat t.holds) = t.runRule call rule
  | .mk input output target append condition children expression => by
    rw [Rule.flat, runRule]
    split
    · rw [runRules_append, runRules_flatAll children, runRules_cons h, runRule, runRules]
      simp
    · rw [runRules]

/-- **Rules run as their flat list does.** -/
theorem runRules_flatAll : ∀ rules : List Rule,
    t.runRules call (Rule.flatAll t.holds rules) = t.runRules call rules
  | [] => rfl
  | rule :: rules => by
    rw [Rule.flatAll, runRules_append, runRules_flat rule, runRules_flatAll rules,
      runRules_cons h]

end

end

/-! ## All routines -/

theorem runRules_congr (t t' : Interpreter) (hs : t.settings = t'.settings)
    (hl : t.limits = t'.limits) (call : Caller) (rules : List Rule) :
    t.runRules call rules = t'.runRules call rules := by
  have hrelated :
      Related (Rule.readsOf rules) (Rule.targetsOf rules) (fun x y => x = y) t t' call call :=
    { Run.congruence_eq _ _ with
      settings := hs
      checkpoint := by rw [checkpoint, checkpoint, hl]
      call := fun _ _ => rfl }
  exact hrelated.runRules rules (fun _ hi => hi) fun _ hi => hi

theorem runRoutine_flat (h : t.limits.interruption? = none) (call : Caller) (routine : Routine)
    (inputs : List String) :
    t.flat.runRoutine call (routine.flat t.holds) inputs = t.runRoutine call routine inputs := by
  have hrules : t.flat.runRules call (routine.flat t.holds).rules =
      t.runRules call routine.rules :=
    calc t.flat.runRules call (routine.flat t.holds).rules
        = t.runRules call (Rule.flatAll t.holds routine.rules) :=
          runRules_congr t.flat t rfl rfl call _
      _ = t.runRules call routine.rules := runRules_flatAll h call routine.rules
  have hread : t.flat.readRegister = t.readRegister := readRegister_congr rfl
  rw [runRoutine, runRoutine, hrules, hread]
  rfl

theorem find?_flat (holds : String → Bool) (s : Scraper) (name : String) :
    (s.flat holds).find? name = (s.find? name).map (·.flat holds) := by
  rw [Scraper.find?, Scraper.flat, List.find?_map]
  rfl

theorem callee_flat (depth : Nat) (name : String) :
    t.flat.callee depth name = (t.callee depth name).map (·.flat t.holds) :=
  callee_map (show t.flat.limits.callDepth = t.limits.callDepth from rfl)
    (find?_flat t.holds t.scraper name) depth

/-- **Calls are answered alike** by an interpreter and the flat one. -/
theorem answer_flat (h : t.limits.interruption? = none) (depth reserve : Nat) :
    t.flat.answer depth reserve = t.answer depth reserve := by
  induction reserve generalizing depth with
  | zero =>
    funext name payload
    rw [answer, answer, callee_flat]
    cases t.callee depth name <;> rfl
  | succ reserve ih =>
    funext name payload
    rw [answer, answer, callee_flat]
    cases t.callee depth name with
    | error failure => rfl
    | ok routine =>
      simp only [Except.map, ih, runRoutine_flat h]

theorem runNamed_flat (h : t.limits.interruption? = none) (reserve : Nat) (name : String)
    (inputs : List String) :
    t.flat.runNamed reserve name inputs = t.runNamed reserve name inputs := by
  rw [runNamed, runNamed, show t.flat.scraper = t.scraper.flat t.holds from rfl, find?_flat]
  cases t.scraper.find? name with
  | none => rfl
  | some routine => simp only [Option.map_some, answer_flat h, runRoutine_flat h]

/-- A rule whose condition fails can be left out, with all that is below it. -/
theorem runRules_skip (h : t.limits.interruption? = none) (call : Caller) {rule : Rule}
    (hrule : rule.condition.all t.holds = false) (before after : List Rule) :
    t.runRules call (before ++ rule :: after) = t.runRules call (before ++ after) := by
  have hskip : t.runRule call rule = pure () := by
    cases rule with
    | mk input output target append condition children expression =>
      have hcondition : condition.all t.holds = false := hrule
      rw [runRule, if_neg (by rw [hcondition]; decide)]
  rw [runRules_append, runRules_append, runRules_cons h, hskip, pure_bind]

/-- **A scraper and the flat one run alike**, whatever the reserve, if nothing stops them: they end
for the same reserves, with the same result and the same registers. A rule whose condition fails
makes no difference anywhere. -/
theorem endingWith?_flat (hc : t.limits.cancelled = false) (he : t.limits.expired = false) :
    (∀ reserve registers name inputs,
      t.flat.endingWith? reserve registers name inputs =
        t.endingWith? reserve registers name inputs) ∧
      ∀ (call : Caller) (rule : Rule), rule.condition.all t.holds = false → ∀ before after,
        t.runRules call (before ++ rule :: after) = t.runRules call (before ++ after) := by
  have h : t.limits.interruption? = none := by
    rw [Limits.interruption?, hc, he]
    rfl
  refine ⟨fun reserve registers name inputs => ?_, fun call rule hrule => ?_⟩
  · rw [endingWith?, endingWith?, runNamed_flat h]
  · exact runRules_skip h call hrule

/-- A rule with a condition that holds where there are no settings. Its child has one that fails. -/
def nestedRule : Rule :=
  .mk "$$1" "<\\1>" 2 false (some "on") [.mk "$$1" "" 1 false (some "!on") [] none] none

def nestedSample : Interpreter :=
  ⟨⟨"sample", [⟨"Find", true, 2, false, [nestedRule]⟩]⟩, .empty, .none⟩

theorem endingWith?_flat_nestedSample :
    nestedSample.limits.cancelled = false ∧ nestedSample.limits.expired = false ∧
      nestedSample.flat.endingWith? 0 .empty "Find" ["", "x"] =
        nestedSample.endingWith? 0 .empty "Find" ["", "x"] ∧
      nestedSample.runRules (nestedSample.answer 0 0) (nestedRule.children ++ [nestedRule]) =
        nestedSample.runRules (nestedSample.answer 0 0) [nestedRule] := by
  obtain ⟨hflat, hskip⟩ := endingWith?_flat (t := nestedSample) rfl rfl
  refine ⟨rfl, rfl, hflat 0 .empty "Find" ["", "x"], ?_⟩
  exact hskip _ (.mk "$$1" "" 1 false (some "!on") [] none) (by decide) [] [nestedRule]

end Interpreter
end MediaScraper
