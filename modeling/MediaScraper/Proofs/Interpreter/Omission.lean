import MediaScraper.Proofs.Interpreter.Flattening
import MediaScraper.Proofs.Interpreter.Frame
import MediaScraper.Proofs.Interpreter.Interruption
import MediaScraper.Proofs.Interpreter.Likeness

/-!
# Writes that can be left out

A rule whose target does not exist writes nothing. It may ask for calls, but these leave the
registers of their caller alone. So it can be left out, in any routine and as often as one likes
(`Rule.Omits`): where the run with the rule ends, the run without it ends, too, on the same registers
(`endingWith?_of_omits`).

Rules are left out of the flat lists of a scraper, where no rule has children. There the children of
a rule that is left out are kept.
-/

namespace MediaScraper

/-! ## Scrapers with fewer rules -/

/-- `Omits target rules rules'`: the second rules are the first ones without some that write this
register and have no children. -/
inductive Rule.Omits (target : Nat) : List Rule → List Rule → Prop
  | nil : Omits target [] []
  | keep (rule : Rule) {rules rules' : List Rule} :
      Omits target rules rules' → Omits target (rule :: rules) (rule :: rules')
  | drop {rule : Rule} {rules rules' : List Rule} :
      rule.target = target → rule.children = [] → Omits target rules rules' →
      Omits target (rule :: rules) rules'

/-- The second routine is the first one without some rules that write this register. -/
inductive Routine.Omits (target : Nat) : Routine → Routine → Prop
  | mk (routine : Routine) {rules : List Rule} :
      Rule.Omits target routine.rules rules → Omits target routine { routine with rules }

/-- The second scraper is the first one without some rules that write this register. -/
def Scraper.Omits (target : Nat) (s s' : Scraper) : Prop :=
  List.Forall₂ (Routine.Omits target) s.routines s'.routines

theorem Scraper.Omits.find? {target : Nat} {s s' : Scraper} (h : Omits target s s')
    (name : String) : Option.Rel (Routine.Omits target) (s.find? name) (s'.find? name) := by
  have hroutines : List.Forall₂ (Routine.Omits target) s.routines s'.routines := h
  unfold Scraper.find?
  generalize s.routines = rs, s'.routines = rs' at hroutines
  induction hroutines with
  | nil => exact .none
  | @cons r r' rs rs' hr _ ih =>
    have hname : r'.name = r.name := by
      obtain ⟨-⟩ := hr
      rfl
    rw [List.find?_cons, List.find?_cons, hname]
    split
    · exact .some hr
    · exact ih

namespace Run

variable {α β : Type}

/-! ## Runs that simulate others -/

/-- Where the first run ends, the second one ends, too, with the same value and on the same
registers. -/
def Simulated (x y : Run α) : Prop :=
  ∀ m m' r after, m.registers = m'.registers → x m = some (r, after) →
    ∃ after', y m' = some (r, after') ∧ after'.registers = after.registers

theorem simulated_pure (a : α) : Simulated (pure a : Run α) (pure a) := by
  rintro m m' r after hm ⟨⟩
  exact ⟨m', rfl, hm.symm⟩

theorem simulated_modifyRegisters (f : Registers → Registers) :
    Simulated (modifyRegisters f) (modifyRegisters f) := by
  rintro m m' r after hm ⟨⟩
  exact ⟨_, rfl, congrArg f hm.symm⟩

theorem simulated_record (call call' : CallRecord) :
    Simulated (record call) (record call') := by
  rintro m m' r after hm ⟨⟩
  exact ⟨_, rfl, hm.symm⟩

theorem Simulated.bind {x y : Run α} {f g : α → Run β} (hx : Simulated x y)
    (hf : ∀ a, Simulated (f a) (g a)) : Simulated (x >>= f) (y >>= g) := by
  intro m m' r after hm h
  rcases bind_eq_some.1 h with ⟨a, inner, hfirst, hrest⟩ | ⟨e, hfirst, rfl⟩
  · obtain ⟨inner', hy, hinner⟩ := hx m m' _ inner hm hfirst
    obtain ⟨after', hg, hafter⟩ := hf a inner inner' r after hinner.symm hrest
    exact ⟨after', bind_eq_some.2 (.inl ⟨a, inner', hy, hg⟩), hafter⟩
  · obtain ⟨after', hy, hafter⟩ := hx m m' _ after hm hfirst
    exact ⟨after', bind_eq_some.2 (.inr ⟨e, hy, rfl⟩), hafter⟩

theorem congruence_simulated (reads targets : List Nat) :
    Congruence reads targets (fun x y => Simulated x y) where
  pure := simulated_pure
  bind := Simulated.bind
  look hf := fun m m' r after hm h => hf m m' (fun i _ => by rw [hm]) m m' r after hm h
  write _ _ _ _ := simulated_modifyRegisters _

/-- A run that has a value and keeps the registers can be left out. -/
theorem Simulated.skip {x : Run Unit} {y z : Run β} (hcompletes : Completes x) (hkeeps : Keeps id x)
    (h : Simulated y z) : Simulated (x >>= fun _ => y) z := by
  have hx : Simulated x (pure ()) := by
    intro m m' r after hm hrun
    obtain ⟨⟨⟩, rfl⟩ := hcompletes m r after hrun
    exact ⟨m', rfl, hm.symm.trans (hkeeps m _ after hrun).symm⟩
  exact hx.bind fun _ => h

end Run

namespace Interpreter

open Run

variable {t t' : Interpreter} {target : Nat}

/-! ## Rules that write nothing -/

theorem keeps_runRule_of_count_le (htarget : Registers.count ≤ target) {rule : Rule}
    (hrule : rule.target = target) (hchildren : rule.children = []) (depth reserve : Nat) :
    Keeps id (t.runRule (t.answer depth reserve) rule) := by
  intro m r after h
  refine Registers.ext_get fun i => ?_
  by_cases hi : i = target
  · rw [hi, Registers.get_of_le htarget, Registers.get_of_le htarget]
  · refine keeps_runRule ?_ depth reserve m r after h
    cases rule with
    | mk input output target' append condition children expression =>
      obtain rfl : target' = target := hrule
      obtain rfl : children = [] := hchildren
      rw [Rule.targets, Rule.targetsOf, List.mem_singleton]
      exact hi

/-- What a rule whose target does not exist does itself keeps the registers, however it ends. -/
theorem keeps_act_of_count_le (htarget : Registers.count ≤ target) (depth reserve : Nat)
    (input output : String) (append : Bool) (expression : Option Expression) :
    Keeps id (t.act (t.answer depth reserve) input output target append expression) := by
  have hrule : Keeps id (t.runRule (t.answer depth reserve)
      (.mk input output target append none [] expression)) :=
    keeps_runRule_of_count_le htarget rfl rfl depth reserve
  rwa [runRule_unconditional, runRules, pure_bind] at hrule

section

variable (hi : t.limits.interruption? = none) (hs : t.settings = t'.settings)
  (hl : t.limits = t'.limits)
include hi hs hl

theorem related_simulated (reads targets : List Nat) {call call' : Caller}
    (hcall : ∀ name payload, Simulated (call name payload) (call' name payload)) :
    Related reads targets (fun x y => Simulated x y) t t' call call' :=
  { congruence_simulated reads targets with
    settings := hs
    checkpoint := by
      rw [checkpoint_eq_pure hi, checkpoint_eq_pure (hl ▸ hi)]
      exact simulated_pure ()
    call := hcall }

variable (htarget : Registers.count ≤ target) {depth reserve : Nat}
include htarget

/-- **Rules that write nothing can be left out** of a list, if calls are simulated. -/
theorem simulated_runRules
    (hcall : ∀ name payload, Simulated (t.answer depth reserve name payload)
      (t'.answer depth reserve name payload))
    {rules rules' : List Rule} (h : Rule.Omits target rules rules') :
    Simulated (t.runRules (t.answer depth reserve) rules)
      (t'.runRules (t'.answer depth reserve) rules') := by
  induction h with
  | nil =>
    rw [runRules, runRules]
    exact simulated_pure ()
  | keep rule _ ih =>
    have hrelated := related_simulated hi hs hl rule.reads rule.targets hcall
    rw [runRules_cons hi, runRules_cons (hl ▸ hi)]
    exact (hrelated.runRule rule (fun _ hj => hj) fun _ hj => hj).bind fun _ => ih
  | @drop rule _ _ hrule hchildren _ ih =>
    have hcompletes : Completes (t.runRule (t.answer depth reserve) rule) :=
      (stops_runRule t depth reserve rule).completes hi
    rw [runRules_cons hi]
    exact ih.skip hcompletes (keeps_runRule_of_count_le htarget hrule hchildren depth reserve)

theorem simulated_runRoutine
    (hcall : ∀ name payload, Simulated (t.answer depth reserve name payload)
      (t'.answer depth reserve name payload))
    {routine routine' : Routine} (h : Routine.Omits target routine routine')
    (inputs : List String) :
    Simulated (t.runRoutine (t.answer depth reserve) routine inputs)
      (t'.runRoutine (t'.answer depth reserve) routine' inputs) := by
  obtain ⟨hrules⟩ := h
  refine (simulated_modifyRegisters _).bind fun _ => ?_
  refine (simulated_runRules hi hs hl htarget hcall hrules).bind fun _ => ?_
  refine (congruence_simulated [routine.target] []).look fun m m' hm => ?_
  rw [readRegister_agree hs (hm _ List.mem_cons_self)]
  exact simulated_pure _

end

/-! ## Whole runs -/

/-- A call fails where it failed, and else it is for the routine without some of its rules. -/
theorem callee_of_omits (hl : t.limits = t'.limits) (h : Scraper.Omits target t.scraper t'.scraper)
    (depth : Nat) (name : String) :
    (∃ failure, t.callee depth name = .error failure ∧ t'.callee depth name = .error failure) ∨
      ∃ routine routine', t.callee depth name = .ok routine ∧
        t'.callee depth name = .ok routine' ∧ Routine.Omits target routine routine' := by
  have hfind := h.find? name
  unfold callee
  rw [← hl]
  generalize t.scraper.find? name = found, t'.scraper.find? name = found' at hfind
  split
  · exact .inl ⟨_, rfl, rfl⟩
  · cases hfind with
    | none => exact .inl ⟨_, rfl, rfl⟩
    | some hroutine =>
      simp only
      split
      · split
        · exact .inl ⟨_, rfl, rfl⟩
        · exact .inr ⟨_, _, rfl, rfl, hroutine⟩
      · exact .inr ⟨_, _, rfl, rfl, hroutine⟩

section

variable (hi : t.limits.interruption? = none) (hs : t.settings = t'.settings)
  (hl : t.limits = t'.limits) (htarget : Registers.count ≤ target)
  (h : Scraper.Omits target t.scraper t'.scraper)
include hi hs hl htarget h

/-- **Calls are answered alike**, at any depth. -/
theorem simulated_answer (depth reserve : Nat) (name payload : String) :
    Simulated (t.answer depth reserve name payload) (t'.answer depth reserve name payload) := by
  induction reserve generalizing depth name payload with
  | zero =>
    rcases callee_of_omits hl h depth name with ⟨failure, ht, ht'⟩ | ⟨routine, routine', ht, ht', -⟩
    · rw [answer_of_error ht, answer_of_error ht']
      exact (simulated_record _ _).bind fun _ => simulated_pure _
    · rw [answer_zero_of_ok ht]
      intro m m' r after hm hrun
      cases hrun
  | succ reserve ih =>
    rcases callee_of_omits hl h depth name with
      ⟨failure, ht, ht'⟩ | ⟨routine, routine', ht, ht', hroutine⟩
    · rw [answer_of_error ht, answer_of_error ht']
      exact (simulated_record _ _).bind fun _ => simulated_pure _
    · intro m m' r after hm hrun
      rw [answer_succ_apply ht] at hrun
      obtain ⟨⟨r, inner⟩, hinner, heq⟩ := Option.map_eq_some_iff.1 hrun
      cases heq
      obtain ⟨inner', hinner', -⟩ :=
        simulated_runRoutine hi hs hl htarget (ih (depth + 1)) hroutine ["", payload]
          ⟨m.registers, ⟨depth, name, none⟩ :: m.calls, m.passed⟩
          ⟨m'.registers, ⟨depth, name, none⟩ :: m'.calls, m'.passed⟩ r inner hm hinner
      refine ⟨{ inner' with registers := m'.registers }, ?_, hm.symm⟩
      rw [answer_succ_apply ht', hinner']
      rfl

theorem simulated_runNamed (reserve : Nat) (name : String) (inputs : List String) :
    Simulated (t.runNamed reserve name inputs) (t'.runNamed reserve name inputs) := by
  have hfind := h.find? name
  unfold runNamed
  generalize t.scraper.find? name = found, t'.scraper.find? name = found' at hfind
  cases hfind with
  | none => exact simulated_pure ""
  | some hroutine =>
    exact simulated_runRoutine hi hs hl htarget (simulated_answer hi hs hl htarget h 0 reserve)
      hroutine inputs

end

/-- The registers that a run finds on entry, with its inputs. -/
def entered (t : Interpreter) (registers : Registers) (name : String) (inputs : List String) :
    Registers :=
  (t.scraper.find? name).elim registers fun routine => (routine.entry registers).load inputs

theorem exists_endingWith?_of_interruption {e : Interruption}
    (hi : t.limits.interruption? = some e) (hdelay : t.limits.delay = 0) (reserve : Nat)
    (registers : Registers) (name : String)
    (inputs : List String) : ∃ result,
      t.endingWith? reserve registers name inputs =
        some ⟨result, t.entered registers name inputs⟩ := by
  have hrules (call : Caller) (rules : List Rule) (m : Machine) :
      ∃ r, t.runRules call rules m = some (r, m) := by
    have hover : t.limits.delay ≤ m.passed := hdelay.trans_le (Nat.zero_le _)
    cases rules with
    | nil =>
      rw [runRules]
      exact ⟨_, rfl⟩
    | cons rule rules => exact ⟨_, runRules_of_interruption hi call (List.cons_ne_nil _ _) hover⟩
  unfold entered endingWith? runNamed
  cases t.scraper.find? name with
  | none => exact ⟨_, rfl⟩
  | some routine =>
    obtain ⟨r, hr⟩ := hrules (t.answer 0 reserve) routine.rules
      ⟨(routine.entry registers).load inputs, [], 0⟩
    have hrun : t.runRoutine (t.answer 0 reserve) routine inputs ⟨registers, [], 0⟩ =
        (t.runRules (t.answer 0 reserve) routine.rules >>= fun _ => get >>= fun m =>
          pure (t.readRegister m.registers routine.target))
            ⟨(routine.entry registers).load inputs, [], 0⟩ := rfl
    simp only
    show ∃ result, Option.map _ (t.runRoutine _ routine inputs ⟨registers, [], 0⟩) = _
    rw [hrun, bind_apply, hr]
    cases r with
    | error e => exact ⟨_, rfl⟩
    | ok u => exact ⟨_, rfl⟩

theorem entered_of_omits (h : Scraper.Omits target (t.scraper.flat t.holds) t'.scraper)
    (registers : Registers) (name : String) (inputs : List String) :
    t'.entered registers name inputs = t.entered registers name inputs := by
  have hfind := h.find? name
  rw [find?_flat] at hfind
  unfold entered
  generalize t.scraper.find? name = found, t'.scraper.find? name = found' at hfind
  cases found with
  | none =>
    cases hfind
    rfl
  | some routine =>
    cases hfind with
    | some hroutine =>
      obtain ⟨-⟩ := hroutine
      rfl

/-- **Rules that write to a register that does not exist can be left out**, where no run is stopped
midway. Where a run ends, it ends on the same registers without them; and with the same result, if
nothing stops it. -/
theorem endingWith?_of_omits (htarget : Registers.count ≤ target) (hs : t.settings = t'.settings)
    (hl : t.limits = t'.limits)
    (hmidway : t.limits.interruption? = none ∨ t.limits.delay = 0)
    (h : Scraper.Omits target (t.scraper.flat t.holds) t'.scraper)
    {reserve : Nat} {registers : Registers} {name : String} {inputs : List String}
    {ending : Ending} (hending : t.endingWith? reserve registers name inputs = some ending) :
    ∃ ending', t'.endingWith? reserve registers name inputs = some ending' ∧
      ending'.registers = ending.registers ∧
      (t.limits.interruption? = none → ending'.result = ending.result) := by
  cases hi : t.limits.interruption? with
  | none =>
    obtain ⟨after, hrun, hregisters⟩ := endingWith?_eq_some hending
    rw [← runNamed_flat hi] at hrun
    obtain ⟨after', hrun', hafter⟩ :=
      simulated_runNamed (t := t.flat) hi hs hl htarget h reserve name inputs
        ⟨registers, [], 0⟩ ⟨registers, [], 0⟩ _ after rfl hrun
    refine ⟨⟨ending.result, after'.registers⟩, ?_, hafter.trans hregisters.symm, fun _ => rfl⟩
    show Option.map _ (t'.runNamed reserve name inputs ⟨registers, [], 0⟩) = _
    rw [hrun']
    rfl
  | some e =>
    have hdelay : t.limits.delay = 0 := hmidway.resolve_left fun hnone => by
      rw [hi] at hnone
      cases hnone
    obtain ⟨result, hresult⟩ :=
      exists_endingWith?_of_interruption hi hdelay reserve registers name inputs
    obtain ⟨result', hresult'⟩ :=
      exists_endingWith?_of_interruption (hl ▸ hi) (hl ▸ hdelay) reserve registers name inputs
    rw [hresult] at hending
    cases hending
    exact ⟨_, hresult', entered_of_omits h registers name inputs, nofun⟩

end Interpreter
end MediaScraper
