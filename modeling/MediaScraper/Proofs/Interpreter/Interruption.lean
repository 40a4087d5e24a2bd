import MediaScraper.Proofs.Interpreter.Traversal

/-!
# When a run is stopped

A run is stopped by its limits alone, for their reason and at the checkpoint behind their delay, at
whatever depth it is met (`stops_answer`, `of_runNamed_eq_error`). So where they do not interrupt,
every run that ends has a result (`Stops.completes`): a call that fails is answered by a failure,
which becomes a text. Where they do without a delay, a run is stopped before its first rule, with
the registers as they were on entry (`runRules_of_interruption`).

Together these say which runs end with an error if the limits are the same throughout, with which
one, and what the registers hold then (`error_iff_of_endingWith?`).
-/

namespace MediaScraper

namespace Run

variable {α β : Type}

/-! ## Runs that are stopped -/

/-- If the run ends, it has a value. -/
def Completes (x : Run α) : Prop := ∀ m r after, x m = some (r, after) → ∃ a, r = .ok a

/-- If the run is stopped, then for the reason of the limits. Started within the delay, it stays
within it, and is stopped where the delay is over. -/
def Stops (limits : Limits) (x : Run α) : Prop :=
  ∀ m r after, x m = some (r, after) →
    (∀ e, r = .error e → limits.interruption? = some e) ∧
      (m.passed ≤ limits.delay → after.passed ≤ limits.delay ∧
        ∀ e, r = .error e → after.passed = limits.delay)

variable {limits : Limits}

/-- A run that passes no checkpoint is not stopped. -/
theorem stops_of_ok {x : Run α}
    (h : ∀ m, ∃ a after, x m = some (.ok a, after) ∧ after.passed = m.passed) :
    Stops limits x := by
  intro m r after hrun
  obtain ⟨a, after', hok, hpassed⟩ := h m
  cases hok.symm.trans hrun
  exact ⟨nofun, fun hle => ⟨hpassed.trans_le hle, nofun⟩⟩

theorem stops_pure (a : α) : Stops limits (pure a : Run α) :=
  stops_of_ok fun m => ⟨a, m, rfl, rfl⟩

theorem stops_modify {f : Machine → Machine} (hf : ∀ m, (f m).passed = m.passed) :
    Stops limits (modify f : Run Unit) :=
  stops_of_ok fun m => ⟨(), f m, rfl, hf m⟩

theorem stops_get : Stops limits (get : Run Machine) := stops_of_ok fun m => ⟨m, m, rfl, rfl⟩

theorem stops_exhausted : Stops limits (exhausted : Run α) := by
  intro m r after h
  cases h

theorem Stops.onOwnRegisters {x : Run α} (hx : Stops limits x) (own : Registers) :
    Stops limits (Run.onOwnRegisters own x) := by
  intro m r after h
  obtain ⟨⟨r', after'⟩, hrun, heq⟩ := Option.map_eq_some_iff.1 h
  cases heq
  exact hx { m with registers := own } r after' hrun

theorem Stops.bind {x : Run α} {f : α → Run β} (hx : Stops limits x)
    (hf : ∀ a, Stops limits (f a)) : Stops limits (x >>= f) := by
  intro m r after h
  rcases bind_eq_some.1 h with ⟨a, m', hfirst, hrest⟩ | ⟨e, hfirst, rfl⟩
  · obtain ⟨hreason, hstopped⟩ := hf a m' r after hrest
    exact ⟨hreason, fun hle => hstopped ((hx m _ m' hfirst).2 hle).1⟩
  · obtain ⟨hreason, hstopped⟩ := hx m _ after hfirst
    constructor
    · rintro _ ⟨⟩
      exact hreason e rfl
    · intro hle
      obtain ⟨hafter, hpassed⟩ := hstopped hle
      refine ⟨hafter, ?_⟩
      rintro _ ⟨⟩
      exact hpassed e rfl

theorem congruence_stops (limits : Limits) (reads targets : List Nat) :
    Congruence reads targets (fun x _ => Stops limits x) where
  pure := stops_pure
  bind := Stops.bind
  look hf := stops_get.bind fun m => hf m m fun _ _ => rfl
  write _ _ _ _ := stops_modify fun _ => rfl

/-- Where the limits do not interrupt, nothing is stopped. -/
theorem Stops.completes {x : Run α} (hx : Stops limits x) (h : limits.interruption? = none) :
    Completes x := by
  intro m r after hrun
  cases r with
  | ok a => exact ⟨a, rfl⟩
  | error e => cases h.symm.trans ((hx m _ after hrun).1 e rfl)

end Run

namespace Interpreter

open Run

variable {t : Interpreter}

/-! ## Calls and routines -/

theorem stops_checkpoint (t : Interpreter) : Stops t.limits t.checkpoint := by
  cases h : t.limits.interruption? with
  | none =>
    rw [checkpoint_eq_pure h]
    exact stops_pure ()
  | some e =>
    intro m r after hrun
    rw [checkpoint_of_interruption h] at hrun
    split at hrun
    · next hover =>
      cases hrun
      refine ⟨?_, fun hle => ⟨hle, fun _ _ => Nat.le_antisymm hle hover⟩⟩
      rintro _ ⟨⟩
      exact h
    · next hover =>
      cases hrun
      exact ⟨nofun, fun _ => ⟨Nat.lt_of_not_le hover, nofun⟩⟩

theorem related_stops (t : Interpreter) (reads targets : List Nat) {call : Caller}
    (hcall : ∀ name payload, Stops t.limits (call name payload)) :
    Related reads targets (fun x _ => Stops t.limits x) t t call call :=
  { congruence_stops t.limits reads targets with
    settings := rfl
    checkpoint := stops_checkpoint t
    call := hcall }

theorem stops_runRoutine {call : Caller}
    (hcall : ∀ name payload, Stops t.limits (call name payload)) (routine : Routine)
    (inputs : List String) :
    Stops t.limits (t.runRoutine call routine inputs) :=
  (related_stops t routine.reads routine.targets hcall).runRoutine (fun _ hi => hi)
    (fun _ hi => hi) (stops_modify fun _ => rfl)

/-- **Calls are stopped behind the delay**, at any depth. -/
theorem stops_answer (t : Interpreter) (depth reserve : Nat) (name payload : String) :
    Stops t.limits (t.answer depth reserve name payload) := by
  have hrecord (call : CallRecord) : Stops t.limits (record call) := stops_modify fun _ => rfl
  induction reserve generalizing depth name payload with
  | zero =>
    cases hcallee : t.callee depth name with
    | error failure =>
      rw [answer_of_error hcallee]
      exact (hrecord _).bind fun _ => stops_pure _
    | ok routine =>
      rw [answer_zero_of_ok hcallee]
      exact (hrecord _).bind fun _ => stops_exhausted
  | succ reserve ih =>
    cases hcallee : t.callee depth name with
    | error failure =>
      rw [answer_of_error hcallee]
      exact (hrecord _).bind fun _ => stops_pure _
    | ok routine =>
      rw [answer_succ_of_ok hcallee]
      have hroutine := stops_runRoutine (ih (depth + 1)) routine ["", payload]
      refine (hrecord _).bind fun _ => stops_get.bind fun m => ?_
      exact (hroutine.onOwnRegisters _).bind fun _ => stops_pure _

theorem stops_runRule (t : Interpreter) (depth reserve : Nat) (rule : Rule) :
    Stops t.limits (t.runRule (t.answer depth reserve) rule) :=
  (related_stops t rule.reads rule.targets (stops_answer t depth reserve)).runRule rule
    (fun _ hi => hi) fun _ hi => hi

theorem stops_runNamed (t : Interpreter) (reserve : Nat) (name : String) (inputs : List String) :
    Stops t.limits (t.runNamed reserve name inputs) := by
  unfold runNamed
  cases t.scraper.find? name with
  | none => exact stops_pure ""
  | some routine => exact stops_runRoutine (stops_answer t 0 reserve) routine inputs

/-- **How a run is stopped**: for the reason of its limits, when it has passed as many checkpoints
as they allow. -/
theorem of_runNamed_eq_error {reserve : Nat} {name : String} {inputs : List String}
    {m after : Machine} {e : Interruption} (hle : m.passed ≤ t.limits.delay)
    (h : t.runNamed reserve name inputs m = some (.error e, after)) :
    t.limits.interruption? = some e ∧ after.passed = t.limits.delay := by
  obtain ⟨hreason, hstopped⟩ := stops_runNamed t reserve name inputs m _ after h
  exact ⟨hreason e rfl, (hstopped hle).2 e rfl⟩

theorem runRules_of_interruption {e : Interruption} (h : t.limits.interruption? = some e)
    (call : Caller) {rules : List Rule} (hrules : rules ≠ []) {m : Machine}
    (hover : t.limits.delay ≤ m.passed) : t.runRules call rules m = some (.error e, m) := by
  cases rules with
  | nil => exact absurd rfl hrules
  | cons rule rules => rw [runRules, bind_apply, checkpoint_of_interruption h, if_pos hover]; rfl

theorem interruption?_eq_none {l : Limits} :
    l.interruption? = none ↔ ¬ (l.cancelled = true ∨ l.expired = true) := by
  obtain ⟨callDepth, cancelled, expired, delay⟩ := l
  cases cancelled <;> cases expired <;> simp [Limits.interruption?]

theorem of_interruption? {l : Limits} {e : Interruption} (h : l.interruption? = some e) :
    (l.cancelled = true ∨ l.expired = true) ∧
      e = if l.cancelled then .cancelled else .deadlineExceeded := by
  obtain ⟨callDepth, cancelled, expired, delay⟩ := l
  cases cancelled <;> cases expired <;> cases h <;> simp

/-! ## Endings -/

section

variable {reserve : Nat} {registers : Registers} {name : String} {inputs : List String}
  {ending : Ending}

theorem ok_of_interruption?_eq_none (hlimits : t.limits.interruption? = none)
    (h : t.endingWith? reserve registers name inputs = some ending) :
    ∃ a, ending.result = .ok a := by
  obtain ⟨after, hrun, -⟩ := endingWith?_eq_some h
  cases hresult : ending.result with
  | ok a => exact ⟨a, rfl⟩
  | error e =>
    rw [hresult] at hrun
    have hreason := (of_runNamed_eq_error (Nat.zero_le _) hrun).1
    cases hlimits.symm.trans hreason

/-- Where there is no rule to run, no checkpoint is met. -/
theorem ok_of_rules_eq_nil
    (hrules : ∀ routine, t.scraper.find? name = some routine → routine.rules = [])
    (h : t.endingWith? reserve registers name inputs = some ending) :
    ∃ a, ending.result = .ok a := by
  obtain ⟨after, hrun, -⟩ := endingWith?_eq_some h
  rw [runNamed] at hrun
  cases hfind : t.scraper.find? name with
  | none =>
    rw [hfind] at hrun
    exact ⟨"", congrArg Prod.fst (Option.some.inj hrun).symm⟩
  | some routine =>
    rw [hfind] at hrun
    obtain ⟨r, hstopped, hr⟩ := runRoutine_eq_some hrun
    rw [hrules routine hfind, runRules] at hstopped
    cases hstopped
    exact ⟨_, hr⟩

/-- A routine with rules is stopped on entry if the limits interrupt without a delay. -/
theorem error_of_interruption {routine : Routine} (hfind : t.scraper.find? name = some routine)
    (h : t.endingWith? reserve registers name inputs = some ending) (hrules : routine.rules ≠ [])
    {e : Interruption} (he : t.limits.interruption? = some e) (hdelay : t.limits.delay = 0) :
    ending.result = .error e ∧
      ending.registers = (if routine.clearsOnEntry then .empty else registers).load inputs := by
  obtain ⟨after, hrun, hregisters⟩ := endingWith?_eq_some h
  rw [runNamed, hfind] at hrun
  obtain ⟨r, hstopped, hr⟩ := runRoutine_eq_some hrun
  rw [runRules_of_interruption he _ hrules hdelay.le] at hstopped
  cases hstopped
  exact ⟨hr, hregisters⟩

/-- **When a run is stopped.** Let the limits be the same throughout. A run that ends does so with
an error if and only if there is a rule to run and the limits interrupt. The error is that of the
limits, and the registers hold what the routine found on entry, and its inputs. -/
theorem error_iff_of_endingWith? (hdelay : t.limits.delay = 0)
    (h : t.endingWith? reserve registers name inputs = some ending) :
    ((∃ e, ending.result = .error e) ↔ ∃ routine, t.scraper.find? name = some routine ∧
      routine.rules ≠ [] ∧ (t.limits.cancelled = true ∨ t.limits.expired = true)) ∧
      ∀ e, ending.result = .error e →
        e = (if t.limits.cancelled then .cancelled else .deadlineExceeded) ∧
        ∀ routine, t.scraper.find? name = some routine →
          ending.registers = (if routine.clearsOnEntry then .empty else registers).load inputs := by
  cases hl : t.limits.interruption? with
  | none =>
    obtain ⟨a, ha⟩ := ok_of_interruption?_eq_none hl h
    simp [ha, interruption?_eq_none.1 hl]
  | some e =>
    by_cases hrules : ∃ routine, t.scraper.find? name = some routine ∧ routine.rules ≠ []
    · obtain ⟨routine, hfind, hne⟩ := hrules
      obtain ⟨hlimits, he⟩ := of_interruption? hl
      obtain ⟨hresult, hregisters⟩ := error_of_interruption hfind h hne hl hdelay
      rw [hresult, hfind]
      refine ⟨⟨fun _ => ⟨routine, rfl, hne, hlimits⟩, fun _ => ⟨e, rfl⟩⟩, ?_⟩
      rintro _ ⟨⟩
      refine ⟨he, ?_⟩
      rintro _ ⟨⟩
      exact hregisters
    · have hnil : ∀ routine, t.scraper.find? name = some routine → routine.rules = [] :=
        fun routine hfind => by_contra fun hne => hrules ⟨routine, hfind, hne⟩
      obtain ⟨a, ha⟩ := ok_of_rules_eq_nil hnil h
      simp only [ha, reduceCtorEq, exists_false, false_iff, false_implies, implies_true, and_true]
      rintro ⟨routine, hfind, hne, -⟩
      exact hne (hnil routine hfind)

/-- An interpreter of one routine of one rule, after its deadline. -/
def expiredSample : Interpreter :=
  ⟨⟨"sample", [⟨"Find", true, 2, false, [.mk "$$1" "found" 2 false none [] none]⟩]⟩, .empty,
    ⟨none, false, true, 0⟩⟩

theorem error_iff_of_endingWith?_expiredSample :
    expiredSample.limits.delay = 0 ∧
      ∃ ending, expiredSample.endingWith? 0 (.set .empty 5 "gone") "Find" ["", "x"] = some ending ∧
        ending.result = .error .deadlineExceeded ∧
        ending.registers = Registers.empty.load ["", "x"] := by
  have hends :
      (expiredSample.endingWith? 0 (.set .empty 5 "gone") "Find" ["", "x"]).isSome = true := by
    decide
  obtain ⟨ending, hending⟩ := Option.isSome_iff_exists.1 hends
  obtain ⟨hiff, herror⟩ := error_iff_of_endingWith? rfl hending
  obtain ⟨e, he⟩ := hiff.2 ⟨_, rfl, List.cons_ne_nil _ _, .inr rfl⟩
  obtain ⟨rfl, hregisters⟩ := herror e he
  exact ⟨rfl, ending, hending, he, hregisters _ rfl⟩

end

end Interpreter
end MediaScraper
