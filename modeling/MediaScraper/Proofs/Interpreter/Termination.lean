import MediaScraper.Proofs.Interpreter.Extension

/-!
# Runs under a limit on the depth of calls

What is called is decided by texts that are computed on the way, so nothing but the limit bounds how
deep calls nest. Rules, their children and their matches are finitely many, and a run of rules ends
if every call of theirs is answered. A call at the depth of the limit runs nothing
(`answer_of_limit_le`). So by induction on what is left of the limit every call is answered
(`ends_answer`), and every run ends, with the limit as its reserve (`runNamed_of_callDepth`).
-/

namespace MediaScraper

/-- A routine that the call runs is nested at most so deep. -/
def CallRecord.Within (limit : Nat) (call : CallRecord) : Prop :=
  call.failure = none → call.depth + 1 ≤ limit

namespace Run

variable {α β : Type} {limit : Nat}

/-! ## Runs that end -/

/-- The run ends, and if the calls before it stay within the limit, all calls after it do. -/
def Ends (limit : Nat) (x : Run α) : Prop :=
  ∀ m, (∀ call ∈ m.calls, call.Within limit) →
    ∃ r after, x m = some (r, after) ∧ ∀ call ∈ after.calls, call.Within limit

theorem ends_pure (a : α) : Ends limit (pure a : Run α) := fun m hm => ⟨.ok a, m, rfl, hm⟩

theorem ends_get : Ends limit (get : Run Machine) := fun m hm => ⟨.ok m, m, rfl, hm⟩

theorem ends_modifyRegisters (f : Registers → Registers) : Ends limit (modifyRegisters f) :=
  fun m hm => ⟨.ok (), { m with registers := f m.registers }, rfl, hm⟩

theorem ends_record {call : CallRecord} (h : call.Within limit) : Ends limit (record call) :=
  fun m hm => ⟨.ok (), { m with calls := call :: m.calls }, rfl, List.forall_mem_cons.2 ⟨h, hm⟩⟩

theorem Ends.bind {x : Run α} {f : α → Run β} (hx : Ends limit x) (hf : ∀ a, Ends limit (f a)) :
    Ends limit (x >>= f) := by
  intro m hm
  obtain ⟨r, m', hfirst, hm'⟩ := hx m hm
  cases r with
  | ok a =>
    obtain ⟨r, after, hrest, hafter⟩ := hf a m' hm'
    exact ⟨r, after, bind_eq_some.2 (.inl ⟨a, m', hfirst, hrest⟩), hafter⟩
  | error e => exact ⟨.error e, m', bind_eq_some.2 (.inr ⟨e, hfirst, rfl⟩), hm'⟩

theorem Ends.onOwnRegisters {x : Run α} (h : Ends limit x) (own : Registers) :
    Ends limit (Run.onOwnRegisters own x) := by
  intro m hm
  obtain ⟨r, after, hrun, hafter⟩ := h ⟨own, m.calls, m.passed⟩ hm
  refine ⟨r, { after with registers := m.registers }, ?_, hafter⟩
  rw [Run.onOwnRegisters, hrun]
  rfl

theorem congruence_ends (reads targets : List Nat) :
    Congruence reads targets (fun x _ => Ends limit x) where
  pure := ends_pure
  bind := Ends.bind
  look hf := ends_get.bind fun m => hf m m fun _ _ => rfl
  write _ _ _ _ := ends_modifyRegisters _

end Run

namespace Interpreter

open Run

variable {t : Interpreter} {limit : Nat}

theorem ends_checkpoint (t : Interpreter) : Ends limit t.checkpoint := by
  intro m hm
  obtain ⟨r, n, hcheckpoint⟩ := checkpoint_apply t m
  exact ⟨r, _, hcheckpoint, hm⟩

theorem ends_runRoutine {call : Caller} (hcall : ∀ name payload, Ends limit (call name payload))
    (routine : Routine) (inputs : List String) : Ends limit (t.runRoutine call routine inputs) := by
  have hrelated : Related routine.reads routine.targets (fun x _ => Ends limit x) t t call call :=
    { congruence_ends _ _ with
      settings := rfl
      checkpoint := ends_checkpoint t
      call := hcall }
  exact hrelated.runRoutine (fun _ hi => hi) (fun _ hi => hi) (ends_modifyRegisters _)

/-! ## Calls under a limit -/

section

variable (h : t.limits.callDepth = some limit)
include h

theorem lt_of_callee_eq_ok {depth : Nat} {name : String} {routine : Routine}
    (hcallee : t.callee depth name = .ok routine) : depth < limit :=
  (callee_eq_ok.1 hcallee).2.2 limit h

theorem answer_of_limit_le {depth : Nat} (hle : limit ≤ depth) (reserve : Nat)
    (name payload : String) : ∃ failure, t.answer depth reserve name payload =
      record ⟨depth, name, some failure⟩ >>= fun _ => pure (.error failure) := by
  cases hcallee : t.callee depth name with
  | error failure => exact ⟨failure, answer_of_error hcallee reserve payload⟩
  | ok routine => exact absurd (lt_of_callee_eq_ok h hcallee) (Nat.not_lt.2 hle)

/-- **Every call is answered** if the reserve is what is left of the limit. -/
theorem ends_answer {depth reserve : Nat} (hle : limit ≤ depth + reserve) (name payload : String) :
    Ends limit (t.answer depth reserve name payload) := by
  induction reserve generalizing depth name payload with
  | zero =>
    obtain ⟨failure, hfails⟩ := answer_of_limit_le h (show limit ≤ depth from hle) 0 name payload
    rw [hfails]
    exact (ends_record fun hnone => by cases hnone).bind fun _ => ends_pure _
  | succ reserve ih =>
    cases hcallee : t.callee depth name with
    | error failure =>
      rw [answer_of_error hcallee]
      exact (ends_record fun hnone => by cases hnone).bind fun _ => ends_pure _
    | ok routine =>
      rw [answer_succ_of_ok hcallee]
      have hroutine : Ends limit
          (t.runRoutine (t.answer (depth + 1) reserve) routine ["", payload]) :=
        ends_runRoutine (fun name payload => ih (by omega) name payload) _ _
      refine (ends_record fun _ => lt_of_callee_eq_ok h hcallee).bind fun _ => ?_
      exact ends_get.bind fun m => (hroutine.onOwnRegisters _).bind fun _ => ends_pure _

theorem ends_runNamed {reserve : Nat} (hle : limit ≤ reserve) (name : String)
    (inputs : List String) : Ends limit (t.runNamed reserve name inputs) := by
  unfold runNamed
  split
  · exact ends_pure ""
  · exact ends_runRoutine (ends_answer h (by omega)) _ _

/-! ## Runs under a limit -/

/-- **Every run under a limit ends**, with one and the same answer for the limit and for
every larger reserve, and no routine is ever run deeper than the limit: every call that runs one is
noted, and at the depth of the limit a call fails instead. -/
theorem runNamed_of_callDepth (registers : Registers) (name : String) (inputs : List String) :
    ∃ r after,
      (∀ reserve, limit ≤ reserve →
        t.runNamed reserve name inputs ⟨registers, [], 0⟩ = some (r, after)) ∧
      t.ending? registers name inputs = some ⟨r, after.registers⟩ ∧
      (∀ call ∈ after.calls, call.failure = none → call.depth + 1 ≤ limit) ∧
      ∀ depth, limit ≤ depth → ∀ reserve name payload, ∃ failure,
        t.answer depth reserve name payload =
          record ⟨depth, name, some failure⟩ >>= fun _ => pure (.error failure) := by
  obtain ⟨r, after, hrun, hcalls⟩ :=
    ends_runNamed h (le_refl limit) name inputs ⟨registers, [], 0⟩ (fun _ hcall => by cases hcall)
  refine ⟨r, after, fun reserve hle => runNamed_mono hle hrun, ?_, hcalls, ?_⟩
  · have hreserve : t.reserve = limit := by rw [reserve, h, Option.getD_some]
    rw [ending?, endingWith?, hreserve]
    exact congrArg (Option.map fun r => (⟨r.1, r.2.registers⟩ : Ending)) hrun
  · intro depth hle reserve name payload
    exact answer_of_limit_le h hle reserve name payload

end

/-- A routine that asks for itself, under a limit of three. -/
def selfCalling : Interpreter :=
  ⟨⟨"sample", [⟨"Loop", true, 2, false,
    [.mk "$$1" "<chain function=\"Loop\">\\1</chain>" 2 false none [] none]⟩]⟩, .empty,
    ⟨some 3, false, false, 0⟩⟩

/-- It runs up to the limit, and the call at that depth fails. -/
theorem runNamed_of_callDepth_selfCalling :
    selfCalling.limits.callDepth = some 3 ∧ ∃ r after,
      (∀ reserve, 3 ≤ reserve →
        selfCalling.runNamed reserve "Loop" ["", "x"] ⟨.empty, [], 0⟩ = some (r, after)) ∧
      after.calls = [⟨3, "Loop", some (.tooDeep 3)⟩, ⟨2, "Loop", none⟩, ⟨1, "Loop", none⟩,
        ⟨0, "Loop", none⟩] ∧
      ∀ call ∈ after.calls, call.failure = none → call.depth + 1 ≤ 3 := by
  obtain ⟨r, after, hruns, -, hcalls, -⟩ :=
    runNamed_of_callDepth (t := selfCalling) rfl .empty "Loop" ["", "x"]
  have hnoted : (selfCalling.runNamed 3 "Loop" ["", "x"] ⟨.empty, [], 0⟩).map (fun r => r.2.calls) =
      some [⟨3, "Loop", some (.tooDeep 3)⟩, ⟨2, "Loop", none⟩, ⟨1, "Loop", none⟩,
        ⟨0, "Loop", none⟩] := by
    decide +kernel
  rw [hruns 3 (le_refl 3)] at hnoted
  exact ⟨rfl, r, after, hruns, Option.some.inj hnoted, hcalls⟩

end Interpreter
end MediaScraper
