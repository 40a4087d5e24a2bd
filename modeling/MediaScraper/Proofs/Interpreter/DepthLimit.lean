import MediaScraper.Proofs.Interpreter.Likeness
import MediaScraper.Proofs.Interpreter.Marker
import MediaScraper.Proofs.Interpreter.Termination

/-!
# What a limit on the depth of calls shows

A limit shows only in calls that fail because of it. A run without such a call is the same run under
every wider limit, and without one (`extends_limitedTo`).

Without a limit, the depth of a call does not matter at all. So a call leaves its caller the very
result that the routine has when it is run by itself, with the payload as its second input: on empty
registers if it clears them, and otherwise on those of the caller (`answer_eq_endingWith?`). Where a
run is going to be stopped, the routine by itself has what is left of the delay (`remaining`).
-/

namespace MediaScraper.Interpreter

open Run

/-! ## Wider limits -/

/-- The interpreter with this limit on the depth of calls. -/
def limitedTo (t : Interpreter) (limit : Option Nat) : Interpreter :=
  { t with limits := { t.limits with callDepth := limit } }

/-- The second limit is at least as wide as the first; no limit is the widest. -/
def AsWide (narrow wide : Option Nat) : Prop := ∀ w ∈ wide, ∃ n ∈ narrow, n ≤ w

/-- **A wider limit makes a difference only where a call fails** because of the narrower one. -/
theorem extends_limitedTo (t : Interpreter) {narrow wide : Option Nat} (h : AsWide narrow wide) :
    Extends (fun failure => ∃ limit, failure = .tooDeep limit) (t.limitedTo narrow)
      (t.limitedTo wide) where
  settings := rfl
  checkpoint := rfl
  callee depth name := by
    unfold callee limitedTo
    dsimp only
    split
    · exact .inl rfl
    cases t.scraper.find? name with
    | none => exact .inl rfl
    | some routine =>
      cases wide with
      | none =>
        cases narrow with
        | none => exact .inl rfl
        | some n =>
          rcases Nat.lt_or_ge depth n with hlt | hge
          · exact .inl (if_neg (Nat.not_le.2 hlt)).symm
          · exact .inr ⟨.tooDeep n, if_pos hge, n, rfl⟩
      | some w =>
        obtain ⟨n, rfl, hle⟩ := h w rfl
        rcases Nat.lt_or_ge depth n with hlt | hge
        · have hlt' : depth < w := hlt.trans_le hle
          exact .inl ((if_neg (Nat.not_le.2 hlt')).trans (if_neg (Nat.not_le.2 hlt)).symm)
        · exact .inr ⟨.tooDeep n, if_pos hge, n, rfl⟩

theorem runNamed_of_asWide (t : Interpreter) {narrow wide : Option Nat} (h : AsWide narrow wide)
    {reserve reserve' : Nat} (hle : reserve ≤ reserve') {name : String} {inputs : List String}
    {m after : Machine} {r : Except Interruption String}
    (hrun : (t.limitedTo narrow).runNamed reserve name inputs m = some (r, after))
    (hdeep : ∀ call ∈ after.calls, ∀ limit, call.failure ≠ some (.tooDeep limit)) :
    (t.limitedTo wide).runNamed reserve' name inputs m = some (r, after) := by
  have hsame : (t.limitedTo wide).scraper.find? name = (t.limitedTo narrow).scraper.find? name :=
    rfl
  refine ((extends_limitedTo t h).follows_runNamed hle hsame inputs m r after hrun).2 ?_
  rintro call hcall _ hfailure ⟨limit, rfl⟩
  exact hdeep call hcall limit hfailure

/-! ## Without a limit -/

/-- The interpreter with what is left of its delay when so many checkpoints have been passed. -/
def remaining (t : Interpreter) (passed : Nat) : Interpreter :=
  { t with limits := { t.limits with delay := t.limits.delay - passed } }

theorem inStep_remaining (t : Interpreter) (passed : Nat) :
    t.limits.InStep (fun n n' => n = n' + passed) (t.remaining passed).limits where
  interruption := rfl
  delay _ _ n n' hn := by
    show t.limits.delay ≤ n ↔ t.limits.delay - passed ≤ n'
    omega
  succ n n' hn := by omega

section

variable {t : Interpreter} (h : t.limits.callDepth = none)
include h

theorem callee_of_find? {name : String} {routine : Routine}
    (hfind : t.scraper.find? name = some routine) (hname : allBlank name = false) (depth : Nat) :
    t.callee depth name = .ok routine :=
  callee_eq_ok.2 ⟨hname, hfind, by simp [h]⟩

theorem callee_remaining (passed depth depth' : Nat) (name : String) :
    t.callee depth name = (t.remaining passed).callee depth' name := by
  rw [callee, callee, remaining, h]

/-- **A call is a run of its routine**, by itself, with what is left of the delay, on empty
registers if the routine clears them and on those of the caller otherwise. -/
theorem answer_eq_endingWith? {name : String} {routine : Routine}
    (hfind : t.scraper.find? name = some routine) (hname : allBlank name = false)
    (depth reserve : Nat) (payload : String) (m : Machine) :
    (t.answer depth (reserve + 1) name payload m).map Prod.fst =
      ((t.remaining m.passed).endingWith? reserve (routine.entry m.registers) name
        ["", payload]).map fun ending => ending.result.map .ok := by
  have hs : t.settings = (t.remaining m.passed).settings := rfl
  have hstep := inStep_remaining t m.passed
  have hcalls (name payload : String) : Alike (fun n n' => n = n' + m.passed) Eq Eq
      (t.answer (depth + 1) reserve name payload)
      ((t.remaining m.passed).answer 0 reserve name payload) :=
    alike_answer hs hstep (fun k name => callee_remaining h _ _ _ name) reserve name payload
  have halike : Alike (fun n n' => n = n' + m.passed)
      (fun r r' => routine.entry r = routine.entry r') Eq
      (t.runRoutine (t.answer (depth + 1) reserve) routine ["", payload])
      ((t.remaining m.passed).runRoutine ((t.remaining m.passed).answer 0 reserve) routine
        ["", payload]) :=
    alike_runRoutine hs hstep hcalls routine _
  have hroutine := halike ⟨m.registers, ⟨depth, name, none⟩ :: m.calls, m.passed⟩
    ⟨routine.entry m.registers, [], 0⟩ ⟨(Nat.zero_add _).symm, (routine.entry_entry _).symm⟩
  have hfind' : (t.remaining m.passed).scraper.find? name = some routine := hfind
  rw [answer_succ_apply (callee_of_find? h hfind hname depth), endingWith?, runNamed, hfind']
  show Option.map _ (Option.map _ (t.runRoutine _ routine ["", payload] _)) =
    Option.map _ (Option.map _ ((t.remaining m.passed).runRoutine _ routine ["", payload] _))
  generalize t.runRoutine _ routine ["", payload] _ = p at hroutine ⊢
  generalize (t.remaining m.passed).runRoutine _ routine ["", payload] _ = q at hroutine ⊢
  cases hroutine with
  | none => rfl
  | some hpq => exact congrArg (fun r => some (Except.map Except.ok r)) hpq.1

end

/-! ## Limits that do not show -/

/-- **A limit shows only in the calls that it makes fail.** A run in which no call fails because of
it is the same run under every limit that is as wide; under a limit there always is a run. Without
one, a call of a routine whose name is not blank leaves what the routine leaves by itself, whoever
calls it at whatever depth: on empty registers if it clears them, and otherwise on those of the
caller, and with what is left of the delay if the run is going to be stopped. -/
theorem runNamed_limitedTo (t : Interpreter) {narrow wide : Option Nat} (h : AsWide narrow wide)
    (registers : Registers) (name : String) (inputs : List String) :
    (∀ reserve r after,
      (t.limitedTo narrow).runNamed reserve name inputs ⟨registers, [], 0⟩ = some (r, after) →
      (∀ call ∈ after.calls, ∀ limit, call.failure ≠ some (.tooDeep limit)) →
      ∀ reserve', reserve ≤ reserve' →
        (t.limitedTo wide).runNamed reserve' name inputs ⟨registers, [], 0⟩ = some (r, after)) ∧
    (∀ limit ∈ narrow, ∀ reserve, limit ≤ reserve → ∃ r after,
      (t.limitedTo narrow).runNamed reserve name inputs ⟨registers, [], 0⟩ = some (r, after)) ∧
    ∀ routine called, t.scraper.find? called = some routine → allBlank called = false →
      ∀ depth reserve payload m,
        ((t.limitedTo none).answer depth (reserve + 1) called payload m).map Prod.fst =
          (((t.limitedTo none).remaining m.passed).endingWith? reserve
            (if routine.clearsOnEntry then .empty else m.registers) called ["", payload]).map
              fun ending => ending.result.map .ok := by
  refine ⟨fun reserve r after hrun hdeep reserve' hle => ?_, fun limit hlimit reserve hle => ?_,
    fun routine called hfind hname depth reserve payload m => ?_⟩
  · exact runNamed_of_asWide t h hle hrun hdeep
  · have hcallDepth : (t.limitedTo narrow).limits.callDepth = some limit := hlimit
    obtain ⟨r, after, hrun, -⟩ :=
      ends_runNamed hcallDepth hle name inputs ⟨registers, [], 0⟩ fun _ hcall => by cases hcall
    exact ⟨r, after, hrun⟩
  · exact answer_eq_endingWith? (t := t.limitedTo none) rfl hfind hname depth reserve payload m

/-- A routine that asks for another one, which keeps the registers of its caller. -/
def chainSample : Interpreter :=
  ⟨⟨"sample", [⟨"Find", true, 2, false,
    [.mk "$$1" "<chain function=\"Make\">\\1</chain>" 2 false none [] none]⟩,
    ⟨"Make", false, 3, false, [.mk "$$1" "made \\1" 3 true none [] none]⟩]⟩, .empty, .none⟩

theorem runNamed_limitedTo_chainSample :
    AsWide (some 1) none ∧ (∃ after,
      (chainSample.limitedTo (some 1)).runNamed 1 "Find" ["", "x"] ⟨.empty, [], 0⟩ =
        some (.ok "<Make>made x</Make>", after) ∧ after.calls = [⟨0, "Make", none⟩] ∧
      ∀ reserve, 1 ≤ reserve →
        (chainSample.limitedTo none).runNamed reserve "Find" ["", "x"] ⟨.empty, [], 0⟩ =
          some (.ok "<Make>made x</Make>", after)) ∧
      ((chainSample.limitedTo none).answer 7 1 "Make" "p" ⟨.set .empty 3 "kept, ", [], 0⟩).map
          Prod.fst =
        ((chainSample.limitedTo none).endingWith? 0 (.set .empty 3 "kept, ") "Make" ["", "p"]).map
          fun ending => ending.result.map .ok := by
  have hwide : AsWide (some 1) none := fun _ hnone => by cases hnone
  obtain ⟨hwider, hends, hcalls⟩ :=
    runNamed_limitedTo chainSample hwide .empty "Find" ["", "x"]
  obtain ⟨r, after, hrun⟩ := hends 1 rfl 1 (le_refl 1)
  have hleft : ((chainSample.limitedTo (some 1)).runNamed 1 "Find" ["", "x"] ⟨.empty, [], 0⟩).map
      (fun r => (r.1, r.2.calls)) = some (.ok "<Make>made x</Make>", [⟨0, "Make", none⟩]) := by
    decide +kernel
  rw [hrun] at hleft
  obtain ⟨rfl, hnoted⟩ := Prod.mk.inj (Option.some.inj hleft)
  refine ⟨hwide, ⟨after, hrun, hnoted, fun reserve hle => ?_⟩, ?_⟩
  · refine hwider 1 _ after hrun ?_ reserve hle
    rw [hnoted]
    rintro call hcall limit hfailure
    cases List.mem_singleton.1 hcall
    cases hfailure
  · exact hcalls _ "Make" rfl (by decide) 7 0 "p" ⟨.set .empty 3 "kept, ", [], 0⟩

/-- A routine that asks for one with a blank name, which there is. -/
def blankNamed : Interpreter :=
  ⟨⟨"sample", [⟨"Find", true, 2, false,
    [.mk "$$1" "<chain function=\" \">\\1</chain>" 2 false none [] none]⟩,
    ⟨" ", true, 3, false, [.mk "$$1" "made \\1" 3 false none [] none]⟩]⟩, .empty, .none⟩

theorem result_blankNamed :
    (blankNamed.ending? .empty "Find" ["", "x"]).map (·.result) =
      some (.ok (CallFailure.emptyName.marker "<chain function=\" \">x</chain>")) := by
  let routine : Routine := ⟨"Find", true, 2, false,
    [.mk "$$1" "<chain function=\" \">\\1</chain>" 2 false none [] none]⟩
  have hfind : blankNamed.scraper.find? "Find" = some routine := rfl
  have htext : Template.render "<chain function=\" \">\\1</chain>"
      ["", blankNamed.resolveInput (.load .empty ["", "x"]) "$$1"]
      (blankNamed.source (.load .empty ["", "x"])) = "<chain function=\" \">x</chain>" := by
    decide
  have hsite : Call.site? "<chain function=\" \">x</chain>" = none := by decide
  have hchain : Call.chain? "<chain function=\" \">x</chain>" = some (" ", "x") := by
    decide
  have hcallee : blankNamed.callee 0 " " = .error .emptyName := rfl
  obtain ⟨hunbroken, hsetting⟩ :
      Repair.Unbroken (CallFailure.emptyName.marker "<chain function=\" \">x</chain>").toList ∧
        '$' ∉ (CallFailure.emptyName.marker "<chain function=\" \">x</chain>").toList := by
    rw [toList_marker, String.toList_ofList]
    decide
  have hrules := runRules_of_error (m := ⟨.load .empty ["", "x"], [], 0⟩) rfl htext hsite
    hchain hcallee blankNamed.reserve 2
  have hentered : (if routine.clearsOnEntry then .empty else Registers.empty).load ["", "x"] =
      .load .empty ["", "x"] := rfl
  have hrun := runRoutine_of_runRules (m := ⟨.empty, [], 0⟩) hentered hrules
  have hread := readRegister_of_unbroken (t := blankNamed)
    (Registers.get_set_self (by decide : 2 < Registers.count) (.load .empty ["", "x"]) _)
    hunbroken hsetting
  calc blankNamed.result? "Find" ["", "x"]
    _ = (blankNamed.runRoutine (blankNamed.answer 0 blankNamed.reserve) routine ["", "x"]
          ⟨.empty, [], 0⟩).map (·.1) := result?_of_find? hfind _
    _ = some (.ok (blankNamed.readRegister _ 2)) := by rw [hrun]; rfl
    _ = _ := by rw [hread]

/-- By itself the routine of a blank name has a result, but no call reaches it. -/
theorem answer_blankNamed :
    blankNamed.limits.callDepth = none ∧
      (blankNamed.scraper.find? " ").map (·.clearsOnEntry) = some true ∧
      (blankNamed.endingWith? 0 .empty " " ["", "x"]).map (·.result) = some (.ok "made x") ∧
      (blankNamed.answer 0 1 " " "x" ⟨.empty, [], 0⟩).map Prod.fst =
        some (.ok (.error .emptyName)) ∧
      (blankNamed.answer 0 1 " " "x" ⟨.empty, [], 0⟩).map Prod.fst ≠
        (blankNamed.endingWith? 0 .empty " " ["", "x"]).map (fun ending =>
          ending.result.map .ok) ∧
      (blankNamed.ending? .empty "Find" ["", "x"]).map (·.result) =
        some (.ok (CallFailure.emptyName.marker "<chain function=\" \">x</chain>")) := by
  have hresult : (blankNamed.endingWith? 0 .empty " " ["", "x"]).map (·.result) =
      some (.ok "made x") := by
    decide
  have hanswer : (blankNamed.answer 0 1 " " "x" ⟨.empty, [], 0⟩).map Prod.fst =
      some (.ok (.error .emptyName)) := rfl
  refine ⟨rfl, rfl, hresult, hanswer, fun heq => ?_, result_blankNamed⟩
  cases h : blankNamed.endingWith? 0 .empty " " ["", "x"] with
  | none => rw [hanswer, h] at heq; cases heq
  | some ending =>
    rw [hanswer, h, Option.map_some, Option.some_inj] at heq
    cases hending : ending.result <;> rw [hending] at heq <;> cases heq

end MediaScraper.Interpreter
