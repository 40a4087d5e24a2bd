import MediaScraper.Proofs.Interpreter.Traversal

/-!
# Interpreters that answer more calls

An interpreter *extends* another one if it finds the same routine wherever the other finds one, and
differs from it only in calls that fail there in a certain way: because of a missing routine, say
(`Extends`). While no call fails in that way, nothing tells the two apart: what a run of the first
leaves, a run of the second leaves, too, with at least the same reserve (`follows_runNamed`).

Runs note every call and forget none, so that the record in the end tells whether such a failure has
occurred at all.

An interpreter extends itself. So a reserve that was enough stays enough when it grows
(`runNamed_mono`).
-/

namespace MediaScraper

namespace Run

variable {α β : Type} {bad : CallFailure → Prop}

/-! ## Runs that follow others -/

/-- No call has failed in the way in question. -/
def NoneFailed (bad : CallFailure → Prop) (calls : List CallRecord) : Prop :=
  ∀ call ∈ calls, ∀ failure, call.failure = some failure → ¬ bad failure

theorem NoneFailed.of_suffix {calls calls' : List CallRecord} (h : NoneFailed bad calls')
    (hsuffix : calls <:+ calls') : NoneFailed bad calls :=
  fun call hcall => h call (hsuffix.mem hcall)

/-- The first run forgets no call; what it leaves, the second one leaves, too, if no call
has failed in the way in question. -/
def Follows (bad : CallFailure → Prop) (x y : Run α) : Prop :=
  ∀ m r after, x m = some (r, after) →
    m.calls <:+ after.calls ∧ (NoneFailed bad after.calls → y m = some (r, after))

theorem follows_self {x : Run α}
    (h : ∀ m r after, x m = some (r, after) → m.calls <:+ after.calls) : Follows bad x x :=
  fun m r after hx => ⟨h m r after hx, fun _ => hx⟩

theorem follows_pure (a : α) : Follows bad (pure a : Run α) (pure a) := by
  refine follows_self fun m r after hx => ?_
  cases hx
  exact List.suffix_refl _

theorem follows_get : Follows bad (get : Run Machine) get := by
  refine follows_self fun m r after hx => ?_
  cases hx
  exact List.suffix_refl _

theorem follows_modifyRegisters (f : Registers → Registers) :
    Follows bad (modifyRegisters f) (modifyRegisters f) := by
  refine follows_self fun m r after hx => ?_
  cases hx
  exact List.suffix_refl _

theorem follows_record (call : CallRecord) : Follows bad (record call) (record call) := by
  refine follows_self fun m r after hx => ?_
  cases hx
  exact List.suffix_cons _ _

theorem follows_of_exhausted (call : CallRecord) (y : Run α) :
    Follows bad (record call >>= fun _ => exhausted) y := by
  intro m r after hx
  cases hx

/-- After a call that fails in the way in question, nothing is asked of the second run. -/
theorem follows_record_of_bad {depth : Nat} {name : String} {failure : CallFailure}
    (h : bad failure) (a : α) (y : Run α) :
    Follows bad (record ⟨depth, name, some failure⟩ >>= fun _ => pure a) y := by
  intro m r after hx
  cases hx
  exact ⟨List.suffix_cons _ _, fun hnone => absurd h (hnone _ List.mem_cons_self _ rfl)⟩

theorem Follows.bind {x y : Run α} {f g : α → Run β} (hx : Follows bad x y)
    (hf : ∀ a, Follows bad (f a) (g a)) : Follows bad (x >>= f) (y >>= g) := by
  intro m r after h
  rcases bind_eq_some.1 h with ⟨a, m', hfirst, hrest⟩ | ⟨e, hfirst, rfl⟩
  · obtain ⟨hgrows, hy⟩ := hx m _ m' hfirst
    obtain ⟨hgrows', hg⟩ := hf a m' r after hrest
    refine ⟨hgrows.trans hgrows', fun hnone => ?_⟩
    exact bind_eq_some.2 (.inl ⟨a, m', hy (hnone.of_suffix hgrows'), hg hnone⟩)
  · obtain ⟨hgrows, hy⟩ := hx m _ after hfirst
    exact ⟨hgrows, fun hnone => bind_eq_some.2 (.inr ⟨e, hy hnone, rfl⟩)⟩

theorem Follows.onOwnRegisters {x y : Run α} (h : Follows bad x y) (own : Registers) :
    Follows bad (Run.onOwnRegisters own x) (Run.onOwnRegisters own y) := by
  intro m r after hx
  obtain ⟨⟨r', after'⟩, hrun, heq⟩ := Option.map_eq_some_iff.1 hx
  cases heq
  obtain ⟨hgrows, hy⟩ := h _ _ _ hrun
  refine ⟨hgrows, fun hnone => ?_⟩
  rw [Run.onOwnRegisters, hy hnone]
  rfl

theorem congruence_follows (reads targets : List Nat) :
    Congruence reads targets (fun x y => Follows bad x y) where
  pure := follows_pure
  bind := Follows.bind
  look hf := follows_get.bind fun m => hf m m fun _ _ => rfl
  write _ _ _ _ := follows_modifyRegisters _

end Run

namespace Interpreter

open Run

variable {t t' : Interpreter} {bad : CallFailure → Prop}

/-! ## Extensions -/

/-- The second interpreter differs from the first only in calls that fail there in the way in
question. -/
structure Extends (bad : CallFailure → Prop) (t t' : Interpreter) : Prop where
  settings : t.settings = t'.settings
  checkpoint : t.checkpoint = t'.checkpoint
  callee : ∀ depth name, t'.callee depth name = t.callee depth name ∨
    ∃ failure, t.callee depth name = .error failure ∧ bad failure

theorem extends_self (t : Interpreter) : Extends bad t t := ⟨rfl, rfl, fun _ _ => .inl rfl⟩

namespace Extends

variable (h : Extends bad t t')
include h

theorem follows_checkpoint : Follows bad t.checkpoint t'.checkpoint := by
  rw [← h.checkpoint]
  refine follows_self fun m r after hx => ?_
  obtain ⟨r', n, hcheckpoint⟩ := checkpoint_apply t m
  rw [hcheckpoint] at hx
  cases hx
  exact List.suffix_refl _

theorem follows_runRoutine {call call' : Caller}
    (hcall : ∀ name payload, Follows bad (call name payload) (call' name payload))
    (routine : Routine) (inputs : List String) :
    Follows bad (t.runRoutine call routine inputs) (t'.runRoutine call' routine inputs) := by
  have hrelated :
      Related routine.reads routine.targets (fun x y => Follows bad x y) t t' call call' :=
    { congruence_follows _ _ with
      settings := h.settings
      checkpoint := h.follows_checkpoint
      call := hcall }
  exact hrelated.runRoutine (fun _ hi => hi) (fun _ hi => hi) (follows_modifyRegisters _)

theorem callee_of_ok {depth : Nat} {name : String} {routine : Routine}
    (hcallee : t.callee depth name = .ok routine) : t'.callee depth name = .ok routine := by
  rcases h.callee depth name with hsame | ⟨failure, hfailure, -⟩
  · rw [hsame, hcallee]
  · rw [hfailure] at hcallee
    cases hcallee

/-- A call that fails is answered by the same failure, or else in the way in question. -/
theorem follows_answer_of_error {depth : Nat} {name : String} {failure : CallFailure}
    (hcallee : t.callee depth name = .error failure) (reserve reserve' : Nat) (payload : String) :
    Follows bad (t.answer depth reserve name payload) (t'.answer depth reserve' name payload) := by
  rw [answer_of_error hcallee]
  rcases h.callee depth name with hsame | ⟨failure', hfailure, hbad⟩
  · rw [answer_of_error (hsame.trans hcallee)]
    exact (follows_record _).bind fun _ => follows_pure _
  · rw [hfailure] at hcallee
    cases hcallee
    exact follows_record_of_bad hbad _ _

/-- **Calls are answered alike** as long as none fails in the way in question. -/
theorem follows_answer {reserve reserve' : Nat} (hle : reserve ≤ reserve') (depth : Nat)
    (name payload : String) :
    Follows bad (t.answer depth reserve name payload) (t'.answer depth reserve' name payload) := by
  induction reserve generalizing reserve' depth name payload with
  | zero =>
    cases hcallee : t.callee depth name with
    | error failure => exact h.follows_answer_of_error hcallee 0 reserve' payload
    | ok routine =>
      rw [answer_zero_of_ok hcallee]
      exact follows_of_exhausted _ _
  | succ reserve ih =>
    cases hcallee : t.callee depth name with
    | error failure => exact h.follows_answer_of_error hcallee _ reserve' payload
    | ok routine =>
      obtain ⟨reserve', rfl⟩ : ∃ n, reserve' = n + 1 := ⟨reserve' - 1, by omega⟩
      rw [answer_succ_of_ok hcallee, answer_succ_of_ok (h.callee_of_ok hcallee)]
      have hroutine : Follows bad
          (t.runRoutine (t.answer (depth + 1) reserve) routine ["", payload])
          (t'.runRoutine (t'.answer (depth + 1) reserve') routine ["", payload]) :=
        h.follows_runRoutine (ih (Nat.le_of_succ_le_succ hle) (depth + 1)) _ _
      refine (follows_record _).bind fun _ => follows_get.bind fun m => ?_
      exact (hroutine.onOwnRegisters _).bind fun _ => follows_pure _

/-- **Runs that follow.** What a run leaves without a call that fails in the way in question, the
run of the extending interpreter leaves, too. -/
theorem follows_runNamed {reserve reserve' : Nat} (hle : reserve ≤ reserve') {name : String}
    (hfind : t'.scraper.find? name = t.scraper.find? name) (inputs : List String) :
    Follows bad (t.runNamed reserve name inputs) (t'.runNamed reserve' name inputs) := by
  rw [runNamed, runNamed, hfind]
  cases t.scraper.find? name with
  | none => exact follows_pure ""
  | some routine => exact h.follows_runRoutine (h.follows_answer hle 0) routine inputs

end Extends

/-! ## Reserves -/

/-- **A reserve that was enough stays enough** when it grows, for the same answer. -/
theorem runNamed_mono {reserve reserve' : Nat} (hle : reserve ≤ reserve') {name : String}
    {inputs : List String} {m after : Machine} {r : Except Interruption String}
    (h : t.runNamed reserve name inputs m = some (r, after)) :
    t.runNamed reserve' name inputs m = some (r, after) := by
  have hfollows : Follows (fun _ => False) (t.runNamed reserve name inputs)
      (t.runNamed reserve' name inputs) := (extends_self t).follows_runNamed hle rfl inputs
  exact (hfollows m r after h).2 fun _ _ _ _ => id

end Interpreter
end MediaScraper
