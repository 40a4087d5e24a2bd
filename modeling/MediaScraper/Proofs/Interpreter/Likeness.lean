import MediaScraper.Proofs.Interpreter.Traversal

/-!
# Runs that end alike

Two runs are *alike* if, started on related registers, neither of them ends, or both do with the
same result, on registers that are related again (`Run.Alike`). What calls have been noted before or
meanwhile plays no part in that.

The checkpoints that have been passed count only if there is one to stop the run. So the counts are
related by what is called a clock here: any relation under which both runs are stopped at the same
checkpoints (`Limits.InStep`), and none at all if nothing stops them (`Limits.InStep.of_none`).

A run depends on what its rules read and write: on registers that agree there, runs of the same
rules are alike, if calls are answered alike (`related_agreeOn`). A routine depends on the registers
that it finds on entry, so one that clears them depends on nothing (`alike_runRoutine`).

An answer depends on what the routine depends on. It does not depend on the depth of the call, if no
limit does (`alike_answer`).
-/

namespace MediaScraper

/-! ## Clocks -/

/-- Whatever the counts of checkpoints are. -/
def Unclocked (_ _ : Nat) : Prop := True

/-- After numbers of checkpoints that are related by the clock, both limits stop a run for the same
reason, or none of them does. -/
structure Limits.InStep (clock : Nat → Nat → Prop) (l l' : Limits) : Prop where
  interruption : l.interruption? = l'.interruption?
  delay : ∀ e, l.interruption? = some e → ∀ n n', clock n n' → (l.delay ≤ n ↔ l'.delay ≤ n')
  succ : ∀ n n', clock n n' → clock (n + 1) (n' + 1)

theorem Limits.InStep.of_none {l l' : Limits} (h : l.interruption? = Option.none)
    (h' : l'.interruption? = Option.none) : l.InStep Unclocked l' where
  interruption := h.trans h'.symm
  delay e he := by rw [h] at he; cases he
  succ _ _ _ := trivial

/-- The machines have passed related numbers of checkpoints, and their registers are related. -/
structure Machine.Like (clock : Nat → Nat → Prop) (related : Registers → Registers → Prop)
    (m m' : Machine) : Prop where
  passed : clock m.passed m'.passed
  registers : related m.registers m'.registers

namespace Run

variable {α β : Type} {clock : Nat → Nat → Prop} {before behind : Registers → Registers → Prop}

/-! ## Alike runs -/

/-- Started on registers that are related before, neither of the runs ends, or both do with the same
result, on registers that are related behind. -/
def Alike (clock : Nat → Nat → Prop) (before behind : Registers → Registers → Prop) (x y : Run α) :
    Prop :=
  ∀ m m', m.Like clock before m' →
    Option.Rel (fun p q => p.1 = q.1 ∧ p.2.Like clock behind q.2) (x m) (y m')

theorem Alike.of_before {before' : Registers → Registers → Prop} {x y : Run α}
    (h : Alike clock before behind x y) (hb : ∀ r r', before' r r' → before r r') :
    Alike clock before' behind x y := fun m m' hm => h m m' ⟨hm.passed, hb _ _ hm.registers⟩

theorem Alike.of_eq_none {x y : Run α} (h : Alike clock before behind x y) {m m' : Machine}
    (hm : m.Like clock before m') (hx : x m = none) : y m' = none := by
  have hrel := h m m' hm
  rw [hx] at hrel
  generalize y m' = q at hrel ⊢
  cases hrel
  rfl

theorem Alike.of_eq_some {x y : Run α} (h : Alike clock before behind x y) {m m' after : Machine}
    {r : Except Interruption α} (hm : m.Like clock before m') (hx : x m = some (r, after)) :
    ∃ after', y m' = some (r, after') ∧ after.Like clock behind after' := by
  have hrel := h m m' hm
  rw [hx] at hrel
  generalize y m' = q at hrel ⊢
  cases hrel with
  | @some _ q hpq =>
    obtain ⟨r', after'⟩ := q
    obtain ⟨rfl, hbehind⟩ := hpq
    exact ⟨after', rfl, hbehind⟩

theorem alike_pure (a : α) : Alike clock before before (pure a : Run α) (pure a) :=
  fun _ _ hm => .some ⟨rfl, hm⟩

theorem alike_modifyRegisters {f g : Registers → Registers}
    (h : ∀ r r', before r r' → behind (f r) (g r')) :
    Alike clock before behind (modifyRegisters f) (modifyRegisters g) :=
  fun _ _ hm => .some ⟨rfl, hm.passed, h _ _ hm.registers⟩

theorem alike_look {f g : Machine → Run β}
    (h : ∀ m m', before m.registers m'.registers → Alike clock before behind (f m) (g m')) :
    Alike clock before behind (get >>= f) (get >>= g) :=
  fun m m' hm => h m m' hm.registers m m' hm

theorem Alike.bind {x y : Run α} {f g : α → Run β} (hx : Alike clock before behind x y)
    (hf : ∀ a, Alike clock behind behind (f a) (g a)) :
    Alike clock before behind (x >>= f) (y >>= g) := by
  intro m m' hm
  have hrel := hx m m' hm
  rw [bind_apply, bind_apply]
  generalize x m = p at hrel ⊢
  generalize y m' = q at hrel ⊢
  cases hrel with
  | none => exact .none
  | @some p q hpq =>
    obtain ⟨r, after⟩ := p
    obtain ⟨r', after'⟩ := q
    obtain ⟨rfl, hbehind⟩ := hpq
    cases r with
    | ok a => exact hf a after after' hbehind
    | error e => exact .some ⟨rfl, hbehind⟩

theorem Alike.trans {x y z : Run α} (hxy : Alike Unclocked Eq Eq x y)
    (hyz : Alike Unclocked Eq Eq y z) : Alike Unclocked Eq Eq x z := by
  intro m m' hm
  have hfirst := hxy m m' hm
  have hsecond := hyz m' m' ⟨trivial, rfl⟩
  generalize x m = p at hfirst ⊢
  generalize y m' = q at hfirst hsecond
  generalize z m' = s at hsecond ⊢
  cases hfirst with
  | none => exact hsecond
  | some hpq =>
    cases hsecond with
    | some hqs =>
      exact .some ⟨hpq.1.trans hqs.1, trivial, hpq.2.registers.trans hqs.2.registers⟩

theorem congruence_alike {reads targets : List Nat}
    (hreads : ∀ r r', before r r' → Registers.AgreeOn reads r r')
    (hwrite : ∀ target ∈ targets, ∀ text r r', before r r' →
      before (r.set target text) (r'.set target text) ∧
        before (r.append target text) (r'.append target text)) :
    Congruence reads targets (fun x y => Alike clock before before x y) where
  pure := alike_pure
  bind := Alike.bind
  look hf := alike_look fun m m' hm => hf m m' (hreads _ _ hm)
  write target ht append text := by
    refine alike_modifyRegisters fun r r' hr => ?_
    obtain ⟨hset, happend⟩ := hwrite target ht text r r' hr
    cases append with
    | true => exact happend
    | false => exact hset

end Run

/-- The registers that a routine finds on entry. -/
def Routine.entry (routine : Routine) (r : Registers) : Registers :=
  if routine.clearsOnEntry then .empty else r

theorem Routine.entry_entry (routine : Routine) (r : Registers) :
    routine.entry (routine.entry r) = routine.entry r := by
  unfold Routine.entry
  split <;> rfl

namespace Interpreter

open Run

variable {t t' : Interpreter} {clock : Nat → Nat → Prop}
  {before behind : Registers → Registers → Prop}

theorem alike_checkpoint (hi : t.limits.InStep clock t'.limits) :
    Alike clock before before t.checkpoint t'.checkpoint := by
  intro m m' hm
  cases he : t.limits.interruption? with
  | none =>
    rw [checkpoint_eq_pure he, checkpoint_eq_pure (hi.interruption ▸ he)]
    exact .some ⟨rfl, hm⟩
  | some e =>
    rw [checkpoint_of_interruption he, checkpoint_of_interruption (hi.interruption ▸ he)]
    have hdelay := hi.delay e he _ _ hm.passed
    by_cases hstop : t.limits.delay ≤ m.passed
    · rw [if_pos hstop, if_pos (hdelay.1 hstop)]
      exact .some ⟨rfl, hm⟩
    · rw [if_neg hstop, if_neg (mt hdelay.2 hstop)]
      exact .some ⟨rfl, hi.succ _ _ hm.passed, hm.registers⟩

/-! ## Rules and routines -/

section

variable (hs : t.settings = t'.settings) (hi : t.limits.InStep clock t'.limits)
  {call call' : Caller}
include hs hi

/-- What rules do depends on the registers that they read and write. -/
theorem related_agreeOn {is reads targets : List Nat} (hr : ∀ i ∈ reads, i ∈ is)
    (ht : ∀ i ∈ targets, i ∈ is)
    (hcall : ∀ name payload, Alike clock (Registers.AgreeOn is) (Registers.AgreeOn is)
      (call name payload) (call' name payload)) :
    Related reads targets
      (fun x y => Alike clock (Registers.AgreeOn is) (Registers.AgreeOn is) x y) t t' call call' :=
  { congruence_alike (fun _ _ hagree => hagree.mono hr) fun target htarget text _ _ hagree =>
      ⟨hagree.set target text, hagree.append (ht target htarget) text⟩ with
    settings := hs
    checkpoint := alike_checkpoint hi
    call := hcall }

variable (hcall : ∀ name payload, Alike clock Eq Eq (call name payload) (call' name payload))
include hcall

theorem related_eq (reads targets : List Nat) :
    Related reads targets (fun x y => Alike clock Eq Eq x y) t t' call call' :=
  { congruence_alike (fun _ _ hr _ _ => by rw [hr]) fun _ _ _ _ _ hr => by simp [hr] with
    settings := hs
    checkpoint := alike_checkpoint hi
    call := hcall }

/-- What a routine does depends on the registers that it finds on entry. -/
theorem alike_runRoutine (routine : Routine) (inputs : List String) :
    Alike clock (fun r r' => routine.entry r = routine.entry r') Eq
      (t.runRoutine call routine inputs) (t'.runRoutine call' routine inputs) := by
  have hentry : Alike clock (fun r r' => routine.entry r = routine.entry r') Eq
      (modifyRegisters fun r => (if routine.clearsOnEntry then .empty else r).load inputs)
      (modifyRegisters fun r => (if routine.clearsOnEntry then .empty else r).load inputs) :=
    alike_modifyRegisters fun _ _ h => congrArg (Registers.load · inputs) h
  have hrelated := related_eq hs hi hcall routine.reads routine.targets
  exact hentry.bind fun _ => hrelated.runEntered (fun _ hi => hi) fun _ hi => hi

theorem alike_runRoutine_eq (routine : Routine) (inputs : List String) :
    Alike clock Eq Eq (t.runRoutine call routine inputs) (t'.runRoutine call' routine inputs) :=
  (alike_runRoutine hs hi hcall routine inputs).of_before fun _ _ hr => congrArg routine.entry hr

end

/-! ## Calls -/

section

variable {depth depth' : Nat} {name : String}

theorem alike_answer_of_error {failure : CallFailure}
    (hcallee : t.callee depth name = .error failure)
    (hcallee' : t'.callee depth' name = .error failure) (reserve : Nat) (payload : String) :
    Alike clock before before (t.answer depth reserve name payload)
      (t'.answer depth' reserve name payload) := by
  rw [answer_of_error hcallee, answer_of_error hcallee']
  exact fun _ _ hm => .some ⟨rfl, hm.passed, hm.registers⟩

variable {routine routine' : Routine} (hcallee : t.callee depth name = .ok routine)
  (hcallee' : t'.callee depth' name = .ok routine')
include hcallee hcallee'

theorem alike_answer_zero (payload : String) :
    Alike clock before before (t.answer depth 0 name payload)
      (t'.answer depth' 0 name payload) := by
  rw [answer_zero_of_ok hcallee, answer_zero_of_ok hcallee']
  exact fun _ _ _ => .none

theorem alike_answer_succ {reserve : Nat} {payload : String}
    (hroutine : Alike clock before behind
      (t.runRoutine (t.answer (depth + 1) reserve) routine ["", payload])
      (t'.runRoutine (t'.answer (depth' + 1) reserve) routine' ["", payload])) :
    Alike clock before before (t.answer depth (reserve + 1) name payload)
      (t'.answer depth' (reserve + 1) name payload) := by
  intro m m' hm
  have hrel := hroutine ⟨m.registers, ⟨depth, name, none⟩ :: m.calls, m.passed⟩
    ⟨m'.registers, ⟨depth', name, none⟩ :: m'.calls, m'.passed⟩ ⟨hm.passed, hm.registers⟩
  rw [answer_succ_apply hcallee, answer_succ_apply hcallee']
  generalize t.runRoutine _ routine ["", payload] _ = p at hrel ⊢
  generalize t'.runRoutine _ routine' ["", payload] _ = q at hrel ⊢
  cases hrel with
  | none => exact .none
  | some hpq =>
    exact .some ⟨congrArg (Except.map Except.ok) hpq.1, hpq.2.passed, hm.registers⟩

end

/-- **The depth of a call does not matter** where the same calls fail, whatever the depth. -/
theorem alike_answer (hs : t.settings = t'.settings) (hi : t.limits.InStep clock t'.limits)
    {depth depth' : Nat}
    (h : ∀ k name, t.callee (depth + k) name = t'.callee (depth' + k) name) (reserve : Nat)
    (name payload : String) :
    Alike clock Eq Eq (t.answer depth reserve name payload)
      (t'.answer depth' reserve name payload) := by
  induction reserve generalizing depth depth' name payload with
  | zero =>
    have hsame : t.callee depth name = t'.callee depth' name := h 0 name
    cases hcallee : t.callee depth name with
    | error failure => exact alike_answer_of_error hcallee (hsame ▸ hcallee) 0 payload
    | ok routine => exact alike_answer_zero hcallee (hsame ▸ hcallee) payload
  | succ reserve ih =>
    have hsame : t.callee depth name = t'.callee depth' name := h 0 name
    cases hcallee : t.callee depth name with
    | error failure => exact alike_answer_of_error hcallee (hsame ▸ hcallee) _ payload
    | ok routine =>
      have hdeeper (k : Nat) (name : String) :
          t.callee (depth + 1 + k) name = t'.callee (depth' + 1 + k) name := by
        rw [Nat.add_assoc, Nat.add_assoc, h]
      exact alike_answer_succ hcallee (hsame ▸ hcallee)
        (alike_runRoutine_eq hs hi (ih hdeeper) routine _)

/-- Runs that are alike on the same registers have the same endings. -/
theorem endingWith?_congr {reserve : Nat} {name : String} {inputs : List String}
    (h : Alike Unclocked Eq Eq (t.runNamed reserve name inputs) (t'.runNamed reserve name inputs))
    (registers : Registers) :
    t.endingWith? reserve registers name inputs = t'.endingWith? reserve registers name inputs := by
  have hrel := h ⟨registers, [], 0⟩ ⟨registers, [], 0⟩ ⟨trivial, rfl⟩
  unfold endingWith?
  show Option.map _ (t.runNamed reserve name inputs ⟨registers, [], 0⟩) =
    Option.map _ (t'.runNamed reserve name inputs ⟨registers, [], 0⟩)
  generalize t.runNamed reserve name inputs ⟨registers, [], 0⟩ = p at hrel ⊢
  generalize t'.runNamed reserve name inputs ⟨registers, [], 0⟩ = q at hrel ⊢
  cases hrel with
  | none => rfl
  | some hpq => simp only [Option.map_some, hpq.1, hpq.2.registers]

end Interpreter
end MediaScraper
