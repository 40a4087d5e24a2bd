import MediaScraper.Interpreter
import MediaScraper.Proofs.Registers
import MediaScraper.Proofs.Template

/-!
# How properties of runs pass through rules

**Runs.** What comes of two runs, one after the other, is what comes of the second, or the error of
the first (`bind_eq_some`).

**Congruences.** Rules are run by putting together a few kinds of parts: values, looks at the
registers that the rules read, writes to their targets, stops at checkpoints and calls. A relation
between runs that holds of such parts, and that goes through putting runs together, is a
`Congruence`. It relates the runs of the same rules by two interpreters, if it relates their
checkpoints and what answers their calls (`Related.runRules`).

A property of runs is the special case of a relation that looks at one side only.
-/

namespace MediaScraper

/-! ## What rules read and write -/

/-- The registers that the tokens of a pattern name. -/
def Expression.reads (e : Expression) : List Nat := Template.references e.pattern

mutual

/-- The registers that a rule and the rules below it read: those that the tokens of their inputs,
outputs and patterns name. -/
def Rule.reads : Rule → List Nat
  | .mk input output _ _ _ children expression =>
    Template.references input ++ Template.references output ++
      expression.elim [] Expression.reads ++ Rule.readsOf children

/-- The registers that rules and the rules below them read. -/
def Rule.readsOf : List Rule → List Nat
  | [] => []
  | rule :: rules => rule.reads ++ Rule.readsOf rules

end

mutual

/-- The registers that a rule and the rules below it write. -/
def Rule.targets : Rule → List Nat
  | .mk _ _ target _ _ children _ => target :: Rule.targetsOf children

/-- The registers that rules and the rules below them write. -/
def Rule.targetsOf : List Rule → List Nat
  | [] => []
  | rule :: rules => rule.targets ++ Rule.targetsOf rules

end

/-- The registers that a routine reads: those that its rules read, and the one that holds its
result. -/
def Routine.reads (r : Routine) : List Nat := r.target :: Rule.readsOf r.rules

/-- The registers that the rules of a routine write. -/
def Routine.targets (r : Routine) : List Nat := Rule.targetsOf r.rules

namespace Run

variable {α β : Type}

/-! ## Runs -/

theorem bind_apply (x : Run α) (f : α → Run β) (m : Machine) :
    (x >>= f) m = (x m).bind fun
      | (.ok a, m') => f a m'
      | (.error e, m') => some (.error e, m') := by
  show Option.bind (x m) _ = _
  congr 1
  funext r
  obtain ⟨a | e, m'⟩ := r <;> rfl

/-- **What comes of two runs**, one after the other. -/
theorem bind_eq_some {x : Run α} {f : α → Run β} {m after : Machine}
    {r : Except Interruption β} :
    (x >>= f) m = some (r, after) ↔
      (∃ a m', x m = some (.ok a, m') ∧ f a m' = some (r, after)) ∨
        ∃ e, x m = some (.error e, after) ∧ r = .error e := by
  rw [bind_apply]
  constructor
  · intro h
    obtain ⟨⟨a | a, m'⟩, hx, hf⟩ := Option.bind_eq_some_iff.1 h
    · cases hf
      exact .inr ⟨a, hx, rfl⟩
    · exact .inl ⟨a, m', hx, hf⟩
  · rintro (⟨a, m', hx, hf⟩ | ⟨e, hx, rfl⟩)
    · rw [hx]
      exact hf
    · rw [hx]
      rfl

theorem modifyRegisters_eq_some {f : Registers → Registers} {m after : Machine}
    {r : Except Interruption Unit} (h : modifyRegisters f m = some (r, after)) :
    r = .ok () ∧ after = { m with registers := f m.registers } := by
  cases h
  exact ⟨rfl, rfl⟩

/-! ## Congruences -/

/-- A relation between runs that holds of runs if it holds of their parts, where the registers that
they look at are among the reads, and those that they write among the targets. -/
structure Congruence (reads targets : List Nat) (R : ∀ {α : Type}, Run α → Run α → Prop) :
    Prop where
  pure : ∀ {α : Type} (a : α), R (pure a : Run α) (pure a)
  bind : ∀ {α β : Type} {x y : Run α} {f g : α → Run β}, R x y → (∀ a, R (f a) (g a)) →
    R (x >>= f) (y >>= g)
  look : ∀ {β : Type} {f g : Machine → Run β},
    (∀ m m', Registers.AgreeOn reads m.registers m'.registers → R (f m) (g m')) →
    R (get >>= f) (get >>= g)
  write : ∀ target ∈ targets, ∀ (append : Bool) (text : String),
    R (modifyRegisters fun r => if append then r.append target text else r.set target text)
      (modifyRegisters fun r => if append then r.append target text else r.set target text)

theorem congruence_eq (reads targets : List Nat) :
    Congruence reads targets (fun x y => x = y) where
  pure _ := rfl
  bind hx hf := by rw [hx, funext hf]
  look hf := by rw [funext fun m => hf m m fun _ _ => rfl]
  write _ _ _ _ := rfl

end Run

namespace Interpreter

open Run

variable {t t' : Interpreter}

/-! ## What runs read

Two interpreters with the same settings read the same, on registers that agree where they look. -/

theorem source_register (registers : Registers) (i : Nat) :
    (t.source registers).register i = t.readRegister registers i := by
  rw [source]

theorem readRegister_congr (hs : t.settings = t'.settings) : t.readRegister = t'.readRegister := by
  funext registers i
  rw [readRegister, readRegister, hs]

theorem holds_congr (hs : t.settings = t'.settings) : t.holds = t'.holds := by
  funext condition
  rw [holds, holds, hs]

theorem groupTexts_of_rawGroups_eq_nil {e : Expression} (he : e.rawGroups = [])
    (m : Pattern.Match) :
    groupTexts e m = (some m.whole :: m.groups).map fun span =>
      Html.clean (.ofList ((span.map Pattern.Span.text).getD [])) := by
  have hkeeps (i : Nat) : e.keepsMarkup i = false := by rw [Expression.keepsMarkup, he]; rfl
  simp only [groupTexts, hkeeps, Bool.false_eq_true, if_false]
  refine List.ext_getElem (by simp) fun i _ _ => ?_
  rw [List.getElem_mapIdx, List.getElem_map]

section

variable {r r' : Registers} (hs : t.settings = t'.settings)
include hs

theorem readRegister_agree {i : Nat} (h : r.get i = r'.get i) :
    t.readRegister r i = t'.readRegister r' i := by
  rw [readRegister, readRegister, hs, h]

theorem source_register_agree {is : List Nat} (h : Registers.AgreeOn is r r') :
    ∀ i ∈ is, (t.source r).register i = (t'.source r').register i := by
  intro i hi
  rw [source_register, source_register]
  exact readRegister_agree hs (h i hi)

theorem source_property_agree : (t.source r).property = (t'.source r').property := by
  rw [source, source, hs]

theorem render_agree {output : String} (groups : List String)
    (h : Registers.AgreeOn (Template.references output) r r') :
    Template.render output groups (t.source r) = Template.render output groups (t'.source r') :=
  Template.render_congr groups (source_property_agree hs) (source_register_agree hs h)

theorem fillRegisters_agree {pattern : String}
    (h : Registers.AgreeOn (Template.references pattern) r r') :
    Template.fillRegisters pattern (t.source r) = Template.fillRegisters pattern (t'.source r') :=
  Template.fillRegisters_congr (source_register_agree hs h)

theorem resolveInput_agree {input : String}
    (h : Registers.AgreeOn (Template.references input) r r') :
    t.resolveInput r input = t'.resolveInput r' input := by
  have hread : (Template.references input).map (t.readRegister r) =
      (Template.references input).map (t'.readRegister r') :=
    List.map_congr_left fun i hi => readRegister_agree hs (h i hi)
  have hfill : Template.fillProperties input (t.source r) =
      Template.fillProperties input (t'.source r') :=
    Template.fillProperties_congr (source_property_agree hs)
  unfold resolveInput
  split
  · exact hfill
  · exact congrArg String.join hread

end

/-! ## From parts to rules -/

/-- Two interpreters that read the same, whose checkpoints and callers are related by a
congruence. -/
structure Related (reads targets : List Nat) (R : ∀ {α : Type}, Run α → Run α → Prop)
    (t t' : Interpreter) (call call' : Caller) : Prop extends Congruence reads targets R where
  settings : t.settings = t'.settings
  checkpoint : R t.checkpoint t'.checkpoint
  call : ∀ name payload, R (call name payload) (call' name payload)

namespace Related

variable {reads targets : List Nat} {R : ∀ {α : Type}, Run α → Run α → Prop} {call call' : Caller}
  (h : Related reads targets R t t' call call')
include h

theorem dispatch (text : String) :
    R (Interpreter.dispatch call text) (Interpreter.dispatch call' text) := by
  unfold Interpreter.dispatch Interpreter.dispatchWith
  extract_lets chain chain'
  -- what comes behind the call of an element: the call of a chain
  have hchain (text : String) : R (chain text) (chain' text) := by
    simp only [chain, chain']
    split
    · exact h.bind (h.call _ _) fun _ => h.pure _
    · exact h.pure _
  split
  · exact h.bind (h.call _ _) fun _ => h.bind (h.pure _) hchain
  · exact h.bind (h.pure _) hchain

theorem writeText {target : Nat} (ht : target ∈ targets) (append : Bool) (text : String) :
    R (Interpreter.write call target append text) (Interpreter.write call' target append text) :=
  h.bind (h.dispatch text) (h.write target ht append)

section

variable {output : String} (ho : ∀ i ∈ Template.references output, i ∈ reads)
  {target : Nat} (ht : target ∈ targets)
include ho ht

theorem writeMatch (append : Bool) (groups : List String) :
    R (t.writeMatch call output target append groups)
      (t'.writeMatch call' output target append groups) := by
  unfold Interpreter.writeMatch
  refine h.look fun m m' hagree => ?_
  dsimp only
  rw [render_agree h.settings groups (hagree.mono ho)]
  exact h.writeText ht append _

theorem writeFurther (e : Expression) (ms : List Pattern.Match) :
    R (t.writeFurther call output target e ms) (t'.writeFurther call' output target e ms) := by
  induction ms with
  | nil => exact h.pure ()
  | cons m ms ih =>
    exact h.bind h.checkpoint fun _ => h.bind (h.writeMatch ho ht true _) fun _ => ih

theorem writeMatches (append : Bool) {e : Expression} (he : ∀ i ∈ e.reads, i ∈ reads)
    (input : String) :
    R (t.writeMatches call output target append e input)
      (t'.writeMatches call' output target append e input) := by
  unfold Interpreter.writeMatches
  refine h.look fun m m' hagree => ?_
  extract_lets registers pattern found registers' pattern' found'
  have hpattern : pattern = pattern' :=
    congrArg Pattern.compile (fillRegisters_agree h.settings (hagree.mono he))
  have hfound : found = found' := by simp only [found, found', hpattern]
  rw [hfound]
  cases found' with
  | nil =>
    cases e.clearOnNoMatch with
    | true => exact h.writeText ht false ""
    | false => exact h.pure ()
  | cons m ms =>
    exact h.bind (h.writeMatch ho ht append _) fun _ => h.writeFurther ho ht e ms

theorem act {input : String} (hi : ∀ i ∈ Template.references input, i ∈ reads) (append : Bool)
    {expression : Option Expression} (he : ∀ i ∈ expression.elim [] Expression.reads, i ∈ reads) :
    R (t.act call input output target append expression)
      (t'.act call' input output target append expression) := by
  unfold Interpreter.act
  refine h.look fun m m' hagree => ?_
  dsimp only
  rw [resolveInput_agree h.settings (hagree.mono hi)]
  cases hfilter : expression.filter fun e => !e.isBlank with
  | none => exact h.writeMatch ho ht append _
  | some e =>
    obtain ⟨rfl, -⟩ := Option.filter_eq_some_iff.1 hfilter
    exact h.writeMatches ho ht append he _

end

mutual

theorem runRule : ∀ rule : Rule, (∀ i ∈ rule.reads, i ∈ reads) → (∀ i ∈ rule.targets, i ∈ targets) →
    R (t.runRule call rule) (t'.runRule call' rule)
  | .mk input output target append condition children expression, hr, ht => by
    rw [Rule.reads, List.forall_mem_append, List.forall_mem_append, List.forall_mem_append] at hr
    obtain ⟨⟨⟨hi, ho⟩, he⟩, hbelow⟩ := hr
    rw [Rule.targets, List.forall_mem_cons] at ht
    rw [Interpreter.runRule, Interpreter.runRule, holds_congr h.settings]
    split
    · exact h.bind (runRules children hbelow ht.2) fun _ => h.act ho ht.1 hi append he
    · exact h.pure ()

/-- **The runs of the same rules are related.** -/
theorem runRules : ∀ rules : List Rule, (∀ i ∈ Rule.readsOf rules, i ∈ reads) →
    (∀ i ∈ Rule.targetsOf rules, i ∈ targets) →
    R (t.runRules call rules) (t'.runRules call' rules)
  | [], _, _ => by
    rw [Interpreter.runRules, Interpreter.runRules]
    exact h.pure ()
  | rule :: rules, hr, ht => by
    rw [Rule.readsOf, List.forall_mem_append] at hr
    rw [Rule.targetsOf, List.forall_mem_append] at ht
    rw [Interpreter.runRules, Interpreter.runRules]
    refine h.bind h.checkpoint fun _ => h.bind (runRule rule hr.1 ht.1) fun _ => ?_
    exact runRules rules hr.2 ht.2

end

end Related

/-! ## Lists of rules -/

theorem checkpoint_eq_pure (h : t.limits.interruption? = none) : t.checkpoint = pure () := by
  rw [checkpoint, h]

theorem checkpoint_of_interruption {e : Interruption} (h : t.limits.interruption? = some e)
    (m : Machine) :
    t.checkpoint m =
      if t.limits.delay ≤ m.passed then some (.error e, m)
      else some (.ok (), { m with passed := m.passed + 1 }) := by
  rw [checkpoint, h]
  show (if t.limits.delay ≤ m.passed then throw e else pass : Run Unit) m = _
  split <;> rfl

/-- A checkpoint changes nothing but the count. -/
theorem checkpoint_apply (t : Interpreter) (m : Machine) :
    ∃ r n, t.checkpoint m = some (r, { m with passed := n }) := by
  cases h : t.limits.interruption? with
  | none =>
    rw [checkpoint_eq_pure h]
    exact ⟨_, m.passed, rfl⟩
  | some e =>
    rw [checkpoint_of_interruption h]
    split
    · exact ⟨_, m.passed, rfl⟩
    · exact ⟨_, m.passed + 1, rfl⟩

theorem runRules_append (call : Caller) (rules rules' : List Rule) :
    t.runRules call (rules ++ rules') =
      t.runRules call rules >>= fun _ => t.runRules call rules' := by
  induction rules with
  | nil => rw [List.nil_append, runRules, pure_bind]
  | cons rule rules ih => rw [List.cons_append, runRules, runRules, ih, bind_assoc]; simp

theorem runRules_cons (h : t.limits.interruption? = none) (call : Caller) (rule : Rule)
    (rules : List Rule) :
    t.runRules call (rule :: rules) =
      t.runRule call rule >>= fun _ => t.runRules call rules := by
  rw [runRules, checkpoint_eq_pure h, pure_bind]

theorem runRules_singleton (h : t.limits.interruption? = none) (call : Caller) (rule : Rule) :
    t.runRules call [rule] = t.runRule call rule := by
  rw [runRules_cons h]
  exact bind_pure _

theorem runRule_unconditional (call : Caller) (input output : String) (target : Nat)
    (append : Bool) (children : List Rule) (expression : Option Expression) :
    t.runRule call (.mk input output target append none children expression) =
      t.runRules call children >>= fun _ => t.act call input output target append expression := by
  rw [runRule]
  rfl

/-! ## From rules to routines -/

namespace Related

variable {reads targets : List Nat} {R : ∀ {α : Type}, Run α → Run α → Prop} {call call' : Caller}
  (h : Related reads targets R t t' call call') {routine : Routine}
  (hr : ∀ i ∈ routine.reads, i ∈ reads) (ht : ∀ i ∈ routine.targets, i ∈ targets)
include h hr ht

theorem runEntered :
    R (do t.runRules call routine.rules; return t.readRegister (← get).registers routine.target)
      (do t'.runRules call' routine.rules
          return t'.readRegister (← get).registers routine.target) := by
  obtain ⟨htarget, hrules⟩ := List.forall_mem_cons.1 hr
  refine h.bind (h.runRules _ hrules ht) fun _ => h.look fun m m' hagree => ?_
  rw [readRegister_agree h.settings (hagree _ htarget)]
  exact h.pure _

theorem runRoutine {inputs : List String}
    (hentry : R
      (modifyRegisters fun r => (if routine.clearsOnEntry then .empty else r).load inputs)
      (modifyRegisters fun r => (if routine.clearsOnEntry then .empty else r).load inputs)) :
    R (t.runRoutine call routine inputs) (t'.runRoutine call' routine inputs) :=
  h.bind hentry fun _ => h.runEntered hr ht

end Related

/-- What a run of a routine leaves: its rules have run on the registers with the inputs. -/
theorem runRoutine_eq_some {call : Caller} {routine : Routine} {inputs : List String}
    {m after : Machine} {r : Except Interruption String}
    (h : t.runRoutine call routine inputs m = some (r, after)) :
    ∃ r', t.runRules call routine.rules
      { m with registers := (if routine.clearsOnEntry then .empty else m.registers).load inputs } =
        some (r', after) ∧
      r = r'.map fun _ => t.readRegister after.registers routine.target := by
  rcases bind_eq_some.1 h with ⟨_, m', hentry, hrest⟩ | ⟨e, hentry, -⟩
  · obtain ⟨-, rfl⟩ := modifyRegisters_eq_some hentry
    rcases bind_eq_some.1 hrest with ⟨_, m'', hrules, hread⟩ | ⟨e, hrules, rfl⟩
    · cases hread
      exact ⟨_, hrules, rfl⟩
    · exact ⟨_, hrules, rfl⟩
  · cases (modifyRegisters_eq_some hentry).1

theorem runRoutine_of_runRules {call : Caller} {routine : Routine} {inputs : List String}
    {m after : Machine} {entered : Registers}
    (hentered : (if routine.clearsOnEntry then .empty else m.registers).load inputs = entered)
    (h : t.runRules call routine.rules ⟨entered, m.calls, m.passed⟩ = some (.ok (), after)) :
    t.runRoutine call routine inputs m =
      some (.ok (t.readRegister after.registers routine.target), after) := by
  subst hentered
  exact bind_eq_some.2 (.inl ⟨(), _, rfl, bind_eq_some.2 (.inl ⟨(), after, h, rfl⟩)⟩)

/-! ## Calls -/

/-- **What a call runs**: the routine of its name, if that is not blank, above the limit. -/
theorem callee_eq_ok {depth : Nat} {name : String} {routine : Routine} :
    t.callee depth name = .ok routine ↔ allBlank name = false ∧
      t.scraper.find? name = some routine ∧ ∀ limit ∈ t.limits.callDepth, depth < limit := by
  unfold callee
  cases hname : allBlank name with
  | true => simp
  | false =>
    cases hfind : t.scraper.find? name with
    | none => simp
    | some found =>
      cases hlimit : t.limits.callDepth with
      | none => simp
      | some limit => by_cases hle : limit ≤ depth <;> simp [hle, Nat.lt_of_not_le]

/-- Where the routines of names are changed and no limit is, the routines of calls are changed. -/
theorem callee_map {f : Routine → Routine} (hl : t'.limits.callDepth = t.limits.callDepth)
    {name : String} (hfind : t'.scraper.find? name = (t.scraper.find? name).map f) (depth : Nat) :
    t'.callee depth name = (t.callee depth name).map f := by
  rw [callee, callee, hfind, hl]
  split
  · rfl
  · cases t.scraper.find? name with
    | none => rfl
    | some routine =>
      simp only [Option.map_some]
      cases t.limits.callDepth with
      | none => rfl
      | some limit => by_cases hlimit : limit ≤ depth <;> simp [hlimit, Except.map]

section

variable {depth : Nat} {name : String}

theorem answer_of_error {failure : CallFailure} (h : t.callee depth name = .error failure)
    (reserve : Nat) (payload : String) :
    t.answer depth reserve name payload =
      record ⟨depth, name, some failure⟩ >>= fun _ => pure (.error failure) := by
  unfold answer
  rw [h]

variable {routine : Routine} (h : t.callee depth name = .ok routine)
include h

theorem answer_zero_of_ok (payload : String) :
    t.answer depth 0 name payload = record ⟨depth, name, none⟩ >>= fun _ => exhausted := by
  unfold answer
  rw [h]

theorem answer_succ_of_ok (reserve : Nat) (payload : String) :
    t.answer depth (reserve + 1) name payload =
      record ⟨depth, name, none⟩ >>= fun _ => get >>= fun m =>
        onOwnRegisters m.registers
          (t.runRoutine (t.answer (depth + 1) reserve) routine ["", payload]) >>= fun result =>
        pure (.ok result) := by
  rw [answer, h]

/-- What a call with a reserve leaves: the routine has been run, and the registers are those of the
caller. -/
theorem answer_succ_apply (reserve : Nat) (payload : String) (m : Machine) :
    t.answer depth (reserve + 1) name payload m =
      (t.runRoutine (t.answer (depth + 1) reserve) routine ["", payload]
        ⟨m.registers, ⟨depth, name, none⟩ :: m.calls, m.passed⟩).map fun r =>
          (r.1.map .ok, { r.2 with registers := m.registers }) := by
  rw [answer_succ_of_ok h]
  show Option.bind (Option.map _ (t.runRoutine (t.answer (depth + 1) reserve) routine ["", payload]
    ⟨m.registers, ⟨depth, name, none⟩ :: m.calls, m.passed⟩)) _ = _
  rcases t.runRoutine (t.answer (depth + 1) reserve) routine ["", payload]
    ⟨m.registers, ⟨depth, name, none⟩ :: m.calls, m.passed⟩ with _ | ⟨e | result, after⟩ <;> rfl

end

/-! ## Endings -/

/-- What an ending says: the routine has been run on the given registers. -/
theorem endingWith?_eq_some {reserve : Nat} {registers : Registers} {name : String}
    {inputs : List String} {ending : Ending}
    (h : t.endingWith? reserve registers name inputs = some ending) :
    ∃ after, t.runNamed reserve name inputs ⟨registers, [], 0⟩ = some (ending.result, after) ∧
      ending.registers = after.registers := by
  obtain ⟨⟨r, after⟩, hrun, rfl⟩ := Option.map_eq_some_iff.1 h
  exact ⟨after, hrun, rfl⟩

theorem result?_of_find? {name : String} {routine : Routine}
    (h : t.scraper.find? name = some routine) (inputs : List String) :
    t.result? name inputs =
      (t.runRoutine (t.answer 0 t.reserve) routine inputs ⟨.empty, [], 0⟩).map (·.1) := by
  rw [result?, ending?, endingWith?, runNamed, h, Option.map_map]
  rfl

end Interpreter
end MediaScraper
