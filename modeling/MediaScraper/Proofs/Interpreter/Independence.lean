import Mathlib.Data.List.Basic
import MediaScraper.Proofs.Interpreter.Frame
import MediaScraper.Proofs.Interpreter.Interruption
import MediaScraper.Proofs.Interpreter.Likeness

/-!
# Rules that do not depend on each other

Two rules are *independent* if neither of them writes what the other one reads or writes, children
included (`Rule.Independent`). Where every routine clears its registers, calls read nothing of their
caller (`alike_answer_of_clears`). So a rule is *confined* to the registers that its tokens name and
that it writes itself (`confined_runRule`).

**Two rules.** Confined runs that leave each other's registers alone can be exchanged, and so can
independent neighbours (`Run.alike_exchange`).

**Routines.** The neighbours may be anywhere in a routine, at the top or below other rules
(`Rule.Exchange`), and the routine may be called by others or by itself, with the neighbours
exchanged in every call: by induction on the reserve, all calls are answered alike, and all runs
have the same endings (`endingWith?_exchange`).
-/

namespace MediaScraper

/-- Neither of the rules writes what the other one reads or writes. -/
structure Rule.Independent (a b : Rule) : Prop where
  targets_reads : a.targets.Disjoint b.reads
  targets_targets : a.targets.Disjoint b.targets
  reads_targets : b.targets.Disjoint a.reads

/-- Two independent neighbours have been exchanged, at the top or below some rule. -/
inductive Rule.Exchange : List Rule → List Rule → Prop
  | here {a b : Rule} (h : a.Independent b) (before after : List Rule) :
      Exchange (before ++ a :: b :: after) (before ++ b :: a :: after)
  | inner {children children' : List Rule} (h : Exchange children children')
      (before after : List Rule) (input output : String) (target : Nat) (append : Bool)
      (condition : Option String) (expression : Option Expression) :
      Exchange (before ++ .mk input output target append condition children expression :: after)
        (before ++ .mk input output target append condition children' expression :: after)

namespace Run

/-! ## Confined runs -/

/-- A run is *confined* to registers if it completes, and depends on and writes none but these. -/
structure Confined (is : List Nat) (x : Run Unit) : Prop where
  completes : Completes x
  alike : Alike Unclocked (Registers.AgreeOn is) (Registers.AgreeOn is) x x
  keeps : ∀ i ∉ is, Keeps (·.get i) x

section

open Registers

variable {x y : Run Unit} {xs ys : List Nat}

theorem agreeOn_of_keeps (hy : ∀ i ∈ xs, Keeps (·.get i) y) {m m' after : Machine}
    {r : Except Interruption Unit} (hm : m.registers = m'.registers)
    (hafter : y m' = some (r, after)) : AgreeOn xs m.registers after.registers := by
  intro i hi
  have hkept : after.registers.get i = m'.registers.get i := hy i hi m' r after hafter
  rw [hkept, hm]

variable (hx : Confined xs x) (hy : Confined ys y) (hyx : ∀ i ∈ xs, Keeps (·.get i) y)
include hx hy hyx

/-- Both orders of the runs end on the same registers: each register holds what the run has left
there that is confined to it, or what it held before. -/
theorem registers_eq_of_exchange {m m' n n' e e' : Machine} {r r' s s' : Except Interruption Unit}
    (hm : m.registers = m'.registers) (hfirst : x m = some (r, n)) (hsecond : y n = some (s, e))
    (hother : y m' = some (s', n')) (hlast : x n' = some (r', e'))
    (hxe : AgreeOn xs n.registers e'.registers) (hye : AgreeOn ys n'.registers e.registers) :
    e.registers = e'.registers := by
  refine ext_get fun i => ?_
  by_cases hi : i ∈ xs
  · calc e.registers.get i
        = n.registers.get i := hyx i hi n s e hsecond
      _ = e'.registers.get i := hxe i hi
  · by_cases hi' : i ∈ ys
    · calc e.registers.get i
          = n'.registers.get i := (hye i hi').symm
        _ = e'.registers.get i := (hx.keeps i hi n' r' e' hlast).symm
    · calc e.registers.get i
          = n.registers.get i := hy.keeps i hi' n s e hsecond
        _ = m.registers.get i := hx.keeps i hi m r n hfirst
        _ = m'.registers.get i := congrArg (·.get i) hm
        _ = n'.registers.get i := (hy.keeps i hi' m' s' n' hother).symm
        _ = e'.registers.get i := (hx.keeps i hi n' r' e' hlast).symm

/-- **Confined runs can be exchanged** if each leaves alone what the other one is confined to. -/
theorem alike_exchange (hxy : ∀ i ∈ ys, Keeps (·.get i) x) :
    Alike Unclocked Eq Eq (x >>= fun _ => y) (y >>= fun _ => x) := by
  intro m m' hm
  rw [bind_apply, bind_apply]
  cases hfirst : x m with
  | none =>
    cases hother : y m' with
    | none => exact .none
    | some p =>
      obtain ⟨s', n'⟩ := p
      obtain ⟨u, rfl⟩ := hy.completes m' s' n' hother
      have hagree : AgreeOn xs m.registers n'.registers := agreeOn_of_keeps hyx hm.registers hother
      have hnone : x n' = none := hx.alike.of_eq_none ⟨trivial, hagree⟩ hfirst
      simp only [Option.bind_none, Option.bind_some, hnone]
      exact .none
  | some p =>
    obtain ⟨r, n⟩ := p
    obtain ⟨u, rfl⟩ := hx.completes m r n hfirst
    have hagree : AgreeOn ys m'.registers n.registers :=
      agreeOn_of_keeps hxy hm.registers.symm hfirst
    cases hother : y m' with
    | none =>
      have hnone : y n = none := hy.alike.of_eq_none ⟨trivial, hagree⟩ hother
      simp only [Option.bind_none, Option.bind_some, hnone]
      exact .none
    | some p =>
      obtain ⟨s', n'⟩ := p
      obtain ⟨u', rfl⟩ := hy.completes m' s' n' hother
      have hagree' : AgreeOn xs m.registers n'.registers := agreeOn_of_keeps hyx hm.registers hother
      obtain ⟨e, hsecond, hye⟩ := hy.alike.of_eq_some ⟨trivial, hagree⟩ hother
      obtain ⟨e', hlast, hxe⟩ := hx.alike.of_eq_some ⟨trivial, hagree'⟩ hfirst
      simp only [Option.bind_some, hsecond, hlast]
      exact .some ⟨rfl, trivial, registers_eq_of_exchange hx hy hyx hm.registers hfirst hsecond
        hother hlast hxe.registers hye.registers⟩

end

end Run

/-! ## Changing the rules of a routine -/

/-- The routine has these rules, if this is its name. -/
def Routine.setRules (name : String) (rules : List Rule) (r : Routine) : Routine :=
  if r.name = name then { r with rules } else r

theorem Routine.setRules_name (name : String) (rules : List Rule) (r : Routine) :
    (r.setRules name rules).name = r.name := by
  unfold Routine.setRules
  split <;> rfl

namespace Scraper

/-- The scraper whose routine of this name has these rules. -/
def setRules (s : Scraper) (name : String) (rules : List Rule) : Scraper :=
  { s with routines := s.routines.map (·.setRules name rules) }

theorem name_of_find? {s : Scraper} {name : String} {routine : Routine}
    (h : s.find? name = some routine) : routine.name = name := by
  simpa using List.find?_some h

/-- **Every name stands for the routine that it stood for**, but for the rules of the one that is
changed. -/
theorem find?_setRules (s : Scraper) (name : String) (rules : List Rule) (other : String) :
    (s.setRules name rules).find? other = (s.find? other).map (·.setRules name rules) := by
  rw [find?, setRules, List.find?_map, find?]
  congr 2
  funext r
  rw [Function.comp_apply, Routine.setRules_name]

end Scraper

namespace Interpreter

open Run

variable {t : Interpreter}

/-! ## Calls of routines that clear their registers -/

/-- **A call depends on nothing of its caller** if every routine clears its registers. -/
theorem alike_answer_of_clears (hi : t.limits.interruption? = none)
    (h : ∀ name routine, t.scraper.find? name = some routine → routine.clearsOnEntry = true)
    {before : Registers → Registers → Prop} (depth reserve : Nat) (name payload : String) :
    Alike Unclocked before before (t.answer depth reserve name payload)
      (t.answer depth reserve name payload) := by
  cases hcallee : t.callee depth name with
  | error failure => exact alike_answer_of_error hcallee hcallee reserve payload
  | ok routine =>
    cases reserve with
    | zero => exact alike_answer_zero hcallee hcallee payload
    | succ reserve =>
      have hstep : t.limits.InStep Unclocked t.limits := .of_none hi hi
      have hcalls (name payload : String) : Alike Unclocked Eq Eq
          (t.answer (depth + 1) reserve name payload) (t.answer (depth + 1) reserve name payload) :=
        alike_answer rfl hstep (fun _ _ => rfl) reserve name payload
      have hroutine : Alike Unclocked (fun r r' => routine.entry r = routine.entry r') Eq
          (t.runRoutine (t.answer (depth + 1) reserve) routine ["", payload])
          (t.runRoutine (t.answer (depth + 1) reserve) routine ["", payload]) :=
        alike_runRoutine rfl hstep hcalls routine _
      refine alike_answer_succ hcallee hcallee (hroutine.of_before fun r r' _ => ?_)
      rw [Routine.entry, Routine.entry, h name routine (callee_eq_ok.1 hcallee).2.1]
      rfl

/-! ## Neighbours -/

section

variable (hi : t.limits.interruption? = none)
  (hclears : ∀ name routine, t.scraper.find? name = some routine → routine.clearsOnEntry = true)
  (depth reserve : Nat)
include hi hclears

/-- **A rule is confined** to the registers that it reads and writes. -/
theorem confined_runRule (rule : Rule) :
    Confined (rule.reads ++ rule.targets) (t.runRule (t.answer depth reserve) rule) where
  completes := (stops_runRule t depth reserve rule).completes hi
  alike :=
    (related_agreeOn rfl (.of_none hi hi) (fun _ => List.mem_append_left _)
      (fun _ => List.mem_append_right _)
      (alike_answer_of_clears hi hclears depth reserve)).runRule rule (fun _ hj => hj) fun _ hj => hj
  keeps _ h := keeps_runRule (fun ht => h (List.mem_append_right _ ht)) depth reserve

theorem alike_runRule_exchange {a b : Rule} (h : a.Independent b) :
    Alike Unclocked Eq Eq
      (t.runRule (t.answer depth reserve) a >>= fun _ => t.runRule (t.answer depth reserve) b)
      (t.runRule (t.answer depth reserve) b >>= fun _ => t.runRule (t.answer depth reserve) a) := by
  refine alike_exchange (confined_runRule hi hclears depth reserve a)
    (confined_runRule hi hclears depth reserve b) (fun i hia => ?_) fun i hib => ?_
  · refine keeps_runRule (fun ht => ?_) depth reserve
    exact (List.mem_append.1 hia).elim (h.reads_targets ht) fun ht' => h.targets_targets ht' ht
  · refine keeps_runRule (fun ht => ?_) depth reserve
    exact (List.mem_append.1 hib).elim (h.targets_reads ht) (h.targets_targets ht)

/-- **Rules run alike** when independent neighbours are exchanged, wherever they are. -/
theorem alike_runRules_of_exchange {rules rules' : List Rule} (h : Rule.Exchange rules rules') :
    Alike Unclocked Eq Eq (t.runRules (t.answer depth reserve) rules)
      (t.runRules (t.answer depth reserve) rules') := by
  have hstep : t.limits.InStep Unclocked t.limits := .of_none hi hi
  have hcalls (name payload : String) : Alike Unclocked Eq Eq (t.answer depth reserve name payload)
      (t.answer depth reserve name payload) :=
    alike_answer rfl hstep (fun _ _ => rfl) reserve name payload
  have hrules (rules : List Rule) : Alike Unclocked Eq Eq
      (t.runRules (t.answer depth reserve) rules) (t.runRules (t.answer depth reserve) rules) :=
    (related_eq rfl hstep hcalls _ _).runRules rules (fun _ hj => hj) fun _ hj => hj
  induction h with
  | here h before after =>
    rw [runRules_append, runRules_append]
    refine (hrules before).bind fun _ => ?_
    rw [runRules_cons hi, runRules_cons hi, runRules_cons hi, runRules_cons hi, ← bind_assoc,
      ← bind_assoc]
    exact (alike_runRule_exchange hi hclears depth reserve h).bind fun _ => hrules after
  | inner h before after input output target append condition expression ih =>
    rw [runRules_append, runRules_append]
    refine (hrules before).bind fun _ => ?_
    rw [runRules_cons hi, runRules_cons hi]
    refine Alike.bind ?_ fun _ => hrules after
    rw [runRule, runRule]
    split
    · have hact : Related (Template.references input ++ Template.references output ++
          expression.elim [] Expression.reads) [target] (fun x y => Alike Unclocked Eq Eq x y) t t
          (t.answer depth reserve) (t.answer depth reserve) := related_eq rfl hstep hcalls _ _
      refine ih.bind fun _ => hact.act ?_ (List.mem_singleton_self target) ?_ append ?_
      · exact fun _ hj => List.mem_append_left _ (List.mem_append_right _ hj)
      · exact fun _ hj => List.mem_append_left _ (List.mem_append_left _ hj)
      · exact fun _ hj => List.mem_append_right _ hj
    · exact alike_pure ()

theorem alike_runRoutine_exchange {routine : Routine} {rules' : List Rule}
    (h : Rule.Exchange routine.rules rules') (inputs : List String) :
    Alike Unclocked Eq Eq (t.runRoutine (t.answer depth reserve) routine inputs)
      (t.runRoutine (t.answer depth reserve) { routine with rules := rules' } inputs) := by
  have hentry : Alike Unclocked Eq Eq
      (modifyRegisters fun r => (if routine.clearsOnEntry then .empty else r).load inputs)
      (modifyRegisters fun r => (if routine.clearsOnEntry then .empty else r).load inputs) :=
    alike_modifyRegisters fun _ _ hr => by rw [hr]
  refine hentry.bind fun _ => ?_
  refine (alike_runRules_of_exchange hi hclears depth reserve h).bind fun _ => ?_
  refine alike_look fun m m' hm => ?_
  rw [hm]
  exact alike_pure _

end

/-! ## All routines -/

/-- The interpreter of the scraper whose routine of this name has these rules. -/
def withRules (t : Interpreter) (name : String) (rules : List Rule) : Interpreter :=
  { t with scraper := t.scraper.setRules name rules }

theorem callee_withRules (name : String) (rules : List Rule) (depth : Nat) (other : String) :
    (t.withRules name rules).callee depth other =
      (t.callee depth other).map (Routine.setRules name rules) :=
  callee_map (show (t.withRules name rules).limits.callDepth = t.limits.callDepth from rfl)
    (t.scraper.find?_setRules name rules other) depth

section

variable {name other : String} {rules : List Rule} {depth : Nat}

theorem callee_withRules_of_error {failure : CallFailure}
    (h : t.callee depth other = .error failure) :
    (t.withRules name rules).callee depth other = .error failure := by
  rw [callee_withRules, h]
  rfl

theorem callee_withRules_of_ok {found : Routine} (h : t.callee depth other = .ok found) :
    (t.withRules name rules).callee depth other = .ok (found.setRules name rules) := by
  rw [callee_withRules, h]
  rfl

end

section

variable (hi : t.limits.interruption? = none)
  (hclears : ∀ name routine, t.scraper.find? name = some routine → routine.clearsOnEntry = true)
  {name : String} {routine : Routine} (hfind : t.scraper.find? name = some routine)
  {rules' : List Rule} (h : Rule.Exchange routine.rules rules')
include hi hclears hfind h

theorem alike_runRoutine_withRules {depth reserve : Nat}
    (hcall : ∀ called payload, Alike Unclocked Eq Eq (t.answer depth reserve called payload)
      ((t.withRules name rules').answer depth reserve called payload))
    {other : String} {found : Routine} (hother : t.scraper.find? other = some found)
    (inputs : List String) :
    Alike Unclocked Eq Eq (t.runRoutine (t.answer depth reserve) found inputs)
      ((t.withRules name rules').runRoutine ((t.withRules name rules').answer depth reserve)
        (found.setRules name rules') inputs) := by
  have hstep : t.limits.InStep Unclocked t.limits := .of_none hi hi
  have hexchange : Alike Unclocked Eq Eq (t.runRoutine (t.answer depth reserve) found inputs)
      (t.runRoutine (t.answer depth reserve) (found.setRules name rules') inputs) := by
    by_cases hname : found.name = name
    · obtain rfl : other = name := (Scraper.name_of_find? hother).symm.trans hname
      obtain rfl : routine = found := Option.some.inj (hfind.symm.trans hother)
      rw [Routine.setRules, if_pos hname]
      exact alike_runRoutine_exchange hi hclears depth reserve h inputs
    · rw [Routine.setRules, if_neg hname]
      exact alike_runRoutine_eq rfl hstep (alike_answer rfl hstep (fun _ _ => rfl) reserve) found
        inputs
  have hs : t.settings = (t.withRules name rules').settings := rfl
  exact hexchange.trans (alike_runRoutine_eq hs hstep hcall _ inputs)

/-- **Calls are answered alike** when independent neighbours are exchanged in a routine. -/
theorem alike_answer_withRules (depth reserve : Nat) (called payload : String) :
    Alike Unclocked Eq Eq (t.answer depth reserve called payload)
      ((t.withRules name rules').answer depth reserve called payload) := by
  induction reserve generalizing depth called payload with
  | zero =>
    cases hcallee : t.callee depth called with
    | error failure =>
      exact alike_answer_of_error hcallee (callee_withRules_of_error hcallee) 0 payload
    | ok found => exact alike_answer_zero hcallee (callee_withRules_of_ok hcallee) payload
  | succ reserve ih =>
    cases hcallee : t.callee depth called with
    | error failure =>
      exact alike_answer_of_error hcallee (callee_withRules_of_error hcallee) _ payload
    | ok found =>
      have hfound : t.scraper.find? called = some found := (callee_eq_ok.1 hcallee).2.1
      have hroutine :=
        alike_runRoutine_withRules hi hclears hfind h (ih (depth + 1)) hfound ["", payload]
      exact alike_answer_succ hcallee (callee_withRules_of_ok hcallee) hroutine

end

/-- **Independent neighbours can be exchanged**, anywhere in a routine, where every routine clears
its registers and nothing stops the runs. The limit on the depth of calls is as it may be. -/
theorem endingWith?_exchange (hc : t.limits.cancelled = false) (he : t.limits.expired = false)
    (hclears : ∀ name routine, t.scraper.find? name = some routine → routine.clearsOnEntry = true)
    {name : String} {routine : Routine} (hfind : t.scraper.find? name = some routine)
    {rules' : List Rule} (h : Rule.Exchange routine.rules rules') (reserve : Nat)
    (registers : Registers) (called : String) (inputs : List String) :
    (t.withRules name rules').endingWith? reserve registers called inputs =
      t.endingWith? reserve registers called inputs := by
  have hi : t.limits.interruption? = none := interruption?_eq_none.2 (by simp [hc, he])
  refine (endingWith?_congr ?_ registers).symm
  have hfound : (t.withRules name rules').scraper.find? called =
      (t.scraper.find? called).map (·.setRules name rules') :=
    t.scraper.find?_setRules name rules' called
  rw [runNamed, runNamed, hfound]
  cases hcalled : t.scraper.find? called with
  | none => exact alike_pure ""
  | some found =>
    exact alike_runRoutine_withRules hi hclears hfind h
      (alike_answer_withRules hi hclears hfind h 0 reserve) hcalled inputs

/-- A rule that puts together what its children write. -/
def joiningRule (children : List Rule) : Rule := .mk "$$1" "$$3, $$4" 2 false none children none

def makingRule : Rule := .mk "$$1" "<chain function=\"Make\">\\1</chain>" 3 false none [] none

def copyingRule : Rule := .mk "$$1" "\\1" 4 false none [] none

/-- Two rules that write a register each, below one that puts them together. -/
def neighbourSample : Interpreter :=
  ⟨⟨"sample", [⟨"Find", true, 2, false, [joiningRule [makingRule, copyingRule]]⟩,
    ⟨"Make", true, 3, false, [.mk "$$1" "made \\1" 3 false none [] none]⟩]⟩, .empty, .none⟩

theorem endingWith?_exchange_neighbourSample :
    Rule.Exchange [joiningRule [makingRule, copyingRule]] [joiningRule [copyingRule, makingRule]] ∧
      ((neighbourSample.withRules "Find" [joiningRule [copyingRule, makingRule]]).endingWith? 1
        .empty "Find" ["", "x"]).map (·.result) = some (.ok "<Make>made x</Make>, x") := by
  have hreads : makingRule.reads = [1] ∧ copyingRule.reads = [1] := by decide
  have htargets : makingRule.targets = [3] ∧ copyingRule.targets = [4] := by decide
  have hindependent : makingRule.Independent copyingRule := by
    constructor <;> simp [hreads, htargets]
  have hexchange : Rule.Exchange [joiningRule [makingRule, copyingRule]]
      [joiningRule [copyingRule, makingRule]] :=
    .inner (.here hindependent [] []) [] [] _ _ _ _ _ _
  have hclears (name : String) (routine : Routine)
      (h : neighbourSample.scraper.find? name = some routine) : routine.clearsOnEntry = true := by
    have hmem : routine ∈ neighbourSample.scraper.routines := List.mem_of_find?_eq_some h
    simp only [neighbourSample, List.mem_cons, List.not_mem_nil, or_false] at hmem
    rcases hmem with rfl | rfl <;> rfl
  have hfind : neighbourSample.scraper.find? "Find" =
      some ⟨"Find", true, 2, false, [joiningRule [makingRule, copyingRule]]⟩ := rfl
  refine ⟨hexchange, ?_⟩
  rw [endingWith?_exchange rfl rfl hclears hfind hexchange]
  decide +kernel

end Interpreter
end MediaScraper
