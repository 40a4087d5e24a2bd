import MediaScraper.Proofs.Interpreter.Independence
import MediaScraper.Proofs.Interpreter.Interruption
import MediaScraper.Proofs.Interpreter.Marker
import MediaScraper.Proofs.Pattern.Search

/-!
# Rules that go on to every match

A rule with a repeating expression writes its output for one match after the other, and each text
may ask for a call. The input and the pattern are read before the first write, so the matches are
those of the registers that the rule finds, also if it writes a register that it reads.

**Texts.** Where every routine clears the registers, a call depends on nothing but its payload, so
what is put in place of a text depends on the text alone (`dispatched?`, `left_dispatch`).

**Matches.** So a run over all matches collects what is put in place of their texts, in order
(`left_writeFurther`), and the target holds them in the end, behind what it held before if the rule
appends (`act_repeats`).
-/

namespace MediaScraper

namespace Run

variable {α β : Type}

/-- What a run leaves: its result or why it was stopped, and the registers. -/
def left (x : Run α) (m : Machine) : Option (Except Interruption α × Registers) :=
  (x m).map fun r => (r.1, r.2.registers)

theorem left_pure (a : α) (m : Machine) : (pure a : Run α).left m = some (.ok a, m.registers) := rfl

/-- A run behind another one, if that leaves a value and registers that are told by `o`. -/
theorem left_bind {σ : Type} {x : Run α} {f : α → Run β} {m : Machine} {o : Option σ}
    {value : σ → α} {behind : σ → Registers}
    {g : σ → Option (Except Interruption β × Registers)}
    (hx : x.left m = o.map fun s => (.ok (value s), behind s))
    (hf : ∀ s m', m'.registers = behind s → (f (value s)).left m' = g s) :
    (x >>= f).left m = o.bind g := by
  rw [left] at hx ⊢
  rw [bind_apply]
  cases hrun : x m with
  | none =>
    rw [hrun, Option.map_none, eq_comm, Option.map_eq_none_iff] at hx
    rw [hx]
    rfl
  | some r =>
    obtain ⟨r, after⟩ := r
    rw [hrun, Option.map_some, eq_comm, Option.map_eq_some_iff] at hx
    obtain ⟨s, rfl, heq⟩ := hx
    obtain ⟨rfl, hbehind⟩ := Prod.mk.inj heq
    exact hf s after hbehind.symm

theorem left_look (f : Machine → Run β) (m : Machine) : (get >>= f).left m = (f m).left m := rfl

end Run

namespace Interpreter

open Run

theorem map_mapM_cons {α β γ : Type} (f : α → Option β) (g : List β → γ) (a : α) (as : List α) :
    ((a :: as).mapM f).map g = (f a).bind fun b => (as.mapM f).map fun bs => g (b :: bs) := by
  rw [List.mapM_cons]
  cases f a with
  | none => rfl
  | some b => cases as.mapM f <;> rfl

/-! ## What is put in place of a text -/

/-- What is put in place of a text once the calls that it asks for are answered; nothing if one of
them is not. -/
def dispatched? (t : Interpreter) (depth reserve : Nat) (text : String) : Option String :=
  (dispatch (t.answer depth reserve) text ⟨.empty, [], 0⟩).bind fun r => r.1.toOption

section

variable {t : Interpreter} (hlimits : t.limits.interruption? = none)
  (hclears : ∀ name routine, t.scraper.find? name = some routine → routine.clearsOnEntry = true)
include hlimits hclears

/-- **What is put in place of a text depends on the text alone**, and the registers are kept. -/
theorem left_dispatch (depth reserve : Nat) (text : String) (m : Machine) :
    (dispatch (t.answer depth reserve) text).left m =
      (t.dispatched? depth reserve text).map fun d => (.ok d, m.registers) := by
  -- one run from these registers and one from empty ones, which both keep what they find
  let before : Registers → Registers → Prop := fun r r' => r = m.registers ∧ r' = .empty
  have hrelated : Related [] [] (fun x y => Alike Unclocked before before x y) t t
      (t.answer depth reserve) (t.answer depth reserve) :=
    { congruence_alike (fun _ _ _ _ hi => absurd hi List.not_mem_nil)
        fun _ hi => absurd hi List.not_mem_nil with
      settings := rfl
      checkpoint := alike_checkpoint (.of_none hlimits hlimits)
      call := alike_answer_of_clears hlimits hclears depth reserve }
  have halike := hrelated.dispatch text m ⟨.empty, [], 0⟩ ⟨trivial, rfl, rfl⟩
  have hcompletes : Completes (dispatch (t.answer depth reserve) text) :=
    ((related_stops t [] [] (stops_answer t depth reserve)).dispatch text).completes hlimits
  rw [left, dispatched?]
  have hvalue := hcompletes m
  generalize dispatch (t.answer depth reserve) text m = p at halike hvalue ⊢
  generalize dispatch (t.answer depth reserve) text ⟨.empty, [], 0⟩ = q at halike ⊢
  cases halike with
  | none => rfl
  | @some p q hpq =>
    obtain ⟨r, after⟩ := p
    obtain ⟨r', after'⟩ := q
    obtain ⟨rfl, -, hregisters, -⟩ := hpq
    obtain ⟨d, rfl⟩ := hvalue r after rfl
    exact congrArg (fun r => some (Except.ok d, r)) hregisters

theorem left_write (depth reserve target : Nat) (append : Bool) (text : String) (m : Machine) :
    (write (t.answer depth reserve) target append text).left m =
      (t.dispatched? depth reserve text).map fun d =>
        (.ok (), if append then m.registers.append target d else m.registers.set target d) := by
  rw [write, Option.map_eq_bind]
  refine left_bind (left_dispatch hlimits hclears depth reserve text m) fun d m' hm' => ?_
  rw [← hm']
  rfl

/-! ## Matches one after the other -/

variable {output : String} (houtput : Template.references output = [])
include houtput

omit hlimits hclears in
theorem render_of_no_references (groups : List String) (r r' : Registers) :
    Template.render output groups (t.source r) = Template.render output groups (t.source r') :=
  render_agree rfl groups fun i hi => by simp [houtput] at hi

theorem left_writeMatch (depth reserve target : Nat) (append : Bool) (groups : List String)
    (r : Registers) (m : Machine) :
    (t.writeMatch (t.answer depth reserve) output target append groups).left m =
      (t.dispatched? depth reserve (Template.render output groups (t.source r))).map fun d =>
        (.ok (), if append then m.registers.append target d else m.registers.set target d) := by
  rw [writeMatch, left_look]
  dsimp only
  rw [render_of_no_references houtput groups m.registers r, left_write hlimits hclears]

/-- **Further matches** append what is put in place of their texts, in order. -/
theorem left_writeFurther (depth reserve target : Nat) (e : Expression) (ms : List Pattern.Match)
    (r : Registers) (m : Machine) :
    (t.writeFurther (t.answer depth reserve) output target e ms).left m =
      ((ms.map fun x => Template.render output (groupTexts e x) (t.source r)).mapM
        (t.dispatched? depth reserve)).map fun ds =>
          (.ok (), m.registers.append target (String.join ds)) := by
  induction ms generalizing m with
  | nil =>
    rw [writeFurther, left_pure]
    simp [String.join, Registers.append_empty]
  | cons x ms ih =>
    let text : Pattern.Match → String := fun x =>
      Template.render output (groupTexts e x) (t.source r)
    have hfirst : (t.writeMatch (t.answer depth reserve) output target true (groupTexts e x)).left
        m = (t.dispatched? depth reserve (text x)).map fun d =>
          (.ok (), m.registers.append target d) :=
      left_writeMatch hlimits hclears houtput depth reserve target true _ r m
    have hrest (d : String) (m' : Machine) (hm' : m'.registers = m.registers.append target d) :
        (t.writeFurther (t.answer depth reserve) output target e ms).left m' =
          ((ms.map text).mapM (t.dispatched? depth reserve)).map fun ds =>
            (.ok (), m.registers.append target (d ++ String.join ds)) := by
      rw [ih m', hm']
      simp only [Registers.append_append, text]
    rw [writeFurther, checkpoint_eq_pure hlimits, pure_bind, left_bind hfirst hrest, List.map_cons,
      map_mapM_cons]
    simp only [String.join_cons, text]

end

/-! ## All matches -/

section

variable {t : Interpreter} (hlimits : t.limits.interruption? = none)
  (hclears : ∀ name routine, t.scraper.find? name = some routine → routine.clearsOnEntry = true)
  {output : String} (houtput : Template.references output = []) {e : Expression}
  (hrepeats : e.repeats = true)
include hlimits hclears houtput hrepeats

theorem left_writeMatches (depth reserve target : Nat) (append : Bool) (input : String)
    (m : Machine) {found : Pattern.Match} {more : List Pattern.Match}
    (hfound : (Pattern.compile (Template.fillRegisters e.pattern
      (t.source m.registers))).findAll input = found :: more) :
    (t.writeMatches (t.answer depth reserve) output target append e input).left m =
      (((found :: more).map fun x =>
        Template.render output (groupTexts e x) (t.source m.registers)).mapM
          (t.dispatched? depth reserve)).map fun ds => (.ok (), m.registers.set target
            ((if append then m.registers.get target else "") ++ String.join ds)) := by
  let text : Pattern.Match → String := fun x =>
    Template.render output (groupTexts e x) (t.source m.registers)
  let front := if append then m.registers.get target else ""
  have hfirst : (t.writeMatch (t.answer depth reserve) output target append
      (groupTexts e found)).left m = (t.dispatched? depth reserve (text found)).map fun d =>
        (.ok (), m.registers.set target (front ++ d)) := by
    rw [left_writeMatch hlimits hclears houtput depth reserve target append _ m.registers m]
    cases append with
    | true => rfl
    | false => simp [front, text]
  have hrest (d : String) (m' : Machine) (hm' : m'.registers = m.registers.set target (front ++ d)) :
      (t.writeFurther (t.answer depth reserve) output target e more).left m' =
        ((more.map text).mapM (t.dispatched? depth reserve)).map fun ds =>
          (.ok (), m.registers.set target (front ++ String.join (d :: ds))) := by
    rw [left_writeFurther hlimits hclears houtput depth reserve target e more m.registers m', hm']
    simp only [Registers.append_set, String.append_assoc, String.join_cons, text]
  rw [writeMatches, left_look]
  simp only [hrepeats, if_true, hfound]
  rw [left_bind hfirst hrest, List.map_cons, map_mapM_cons]

omit hlimits hclears houtput in
/-- Without a match the target is emptied, if the rule says so. -/
theorem left_writeMatches_of_nil (call : Caller) (target : Nat) (append : Bool) (input : String)
    (m : Machine) (hnone : (Pattern.compile (Template.fillRegisters e.pattern
      (t.source m.registers))).findAll input = []) :
    (t.writeMatches call output target append e input).left m =
      some (.ok (), if e.clearOnNoMatch then m.registers.set target "" else m.registers) := by
  rw [writeMatches, left_look]
  simp only [hrepeats, if_true, hnone]
  cases e.clearOnNoMatch with
  | false => rfl
  | true =>
    -- the empty text asks for no call
    rw [if_pos rfl, write, dispatch_of_not_asks _ (by unfold Call.Asks; decide), pure_bind]
    rfl

/-- **Going on to every match** collects what is put in place of their texts. The input and the
pattern are those of the registers that the rule finds, whatever it writes on the way: if there is
a match, and each text that asks for calls is answered, the target holds in the end what it held
before, if the rule appends, and then what is put in place of each text, in order. Without a match
it is emptied, if the rule says so. No other register is changed. -/
theorem act_repeats (hpattern : e.isBlank = false) (depth reserve : Nat) (input : String)
    (target : Nat) (append : Bool) (m : Machine) :
    let call := t.answer depth reserve
    let found := (Pattern.compile (Template.fillRegisters e.pattern (t.source m.registers))).findAll
      (t.resolveInput m.registers input)
    let texts := found.map fun x => Template.render output (groupTexts e x) (t.source m.registers)
    let run := (t.act call input output target append (some e)).left m
    (∀ text m', (dispatch call text).left m' =
      (t.dispatched? depth reserve text).map fun d => (.ok d, m'.registers)) ∧
    (found ≠ [] → ∃ behind : List String → Registers,
      run = (texts.mapM (t.dispatched? depth reserve)).map (fun ds => (.ok (), behind ds)) ∧
        ∀ ds, (target < Registers.count → (behind ds).get target =
            (if append then m.registers.get target else "") ++ String.join ds) ∧
          ∀ i, i ≠ target → (behind ds).get i = m.registers.get i) ∧
    (found = [] → ∃ behind : Registers, run = some (.ok (), behind) ∧
      (target < Registers.count → behind.get target =
          if e.clearOnNoMatch then "" else m.registers.get target) ∧
        ∀ i, i ≠ target → behind.get i = m.registers.get i) := by
  intro call found texts run
  have hrun : run = (t.writeMatches call output target append e
      (t.resolveInput m.registers input)).left m := by
    have hsome : ((some e).filter fun e => !e.isBlank) = some e := by
      rw [Option.filter_some, hpattern]
      rfl
    simp only [run]
    rw [act, left_look, hsome]
  refine ⟨left_dispatch hlimits hclears depth reserve, fun hfound => ?_, fun hfound => ?_⟩
  · obtain ⟨first, more, hcons⟩ := List.exists_cons_of_ne_nil hfound
    refine ⟨fun ds => m.registers.set target
      ((if append then m.registers.get target else "") ++ String.join ds), ?_, fun ds =>
        ⟨fun htarget => Registers.get_set_self htarget _ _,
          fun i hi => Registers.get_set_of_ne hi.symm _ _⟩⟩
    rw [hrun, left_writeMatches hlimits hclears houtput hrepeats depth reserve target append _ m
      hcons]
    simp only [texts, hcons]
  · refine ⟨_, hrun.trans (left_writeMatches_of_nil hrepeats _ target append _ m hfound),
      fun htarget => ?_, fun i hi => ?_⟩
    · cases e.clearOnNoMatch with
      | false => rfl
      | true => exact Registers.get_set_self htarget _ _
    · cases e.clearOnNoMatch with
      | false => rfl
      | true => exact Registers.get_set_of_ne hi.symm _ _

end

/-! ## A rule that reads what it writes -/

/-- A routine that others ask for. -/
def making : Interpreter :=
  ⟨⟨"sample", [⟨"Make", true, 3, false, [.mk "$$1" "made \\1" 3 false none [] none]⟩]⟩, .empty,
    .none⟩

/-- The pattern is what register 1 holds. -/
def sameAgain : Expression := ⟨"$$1", false, true, []⟩

/-- A rule that appends to register 1, which is its input twice and its pattern. -/
theorem act_repeats_making : ∃ behind : Registers,
    (making.act (making.answer 0 1) "$$1$$1" "<chain function=\"Make\">\\0</chain>" 1 true
      (some sameAgain)).left ⟨.set .empty 1 "12", [], 0⟩ = some (.ok (), behind) ∧
      behind.get 1 = "12<Make>made 12</Make><Make>made 12</Make>" ∧
      ∀ i, i ≠ 1 → behind.get i = "" := by
  let m : Machine := ⟨.set .empty 1 "12", [], 0⟩
  let text := "<chain function=\"Make\">12</chain>"
  have hclears : ∀ name routine, making.scraper.find? name = some routine →
      routine.clearsOnEntry = true := by
    intro name routine hfind
    cases List.mem_singleton.1 (List.mem_of_find?_eq_some hfind)
    rfl
  have htexts : ((Pattern.compile (Template.fillRegisters sameAgain.pattern
      (making.source m.registers))).findAll (making.resolveInput m.registers "$$1$$1")).map
        (fun x => Template.render "<chain function=\"Make\">\\0</chain>" (groupTexts sameAgain x)
          (making.source m.registers)) = [text, text] := by
    rw [Pattern.findAll_eq]
    decide +kernel
  have hanswered : [text, text].mapM (making.dispatched? 0 1) =
      some ["<Make>made 12</Make>", "<Make>made 12</Make>"] := by
    decide +kernel
  have houtput : Template.references "<chain function=\"Make\">\\0</chain>" = [] := by
    decide
  obtain ⟨-, hmatches, -⟩ := act_repeats (t := making) (e := sameAgain) rfl hclears houtput rfl
    (by decide) 0 1 "$$1$$1" 1 true m
  obtain ⟨behind, hrun, hbehind⟩ := hmatches fun hnil => by
    rw [hnil] at htexts
    cases htexts
  rw [htexts, hanswered] at hrun
  obtain ⟨htarget, hothers⟩ := hbehind ["<Make>made 12</Make>", "<Make>made 12</Make>"]
  refine ⟨behind ["<Make>made 12</Make>", "<Make>made 12</Make>"], hrun, ?_, fun i hi => ?_⟩
  · rw [htarget (by decide)]
    decide
  · rw [hothers i hi, Registers.get_set_of_ne hi.symm, Registers.get_empty]

end Interpreter
end MediaScraper
