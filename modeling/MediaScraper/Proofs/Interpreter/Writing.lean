import MediaScraper.Proofs.Interpreter.Marker

/-!
# What rules write

An output that asks for no call is written as it is rendered (`Renders.writeMatch`). A rule that goes
on to every match appends what it renders for each of them, one text behind the other
(`writeFurther_of_renders`). So a target that was empty holds the texts of all matches in the end
(`writeMatches_of_renders`).
-/

namespace MediaScraper.Interpreter

variable {t : Interpreter} {output : String}

/-- With these groups the output becomes this text, whatever the registers hold, and the text asks
for no call. -/
structure Renders (t : Interpreter) (output : String) (groups : List String) (text : List Char) :
    Prop where
  render : ∀ registers, Template.render output groups (t.source registers) = .ofList text
  not_asks : ¬ Call.Asks (.ofList text)

theorem Renders.writeMatch {groups : List String} {text : List Char}
    (h : t.Renders output groups text) (call : Caller) (target : Nat) (append : Bool)
    (m : Machine) :
    t.writeMatch call output target append groups m =
      some (.ok (), { m with
        registers := if append then m.registers.append target (.ofList text)
          else m.registers.set target (.ofList text) }) :=
  writeMatch_of_not_asks (h.render _) h.not_asks call append

section

variable (hlimits : t.limits.interruption? = none) {α : Type} {f : α → List Char} {xs : List α}
  {e : Expression} {ms : List Pattern.Match}
  (h : List.Forall₂ (fun x found => t.Renders output (groupTexts e found) (f x)) xs ms)
include hlimits h

/-- **Further matches** append their texts, one behind the other. -/
theorem writeFurther_of_renders (call : Caller) (target : Nat) (m : Machine) :
    t.writeFurther call output target e ms m =
      some (.ok (), { m with
        registers := m.registers.append target (.ofList (xs.flatMap f)) }) := by
  induction h generalizing m with
  | nil =>
    rw [List.flatMap_nil, String.ofList_nil, Registers.append_empty]
    rfl
  | @cons x found xs ms hx _ ih =>
    rw [writeFurther, checkpoint_eq_pure hlimits, pure_bind, Run.bind_apply, hx.writeMatch]
    simp only [Option.bind_some, if_pos, ih, Registers.append_append, List.flatMap_cons,
      String.ofList_append]

/-- **All matches** together leave their texts in a target that was empty. -/
theorem writeMatches_of_renders (hrepeats : e.repeats = true) (hclear : e.clearOnNoMatch = false)
    {m : Machine} {target : Nat} (htarget : m.registers.get target = "") {input : String}
    (hfound : (Pattern.compile (Template.fillRegisters e.pattern
      (t.source m.registers))).findAll input = ms) (call : Caller) (append : Bool) :
    t.writeMatches call output target append e input m =
      some (.ok (), { m with
        registers := m.registers.append target (.ofList (xs.flatMap f)) }) := by
  rw [writeMatches, get_bind_apply]
  simp only [hrepeats, if_true, hfound]
  cases h with
  | nil =>
    rw [List.flatMap_nil, String.ofList_nil, Registers.append_empty, hclear]
    rfl
  | @cons x found xs ms hx hxs =>
    have hfirst : (if append then m.registers.append target (.ofList (f x))
        else m.registers.set target (.ofList (f x))) = m.registers.append target (.ofList (f x)) := by
      rw [Registers.append_of_get_eq htarget, ite_self]
    simp only [Run.bind_apply, hx.writeMatch, hfirst, Option.bind_some,
      writeFurther_of_renders hlimits hxs, Registers.append_append, List.flatMap_cons,
      String.ofList_append]

end

end MediaScraper.Interpreter
