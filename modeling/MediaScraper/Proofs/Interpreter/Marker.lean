import Mathlib.Data.List.Forall2
import MediaScraper.Proofs.Call.Marker
import MediaScraper.Proofs.Interpreter.Reading
import MediaScraper.Proofs.Interpreter.Traversal
import MediaScraper.Proofs.Pattern.Search

/-!
# Markers in what rules write

A call that fails leaves a marker in the register that the rule writes (`runRules_of_error`). A
rule that reads the register takes the marker as it stands, if it has no expression or keeps the
markup of its groups. Rendering keeps it in one piece (`render_emptied`), so the rule makes no call
but those that its output would ask for with an empty marker in its place (`act_ofEmptied`).

Where the markup of a group is taken out, its references are resolved as well. That brings the text
of the marker back, and with it the call (`calls_copying`).
-/

namespace MediaScraper

open Run

/-! ## Rendering -/

namespace Template

/-- What is open in two parts is the same, and what is final in the first is emptied in the
second. -/
inductive EmptiedPart : Part → Part → Prop
  | opened (s : List Char) : EmptiedPart (.opened s) (.opened s)
  | final {s s' : List Char} : Emptied s s' → EmptiedPart (.final s) (.final s')

theorem fill_emptied {τ : Type} {read : List Char → Option (τ × Nat)} {value value' : τ → List Char}
    (hvalue : ∀ t, Emptied (value t) (value' t)) {parts parts' : List Part}
    (h : List.Forall₂ EmptiedPart parts parts') :
    List.Forall₂ EmptiedPart (fill read value parts) (fill read value' parts') := by
  induction h with
  | nil => exact .nil
  | cons hpart _ ih =>
    simp only [fill, List.flatMap_cons] at ih ⊢
    refine List.rel_append ?_ ih
    cases hpart with
    | final hs => exact .cons (.final hs) .nil
    | opened s =>
      refine List.forall₂_map_left_iff.2 (List.forall₂_map_right_iff.2 (List.forall₂_same.2 ?_))
      intro piece _
      cases piece with
      | plain p => exact .opened p
      | token t => exact .final (hvalue t)

theorem join_emptied {parts parts' : List Part} (h : List.Forall₂ EmptiedPart parts parts') :
    Emptied (join parts).toList (join parts').toList := by
  simp only [join, String.toList_ofList]
  induction h with
  | nil => exact .nil
  | cons hpart _ ih =>
    rw [List.flatMap_cons, List.flatMap_cons]
    refine Emptied.append ?_ ih
    cases hpart with
    | opened s => exact .refl s
    | final hs => exact hs

theorem groupText_emptied {groups groups' : List String}
    (h : List.Forall₂ (fun g g' => Emptied g.toList g'.toList) groups groups') (i : Nat) :
    Emptied (Source.groupText groups i) (Source.groupText groups' i) := by
  induction h generalizing i with
  | nil => exact .nil
  | cons hg _ ih =>
    cases i with
    | zero => exact hg
    | succ i => exact ih i

/-- **Rendering keeps markers in one piece.** -/
theorem render_emptied {groups groups' : List String}
    (hgroups : List.Forall₂ (fun g g' => Emptied g.toList g'.toList) groups groups')
    {src src' : Source} (hregister : ∀ i, Emptied (src.register i).toList (src'.register i).toList)
    (hproperty : src.property = src'.property) (template : String) :
    Emptied (render template groups src).toList (render template groups' src').toList := by
  have hregisterText (digits : List Char) :
      Emptied (src.registerText digits) (src'.registerText digits) := by
    unfold Source.registerText
    cases registerIndex? digits with
    | none => exact .nil
    | some i => exact hregister i
  have hpropertyText (key : List Char) :
      Emptied (src.propertyText key) (src'.propertyText key) := by
    rw [Source.propertyText, Source.propertyText, hproperty]
    exact .refl _
  exact join_emptied (fill_emptied hpropertyText (fill_emptied hregisterText
    (fill_emptied (groupText_emptied hgroups) (.cons (.opened _) .nil))))

end Template

namespace Interpreter

/-! ## Writing -/

/-- A text that asks for no call is written as it is. -/
theorem dispatch_of_not_asks (call : Caller) {text : String} (h : ¬ Call.Asks text) :
    dispatch call text = pure text := by
  obtain ⟨hhint, hchain⟩ := not_or.1 h
  have hsite : Call.site? text = none := by rw [Call.site?, if_neg hhint]
  have hnone : Call.chain? text = none := by simpa using hchain
  simp only [dispatch, dispatchWith, hsite, pure_bind, hnone]

/-- **A chain whose call fails becomes a marker.** -/
theorem dispatch_of_error {t : Interpreter} {depth : Nat} {text name payload : String}
    {failure : CallFailure} (hsite : Call.site? text = none)
    (hchain : Call.chain? text = some (name, payload))
    (hcallee : t.callee depth name = .error failure) (reserve : Nat) (m : Machine) :
    dispatch (t.answer depth reserve) text m =
      some (.ok (failure.marker text),
        { m with calls := ⟨depth, name, some failure⟩ :: m.calls }) := by
  simp only [dispatch, dispatchWith, hsite, pure_bind, hchain]
  rw [answer_of_error hcallee]
  rfl

theorem get_bind_apply {α : Type} (f : Machine → Run α) (m : Machine) :
    (get >>= f) m = f m m := rfl

theorem writeMatch_of_error {t : Interpreter} {depth : Nat} {m : Machine}
    {output text name payload : String} {groups : List String} {failure : CallFailure}
    (htext : Template.render output groups (t.source m.registers) = text)
    (hsite : Call.site? text = none) (hchain : Call.chain? text = some (name, payload))
    (hcallee : t.callee depth name = .error failure) (reserve target : Nat) :
    t.writeMatch (t.answer depth reserve) output target false groups m =
      some (.ok (), ⟨m.registers.set target (failure.marker text),
        ⟨depth, name, some failure⟩ :: m.calls, m.passed⟩) := by
  rw [writeMatch, get_bind_apply, htext, write, bind_apply,
    dispatch_of_error hsite hchain hcallee reserve m]
  rfl

/-- What a rule takes from its input: all of it, or the groups of each match that counts. -/
inductive Takes (t : Interpreter) (registers : Registers) (input : String) :
    Option Expression → List (List String) → Prop
  | whole {expression : Option Expression} : (∀ e ∈ expression, e.isBlank = true) →
      Takes t registers input expression [["", t.resolveInput registers input]]
  | found {e : Expression} {first : Pattern.Match} {more : List Pattern.Match} :
      e.isBlank = false →
      (if e.repeats then (Pattern.compile (Template.fillRegisters e.pattern
          (t.source registers))).findAll (t.resolveInput registers input)
        else ((Pattern.compile (Template.fillRegisters e.pattern
          (t.source registers))).firstMatch? (t.resolveInput registers input)).toList) =
        first :: more →
      Takes t registers input (some e) ((first :: more).map (groupTexts e))

theorem act_of_takes {t : Interpreter} {m : Machine} {input : String}
    {expression : Option Expression} {groups : List String} {takes : List (List String)}
    (h : t.Takes m.registers input expression (groups :: takes)) (call : Caller) (output : String)
    (target : Nat) (append : Bool) :
    ∃ e more, more.map (groupTexts e) = takes ∧
      t.act call input output target append expression m =
        (do
          t.writeMatch call output target append groups
          t.writeFurther call output target e more) m := by
  rw [act, get_bind_apply]
  generalize hexpression : expression = given, htakes : groups :: takes = all at h
  cases h with
  | whole hblank =>
    obtain ⟨rfl, rfl⟩ := List.cons.inj htakes
    have hnone : (given.filter fun e => !e.isBlank) = none := by
      cases given with
      | none => rfl
      | some e => rw [Option.filter_some, hblank e rfl]; rfl
    refine ⟨⟨"", false, false, []⟩, [], rfl, ?_⟩
    rw [hnone, writeFurther]
    exact (congrFun (bind_pure (t.writeMatch call output target append _)) m).symm
  | @found e first more hblank hfound =>
    obtain ⟨rfl, rfl⟩ := List.cons.inj htakes
    have hsome : ((some e).filter fun e => !e.isBlank) = some e := by
      rw [Option.filter_some, hblank]; rfl
    refine ⟨e, more, rfl, ?_⟩
    rw [hsome]
    simp only
    rw [writeMatches, get_bind_apply, hfound]

theorem act_of_takes_singleton {t : Interpreter} {m : Machine} {input : String}
    {expression : Option Expression} {groups : List String}
    (h : t.Takes m.registers input expression [groups]) (call : Caller) (output : String)
    (target : Nat) (append : Bool) :
    t.act call input output target append expression m =
      t.writeMatch call output target append groups m := by
  obtain ⟨e, more, hmore, hact⟩ := act_of_takes h call output target append
  obtain rfl := List.map_eq_nil_iff.1 hmore
  rw [hact, writeFurther]
  exact congrFun (bind_pure _) m

/-- **What a failed call leaves**: a rule without an expression writes a marker to its target. -/
theorem runRules_of_error {t : Interpreter} (hlimits : t.limits.interruption? = none) {depth : Nat}
    {m : Machine} {input output text name payload : String} {failure : CallFailure}
    (htext : Template.render output ["", t.resolveInput m.registers input]
      (t.source m.registers) = text)
    (hsite : Call.site? text = none) (hchain : Call.chain? text = some (name, payload))
    (hcallee : t.callee depth name = .error failure) (reserve target : Nat) :
    t.runRules (t.answer depth reserve) [.mk input output target false none [] none] m =
      some (.ok (), ⟨m.registers.set target (failure.marker text),
        ⟨depth, name, some failure⟩ :: m.calls, m.passed⟩) := by
  have htakes : t.Takes m.registers input none [["", t.resolveInput m.registers input]] :=
    .whole nofun
  rw [runRules_singleton hlimits, runRule_unconditional, runRules, pure_bind,
    act_of_takes_singleton htakes]
  exact writeMatch_of_error htext hsite hchain hcallee reserve target

/-! ## Rules that take markers as they stand -/

/-- The texts that a rule writes for what it takes, one after the other, beside what they are with
the markers emptied in what is taken and in what is read at that time. No text asks for a call when
its markers are emptied. -/
inductive Quiet (t : Interpreter) (output : String) (target : Nat) :
    Bool → Registers → List (List String) → List String → List String → Prop
  | nil {append : Bool} {registers : Registers} : Quiet t output target append registers [] [] []
  | cons {append : Bool} {registers : Registers} {groups groups' : List String}
      {src : Template.Source} {takes : List (List String)} {text : String}
      {texts emptied : List String} :
      List.Forall₂ (fun g g' => Emptied g.toList g'.toList) groups groups' →
      (∀ i, Emptied (t.readRegister registers i).toList (src.register i).toList) →
      t.settings.value = src.property → ¬ Call.Asks (Template.render output groups' src) →
      Template.render output groups (t.source registers) = text →
      Quiet t output target true
        (if append then registers.append target text else registers.set target text)
        takes texts emptied →
      Quiet t output target append registers (groups :: takes) (text :: texts)
        (Template.render output groups' src :: emptied)

section

variable {t : Interpreter} {output : String} {target : Nat}

section

variable {append : Bool} {registers : Registers} {takes : List (List String)}
  {texts emptied : List String} (h : t.Quiet output target append registers takes texts emptied)
include h

/-- The markers stand in one piece in the texts. -/
theorem Quiet.emptied_texts :
    List.Forall₂ (fun s s' => Emptied s.toList s'.toList) texts emptied := by
  induction h with
  | nil => exact .nil
  | cons hgroups hregister hproperty _ htext _ ih =>
    subst htext
    refine .cons (Template.render_emptied hgroups (fun i => ?_) hproperty output) ih
    rw [source_register]
    exact hregister i

theorem Quiet.not_asks : ∀ text ∈ texts, ¬ Call.Asks text := by
  have hemptied := h.emptied_texts
  induction h with
  | nil => nofun
  | cons _ _ _ hquiet _ _ ih =>
    obtain ⟨htext, hmore⟩ := List.forall₂_cons.1 hemptied
    exact List.forall_mem_cons.2 ⟨fun hasks => hquiet (htext.asks hasks), ih hmore⟩

end

theorem writeMatch_of_not_asks {m : Machine} {groups : List String} {text : String}
    (htext : Template.render output groups (t.source m.registers) = text)
    (hquiet : ¬ Call.Asks text) (call : Caller) (append : Bool) :
    t.writeMatch call output target append groups m =
      some (.ok (), { m with
        registers := if append then m.registers.append target text
          else m.registers.set target text }) := by
  rw [writeMatch, get_bind_apply, htext, write, dispatch_of_not_asks call hquiet, pure_bind]
  rfl

variable {e : Expression} {more : List Pattern.Match} {texts emptied : List String} {m : Machine}

/-- **Further matches make no call**, however the run ends; if it is not stopped, their texts are
appended. -/
theorem writeFurther_of_quiet
    (h : t.Quiet output target true m.registers (more.map (groupTexts e)) texts emptied)
    (call : Caller) :
    (∃ r after, t.writeFurther call output target e more m = some (r, after) ∧
      after.calls = m.calls) ∧
      (t.limits.interruption? = none ∨ texts = [] → t.writeFurther call output target e more m =
        some (.ok (), { m with registers := m.registers.append target (String.join texts) })) := by
  induction more generalizing m texts emptied with
  | nil =>
    cases h
    refine ⟨⟨_, m, rfl, rfl⟩, fun _ => ?_⟩
    rw [String.join_nil, Registers.append_empty]
    rfl
  | cons found more ih =>
    have hquiet := h.not_asks
    rw [List.map_cons] at h
    cases h with
    | @cons _ _ _ _ _ _ text texts _ _ _ _ _ htext hmore =>
      have hasks : ¬ Call.Asks text := hquiet text List.mem_cons_self
      -- the checkpoint before the match may stop the run, but changes no register
      have hstep (n : Nat) :
          (do
            t.writeMatch call output target true (groupTexts e found)
            t.writeFurther call output target e more) { m with passed := n } =
            t.writeFurther call output target e more
              ⟨m.registers.append target text, m.calls, n⟩ := by
        rw [bind_apply, writeMatch_of_not_asks (m := { m with passed := n }) htext hasks]
        rfl
      constructor
      · obtain ⟨r, n, hcheckpoint⟩ := checkpoint_apply t m
        rw [writeFurther, bind_apply, hcheckpoint, Option.bind_some]
        cases r with
        | error reason => exact ⟨_, _, rfl, rfl⟩
        | ok _ =>
          obtain ⟨r, after, hafter, hcalls⟩ :=
            (ih (m := ⟨m.registers.append target text, m.calls, n⟩) hmore).1
          exact ⟨r, after, (hstep n).trans hafter, hcalls⟩
      · rintro (hlimits | hnone)
        · rw [writeFurther, checkpoint_eq_pure hlimits, pure_bind]
          refine (hstep m.passed).trans ?_
          rw [(ih (m := ⟨m.registers.append target text, m.calls, m.passed⟩) hmore).2
            (.inl hlimits), Registers.append_append, String.join_cons]
        · cases hnone

end

/-- **Markers that a rule takes as they stand ask for nothing.** If the output asks for no call with
the markers emptied in what the rule takes and in what it reads, for each match that counts, then
the rule makes no call. Its texts, in which the markers stand in one piece, are written one behind
the other, unless the run is stopped between two matches. -/
theorem act_ofEmptied {t : Interpreter} {m : Machine} {input output : String}
    {expression : Option Expression} {target : Nat} {append : Bool} {takes : List (List String)}
    {texts emptied : List String} (htakes : t.Takes m.registers input expression takes)
    (hquiet : t.Quiet output target append m.registers takes texts emptied) (call : Caller) :
    List.Forall₂ (fun s s' => Emptied s.toList s'.toList) texts emptied ∧
      (∃ r after, t.act call input output target append expression m = some (r, after) ∧
        after.calls = m.calls) ∧
      (t.limits.interruption? = none ∨ texts.length = 1 →
        t.act call input output target append expression m = some (.ok (), { m with
          registers := m.registers.set target
            ((if append then m.registers.get target else "") ++ String.join texts) })) := by
  refine ⟨hquiet.emptied_texts, ?_⟩
  have hasks := hquiet.not_asks
  cases hquiet with
  | nil =>
    -- something is taken: all of the input, or at least one match
    cases htakes
  | @cons _ _ groups _ _ takes text texts _ _ _ _ _ htext hmore =>
    let written : Machine := { m with
      registers := if append then m.registers.append target text
        else m.registers.set target text }
    obtain ⟨e, more, rfl, hact⟩ := act_of_takes htakes call output target append
    have hwritten : t.writeMatch call output target append groups m = some (.ok (), written) :=
      writeMatch_of_not_asks htext (hasks text List.mem_cons_self) call append
    obtain ⟨hcalls, hends⟩ := writeFurther_of_quiet (m := written) hmore call
    rw [hact, bind_apply, hwritten]
    refine ⟨hcalls, fun hlimits => (hends (hlimits.imp id fun hlength => ?_)).trans ?_⟩
    · simpa using hlength
    · rw [Registers.append_of_written, String.join_cons]

/-! ## A marker that is taken as it stands, and one that is cleaned -/

/-- A rule asks for a routine that there is none of, and writes to register 5; the rule above it
takes that register by a pattern. -/
def copying : Interpreter :=
  ⟨⟨"sample", [⟨"Find", true, 3, false,
    [.mk "$$5" "<b>\\1</b>" 3 false none
      [.mk "$$1" "<chain function=\"F\">\\1</chain>" 5 false none [] none]
      (some ⟨"(.+)", false, false, []⟩)]⟩]⟩, .empty, .none⟩

/-- What the failed call leaves. -/
def failedMarker : String :=
  (CallFailure.unknownRoutine "F").marker "<chain function=\"F\">x</chain>"

/-- The registers that the rule above reads. -/
def failedRegisters : Registers := .set .empty 5 failedMarker

theorem emptied_failedMarker : Emptied failedMarker.toList emptyMarker := by
  have hmarker : IsMarker failedMarker.toList := isMarker_marker (by decide) _
  have hemptied := Emptied.nil.marker hmarker
  rwa [List.append_nil, List.append_nil] at hemptied

theorem readRegister_of_get {registers : Registers} {i : Nat} (h : registers.get i = failedMarker) :
    copying.readRegister registers i = failedMarker := by
  obtain ⟨hunbroken, hsetting⟩ :
      Repair.Unbroken failedMarker.toList ∧ '$' ∉ failedMarker.toList := by
    delta failedMarker
    rw [toList_marker, String.toList_ofList, String.toList_ofList]
    decide
  exact readRegister_of_unbroken h hunbroken hsetting

theorem resolveInput_of_get {registers : Registers} (h : registers.get 5 = failedMarker) :
    copying.resolveInput registers "$$5" = failedMarker := by
  have hreferences : Template.references "$$5" = [5] := by decide
  rw [resolveInput, hreferences]
  simp [readRegister_of_get h]

theorem readRegister_failedRegisters (i : Nat) :
    copying.readRegister failedRegisters i = if i = 5 then failedMarker else "" := by
  rw [failedRegisters]
  split
  · next hi =>
    rw [hi]
    exact readRegister_of_get (Registers.get_set_self (by decide) _ _)
  · next hi =>
    rw [readRegister, Registers.get_set_of_ne (Ne.symm hi), Registers.get_empty]
    decide

theorem takes_failedMarker : copying.Takes failedRegisters "$$5" none [["", failedMarker]] := by
  rw [← resolveInput_of_get (Registers.get_set_self (by decide) .empty failedMarker)]
  exact .whole (by simp)

/-- What the registers hold with the marker emptied. -/
def emptiedSource : Template.Source :=
  ⟨fun i => if i = 5 then .ofList emptyMarker else "", copying.settings.value⟩

theorem emptied_source (i : Nat) :
    Emptied (copying.readRegister failedRegisters i).toList (emptiedSource.register i).toList := by
  rw [readRegister_failedRegisters, emptiedSource]
  dsimp only
  split
  · rw [String.toList_ofList]
    exact emptied_failedMarker
  · exact .refl _

theorem render_bold (whole group : String) (src : Template.Source) :
    Template.render "<b>\\1</b>" [whole, group] src = "<b>" ++ group ++ "</b>" := by
  have hsegments : Template.segments "<b>\\1</b>".toList =
      [.literal "<b>".toList, .group 1, .literal "</b>".toList] := rfl
  rw [← String.toList_inj, Template.toList_render, hsegments]
  simp [Template.Segment.text]

theorem not_asks_emptied (whole : String) :
    ¬ Call.Asks (Template.render "<b>\\1</b>" [whole, .ofList emptyMarker] emptiedSource) := by
  rw [render_bold]
  unfold Call.Asks
  decide

/-- Goes on to every match, and keeps its markup. -/
def everyMatch : Expression := ⟨"(.+)", false, true, [0, 1]⟩

theorem takes_everyMatch :
    copying.Takes failedRegisters "$$5" (some everyMatch) [[failedMarker, failedMarker]] := by
  have hfound : ((Pattern.compile "(.+)").findAll failedMarker).map (groupTexts everyMatch) =
      [[failedMarker, failedMarker]] := by
    delta failedMarker
    rw [Pattern.findAll_eq, toList_marker, String.toList_ofList, String.toList_ofList]
    decide +kernel
  have hpattern : Template.fillRegisters everyMatch.pattern (copying.source failedRegisters) =
      "(.+)" := rfl
  obtain ⟨first, hfirst, hgroups⟩ := List.map_eq_singleton_iff.1 hfound
  rw [← hgroups]
  show copying.Takes failedRegisters "$$5" _ ([first].map (groupTexts everyMatch))
  refine .found (by decide) ?_
  have hget : failedRegisters.get 5 = failedMarker := Registers.get_set_self (by decide) _ _
  rw [if_pos (show everyMatch.repeats = true from rfl), resolveInput_of_get hget, hpattern, hfirst]

/-- Without an expression, and by one that keeps the markup of every match, the marker is taken as
it stands, and no call is made. -/
theorem act_failedMarker :
    copying.Takes failedRegisters "$$5" none [["", failedMarker]] ∧
      copying.Takes failedRegisters "$$5" (some everyMatch) [[failedMarker, failedMarker]] ∧
      ∀ expression ∈ [none, some everyMatch],
        copying.act (copying.answer 0 0) "$$5" "<b>\\1</b>" 3 false expression
            ⟨failedRegisters, [], 0⟩ =
          some (.ok (), ⟨failedRegisters.set 3 ("<b>" ++ failedMarker ++ "</b>"), [], 0⟩) := by
  have hmarker : Emptied failedMarker.toList (String.ofList emptyMarker).toList := by
    rw [String.toList_ofList]
    exact emptied_failedMarker
  have hact {expression : Option Expression} {whole whole' : String}
      (htakes : copying.Takes failedRegisters "$$5" expression [[whole, failedMarker]])
      (hwhole : Emptied whole.toList whole'.toList) :
      copying.act (copying.answer 0 0) "$$5" "<b>\\1</b>" 3 false expression
          ⟨failedRegisters, [], 0⟩ =
        some (.ok (), ⟨failedRegisters.set 3 ("<b>" ++ failedMarker ++ "</b>"), [], 0⟩) := by
    have hquiet : copying.Quiet "<b>\\1</b>" 3 false failedRegisters [[whole, failedMarker]]
        ["<b>" ++ failedMarker ++ "</b>"]
        [Template.render "<b>\\1</b>" [whole', .ofList emptyMarker] emptiedSource] :=
      .cons (.cons hwhole (.cons hmarker .nil)) emptied_source rfl (not_asks_emptied whole')
        (render_bold _ _ _) .nil
    obtain ⟨-, -, hends⟩ := act_ofEmptied (m := ⟨failedRegisters, [], 0⟩) htakes hquiet
      (copying.answer 0 0)
    rw [hends (.inl rfl), String.join_cons, String.join_nil, String.append_empty]
    rfl
  refine ⟨takes_failedMarker, takes_everyMatch, fun expression hmem => ?_⟩
  rcases List.mem_cons.1 hmem with rfl | hmem
  · exact hact takes_failedMarker (.refl _)
  · rw [List.mem_singleton.1 hmem]
    exact hact takes_everyMatch hmarker

/-- What cleaning leaves of the marker. -/
def cleanedMarker : String := "\n<chain function=\"F\">x</chain>\nInvalid Function Name: F\n"

theorem clean_failedMarker : Html.clean failedMarker = cleanedMarker := by
  delta failedMarker
  rw [Html.clean, toList_marker, String.toList_ofList, String.toList_ofList,
    if_pos (by decide), Html.text, Html.Forest.ofFragment, toList_marker,
    String.toList_ofList, String.toList_ofList]
  decide

theorem texts_failedMarker : ((Pattern.compile "(.+)").firstMatch? failedMarker).map (fun found =>
    (some found.whole :: found.groups).map fun span => (span.map Pattern.Span.text).getD []) =
      some [failedMarker.toList, failedMarker.toList] := by
  delta failedMarker
  rw [Pattern.firstMatch?_eq, toList_marker, String.toList_ofList, String.toList_ofList]
  decide +kernel

theorem takes_cleanedMarker {registers : Registers} (h : registers.get 5 = failedMarker)
    (hpattern : Template.fillRegisters "(.+)" (copying.source registers) = "(.+)") :
    copying.Takes registers "$$5" (some ⟨"(.+)", false, false, []⟩)
      [[cleanedMarker, cleanedMarker]] := by
  obtain ⟨found, hfound, htexts⟩ := Option.map_eq_some_iff.1 texts_failedMarker
  have hgroups : groupTexts ⟨"(.+)", false, false, []⟩ found = [cleanedMarker, cleanedMarker] :=
    calc groupTexts ⟨"(.+)", false, false, []⟩ found
      _ = ((some found.whole :: found.groups).map fun span =>
            (span.map Pattern.Span.text).getD []).map fun text => Html.clean (.ofList text) := by
          rw [groupTexts_of_rawGroups_eq_nil rfl, List.map_map]
          rfl
      _ = [failedMarker.toList, failedMarker.toList].map fun text => Html.clean (.ofList text) := by
          rw [htexts]
      _ = [cleanedMarker, cleanedMarker] := by
          simp only [List.map_cons, List.map_nil, String.ofList_toList, clean_failedMarker]
  rw [← hgroups]
  show copying.Takes registers "$$5" _ ([found].map (groupTexts ⟨"(.+)", false, false, []⟩))
  refine .found (by decide) ?_
  rw [if_neg (by decide), resolveInput_of_get h, hpattern, hfound]
  rfl

/-- The call that each of the rules makes. -/
def failedCall : CallRecord := ⟨0, "F", some (.unknownRoutine "F")⟩

/-- The rule below. -/
def askingRule : Rule := .mk "$$1" "<chain function=\"F\">\\1</chain>" 5 false none [] none

/-- The registers that the rules find, and those that the rule below leaves. -/
def givenRegisters : Registers := .load .empty ["", "x"]

def askedRegisters : Registers := givenRegisters.set 5 failedMarker

/-- The registers that the rule above leaves. -/
def copiedRegisters : Registers :=
  askedRegisters.set 3 ((CallFailure.unknownRoutine "F").marker ("<b>" ++ cleanedMarker ++ "</b>"))

theorem runRules_asking :
    copying.runRules (copying.answer 0 0) [askingRule] ⟨givenRegisters, [], 0⟩ =
      some (.ok (), ⟨askedRegisters, [failedCall], 0⟩) := by
  have htext : Template.render "<chain function=\"F\">\\1</chain>"
      ["", copying.resolveInput givenRegisters "$$1"] (copying.source givenRegisters) =
        "<chain function=\"F\">x</chain>" := by
    decide
  have hsite : Call.site? "<chain function=\"F\">x</chain>" = none := by decide
  have hchain : Call.chain? "<chain function=\"F\">x</chain>" = some ("F", "x") := by
    decide
  exact runRules_of_error rfl (m := ⟨givenRegisters, [], 0⟩) htext hsite hchain rfl 0 5

theorem act_copying :
    copying.act (copying.answer 0 0) "$$5" "<b>\\1</b>" 3 false (some ⟨"(.+)", false, false, []⟩)
        ⟨askedRegisters, [failedCall], 0⟩ =
      some (.ok (), ⟨copiedRegisters, [failedCall, failedCall], 0⟩) := by
  have hget : askedRegisters.get 5 = failedMarker := Registers.get_set_self (by decide) _ _
  have htakes := takes_cleanedMarker hget (by decide)
  have htext := render_bold cleanedMarker cleanedMarker (copying.source askedRegisters)
  have hsite : Call.site? ("<b>" ++ cleanedMarker ++ "</b>") = none := by
    delta cleanedMarker
    rw [Call.site?, Call.isHinted, Html.callSite?, Html.Forest.ofFragment, String.toList_append,
      String.toList_append, String.toList_ofList, String.toList_ofList, String.toList_ofList]
    decide
  have hchain : Call.chain? ("<b>" ++ cleanedMarker ++ "</b>") = some ("F", "x") := by
    delta cleanedMarker
    rw [Call.chain?, String.toList_append, String.toList_append, String.toList_ofList,
      String.toList_ofList, String.toList_ofList]
    decide
  rw [act_of_takes_singleton htakes]
  exact writeMatch_of_error (m := ⟨askedRegisters, _, 0⟩) htext hsite hchain rfl 0 3

theorem runRules_copying :
    copying.runRules (copying.answer 0 0)
        [.mk "$$5" "<b>\\1</b>" 3 false none [askingRule] (some ⟨"(.+)", false, false, []⟩)]
        ⟨givenRegisters, [], 0⟩ =
      some (.ok (), ⟨copiedRegisters, [failedCall, failedCall], 0⟩) := by
  rw [runRules_singleton rfl, runRule_unconditional, bind_apply, runRules_asking, Option.bind_some]
  exact act_copying

/-- **Taken by a pattern, the marker is cleaned**, and the call is made again. -/
theorem calls_copying :
    (copying.runNamed 0 "Find" ["", "x"] ⟨.empty, [], 0⟩).map (fun r => r.2.calls) =
      some [⟨0, "F", some (.unknownRoutine "F")⟩, ⟨0, "F", some (.unknownRoutine "F")⟩] := by
  let routine : Routine := ⟨"Find", true, 3, false,
    [.mk "$$5" "<b>\\1</b>" 3 false none [askingRule] (some ⟨"(.+)", false, false, []⟩)]⟩
  have hfind : copying.scraper.find? "Find" = some routine := rfl
  have hentered : (if routine.clearsOnEntry then .empty else Registers.empty).load ["", "x"] =
      givenRegisters := rfl
  have hrun := runRoutine_of_runRules (m := ⟨.empty, [], 0⟩) hentered runRules_copying
  rw [runNamed, hfind]
  simp only [hrun, Option.map_some]
  rfl

end Interpreter
end MediaScraper
