import MediaScraper.Proofs.Except
import MediaScraper.Proofs.Library.Written
import MediaScraper.Proofs.Xml.Following
import MediaScraper.Scraper.Reader

/-!
# Reading what a library says

A written library is followed element by element. The stack of frames below an element is untouched
by what is inside of it, so each part of a library has one equation that says what it adds to the
frame that holds it:

* an element of no meaning adds nothing (`follow_foreign`);
* a pattern adds its text (`follow_pattern`);
* the inside of a routine or a rule adds its rules and its expression (`follow_inside`);
* routines are added to those that are closed (`follow_routines`).

All of them are inductions on how the part is written, for any text that follows.
-/

namespace MediaScraper

open Xml

/-- A rule without the parts that stand inside of its element. -/
def Rule.bare (r : Rule) : Rule := .mk r.input r.output r.target r.append r.condition [] none

namespace Scraper

/-! ## Values of attributes -/

/-- **A target in digits** is the number that they spell, if a word can hold it. -/
theorem readTarget_of_isDigit {d : List Char} (hdigits : ∀ c ∈ d, c.isDigit = true)
    (append : Bool) : readTarget (some (.ofList (d ++ if append then ['+'] else []))) =
      ((Numeral.word? d).getD 0, append) := by
  have hblank : ∀ c ∈ d, isBlank c = false := fun c hc => isBlank_of_isDigit (hdigits c hc)
  cases append with
  | false =>
    rw [readTarget]
    simp only [Option.getD_some, Bool.false_eq_true, if_false, List.append_nil,
      String.toList_ofList, Blank.trim_of_forall hblank]
    split
    · next hlast => exact absurd (hdigits _ (List.mem_of_getLast? hlast)) (by decide)
    · rfl
  | true =>
    have htrim : Blank.trim (d ++ ['+']) = d ++ ['+'] := by
      refine Blank.trim_of_forall fun c hc => ?_
      rcases List.mem_append.1 hc with hc | hc
      · exact hblank c hc
      · rw [List.mem_singleton.1 hc]
        decide
    rw [readTarget]
    simp only [Option.getD_some, if_true, String.toList_ofList, htrim, List.getLast?_concat,
      List.dropLast_concat, Blank.trim_of_forall hblank]

theorem readTarget_targetText {target : Nat} (h : target ≤ Numeral.maxWord) (append : Bool) :
    readTarget (some (targetText target append)) = (target, append) := by
  rw [targetText, readTarget_of_isDigit fun _ hc => Numeral.isDigit_of_mem_toDigits hc,
    Numeral.word?_toDigits h, Option.getD_some]

theorem readFlag_flagText (b default : Bool) : readFlag (some (flagText b)) default = b := by
  cases b <;> cases default <;> decide

theorem sortGroups_of_sorted {ns : List Nat} (h : ns.Pairwise (· < ·)) :
    Expression.sortGroups ns = ns := by
  induction ns with
  | nil => rfl
  | cons n ns ih =>
    obtain ⟨hn, hns⟩ := List.pairwise_cons.1 h
    rw [Expression.sortGroups, List.foldr_cons, ← Expression.sortGroups, ih hns]
    cases ns with
    | nil => rfl
    | cons m ms => rw [Expression.insertGroup, if_pos (hn m List.mem_cons_self)]

theorem readGroups_listed {e : Expression} (h : e.Writable) :
    readGroups (some (.ofList (Numeral.listed e.rawGroups))) = e.rawGroups := by
  rw [readGroups, Option.getD_some, String.toList_ofList,
    Numeral.filterMap_word?_splitAt h.groups_le, sortGroups_of_sorted h.sorted]

theorem attributeValues_eq_ok_iff {tag : Tag} {values : List (List Char × String)} :
    attributeValues tag = .ok values ↔ ∃ as, tag.attributes = (as, none) ∧
      List.Forall₂ (fun a v => a.name = v.1 ∧ a.value = .ok v.2) as values := by
  rw [attributeValues]
  rcases htag : tag.attributes with ⟨as, fault⟩
  simp only
  constructor
  · intro h
    obtain ⟨values', hread, h⟩ := bind_eq_ok_iff.1 h
    cases fault with
    | some e => cases h
    | none =>
      cases h
      refine ⟨as, rfl, (mapM_eq_ok_iff.1 hread).imp fun a v hav => ?_⟩
      split at hav
      · cases hav
        exact ⟨rfl, by assumption⟩
      · cases hav
  · rintro ⟨as', heq, hvalues⟩
    obtain ⟨rfl, rfl⟩ := Prod.mk.inj heq
    rw [mapM_eq_ok_iff.2 (hvalues.imp fun a v hav => ?_)]
    · rfl
    · rw [hav.2, hav.1]

/-- **The values of a written tag are read back.** -/
theorem attributeValues_ofWritten {name : List Char} {as : List Attribute}
    {values : List (List Char × String)} (h : List.Forall₂ Attribute.Spells as values)
    (hv : NamesFit values) : attributeValues ⟨name, tagSource name as⟩ = .ok values :=
  attributeValues_eq_ok_iff.2
    ⟨as, attributes_ofSpelled h hv, h.imp fun _ _ hav => ⟨hav.name, hav.value_eq⟩⟩

/-! ## Frames opened by written tags -/

theorem namesFit_routine (r : Routine) : NamesFit r.values := by
  rw [NamesFit, show r.values.map Prod.fst = ["dest".toList, "clearbuffers".toList] from rfl]
  decide

theorem openRoutine_values {r : Routine} (h : r.Writable) :
    openRoutine r.name.toList r.values = { r with rules := [] } := by
  have hdest : r.values.lookup "dest".toList = some (targetText r.target r.append) := rfl
  have hclear : r.values.lookup "clearbuffers".toList = some (flagText r.clearsOnEntry) := rfl
  simp only [openRoutine, hdest, hclear, readTarget_targetText h.target_le, readFlag_flagText,
    String.ofList_toList]

theorem namesFit_rule (r : Rule) : NamesFit r.values := by
  have hnames : r.values.map Prod.fst = ["input".toList, "output".toList, "dest".toList] ++
      if r.condition.isSome then ["conditional".toList] else [] := by
    rw [Rule.values]
    cases r.condition <;> rfl
  rw [NamesFit, hnames]
  cases r.condition.isSome <;> decide

theorem openRule_values {r : Rule} (hi : r.input ≠ "") (hc : r.condition ≠ some "")
    (ht : r.target ≤ Numeral.maxWord) : openRule r.values = r.bare := by
  have hinput : r.values.lookup "input".toList = some r.input := rfl
  have houtput : r.values.lookup "output".toList = some r.output := rfl
  have hdest : r.values.lookup "dest".toList = some (targetText r.target r.append) := rfl
  have hcondition : r.values.lookup "conditional".toList = r.condition := by
    rw [Rule.values]
    cases r.condition <;> rfl
  have hkept : r.condition.filter (fun c => !c.isEmpty) = r.condition := by
    cases hr : r.condition with
    | none => rfl
    | some c =>
      have hne : c ≠ "" := fun heq => hc (by rw [hr, heq])
      simp [Option.filter, hne]
  simp only [openRule, hinput, houtput, hdest, hcondition, hkept, readTarget_targetText ht,
    Option.getD_some]
  rw [if_neg (by simpa using hi)]
  rfl

theorem namesFit_expression (e : Expression) : NamesFit e.values := by
  rw [NamesFit, show e.values.map Prod.fst =
    ["clear".toList, "repeat".toList, "noclean".toList] from rfl]
  decide

theorem openExpression_values {e : Expression} (h : e.Writable) :
    openExpression e.values = { e with pattern := "" } := by
  have hclear : e.values.lookup "clear".toList = some (flagText e.clearOnNoMatch) := rfl
  have hrepeat : e.values.lookup "repeat".toList = some (flagText e.repeats) := rfl
  have hgroups : e.values.lookup "noclean".toList =
    some (.ofList (Numeral.listed e.rawGroups)) := rfl
  simp only [openExpression, hclear, hrepeat, hgroups, readFlag_flagText, readGroups_listed h]

/-! ## Elements of no meaning -/

theorem exists_stack_of_open {p inside : Progress} {tag : Tag} (h : p.open tag = .ok inside) :
    ∃ F, inside.stack = F :: p.stack := by
  unfold Progress.open at h
  split at h
  · next hstack =>
    split at h
    · cases h
    · cases h
      exact ⟨.root, by rw [hstack]⟩
  · obtain ⟨F, -, hinside⟩ := bind_eq_ok_iff.1 h
    cases hinside
    exact ⟨F, rfl⟩

theorem step_selfClosed (p : Progress) (tag : Tag) :
    p.step (.selfClosed tag) = p.step (.opening tag) >>= fun inside =>
      inside.step (.closing tag.name) := by
  simp only [Progress.step]
  cases hopen : p.open tag with
  | error e => rfl
  | ok inside =>
    obtain ⟨F, hstack⟩ := exists_stack_of_open hopen
    show Except.ok inside.close = if inside.stack.isEmpty then _ else _
    rw [hstack, List.isEmpty_cons, if_neg (by decide)]

theorem step_text_of_not_inExpression {p : Progress} (h : p.inExpression = false)
    (raw : List Char) : p.step (.text raw) = .ok p := by
  simp only [Progress.step, h, Bool.false_eq_true, if_false]

section

variable {root : Option String} {stack : List Frame} {routines : List Routine}
  {opened : List (List Char)}

/-- A tag inside of a frame puts the frame that it opens on top. -/
theorem step_opening {F frame : Frame} {tag : Tag} (h : openInside F tag = .ok frame) :
    Progress.step ⟨root, F :: stack, routines⟩ (.opening tag) =
      .ok ⟨root, frame :: F :: stack, routines⟩ := by
  simp only [Progress.step, Progress.open, h]
  rfl

theorem follow_markup {s : List Char} (h : IsMarkup s) (rest : List Char) :
    followFrom Progress.step opened ⟨root, .ignored :: stack, routines⟩ (s ++ rest) =
      followFrom Progress.step opened ⟨root, .ignored :: stack, routines⟩ rest := by
  induction h generalizing stack opened rest with
  | nil => rfl
  | char hc _ ih =>
    rw [List.cons_append, followFrom_cons_of_ignored _ (step_text_of_not_inExpression rfl) _ hc]
    exact ih rest
  | element hn hv _ helement _ ihc ih =>
    rw [List.append_assoc,
      followFrom_element _ step_selfClosed helement hn (fun v hw => (hv v hw).1)
      (fun _ _ => step_opening rfl) (fun rest _ => ihc rest)]
    exact ih rest

theorem attach_ignored (F : Frame) : Frame.ignored.attach F = F := by
  cases F <;> rfl

/-- **Elements of no meaning add nothing** to the frame that holds them. -/
theorem follow_foreign {known : List (List Char)} {element : List Char}
    (h : IsForeign known element) {F : Frame}
    (hF : ∀ tag : Tag, tag.name ∉ known → openInside F tag = .ok .ignored) (rest : List Char) :
    followFrom Progress.step opened ⟨root, F :: stack, routines⟩ (element ++ rest) =
      followFrom Progress.step opened ⟨root, F :: stack, routines⟩ rest := by
  cases h with
  | @mk name _ _ values hn hknown hv hcontent helement =>
    rw [followFrom_element _ step_selfClosed helement hn (fun v hw => (hv v hw).1)
      (fun as _ => step_opening (hF ⟨name, tagSource name as⟩ hknown))
      (fun rest _ => follow_markup hcontent rest)]
    show followFrom Progress.step opened ⟨root, Frame.ignored.attach F :: stack, routines⟩ rest = _
    rw [attach_ignored]

/-! ## Patterns -/

/-- **A pattern adds its text** to that of the expression that is open. -/
theorem follow_pattern {p w : List Char} (h : WritesPattern p w) (e : Expression) {rest : List Char}
    (hrest : ∀ c ∈ rest.head?, c = '<') :
    followFrom Progress.step opened ⟨root, .expression e :: stack, routines⟩ (w ++ rest) =
      followFrom Progress.step opened
        ⟨root, .expression { e with pattern := e.pattern ++ .ofList p } :: stack, routines⟩
        rest := by
  have htext {p w rest : List Char} (hw : Spelling plainInText p w)
      (hrest : ∀ c ∈ rest.head?, c = '<') (e : Expression) :
      followFrom Progress.step opened ⟨root, .expression e :: stack, routines⟩ (w ++ rest) =
        followFrom Progress.step opened
          ⟨root, .expression { e with pattern := e.pattern ++ .ofList p } :: stack, routines⟩
          rest := by
    refine followFrom_text _ (hw.not_mem (by decide) (by decide)) hrest (fun _ => ?_) fun hnil => ?_
    · simp only [Progress.step, Progress.inExpression, if_true,
        unescape_of_spelling (by decide) hw, Progress.addText]
    · subst hnil
      cases hw
      simp
  induction h generalizing e rest with
  | text hw => exact htext hw hrest e
  | @foreign p w element q s hw helement _ ih =>
    have hhead : ∀ c ∈ (element ++ (s ++ rest)).head?, c = '<' := by
      cases helement with
      | mk _ _ _ _ hencloses => simp [hencloses.head?_append]
    rw [List.append_assoc, List.append_assoc, htext hw hhead, follow_foreign helement, ih _ hrest]
    · simp [String.append_assoc]
    · exact fun _ _ => rfl

/-! ## Rules -/

/-- The frame is that of a holder of rules. -/
inductive Frame.IsFor : Frame → Holder → Prop
  | routine (r : Routine) : Frame.IsFor (.routine r) .routine
  | rule (r : Rule) : Frame.IsFor (.rule r) .rule

/-- The frame with these rules behind its own, and this expression in place of its own. -/
def Frame.fill : Frame → List Rule → Option Expression → Frame
  | .routine r, rules, _ => .routine { r with rules := r.rules ++ rules }
  | .rule r, rules, e =>
    .rule (.mk r.input r.output r.target r.append r.condition (r.children ++ rules)
      (e.or r.expression))
  | F, _, _ => F

variable {F : Frame} {holder : Holder}

theorem Frame.IsFor.fill_nil (h : F.IsFor holder) : F.fill [] none = F := by
  cases h with
  | routine r => simp [Frame.fill]
  | rule r =>
    cases r
    simp [Frame.fill, Rule.input, Rule.output, Rule.target, Rule.append, Rule.condition,
      Rule.children, Rule.expression]

theorem Frame.IsFor.attach (h : F.IsFor holder) (r : Rule) :
    ((Frame.rule r).attach F).IsFor holder := by
  cases h with
  | routine parent => exact .routine _
  | rule parent => exact .rule _

/-- A rule that is attached comes before those that are filled in. -/
theorem Frame.IsFor.fill_attach (h : F.IsFor holder) (r : Rule) (rules : List Rule)
    (e : Option Expression) : ((Frame.rule r).attach F).fill rules e = F.fill (r :: rules) e := by
  cases h with
  | routine parent => simp [Frame.fill, Frame.attach]
  | rule parent =>
    cases parent
    simp [Frame.fill, Frame.attach, Rule.addChild, Rule.input, Rule.output, Rule.target,
      Rule.append, Rule.condition, Rule.children, Rule.expression]

theorem fill_attach_expression (parent : Rule) (e : Expression) (rules : List Rule) :
    ((Frame.expression e).attach (.rule parent)).fill rules none =
      (Frame.rule parent).fill rules (some e) := by
  cases parent
  simp [Frame.fill, Frame.attach, Rule.setExpression, Rule.input, Rule.output, Rule.target,
    Rule.append, Rule.condition, Rule.children, Rule.expression]

theorem fill_bare (r : Rule) : (Frame.rule r.bare).fill r.children r.expression = .rule r := by
  cases r
  simp [Frame.fill, Rule.bare, Rule.input, Rule.output, Rule.target, Rule.append, Rule.condition,
    Rule.children, Rule.expression]

theorem Frame.IsFor.openInside_foreign (h : F.IsFor holder) (tag : Tag)
    (ht : tag.name ∉ holder.known) : openInside F tag = .ok .ignored := by
  cases h with
  | routine r =>
    have hne : ¬ tag.name = "RegExp".toList := fun heq => ht (List.mem_singleton.2 heq)
    rw [openInside, if_neg hne]
    rfl
  | rule r =>
    have hne : ¬ tag.name = "RegExp".toList := fun heq => ht (heq ▸ List.mem_cons_self)
    have hne' : ¬ tag.name = "expression".toList := fun heq =>
      ht (heq ▸ List.mem_cons_of_mem _ List.mem_cons_self)
    rw [openInside, if_neg hne, if_neg hne']
    rfl

theorem Frame.IsFor.openInside_rule (h : F.IsFor holder) {r : Rule} (hr : r.Writable) {tag : Tag}
    (ht : tag.name = "RegExp".toList) (hv : attributeValues tag = .ok r.values) :
    openInside F tag = .ok (.rule r.bare) := by
  cases hr with
  | mk hi hc htarget =>
    have hopen : openRule r.values = r.bare := openRule_values hi hc htarget
    cases h <;>
      · rw [openInside, if_pos ht, hv, ← hopen]
        rfl

theorem openInside_expression (parent : Rule) {e : Expression} (he : e.Writable) {tag : Tag}
    (ht : tag.name = "expression".toList) (hv : attributeValues tag = .ok e.values) :
    openInside (.rule parent) tag = .ok (.expression { e with pattern := "" }) := by
  have hne : ¬ tag.name = "RegExp".toList := by
    rw [ht]
    decide
  rw [openInside, if_neg hne, if_pos ht, hv, ← openExpression_values he]
  rfl

theorem Frame.IsFor.step_text (h : F.IsFor holder) (raw : List Char) :
    Progress.step ⟨root, F :: stack, routines⟩ (.text raw) = .ok ⟨root, F :: stack, routines⟩ := by
  cases h <;> exact step_text_of_not_inExpression rfl raw

/-- **The inside of a routine or a rule adds its rules and its expression** to the frame. -/
theorem follow_inside {rules : List Rule} {e : Option Expression} {s : List Char}
    (h : WritesInside holder rules e s) (hF : F.IsFor holder) (hw : ∀ r ∈ rules, r.Writable)
    (he : ∀ x ∈ e, x.Writable) (rest : List Char) :
    followFrom Progress.step opened ⟨root, F :: stack, routines⟩ (s ++ rest) =
      followFrom Progress.step opened ⟨root, F.fill rules e :: stack, routines⟩ rest := by
  induction h generalizing F stack opened rest with
  | nil holder => rw [List.nil_append, hF.fill_nil]
  | @space _ _ _ c _ hc _ ih =>
    have hne : c ≠ '<' := by
      rintro rfl
      exact absurd hc (by decide)
    rw [List.cons_append, followFrom_cons_of_ignored _ hF.step_text _ hne]
    exact ih hF hw he rest
  | foreign helement _ ih =>
    rw [List.append_assoc, follow_foreign helement hF.openInside_foreign]
    exact ih hF hw he rest
  | @rule holder r rules e _ _ _ _ helement _ ihr ih =>
    have hr : r.Writable := hw r List.mem_cons_self
    have hopen (as : List Attribute) (has : List.Forall₂ Attribute.Spells as r.values) :
        openInside F ⟨"RegExp".toList, tagSource "RegExp".toList as⟩ = .ok (.rule r.bare) :=
      hF.openInside_rule hr rfl (attributeValues_ofWritten has (namesFit_rule r))
    rw [List.append_assoc, followFrom_element _ step_selfClosed helement (by decide)
      (namesFit_rule r).isName (fun as has => step_opening (hopen as has))
      (fun rest _ => ihr (.rule r.bare) hr.children hr.expression rest), fill_bare]
    show followFrom Progress.step opened ⟨root, (Frame.rule r).attach F :: stack, routines⟩ _ = _
    rw [ih (hF.attach r) (fun x hx => hw x (List.mem_cons_of_mem r hx)) he, hF.fill_attach]
  | @expression rules x _ _ _ hpattern helement _ ih =>
    cases hF with
    | rule parent =>
      have hx : x.Writable := he x rfl
      have hopen (as : List Attribute) (has : List.Forall₂ Attribute.Spells as x.values) :
          openInside (.rule parent) ⟨"expression".toList, tagSource "expression".toList as⟩ =
            .ok (.expression { x with pattern := "" }) :=
        openInside_expression parent hx rfl (attributeValues_ofWritten has (namesFit_expression x))
      rw [List.append_assoc, followFrom_element _ step_selfClosed helement (by decide)
        (namesFit_expression x).isName (fun as has => step_opening (hopen as has))
        (fun rest hrest => follow_pattern hpattern { x with pattern := "" } hrest)]
      have hattach : ((Frame.expression x).attach (.rule parent)).IsFor .rule := .rule _
      rw [String.ofList_toList, String.empty_append]
      show followFrom Progress.step opened
        ⟨root, (Frame.expression x).attach (.rule parent) :: stack, routines⟩ _ = _
      rw [ih hattach hw (by simp), fill_attach_expression]

end

/-! ## Routines -/

/-- **Routines are added** to those that are closed. -/
theorem follow_routines {rs : List Routine} {s : List Char} (h : WritesRoutines rs s)
    (hw : ∀ r ∈ rs, r.Writable) {root : Option String} {opened : List (List Char)}
    (routines : List Routine) (rest : List Char) :
    followFrom Progress.step opened ⟨root, [.root], routines⟩ (s ++ rest) =
      followFrom Progress.step opened ⟨root, [.root], rs.reverse ++ routines⟩ rest := by
  induction h generalizing routines with
  | nil => rfl
  | @space _ c _ hc _ ih =>
    have hne : c ≠ '<' := by
      rintro rfl
      exact absurd hc (by decide)
    rw [List.cons_append, followFrom_cons_of_ignored _ (step_text_of_not_inExpression rfl) _ hne]
    exact ih hw routines
  | @routine r rs _ _ _ hinside helement _ ih =>
    have hr : r.Writable := hw r List.mem_cons_self
    have hopen (as : List Attribute) (has : List.Forall₂ Attribute.Spells as r.values) :
        openInside .root ⟨r.name.toList, tagSource r.name.toList as⟩ =
          .ok (.routine { r with rules := [] }) := by
      rw [openInside, attributeValues_ofWritten has (namesFit_routine r), ← openRoutine_values hr]
      rfl
    rw [List.append_assoc, followFrom_element _ step_selfClosed helement hr.name
      (namesFit_routine r).isName (fun as has => step_opening (hopen as has))
      (fun rest _ =>
        follow_inside hinside (.routine { r with rules := [] }) hr.rules (by simp) rest)]
    show followFrom Progress.step opened ⟨root, [.root], r :: routines⟩ _ = _
    rw [ih (fun x hx => hw x (List.mem_cons_of_mem r hx)), List.reverse_cons, List.append_assoc]
    rfl

theorem readLibrary_eq (xml : String) :
    readLibrary xml = followFrom Progress.step [] Progress.start xml.toList >>= fun p =>
      if p.stack.isEmpty then
        match p.root with
        | some root => .ok ⟨root, p.routines.reverse⟩
        | none => .error (.unreadable .noRoot)
      else .error (.unreadable (.unclosedElements p.stack.length)) := by
  simp only [readLibrary, Xml.read, nest, followFrom, Reading.follow]
  generalize nestFrom _ _ _ _ = reading
  cases List.foldlM Progress.step Progress.start reading.events with
  | error e => rfl
  | ok p =>
    cases reading.fault with
    | some e => rfl
    | none => rfl

/-- **A written library is read as its routines**, in order. -/
theorem readLibrary_ofWritten {rs : List Routine} {text : String}
    (h : WritesLibrary rs text.toList) (hw : ∀ r ∈ rs, r.Writable) :
    ∃ root, readLibrary text = .ok ⟨root, rs⟩ := by
  generalize htext : text.toList = s at h
  cases h with
  | @mk before after name _ _ values hbefore hafter hn hv hroutines helement =>
    have hopen (as : List Attribute) : Progress.step ⟨none, [], []⟩
        (.opening ⟨name, tagSource name as⟩) = .ok ⟨some (.ofList name), [.root], []⟩ := rfl
    refine ⟨.ofList name, ?_⟩
    rw [readLibrary_eq, htext, ← List.append_nil after, List.append_assoc,
      followFrom_spaces _ (step_text_of_not_inExpression rfl) _ hbefore]
    rw [Progress.start, followFrom_element _ step_selfClosed helement hn (fun v hm => (hv v hm).1)
      (fun as _ => hopen as) (fun rest _ => follow_routines hroutines hw [] rest)]
    show (followFrom Progress.step [] ⟨some (.ofList name), [], rs.reverse ++ []⟩ _ >>= _) = _
    rw [followFrom_spaces _ (step_text_of_not_inExpression rfl) _ hafter, followFrom_nil,
      List.append_nil]
    simp only [bind, Except.bind, List.isEmpty_nil, if_true, List.reverse_reverse]

end Scraper
end MediaScraper
