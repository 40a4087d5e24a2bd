import MediaScraper.Proofs.Library.Reading
import MediaScraper.Proofs.Xml.Point

/-!
# What elements hold

Of what stands in an element, the tags tell what it holds: the routines in the root element, the
rules in a routine or a rule, the last expression in a rule and the texts in an expression, each once
and in the order of the document (`routinesOf`, `rulesOf`, `expressionOf?`, `patternOf`).

The frame of an element is filled with that (`Frame.holding`). What is read later is filled in behind
what has been read before (`Frame.holding_append`), and an element is filled in by attaching its own
frame (`Frame.holding_element`).
-/

namespace MediaScraper.Scraper

open Xml

/-! ## What elements hold -/

/-- The text that a stretch of text stands for. -/
def textOf (raw : List Char) : List Char := (unescape raw).toOption.getD []

/-- The pattern of an expression: the texts that stand directly in it. -/
def patternOf : Content → String
  | .nil => ""
  | .text raw next => .ofList (textOf raw) ++ patternOf next
  | .cdata content next => .ofList content ++ patternOf next
  | .aside _ next | .empty _ next | .element _ _ _ next => patternOf next

/-- The expression that an element is, if it is one. -/
def readExpression? (tag : Tag) (pattern : String) : Option Expression :=
  if tag.name = "expression".toList then
    (attributeValues tag).toOption.map fun values => { openExpression values with pattern }
  else none

/-- The expression of a rule: the last one that stands directly in it. -/
def expressionOf? : Content → Option Expression
  | .nil => none
  | .text _ next | .cdata _ next | .aside _ next => expressionOf? next
  | .empty tag next => (expressionOf? next).or (readExpression? tag "")
  | .element tag content _ next => (expressionOf? next).or (readExpression? tag (patternOf content))

/-- The rule that an element is, if it is one. -/
def readRule? (tag : Tag) (children : List Rule) (e : Option Expression) : Option Rule :=
  if tag.name = "RegExp".toList then
    (attributeValues tag).toOption.map fun values =>
      let r := openRule values
      .mk r.input r.output r.target r.append r.condition children e
  else none

/-- The rules of a routine or a rule: those that stand directly in it, in order. -/
def rulesOf : Content → List Rule
  | .nil => []
  | .text _ next | .cdata _ next | .aside _ next => rulesOf next
  | .empty tag next => (readRule? tag [] none).toList ++ rulesOf next
  | .element tag content _ next =>
    (readRule? tag (rulesOf content) (expressionOf? content)).toList ++ rulesOf next

/-- The routine that an element is. -/
def readRoutine? (tag : Tag) (rules : List Rule) : Option Routine :=
  (attributeValues tag).toOption.map fun values => { openRoutine tag.name values with rules }

/-- The routines that stand directly in the root element, in order. -/
def routinesOf : Content → List Routine
  | .nil => []
  | .text _ next | .cdata _ next | .aside _ next => routinesOf next
  | .empty tag next => (readRoutine? tag []).toList ++ routinesOf next
  | .element tag content _ next => (readRoutine? tag (rulesOf content)).toList ++ routinesOf next

/-- The routines of a document: those that stand in its root element. -/
def libraryOf : Content → List Routine
  | .nil => []
  | .text _ next | .cdata _ next | .aside _ next | .empty _ next => libraryOf next
  | .element _ content _ next => routinesOf content ++ libraryOf next

section

variable (c d : Content)

theorem patternOf_append : patternOf (c.append d) = patternOf c ++ patternOf d := by
  induction c with
  | nil => rw [patternOf, String.empty_append]; rfl
  | text raw next ih | cdata content next ih =>
    rw [Content.append, patternOf, patternOf, ih, String.append_assoc]
  | aside source next ih | empty tag next ih | element tag content spaces next _ ih => exact ih

theorem expressionOf?_append :
    expressionOf? (c.append d) = (expressionOf? d).or (expressionOf? c) := by
  induction c with
  | nil => exact Option.or_none.symm
  | text raw next ih | cdata content next ih | aside source next ih => exact ih
  | empty tag next ih | element tag content spaces next _ ih =>
    rw [Content.append, expressionOf?, expressionOf?, ih, Option.or_assoc]

theorem rulesOf_append : rulesOf (c.append d) = rulesOf c ++ rulesOf d := by
  induction c with
  | nil => rfl
  | text raw next ih | cdata content next ih | aside source next ih => exact ih
  | empty tag next ih | element tag content spaces next _ ih =>
    rw [Content.append, rulesOf, rulesOf, ih, List.append_assoc]

theorem routinesOf_append : routinesOf (c.append d) = routinesOf c ++ routinesOf d := by
  induction c with
  | nil => rfl
  | text raw next ih | cdata content next ih | aside source next ih => exact ih
  | empty tag next ih | element tag content spaces next _ ih =>
    rw [Content.append, routinesOf, routinesOf, ih, List.append_assoc]

theorem libraryOf_append : libraryOf (c.append d) = libraryOf c ++ libraryOf d := by
  induction c with
  | nil => rfl
  | text raw next ih | cdata content next ih | aside source next ih | empty tag next ih => exact ih
  | element tag content spaces next _ ih =>
    rw [Content.append, libraryOf, libraryOf, ih, List.append_assoc]

end

/-! ## What frames hold -/

/-- A frame when this has been read in its element. -/
def Frame.holding : Frame → Content → Frame
  | .root, _ => .root
  | .expression e, c => .expression { e with pattern := e.pattern ++ patternOf c }
  | F, c => F.fill (rulesOf c) (expressionOf? c)

/-- The frame of an element in another one. -/
def frameIn (F : Frame) (tag : Tag) : Frame := ((openInside F tag).toOption).getD .ignored

namespace Frame

variable (F : Frame)

theorem fill_fill (rules more : List Rule) (e e' : Option Expression) :
    (F.fill rules e).fill more e' = F.fill (rules ++ more) (e'.or e) := by
  cases F with
  | rule r =>
    simp [fill, Rule.input, Rule.output, Rule.target, Rule.append, Rule.condition, Rule.children,
      Rule.expression, Option.or_assoc]
  | routine r => simp [fill]
  | _ => rfl

theorem fill_none : F.fill [] none = F := by
  cases F with
  | routine r => exact (Frame.IsFor.routine r).fill_nil
  | rule r => exact (Frame.IsFor.rule r).fill_nil
  | _ => rfl

theorem holding_append (c d : Content) : F.holding (c.append d) = (F.holding c).holding d := by
  cases F with
  | root | ignored => rfl
  | expression e => simp only [holding, patternOf_append, String.append_assoc]
  | routine r | rule r =>
    simp only [holding, rulesOf_append, expressionOf?_append, ← fill_fill]
    rfl

theorem holding_nil : F.holding .nil = F := by
  cases F with
  | root | ignored => rfl
  | expression e => simp only [holding, patternOf, String.append_empty]
  | routine r => exact (Frame.routine r).fill_none
  | rule r => exact (Frame.rule r).fill_none

theorem attach_root : F.attach .root = .root := by cases F <;> rfl

theorem holding_openRule (values : List (List Char × String)) (c : Content) :
    (Frame.rule (openRule values)).holding c =
      .rule (.mk (openRule values).input (openRule values).output (openRule values).target
        (openRule values).append (openRule values).condition (rulesOf c) (expressionOf? c)) := by
  simp [holding, fill, openRule, Rule.input, Rule.output, Rule.target, Rule.append, Rule.condition,
    Rule.children, Rule.expression]

theorem holding_openExpression (values : List (List Char × String)) (c : Content) :
    (Frame.expression (openExpression values)).holding c =
      .expression { openExpression values with pattern := patternOf c } := by
  simp [holding, openExpression]

section

variable {F} {holder : Holder} (h : F.IsFor holder)
include h

theorem IsFor.holding_eq (c : Content) : F.holding c = F.fill (rulesOf c) (expressionOf? c) := by
  cases h <;> rfl

theorem IsFor.attach_rule (r : Rule) : (Frame.rule r).attach F = F.fill [r] none := by
  have hfill := h.fill_attach r [] none
  rwa [fill_none] at hfill

theorem IsFor.holding_rule {tag : Tag} (hname : tag.name = "RegExp".toList) (content : Content)
    (spaces : List Char) :
    F.holding (.element tag content spaces .nil) =
      ((frameIn F tag).holding content).attach F := by
  have hne : ¬ tag.name = "expression".toList := by
    rw [hname]
    decide
  have hframe : frameIn F tag = match attributeValues tag with
      | .ok values => .rule (openRule values)
      | .error _ => .ignored := by
    cases h <;> rw [frameIn, openInside, if_pos hname] <;> cases attributeValues tag <;> rfl
  rw [h.holding_eq, hframe]
  simp only [rulesOf, expressionOf?, readRule?, readExpression?, if_pos hname, if_neg hne]
  cases attributeValues tag with
  | error e => exact (fill_none F).trans (attach_ignored F).symm
  | ok values =>
    dsimp only
    rw [holding_openRule, h.attach_rule]
    rfl

theorem IsFor.holding_foreign {tag : Tag} (hname : tag.name ∉ holder.known) (content : Content)
    (spaces : List Char) :
    F.holding (.element tag content spaces .nil) =
      ((frameIn F tag).holding content).attach F := by
  rw [frameIn, h.openInside_foreign tag hname]
  show _ = Frame.ignored.attach F
  rw [attach_ignored]
  cases h with
  | routine r =>
    have hrule : ¬ tag.name = "RegExp".toList := fun heq => hname (List.mem_singleton.2 heq)
    simp only [holding, rulesOf, readRule?, if_neg hrule]
    exact (Frame.routine r).fill_none
  | rule r =>
    have hrule : ¬ tag.name = "RegExp".toList := fun heq => hname (heq ▸ List.mem_cons_self)
    have hexpression : ¬ tag.name = "expression".toList := fun heq =>
      hname (heq ▸ List.mem_cons_of_mem _ List.mem_cons_self)
    simp only [holding, rulesOf, expressionOf?, readRule?, readExpression?, if_neg hrule,
      if_neg hexpression]
    exact (Frame.rule r).fill_none

end

/-- An expression in a rule takes the place of an earlier one. -/
theorem holding_expression (parent : Rule) {tag : Tag} (hname : tag.name = "expression".toList)
    (content : Content) (spaces : List Char) :
    (Frame.rule parent).holding (.element tag content spaces .nil) =
      ((frameIn (.rule parent) tag).holding content).attach (.rule parent) := by
  have hne : ¬ tag.name = "RegExp".toList := by
    rw [hname]
    decide
  rw [frameIn, openInside, if_neg hne, if_pos hname]
  simp only [holding, rulesOf, expressionOf?, readRule?, readExpression?, if_neg hne, if_pos hname]
  cases attributeValues tag with
  | error e => exact (fill_none _).trans (attach_ignored _).symm
  | ok values =>
    show _ = ((Frame.expression (openExpression values)).holding content).attach (.rule parent)
    have hfill := fill_attach_expression parent
      { openExpression values with pattern := patternOf content } []
    rw [fill_none] at hfill
    rw [holding_openExpression, hfill]
    rfl

/-- **An element in another one is attached to it.** -/
theorem holding_element (tag : Tag) (content : Content) (spaces : List Char) :
    F.holding (.element tag content spaces .nil) =
      ((frameIn F tag).holding content).attach F := by
  cases F with
  | root => exact (attach_root _).symm
  | expression e => simp [holding, patternOf, frameIn, openInside, attach]
  | ignored => rfl
  | routine r =>
    by_cases hrule : tag.name = "RegExp".toList
    · exact (IsFor.routine r).holding_rule hrule content spaces
    · have hname : tag.name ∉ Holder.routine.known := fun hmem => hrule (List.mem_singleton.1 hmem)
      exact (IsFor.routine r).holding_foreign hname content spaces
  | rule r =>
    by_cases hrule : tag.name = "RegExp".toList
    · exact (IsFor.rule r).holding_rule hrule content spaces
    · by_cases hexpression : tag.name = "expression".toList
      · exact holding_expression r hexpression content spaces
      · have hname : tag.name ∉ Holder.rule.known := fun hmem =>
          (List.mem_cons.1 hmem).elim hrule fun hmem => hexpression (List.mem_singleton.1 hmem)
        exact (IsFor.rule r).holding_foreign hname content spaces

/-- What is no expression takes in no text. -/
theorem holding_of_plain {c : Content} (hF : ∀ e, F ≠ .expression e) (hrules : rulesOf c = [])
    (hexpression : expressionOf? c = none) : F.holding c = F := by
  cases F with
  | root | ignored => rfl
  | expression e => exact absurd rfl (hF e)
  | routine r => rw [holding, hrules, hexpression, fill_none] <;> nofun
  | rule r => rw [holding, hrules, hexpression, fill_none] <;> nofun

end Frame

end MediaScraper.Scraper
