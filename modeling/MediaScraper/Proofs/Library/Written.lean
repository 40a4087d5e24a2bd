import MediaScraper.Proofs.Repair.Unbroken
import MediaScraper.Proofs.Text.Numeral
import MediaScraper.Proofs.Xml.Tag
import MediaScraper.Scraper.Basic

/-!
# Libraries as they are written

The other side of reading a library: which texts write a list of routines.

**Elements.** A routine is an element of its name, a rule an element `RegExp`, an expression an
element `expression`. Each has its data in attributes (`Routine.values`, `Rule.values`,
`Expression.values`) and holds its parts inside.

**Freedom.** Brackets in values are plain or escaped. An element without content may close itself.
Between elements there may be spaces, and inside of routines, rules and expressions there may be
elements of no meaning, whatever they hold (`IsForeign`).

**Domain** (`Routine.Writable`). Names are names of elements, numbers fit a word of 64 bits, inputs
and conditions are not empty, and nothing in an attribute would be taken for a declaration or a
split tag by the repairs (`Unbroken`). Every list of such routines can be written
(`exists_writesLibrary`).
-/

namespace MediaScraper

open Xml
open Repair (Unbroken)

/-! ## Attributes -/

namespace Scraper

/-- Attributes that may stand in any tag. -/
def ValuesFit (values : List (List Char × String)) : Prop :=
  ∀ v ∈ values, IsName v.1 ∧ Unbroken v.2.toList

def flagText (b : Bool) : String := if b then "yes" else "no"

/-- A register number, and `+` behind it to append. -/
def targetText (target : Nat) (append : Bool) : String :=
  .ofList (Nat.toDigits 10 target ++ if append then ['+'] else [])

end Scraper

open Scraper

/-- The attributes of a routine with their values. -/
def Routine.values (r : Routine) : List (List Char × String) :=
  [("dest".toList, targetText r.target r.append), ("clearbuffers".toList, flagText r.clearsOnEntry)]

/-- The attributes of a rule; without a condition there is none for it. -/
def Rule.values (r : Rule) : List (List Char × String) :=
  [("input".toList, r.input), ("output".toList, r.output),
      ("dest".toList, targetText r.target r.append)] ++
    (r.condition.map fun c => ("conditional".toList, c)).toList

/-- The attributes of an expression. -/
def Expression.values (e : Expression) : List (List Char × String) :=
  [("clear".toList, flagText e.clearOnNoMatch), ("repeat".toList, flagText e.repeats),
    ("noclean".toList, .ofList (Numeral.listed e.rawGroups))]

/-! ## What can be written -/

/-- The groups are those of a set of 64-bit numbers. -/
structure Expression.Writable (e : Expression) : Prop where
  sorted : e.rawGroups.Pairwise (· < ·)
  groups_le : ∀ n ∈ e.rawGroups, n ≤ Numeral.maxWord

/-- A rule that an element can hold. -/
inductive Rule.Writable : Rule → Prop
  | mk {r : Rule} : r.input ≠ "" → r.condition ≠ some "" → r.target ≤ Numeral.maxWord →
      Unbroken r.input.toList → Unbroken r.output.toList →
      (∀ c ∈ r.condition, Unbroken c.toList) → (∀ e ∈ r.expression, e.Writable) →
      (∀ x ∈ r.children, Rule.Writable x) → Rule.Writable r

theorem Rule.Writable.children {r : Rule} (h : r.Writable) : ∀ x ∈ r.children, x.Writable := by
  cases h with
  | mk _ _ _ _ _ _ _ hchildren => exact hchildren

theorem Rule.Writable.expression {r : Rule} (h : r.Writable) : ∀ e ∈ r.expression, e.Writable := by
  cases h with
  | mk _ _ _ _ _ _ hexpression => exact hexpression

/-- A routine that an element can hold. -/
structure Routine.Writable (r : Routine) : Prop where
  name : IsName r.name.toList
  target_le : r.target ≤ Numeral.maxWord
  rules : ∀ x ∈ r.rules, x.Writable

namespace Scraper

/-! ## Elements of no meaning -/

/-- Text without brackets and elements of any name, nested in any way. -/
inductive IsMarkup : List Char → Prop
  | nil : IsMarkup []
  | char {c : Char} {s : List Char} : c ≠ '<' → IsMarkup s → IsMarkup (c :: s)
  | element {name content element s : List Char} {values : List (List Char × String)} :
      IsName name → ValuesFit values → IsMarkup content → Encloses name values content element →
      IsMarkup s → IsMarkup (element ++ s)

/-- An element, with all it holds, of none of the names that are known where it stands. -/
inductive IsForeign (known : List (List Char)) : List Char → Prop
  | mk {name content element : List Char} {values : List (List Char × String)} :
      IsName name → name ∉ known → ValuesFit values → IsMarkup content →
      Encloses name values content element → IsForeign known element

/-! ## Rules and expressions -/

/-- A pattern in an expression: its text, with elements of no meaning at any place in it. -/
inductive WritesPattern : List Char → List Char → Prop
  | text {p w : List Char} : Spelling plainInText p w → WritesPattern p w
  | foreign {p w element q s : List Char} : Spelling plainInText p w → IsForeign [] element →
      WritesPattern q s → WritesPattern (p ++ q) (w ++ element ++ s)

/-- What holds rules. -/
inductive Holder where
  | routine
  | rule

/-- The names of the elements that mean something in a routine or a rule. -/
def Holder.known : Holder → List (List Char)
  | .routine => ["RegExp".toList]
  | .rule => ["RegExp".toList, "expression".toList]

/-- `WritesInside holder rules e s`: inside of a routine or a rule, `s` writes these rules in order
and, at any place among them, the expression of the rule that holds them. -/
inductive WritesInside : Holder → List Rule → Option Expression → List Char → Prop
  | nil (holder : Holder) : WritesInside holder [] none []
  | space {holder : Holder} {rules : List Rule} {e : Option Expression} {c : Char} {s : List Char} :
      isSpace c = true → WritesInside holder rules e s → WritesInside holder rules e (c :: s)
  | foreign {holder : Holder} {rules : List Rule} {e : Option Expression} {element s : List Char} :
      IsForeign holder.known element → WritesInside holder rules e s →
      WritesInside holder rules e (element ++ s)
  | rule {holder : Holder} {r : Rule} {rules : List Rule} {e : Option Expression}
      {content element s : List Char} :
      WritesInside .rule r.children r.expression content →
      Encloses "RegExp".toList r.values content element → WritesInside holder rules e s →
      WritesInside holder (r :: rules) e (element ++ s)
  | expression {rules : List Rule} {e : Expression} {content element s : List Char} :
      WritesPattern e.pattern.toList content →
      Encloses "expression".toList e.values content element →
      WritesInside .rule rules none s → WritesInside .rule rules (some e) (element ++ s)

/-! ## Libraries -/

/-- Routines one after the other, with spaces between them. -/
inductive WritesRoutines : List Routine → List Char → Prop
  | nil : WritesRoutines [] []
  | space {rs : List Routine} {c : Char} {s : List Char} :
      isSpace c = true → WritesRoutines rs s → WritesRoutines rs (c :: s)
  | routine {r : Routine} {rs : List Routine} {content element s : List Char} :
      WritesInside .routine r.rules none content →
      Encloses r.name.toList r.values content element → WritesRoutines rs s →
      WritesRoutines (r :: rs) (element ++ s)

/-- A library: one root element, of any name and with any attributes, that holds the routines. -/
inductive WritesLibrary (rs : List Routine) : List Char → Prop
  | mk {before after name content element : List Char} {values : List (List Char × String)} :
      (∀ c ∈ before, isSpace c = true) → (∀ c ∈ after, isSpace c = true) → IsName name →
      ValuesFit values → WritesRoutines rs content → Encloses name values content element →
      WritesLibrary rs (before ++ element ++ after)

/-! ## Every list of routines can be written -/

theorem exists_writesPattern (p : List Char) : ∃ w, WritesPattern p w := by
  obtain ⟨w, hw⟩ := exists_spelling mem_namedChars_of_plainInText p
  exact ⟨w, .text hw⟩

theorem exists_writesInside {rules : List Rule}
    (h : ∀ r ∈ rules, ∃ content, WritesInside .rule r.children r.expression content)
    (holder : Holder) : ∃ s, WritesInside holder rules none s := by
  induction rules with
  | nil => exact ⟨[], .nil holder⟩
  | cons r rules ih =>
    obtain ⟨content, hcontent⟩ := h r List.mem_cons_self
    obtain ⟨element, helement⟩ := exists_encloses "RegExp".toList r.values content
    obtain ⟨s, hs⟩ := ih fun x hx => h x (List.mem_cons_of_mem r hx)
    exact ⟨element ++ s, .rule hcontent helement hs⟩

theorem exists_writesInside_of_writable {r : Rule} (h : r.Writable) :
    ∃ content, WritesInside .rule r.children r.expression content := by
  induction h with
  | @mk r _ _ _ _ _ _ _ _ ih =>
    obtain ⟨s, hs⟩ := exists_writesInside ih .rule
    cases he : r.expression with
    | none => exact ⟨s, hs⟩
    | some e =>
      obtain ⟨content, hcontent⟩ := exists_writesPattern e.pattern.toList
      obtain ⟨element, helement⟩ := exists_encloses "expression".toList e.values content
      exact ⟨element ++ s, .expression hcontent helement hs⟩

/-- **Every list of writable routines has a library.** -/
theorem exists_writesLibrary {rs : List Routine} (h : ∀ r ∈ rs, r.Writable) :
    ∃ s, WritesLibrary rs s := by
  have hroutines : ∃ content, WritesRoutines rs content := by
    induction rs with
    | nil => exact ⟨[], .nil⟩
    | cons r rs ih =>
      obtain ⟨content, hcontent⟩ := exists_writesInside
        (fun x hx => exists_writesInside_of_writable ((h r List.mem_cons_self).rules x hx)) .routine
      obtain ⟨element, helement⟩ := exists_encloses r.name.toList r.values content
      obtain ⟨s, hs⟩ := ih fun x hx => h x (List.mem_cons_of_mem r hx)
      exact ⟨element ++ s, .routine hcontent helement hs⟩
  obtain ⟨content, hcontent⟩ := hroutines
  obtain ⟨element, helement⟩ := exists_encloses "scraper".toList [] content
  have hnone : ∀ c ∈ ([] : List Char), isSpace c = true := fun c hc => absurd hc List.not_mem_nil
  exact ⟨[] ++ element ++ [], .mk hnone hnone (by decide) (fun v hv => absurd hv List.not_mem_nil)
    hcontent helement⟩

end Scraper
end MediaScraper
