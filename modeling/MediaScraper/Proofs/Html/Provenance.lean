import Mathlib.Data.List.TakeDrop
import MediaScraper.Html.Fragment

/-!
# Where attributes come from

The builder copies the attributes of start tags into elements and keeps the tags of formatting
elements to open them again. It makes no attributes of its own: what holds of all attributes of the
start tags of a text holds of all attributes of its elements (`holds_ofFragment`).

**The invariant** (`Builder.Holds`). All attributes in the forest, and all those of the tags in the
list of active formatting, have the property. Most moves of the builder change neither of them; the
others put the attributes of the token or of a remembered tag into a new element.
-/

namespace MediaScraper.Html

variable {P : String × String → Prop}

/-- All of these attributes have a property. -/
def AttributesHold (P : String × String → Prop) (attributes : List (String × String)) : Prop :=
  ∀ a ∈ attributes, P a

/-- All attributes of a tag have a property. -/
def Tag.Holds (P : String × String → Prop) (tag : Tag) : Prop := AttributesHold P tag.attributes

@[grind ←]
theorem Tag.Holds.attributes {tag : Tag} (h : tag.Holds P) : AttributesHold P tag.attributes := h

@[grind =]
theorem tag_holds_mk_iff {name : String} {attributes : List (String × String)}
    {isSelfClosing : Bool} :
    Tag.Holds P ⟨name, attributes, isSelfClosing⟩ ↔ AttributesHold P attributes := Iff.rfl

@[simp, grind .]
theorem attributesHold_nil : AttributesHold P [] := by simp [AttributesHold]

/-- All attributes of a start tag have a property. -/
def Token.Holds (P : String × String → Prop) : Token → Prop
  | .opening tag => tag.Holds P
  | _ => True

/-! ## Forests -/

namespace Forest

variable {f : Forest}

/-- All attributes of the elements have a property. -/
def Holds (P : String × String → Prop) (f : Forest) : Prop :=
  ∀ e ∈ f.elements, AttributesHold P e.attributes

theorem holds_start : start.Holds P := by simp [start, Holds]

theorem Holds.make (h : f.Holds P) (space : Namespace) (name : String)
    {attributes : List (String × String)} (ha : AttributesHold P attributes) :
    (f.make space name attributes).Holds P := by
  intro e he
  rcases Array.mem_push.1 he with he | rfl
  · exact h e he
  · exact ha

theorem Holds.modify_of_forall (h : f.Holds P) (node : Nat) {change : Element → Element}
    (hchange : ∀ e ∈ f.elements, AttributesHold P (change e).attributes) :
    (f.modify node change).Holds P := by
  intro e he
  obtain ⟨i, hi, rfl⟩ := Array.mem_iff_getElem.1 he
  simp only [Forest.modify, Array.getElem_modify]
  split
  · exact hchange _ (Array.getElem_mem _)
  · exact h _ (Array.getElem_mem _)

theorem Holds.modify (h : f.Holds P) (node : Nat) {change : Element → Element}
    (hchange : ∀ e, (change e).attributes = e.attributes) : (f.modify node change).Holds P :=
  h.modify_of_forall node fun e he => hchange e ▸ h e he

theorem Holds.adopt (h : f.Holds P) (child : Child) (parent : Nat) :
    (f.adopt child parent).Holds P := by
  cases child with
  | text s => exact h
  | element node => exact h.modify node fun _ => rfl

theorem Holds.append (h : f.Holds P) (parent : Nat) (child : Child) :
    (f.append parent child).Holds P := by
  refine Holds.adopt (h.modify parent ?_) child parent
  exact fun _ => rfl

theorem Holds.insert (h : f.Holds P) (place : Place) (child : Child) :
    (f.insert place child).Holds P := by
  cases place with
  | inside parent => exact h.append parent child
  | before sibling fallback =>
    rw [Forest.insert]
    split
    · refine Holds.adopt (h.modify _ ?_) child _
      exact fun _ => rfl
    · exact h.append fallback child

theorem Holds.detach (h : f.Holds P) (node : Nat) : (f.detach node).Holds P := by
  rw [Forest.detach]
  split
  · exact h
  · refine Holds.modify (h.modify _ ?_) node ?_
    · exact fun _ => rfl
    · exact fun _ => rfl

theorem Holds.moveChildren (h : f.Holds P) (source target : Nat) :
    (f.moveChildren source target).Holds P := by
  refine Array.foldl_induction (fun _ f => Holds P f) (h.modify source ?_) ?_
  · exact fun _ => rfl
  · exact fun _ f hf => hf.append target _

@[grind ←]
theorem Holds.addAttributes (h : f.Holds P) (node : Nat) {attributes : List (String × String)}
    (ha : AttributesHold P attributes) : (f.addAttributes node attributes).Holds P := by
  refine h.modify_of_forall node fun e he a hmem => ?_
  rcases List.mem_append.1 hmem with hmem | hmem
  · exact h e he a hmem
  · exact ha a (List.mem_filter.1 hmem).1

end Forest

/-! ## Builders -/

/-- All attributes of the tags in a list of active formatting have a property. -/
def EntriesHold (P : String × String → Prop) (entries : List Entry) : Prop :=
  ∀ node tag, .element node tag ∈ entries → tag.Holds P

theorem EntriesHold.of_subset {entries entries' : List Entry} (h : EntriesHold P entries)
    (hsub : entries' ⊆ entries) : EntriesHold P entries' :=
  fun node tag hmem => h node tag (hsub hmem)

@[simp, grind =]
theorem entriesHold_marker_iff {entries : List Entry} :
    EntriesHold P (.marker :: entries) ↔ EntriesHold P entries := by
  simp [EntriesHold]

@[simp, grind =]
theorem entriesHold_element_iff {node : Nat} {tag : Tag} {entries : List Entry} :
    EntriesHold P (.element node tag :: entries) ↔ tag.Holds P ∧ EntriesHold P entries := by
  refine ⟨fun h => ⟨h node tag List.mem_cons_self, h.of_subset (List.subset_cons_self _ _)⟩, ?_⟩
  rintro ⟨ht, h⟩ node' tag' hmem
  rcases List.mem_cons.1 hmem with heq | hmem
  · cases heq
    exact ht
  · exact h node' tag' hmem

@[grind ←]
theorem EntriesHold.forget {entries : List Entry} (h : EntriesHold P entries) (node : Nat) :
    EntriesHold P (Html.forget node entries) :=
  h.of_subset List.filter_sublist.subset

theorem EntriesHold.tagOf? {entries : List Entry} (h : EntriesHold P entries) {node : Nat}
    {tag : Tag} (htag : Html.tagOf? node entries = some tag) : tag.Holds P := by
  induction entries with
  | nil => cases htag
  | cons entry entries ih =>
    cases entry with
    | marker => exact ih (entriesHold_marker_iff.1 h) htag
    | element n t =>
      obtain ⟨ht, h⟩ := entriesHold_element_iff.1 h
      rw [Html.tagOf?] at htag
      split at htag
      · cases htag
        exact ht
      · exact ih h htag

theorem EntriesHold.newest? {entries : List Entry} (h : EntriesHold P entries) {name : String}
    {node : Nat} {tag : Tag} (htag : Html.newest? name entries = some (node, tag)) :
    tag.Holds P := by
  induction entries with
  | nil => cases htag
  | cons entry entries ih =>
    cases entry with
    | marker => cases htag
    | element n t =>
      obtain ⟨ht, h⟩ := entriesHold_element_iff.1 h
      rw [Html.newest?] at htag
      split at htag
      · cases htag
        exact ht
      · exact ih h htag

namespace Builder

variable {b : Builder} {tag : Tag}

/-- All attributes that a builder holds have a property. -/
structure Holds (P : String × String → Prop) (b : Builder) : Prop where
  forest : b.forest.Holds P
  formatting : EntriesHold P b.formatting

theorem holds_start : start.Holds P := ⟨Forest.holds_start, by simp [EntriesHold, start]⟩

@[grind =]
theorem holds_mk_iff {forest : Forest} {stack : List OpenElement} {formatting : List Entry}
    {mode resume : Mode} {templates : List Mode} {form : Option Nat} {fosters skipsLine : Bool}
    {model : ContentModel} {held : List Char} :
    Holds P ⟨forest, stack, formatting, mode, resume, templates, form, fosters, skipsLine, model,
      held⟩ ↔ forest.Holds P ∧ EntriesHold P formatting :=
  ⟨fun h => ⟨h.forest, h.formatting⟩, fun h => ⟨h.1, h.2⟩⟩

attribute [grind ←] Holds.forest Holds.formatting

theorem holds_ite {c : Prop} [Decidable c] {b b' : Builder} (h : b.Holds P) (h' : b'.Holds P) :
    (if c then b else b').Holds P := by
  split
  · exact h
  · exact h'

@[grind ←]
theorem Holds.place (h : b.Holds P) (space : Namespace) (name : String)
    {attributes : List (String × String)} (ha : AttributesHold P attributes) :
    (b.place space name attributes).Holds P :=
  ⟨(h.forest.make space name ha).insert _ _, h.formatting⟩

@[grind ←]
theorem Holds.openIn (h : b.Holds P) (space : Namespace) (name : String)
    {attributes : List (String × String)} (ha : AttributesHold P attributes) :
    (b.openIn space name attributes).Holds P :=
  ⟨(h.forest.make space name ha).insert _ _, h.formatting⟩

@[grind ←]
theorem Holds.insert (h : b.Holds P) (ht : tag.Holds P) : (b.insert tag).Holds P :=
  h.openIn .html tag.name ht

@[grind ←]
theorem Holds.insertPhantom (h : b.Holds P) (name : String) : (b.insertPhantom name).Holds P :=
  h.openIn .html name attributesHold_nil

@[grind ←]
theorem Holds.insertVoid (h : b.Holds P) (ht : tag.Holds P) : (b.insertVoid tag).Holds P :=
  h.place .html tag.name ht

@[grind ←]
theorem Holds.insertText (h : b.Holds P) (s : List Char) : (b.insertText s).Holds P := by
  unfold Builder.insertText
  split
  · exact h
  · exact ⟨h.forest.insert _ _, h.formatting⟩

/-! ### Closing elements -/

@[grind ←]
theorem Holds.pop (h : b.Holds P) : b.pop.Holds P := ⟨h.forest, h.formatting⟩

@[grind ←]
theorem Holds.popThrough (h : b.Holds P) (wanted : OpenElement → Bool) :
    (b.popThrough wanted).Holds P := ⟨h.forest, h.formatting⟩

@[grind ←]
theorem Holds.popThroughNamed (h : b.Holds P) (name : String) :
    (b.popThroughNamed name).Holds P := h.popThrough _

@[grind ←]
theorem Holds.popTo (h : b.Holds P) (names : List String) : (b.popTo names).Holds P :=
  ⟨h.forest, h.formatting⟩

@[grind ←]
theorem Holds.closeImplied (h : b.Holds P) (names : List String) (other : String) :
    (b.closeImplied names other).Holds P := ⟨h.forest, h.formatting⟩

@[grind ←]
theorem Holds.close (h : b.Holds P) (name : String) : (b.close name).Holds P := by
  grind [Builder.close]

@[grind ←]
theorem Holds.closeParagraph (h : b.Holds P) : b.closeParagraph.Holds P := by
  grind [Builder.closeParagraph]

@[grind ←]
theorem Holds.removeOpen (h : b.Holds P) (node : Nat) : (b.removeOpen node).Holds P :=
  ⟨h.forest, h.formatting⟩

@[grind ←]
theorem Holds.resetMode (h : b.Holds P) : b.resetMode.Holds P := ⟨h.forest, h.formatting⟩

@[grind ←]
theorem Holds.clearFormatting (h : b.Holds P) : b.clearFormatting.Holds P :=
  ⟨h.forest, fun node tag hmem => h.formatting node tag
    ((List.dropWhile_suffix _).subset (List.mem_of_mem_drop hmem))⟩

/-! ### Formatting -/

@[grind ←]
theorem Holds.openFormatting (h : b.Holds P) (ht : tag.Holds P) : (b.openFormatting tag).Holds P := by
  refine ⟨(h.insert ht).forest, entriesHold_element_iff.2 ⟨ht, ?_⟩⟩
  split
  · split
    · exact h.formatting
    · exact h.formatting.forget _
  · exact h.formatting

theorem Holds.reopen (h : b.Holds P) {entries : List Entry} (hentries : EntriesHold P entries) :
    (b.reopen entries).Holds P := by
  induction entries generalizing b with
  | nil => exact h
  | cons entry entries ih =>
    cases entry with
    | marker => exact ih h (entriesHold_marker_iff.1 hentries)
    | element node tag =>
      obtain ⟨ht, hentries⟩ := entriesHold_element_iff.1 hentries
      refine ih ⟨(h.insert ht).forest, entriesHold_element_iff.2 ⟨ht, ?_⟩⟩ hentries
      exact h.formatting

@[grind ←]
theorem Holds.resumeFormatting (h : b.Holds P) : b.resumeFormatting.Holds P := by
  rw [Builder.resumeFormatting, List.span_eq_takeWhile_dropWhile]
  split
  · exact h
  · next closed rest _ heq =>
    obtain ⟨rfl, rfl⟩ := Prod.mk.inj heq
    refine Holds.reopen ⟨?_, ?_⟩ (h.formatting.of_subset ?_)
    · exact h.forest
    · exact h.formatting.of_subset (List.dropWhile_suffix _).subset
    · exact fun entry hmem => (List.takeWhile_prefix _).subset (List.mem_reverse.1 hmem)

@[grind ←]
theorem Holds.closeAny (h : b.Holds P) (name : String) : (b.closeAny name).Holds P := by
  unfold Builder.closeAny
  grind

/-- All attributes that a climb holds have a property. -/
structure Climb.Holds (P : String × String → Prop) (c : Climb) : Prop where
  forest : c.forest.Holds P
  formatting : EntriesHold P c.formatting

theorem Climb.Holds.climb {c : Climb} (h : c.Holds P) (block steps : Nat) (stack : List OpenElement) :
    (climb block steps c stack).Holds P := by
  induction stack generalizing steps c with
  | nil => exact h
  | cons e es ih =>
    rw [Builder.climb]
    split
    · exact ih h _
    · next tag htag =>
      have ht : tag.Holds P := h.formatting.tagOf? htag
      split
      · refine ih ⟨?_, ?_⟩ _
        · exact h.forest
        · exact h.formatting.forget e.node
      · refine ih ⟨?_, ?_⟩ _
        · exact ((h.forest.make .html tag.name ht).detach _).append _ _
        · intro node tag' hmem
          obtain ⟨entry, hentry, heq⟩ := List.mem_map.1 hmem
          split at heq
          · cases heq
            exact ht
          · exact h.formatting node tag' (heq ▸ hentry)

theorem entriesHold_replaceEntry {entries : List Entry} (h : EntriesHold P entries)
    (ht : tag.Holds P) (old : Nat) (bookmark : Option Nat) (node : Nat) :
    EntriesHold P (replaceEntry old bookmark (.element node tag) entries) := by
  have hnew : EntriesHold P (.element node tag :: entries) := entriesHold_element_iff.2 ⟨ht, h⟩
  cases bookmark with
  | none =>
    refine hnew.of_subset fun entry hmem => ?_
    obtain ⟨e, he, rfl⟩ := List.mem_map.1 hmem
    split
    · exact List.mem_cons_self
    · exact List.mem_cons_of_mem _ he
  | some copy =>
    refine EntriesHold.forget (hnew.of_subset fun entry hmem => ?_) old
    obtain ⟨e, he, hentry⟩ := List.mem_flatMap.1 hmem
    split at hentry
    · rcases List.mem_cons.1 hentry with rfl | hentry
      · exact List.mem_cons_self
      · exact List.mem_cons_of_mem _ (List.mem_singleton.1 hentry ▸ he)
    · exact List.mem_cons_of_mem _ (List.mem_singleton.1 hentry ▸ he)

theorem Holds.split (h : b.Holds P) (ht : tag.Holds P) (node : Nat) (beyond : List OpenElement)
    (block : OpenElement) (between outside : List OpenElement) :
    (b.split node tag beyond block between outside).Holds P := by
  unfold Builder.split
  extract_lets climbed ancestor inner formatting place detached copy copied
  have hclimb : climbed.Holds P := Climb.Holds.climb ⟨h.forest, h.formatting⟩ _ _ _
  have hdetached : detached.Holds P :=
    (hclimb.forest.detach climbed.last).insert place (.element climbed.last)
  have hcopied : copied.Holds P := (hdetached.make .html tag.name ht).moveChildren block.node copy
  have hforest := hcopied.append block.node (.element copy)
  have hformatting := entriesHold_replaceEntry hclimb.formatting ht node climbed.bookmark copy
  exact ⟨hforest, hformatting⟩

theorem Holds.endRound (h : b.Holds P) (name : String) : (b.endRound name).1.Holds P := by
  unfold Builder.endRound
  split
  · exact h.closeAny name
  · next node tag htag =>
    have hforget := h.formatting.forget node
    split
    · exact ⟨h.forest, hforget⟩
    · split
      · exact h
      · split
        · exact ⟨h.forest, hforget⟩
        · exact h.split (h.formatting.newest? htag) _ _ _ _ _

@[grind ←]
theorem Holds.endRounds (h : b.Holds P) (name : String) (rounds : Nat) :
    (Builder.endRounds name rounds b).Holds P := by
  induction rounds generalizing b with
  | zero => exact h
  | succ rounds ih =>
    have hround := h.endRound name
    rw [Builder.endRounds]
    split
    · next heq =>
      rw [heq] at hround
      exact ih hround
    · next heq =>
      rw [heq] at hround
      exact hround

@[grind ←]
theorem Holds.endFormatting (h : b.Holds P) (name : String) : (b.endFormatting name).Holds P := by
  unfold Builder.endFormatting
  exact holds_ite h.pop (h.endRounds name 8)

/-! ### Rules -/

@[grind ←]
theorem Holds.insertRaw (h : b.Holds P) (ht : tag.Holds P) (model : ContentModel) :
    (b.insertRaw tag model).Holds P := by
  have hinsert := h.insert ht
  exact ⟨hinsert.forest, hinsert.formatting⟩

@[grind ←]
theorem Holds.metadataStart (h : b.Holds P) (ht : tag.Holds P) :
    (b.metadataStart tag).Holds P := by
  unfold Builder.metadataStart
  grind

@[grind ←]
theorem Holds.templateEnd (h : b.Holds P) : b.templateEnd.Holds P := by
  unfold Builder.templateEnd
  grind

@[grind ←]
theorem Holds.closeItem (h : b.Holds P) (names : List String) : (b.closeItem names).Holds P := by
  unfold Builder.closeItem
  grind

@[grind ←]
theorem Holds.anchorStart (h : b.Holds P) (ht : tag.Holds P) : (b.anchorStart tag).Holds P := by
  unfold Builder.anchorStart
  grind

@[grind ←]
theorem Holds.enterForeign (h : b.Holds P) (space : Namespace) (ht : tag.Holds P) :
    (b.enterForeign space tag).Holds P := by
  unfold Builder.enterForeign
  grind

@[grind ←]
theorem Holds.bodyStart (h : b.Holds P) (ht : tag.Holds P) : (b.bodyStart tag).Holds P := by
  unfold Builder.bodyStart
  dsimp only
  repeat' refine holds_ite ?_ ?_
  all_goals grind

@[grind ←]
theorem Holds.formEnd (h : b.Holds P) : b.formEnd.Holds P := by
  unfold Builder.formEnd
  grind

@[grind ←]
theorem Holds.bodyEnd (h : b.Holds P) (name : String) : (b.bodyEnd name).Holds P := by
  unfold Builder.bodyEnd
  repeat' refine holds_ite ?_ ?_
  all_goals grind

variable {token : Token}

@[grind ←]
theorem Holds.inBody (h : b.Holds P) (ht : token.Holds P) : (b.inBody token).Holds P := by
  cases token with
  | opening tag => exact h.bodyStart ht
  | closing name => exact h.bodyEnd name
  | text s => exact h.resumeFormatting.insertText s
  | comment => exact h
  | nothing => exact h

@[grind ←]
theorem Holds.inText (h : b.Holds P) : (b.inText token).Holds P := by
  unfold Builder.inText
  grind

@[grind ←]
theorem Holds.inBodyFostering (h : b.Holds P) (ht : token.Holds P) :
    (b.inBodyFostering token).Holds P := by
  unfold Builder.inBodyFostering
  grind

/-! ### Steps -/

/-- All attributes that the builder behind a step holds have a property. -/
def StepHolds (P : String × String → Prop) (s : Step) : Prop := s.1.Holds P

theorem stepHolds_ite {c : Prop} [Decidable c] {s s' : Step} (h : StepHolds P s)
    (h' : StepHolds P s') : StepHolds P (if c then s else s') := by
  split
  · exact h
  · exact h'

@[grind ←]
theorem Holds.done (h : b.Holds P) : StepHolds P b.done := h

@[grind ←]
theorem Holds.again (h : b.Holds P) (mode : Mode) : StepHolds P (b.again mode) :=
  ⟨h.forest, h.formatting⟩

@[grind ←]
theorem Holds.againReset (h : b.Holds P) : StepHolds P b.againReset := h.resetMode

@[grind ←]
theorem Holds.tableStart (h : b.Holds P) (ht : tag.Holds P) : StepHolds P (b.tableStart tag) := by
  unfold Builder.tableStart
  dsimp only
  repeat' refine stepHolds_ite ?_ ?_
  all_goals grind [Token.Holds]

@[grind ←]
theorem Holds.inTable (h : b.Holds P) (ht : token.Holds P) : StepHolds P (b.inTable token) := by
  unfold Builder.inTable
  grind [Token.Holds]

@[grind ←]
theorem Holds.placeHeld (h : b.Holds P) : b.placeHeld.Holds P := by
  unfold Builder.placeHeld
  grind [Token.Holds]

@[grind ←]
theorem Holds.inTableText (h : b.Holds P) : StepHolds P (b.inTableText token) := by
  unfold Builder.inTableText
  split
  · exact ⟨h.forest, h.formatting⟩
  · exact h.placeHeld

@[grind ←]
theorem Holds.inCaption (h : b.Holds P) (ht : token.Holds P) : StepHolds P (b.inCaption token) := by
  unfold Builder.inCaption
  grind [Token.Holds]

@[grind ←]
theorem Holds.leaveColumns (h : b.Holds P) : StepHolds P b.leaveColumns := by
  unfold Builder.leaveColumns
  grind

@[grind ←]
theorem Holds.inColumnGroup (h : b.Holds P) (ht : token.Holds P) :
    StepHolds P (b.inColumnGroup token) := by
  unfold Builder.inColumnGroup
  grind [Token.Holds]

@[grind ←]
theorem Holds.inTableBody (h : b.Holds P) (ht : token.Holds P) :
    StepHolds P (b.inTableBody token) := by
  unfold Builder.inTableBody
  grind [Token.Holds]

@[grind ←]
theorem Holds.inRow (h : b.Holds P) (ht : token.Holds P) : StepHolds P (b.inRow token) := by
  unfold Builder.inRow
  grind [Token.Holds]

@[grind ←]
theorem Holds.inCell (h : b.Holds P) (ht : token.Holds P) : StepHolds P (b.inCell token) := by
  unfold Builder.inCell
  grind [Token.Holds]

@[grind ←]
theorem Holds.closeOption (h : b.Holds P) : b.closeOption.Holds P := by
  unfold Builder.closeOption
  grind

@[grind ←]
theorem Holds.closeGroup (h : b.Holds P) : b.closeGroup.Holds P := by
  unfold Builder.closeGroup
  grind

@[grind ←]
theorem Holds.inSelect (h : b.Holds P) (ht : token.Holds P) : StepHolds P (b.inSelect token) := by
  unfold Builder.inSelect
  grind [Token.Holds]

@[grind ←]
theorem Holds.inSelectInTable (h : b.Holds P) (ht : token.Holds P) :
    StepHolds P (b.inSelectInTable token) := by
  unfold Builder.inSelectInTable
  grind [Token.Holds]

@[grind ←]
theorem Holds.inTemplate (h : b.Holds P) (ht : token.Holds P) :
    StepHolds P (b.inTemplate token) := by
  unfold Builder.inTemplate
  grind [Token.Holds]

@[grind ←]
theorem Holds.step (h : b.Holds P) (ht : token.Holds P) : StepHolds P (b.step token) := by
  unfold Builder.step
  grind

@[grind ←]
theorem Holds.leaveForeign (h : b.Holds P) : b.leaveForeign.Holds P := ⟨h.forest, h.formatting⟩

@[grind ←]
theorem Holds.inForeign (h : b.Holds P) (ht : token.Holds P) : StepHolds P (b.inForeign token) := by
  unfold Builder.inForeign
  grind [Token.Holds]

/-! ### Tokens -/

theorem Holds.takeFrom (h : b.Holds P) (ht : token.Holds P) (fuel : Nat) :
    (Builder.takeFrom fuel b token).Holds P := by
  induction fuel generalizing b with
  | zero => exact h
  | succ fuel ih =>
    have hstep : StepHolds P (if b.isForeign token then b.inForeign token else b.step token) :=
      stepHolds_ite (h.inForeign ht) (h.step ht)
    rw [Builder.takeFrom]
    split
    · next heq =>
      rw [heq] at hstep
      exact hstep
    · next heq =>
      rw [heq] at hstep
      exact ih hstep

theorem Holds.takeToken (h : b.Holds P) (ht : token.Holds P) : (b.takeToken token).Holds P :=
  h.takeFrom ht _

theorem Holds.takeText (h : b.Holds P) (s : List Char) : (b.takeText s).Holds P := by
  have hrun (b : Builder) (h : b.Holds P) (run : List Char) : (b.takeRun run).Holds P :=
    holds_ite (h.insertText run) (h.takeToken trivial)
  have hruns (b : Builder) (h : b.Holds P) (runs : List (List Char)) :
      (runs.foldl Builder.takeRun b).Holds P := by
    induction runs generalizing b with
    | nil => exact h
    | cons run runs ih => exact ih _ (hrun b h run)
  unfold Builder.takeText
  exact holds_ite (h.takeToken trivial) (holds_ite h (holds_ite (hruns b h _) (h.takeToken trivial)))

/-- **A token brings its own attributes**, and no others. -/
theorem Holds.accept (h : b.Holds P) (ht : token.Holds P) : (b.accept token).Holds P := by
  have hself : Holds P { b with skipsLine := false } := ⟨h.forest, h.formatting⟩
  cases token with
  | nothing => exact hself
  | text s => exact hself.takeText _
  | opening tag => exact hself.takeToken ht
  | closing name => exact hself.takeToken ht
  | comment => exact hself.takeToken ht

theorem Holds.finish (h : b.Holds P) : b.finish.Holds P :=
  (holds_ite h.placeHeld h).forest

end Builder

end MediaScraper.Html
