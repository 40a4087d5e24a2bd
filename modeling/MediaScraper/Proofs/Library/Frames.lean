import MediaScraper.Proofs.Library.Elements

/-!
# The frames of open elements

Reading a library keeps a frame for each open element, on a stack. The frames follow a discipline
(`Disciplined`): each one stands above one that takes in what it holds, or is ignored. So closing an
element loses nothing: the frames and the closed routines hold what has been read (`Reads`).

* One event keeps the discipline (`Disciplined.step`) and leads to what has been read then
  (`Reads.step`).
* By induction both hold at every point of every text, and an end tag finds a frame to close
  (`of_events`).
-/

namespace MediaScraper.Scraper

open Xml

/-! ## Discipline -/

/-- A frame may stand directly above another one. -/
inductive Frame.Above : Frame → Frame → Prop
  | routine (r : Routine) : Above (.routine r) .root
  | ruleInRoutine (x : Rule) (r : Routine) : Above (.rule x) (.routine r)
  | ruleInRule (x parent : Rule) : Above (.rule x) (.rule parent)
  | expression (e : Expression) (parent : Rule) : Above (.expression e) (.rule parent)
  | ignoredInRoutine (r : Routine) : Above .ignored (.routine r)
  | ignoredInRule (parent : Rule) : Above .ignored (.rule parent)
  | ignoredInExpression (e : Expression) : Above .ignored (.expression e)
  | ignoredInIgnored : Above .ignored .ignored

/-- A stack of frames, innermost first: nothing, or frames that may stand above one another, with
the root at the bottom. -/
inductive Disciplined : List Frame → Prop
  | nil : Disciplined []
  | root : Disciplined [.root]
  | cons {inner outer : Frame} {stack : List Frame} : inner.Above outer →
      Disciplined (outer :: stack) → Disciplined (inner :: outer :: stack)

theorem above_of_openInside {F G : Frame} {tag : Tag} (h : openInside F tag = .ok G) :
    G.Above F := by
  cases F with
  | root =>
    obtain ⟨values, -, hG⟩ := bind_eq_ok_iff.1 h
    cases hG
    exact .routine _
  | routine r =>
    rw [openInside] at h
    split at h
    · obtain ⟨values, -, hG⟩ := bind_eq_ok_iff.1 h
      cases hG
      exact .ruleInRoutine _ r
    · cases h
      exact .ignoredInRoutine r
  | rule x =>
    rw [openInside] at h
    split at h
    · obtain ⟨values, -, hG⟩ := bind_eq_ok_iff.1 h
      cases hG
      exact .ruleInRule _ x
    · split at h
      · obtain ⟨values, -, hG⟩ := bind_eq_ok_iff.1 h
        cases hG
        exact .expression _ x
      · cases h
        exact .ignoredInRule x
  | expression e =>
    cases h
    exact .ignoredInExpression e
  | ignored =>
    cases h
    exact .ignoredInIgnored

namespace Disciplined

theorem attach {outer : Frame} {stack : List Frame} (h : Disciplined (outer :: stack))
    (inner : Frame) : Disciplined (inner.attach outer :: stack) := by
  cases h with
  | root => cases inner <;> exact .root
  | cons habove hstack =>
    refine .cons ?_ hstack
    cases habove <;> cases inner <;> constructor

theorem tail {F : Frame} {stack : List Frame} (h : Disciplined (F :: stack)) :
    Disciplined stack := by
  cases h with
  | root => exact .nil
  | cons _ hstack => exact hstack

theorem opens {p q : Progress} (h : Disciplined p.stack) {tag : Tag} (hopen : p.open tag = .ok q) :
    Disciplined q.stack := by
  unfold Progress.open at hopen
  split at hopen
  · split at hopen
    · cases hopen
    · cases hopen
      exact .root
  · next parent stack hstack =>
    obtain ⟨F, hF, hq⟩ := bind_eq_ok_iff.1 hopen
    cases hq
    rw [hstack] at h ⊢
    exact .cons (above_of_openInside hF) h

theorem closes {p : Progress} (h : Disciplined p.stack) : Disciplined p.close.stack := by
  unfold Progress.close
  split
  · exact h
  · next inner stack hstack =>
    rw [hstack] at h
    cases stack with
    | nil => exact .nil
    | cons outer stack => exact h.tail.attach inner

theorem addText {p : Progress} (h : Disciplined p.stack) (text : String) :
    Disciplined (p.addText text).stack := by
  unfold Progress.addText
  split
  · next e stack hstack =>
    rw [hstack] at h
    cases h with
    | cons habove h =>
      cases habove with
      | expression _ parent => exact .cons (.expression _ parent) h
  · exact h

/-- **Each event keeps the discipline.** -/
theorem step {p q : Progress} {e : Event} (h : Disciplined p.stack) (hstep : p.step e = .ok q) :
    Disciplined q.stack := by
  cases e with
  | opening tag => exact h.opens hstep
  | selfClosed tag =>
    obtain ⟨inside, hopen, hq⟩ := bind_eq_ok_iff.1 hstep
    cases hq
    exact (h.opens hopen).closes
  | closing name =>
    rw [Progress.step] at hstep
    split at hstep
    · cases hstep
    · cases hstep
      exact h.closes
  | text raw =>
    rw [Progress.step] at hstep
    split at hstep
    · split at hstep
      · cases hstep
        exact h.addText _
      · cases hstep
    · cases hstep
      exact h
  | cdata content =>
    cases hstep
    exact h.addText _
  | other =>
    cases hstep
    exact h

end Disciplined

/-! ## What has been read -/

/-- The frames of open elements. -/
def frames : List Open → List Frame
  | [] => []
  | o :: path =>
    match frames path with
    | [] => [.root]
    | F :: stack => (frameIn F o.tag).holding o.content :: F :: stack

/-- The routines in the outermost open element. -/
def openRoutines : List Open → List Routine
  | [] => []
  | [o] => routinesOf o.content
  | _ :: path => openRoutines path

/-- The routines that are closed at a point. -/
def closedRoutines (point : Point) : List Routine :=
  libraryOf point.before ++ openRoutines point.path

/-- The frames and the closed routines are those of what has been read. -/
structure Reads (point : Point) (p : Progress) : Prop where
  stack : p.stack = frames point.path
  routines : p.routines.reverse = closedRoutines point

namespace Frame

variable (F : Frame)

/-- The routine that a frame holds, if it is that of one. -/
def closed : Frame → List Routine
  | .routine r => [r]
  | _ => []

theorem closed_in_root (tag : Tag) (content : Content) :
    ((frameIn .root tag).holding content).closed =
      (readRoutine? tag (rulesOf content)).toList := by
  rw [frameIn, openInside, readRoutine?]
  cases attributeValues tag with
  | error e => rfl
  | ok values =>
    show closed ((Frame.routine (openRoutine tag.name values)).holding content) = _
    simp [holding, fill, closed, openRoutine, Except.toOption]

/-- A frame in another one than the root is that of no routine, and none is the root. -/
theorem frameIn_cases (tag : Tag) :
    frameIn F tag ≠ .root ∧ (F ≠ .root → ∀ r, frameIn F tag ≠ .routine r) := by
  rw [frameIn]
  cases hopen : openInside F tag with
  | error e => simp [Except.toOption]
  | ok G =>
    have habove := above_of_openInside hopen
    show G ≠ .root ∧ (F ≠ .root → ∀ r, G ≠ .routine r)
    cases habove <;> simp

theorem holding_ne_root {F : Frame} (hF : F ≠ .root) (c : Content) : F.holding c ≠ .root := by
  cases F with
  | root => exact absurd rfl hF
  | _ => exact nofun

theorem closed_holding_of_ne {F : Frame} (hF : ∀ r, F ≠ .routine r) (c : Content) :
    (F.holding c).closed = [] := by
  cases F with
  | routine r => exact absurd rfl (hF r)
  | _ => rfl

end Frame

/-! ## Steps -/

/-- Read something in the innermost element. -/
def holdingTop (c : Content) : List Frame → List Frame
  | [] => []
  | F :: stack => F.holding c :: stack

theorem frames_eq_nil_iff {path : List Open} : frames path = [] ↔ path = [] := by
  cases path with
  | nil => exact iff_of_true rfl rfl
  | cons o path =>
    refine iff_of_false (fun h => ?_) (List.cons_ne_nil o path)
    rw [frames] at h
    split at h <;> cases h

theorem frames_cons {path : List Open} {F : Frame} {stack : List Frame}
    (h : frames path = F :: stack) (o : Open) :
    frames (o :: path) = (frameIn F o.tag).holding o.content :: F :: stack := by
  rw [frames, h]

theorem frames_put (point : Point) (c : Content) :
    frames (point.put c).path = holdingTop c (frames point.path) := by
  obtain ⟨before, path⟩ := point
  cases path with
  | nil => rfl
  | cons o path =>
    show frames (⟨o.tag, o.content.append c⟩ :: path) = _
    rw [frames, frames]
    split
    · rfl
    · rw [Frame.holding_append]
      rfl

/-- The routines in something that is read in the innermost of these elements. -/
def routinesIn : List Open → Content → List Routine
  | [], c => libraryOf c
  | [_], c => routinesOf c
  | _ :: _ :: _, _ => []

theorem closedRoutines_put (point : Point) (c : Content) :
    closedRoutines (point.put c) = closedRoutines point ++ routinesIn point.path c := by
  obtain ⟨before, path⟩ := point
  match path with
  | [] => simp [closedRoutines, Point.put, openRoutines, libraryOf_append, routinesIn]
  | [o] => simp [closedRoutines, Point.put, openRoutines, routinesOf_append, routinesIn]
  | o :: o' :: path => simp [closedRoutines, Point.put, openRoutines, routinesIn]

theorem addText_eq {p : Progress} {text : String} {c : Content} (hpattern : patternOf c = text)
    (hrules : rulesOf c = []) (hexpression : expressionOf? c = none) :
    p.addText text = { p with stack := holdingTop c p.stack } := by
  obtain ⟨root, stack, routines⟩ := p
  cases stack with
  | nil => rfl
  | cons F stack =>
    cases F with
    | root | ignored => rfl
    | expression e => rw [Progress.addText, holdingTop, Frame.holding, hpattern]
    | routine r =>
      rw [holdingTop, Frame.holding_of_plain (.routine r) (by simp) hrules hexpression]
      rfl
    | rule r =>
      rw [holdingTop, Frame.holding_of_plain (.rule r) (by simp) hrules hexpression]
      rfl

theorem addText_of_not_inExpression {p : Progress} (h : p.inExpression = false) (text : String) :
    p.addText text = p := by
  unfold Progress.addText
  split
  · next e stack hstack =>
    rw [Progress.inExpression, hstack] at h
    cases h
  · rfl

theorem reverse_routines_close (root : Option String) (inner : Frame) (stack : List Frame)
    (routines : List Routine) :
    (Progress.close ⟨root, inner :: stack, routines⟩).routines.reverse =
      routines.reverse ++ inner.closed := by
  cases inner <;> simp [Progress.close, Frame.closed]

/-- The frame that an element holds is that of a routine only in the root element, where the routine
is read. -/
theorem closed_eq {path : List Open} {F : Frame} {stack : List Frame}
    (h : frames path = F :: stack) (o : Open) :
    ((frameIn F o.tag).holding o.content).closed =
      routinesIn path (.element o.tag o.content [] .nil) := by
  match path with
  | [] => cases h
  | [o'] =>
    cases h
    rw [Frame.closed_in_root]
    exact (List.append_nil _).symm
  | o' :: o'' :: path =>
    cases hframes : frames (o'' :: path) with
    | nil => cases frames_eq_nil_iff.1 hframes
    | cons F' stack' =>
      rw [frames_cons hframes] at h
      obtain ⟨rfl, -⟩ := List.cons.inj h
      have hroot := Frame.holding_ne_root (Frame.frameIn_cases F' o'.tag).1 o'.content
      exact Frame.closed_holding_of_ne ((Frame.frameIn_cases _ o.tag).2 hroot) o.content

namespace Reads

variable {point : Point} {p q : Progress}

theorem start : Reads .start .start := ⟨rfl, rfl⟩

/-- What holds no element is read in the innermost one. -/
theorem put (h : Reads point p) {c : Content} (hroutines : routinesOf c = [])
    (hlibrary : libraryOf c = []) :
    Reads (point.put c) { p with stack := holdingTop c p.stack } := by
  refine ⟨?_, ?_⟩
  · rw [frames_put, h.stack]
  · have hnone : routinesIn point.path c = [] := by
      unfold routinesIn
      split
      · exact hlibrary
      · exact hroutines
      · rfl
    rw [closedRoutines_put, ← h.routines, hnone, List.append_nil]

theorem opens (h : Reads point p) {tag : Tag} (hopen : p.open tag = .ok q) :
    Reads { point with path := ⟨tag, .nil⟩ :: point.path } q := by
  obtain ⟨before, path⟩ := point
  unfold Progress.open at hopen
  split at hopen
  · next hstack =>
    split at hopen
    · cases hopen
    · cases hopen
      obtain rfl : path = [] := frames_eq_nil_iff.1 (h.stack.symm.trans hstack)
      exact ⟨rfl, h.routines⟩
  · next F stack hstack =>
    obtain ⟨G, hG, hq⟩ := bind_eq_ok_iff.1 hopen
    cases hq
    have hframes : frames path = F :: stack := h.stack.symm.trans hstack
    refine ⟨?_, ?_⟩
    · have hframe : frameIn F tag = G := by
        rw [frameIn, hG]
        rfl
      rw [frames_cons hframes, hframe, Frame.holding_nil, hstack]
    · rw [h.routines]
      cases path with
      | nil => cases hframes
      | cons o path => rfl

/-- **Closing an element attaches it** to the one around it. -/
theorem closes (h : Reads point p) (hne : p.stack ≠ []) : Reads point.close p.close := by
  obtain ⟨before, path⟩ := point
  obtain ⟨root, stack, routines⟩ := p
  obtain ⟨hstack, hroutines⟩ := h
  obtain rfl : stack = frames path := hstack
  cases path with
  | nil => exact absurd rfl hne
  | cons o path =>
    show Reads (Point.put ⟨before, path⟩ (.element o.tag o.content [] .nil)) _
    cases hframes : frames path with
    | nil =>
      -- the root element
      obtain rfl : path = [] := frames_eq_nil_iff.1 hframes
      refine ⟨rfl, ?_⟩
      rw [closedRoutines_put]
      show routines.reverse = _
      rw [show routines.reverse = _ from hroutines]
      simp [closedRoutines, openRoutines, libraryOf, routinesIn]
    | cons F stack =>
      have hinner := frames_cons hframes o
      rw [hinner]
      refine ⟨?_, ?_⟩
      · rw [frames_put, hframes, holdingTop, Frame.holding_element]
        rfl
      · rw [reverse_routines_close, closedRoutines_put, closed_eq hframes]
        show routines.reverse ++ _ = _
        rw [show routines.reverse = _ from hroutines]
        cases path with
        | nil => cases hframes
        | cons o' path => rfl

theorem put_empty {tag : Tag} (h : Reads (point.put (.element tag .nil [] .nil)) p) :
    Reads (point.put (.empty tag .nil)) p := by
  obtain ⟨hstack, hroutines⟩ := h
  have hframes (stack : List Frame) : holdingTop (.empty tag .nil) stack =
      holdingTop (.element tag .nil [] .nil) stack := by
    cases stack with
    | nil => rfl
    | cons F stack => cases F <;> rfl
  have hclosed (path : List Open) : routinesIn path (.empty tag .nil) =
      routinesIn path (.element tag .nil [] .nil) := by
    match path with
    | [] | [_] | _ :: _ :: _ => rfl
  rw [frames_put, ← hframes, ← frames_put] at hstack
  rw [closedRoutines_put, ← hclosed, ← closedRoutines_put] at hroutines
  exact ⟨hstack, hroutines⟩

/-- **Each event leads to what has been read then.** -/
theorem step (h : Reads point p) {e : Event} (hstep : p.step e = .ok q) :
    Reads (point.follow e) q := by
  cases e with
  | opening tag => exact h.opens hstep
  | selfClosed tag =>
    obtain ⟨inside, hopen, hq⟩ := bind_eq_ok_iff.1 hstep
    cases hq
    obtain ⟨F, hstack⟩ := exists_stack_of_open hopen
    have hclosed := (h.opens hopen).closes (by rw [hstack]; exact List.cons_ne_nil _ _)
    exact put_empty hclosed
  | closing name =>
    rw [Progress.step] at hstep
    split at hstep
    · cases hstep
    · next hne =>
      cases hstep
      exact h.closes fun hnil => hne (by rw [hnil]; rfl)
  | text raw =>
    have htext : q = p.addText (.ofList (textOf raw)) := by
      rw [Progress.step] at hstep
      split at hstep
      · split at hstep
        · next text hread =>
          cases hstep
          rw [textOf, hread]
          rfl
        · cases hstep
      · next hplain =>
        cases hstep
        exact (addText_of_not_inExpression (by simpa using hplain) _).symm
    have hpattern : patternOf (.text raw .nil) = .ofList (textOf raw) := String.append_empty
    rw [htext, addText_eq hpattern rfl rfl]
    exact h.put rfl rfl
  | cdata content =>
    cases hstep
    have hpattern : patternOf (.cdata content .nil) = .ofList content := String.append_empty
    rw [addText_eq hpattern rfl rfl]
    exact h.put rfl rfl
  | other =>
    cases hstep
    have hsame : holdingTop (.aside [] .nil) p.stack = p.stack := by
      cases p.stack with
      | nil => rfl
      | cons F stack =>
        have hplain : F.holding (.aside [] .nil) = F.holding .nil := by cases F <;> rfl
        rw [holdingTop, hplain, Frame.holding_nil]
    have hput : Reads (point.put (.aside [] .nil)) _ := h.put rfl rfl
    rwa [hsame] at hput

/-- **At every point, what has been read is what the events tell.** -/
theorem foldl {es : List Event} (h : Reads point p) (hfold : es.foldlM Progress.step p = .ok q) :
    Reads (es.foldl Point.follow point) q := by
  induction es generalizing point p with
  | nil =>
    cases hfold
    exact h
  | cons e es ih =>
    rw [List.foldlM_cons] at hfold
    obtain ⟨next, hnext, hfold⟩ := bind_eq_ok_iff.1 hfold
    exact ih (h.step hnext) hfold

end Reads

/-! ## Reading -/

theorem attributeValues_ne_unbalancedEnd (tag : Tag) :
    attributeValues tag ≠ .error (.unreadable .unbalancedEnd) := by
  intro h
  rcases bind_eq_error_iff.1 h with h | ⟨values, -, h⟩
  · obtain ⟨a, -, ha⟩ := exists_of_mapM_eq_error h
    split at ha <;> cases ha
  · split at h <;> cases h

theorem openInside_ne_unbalancedEnd (F : Frame) (tag : Tag) :
    openInside F tag ≠ .error (.unreadable .unbalancedEnd) := by
  have hbind {f : List (List Char × String) → Frame} :
      (do return f (← attributeValues tag)) ≠ .error (.unreadable .unbalancedEnd) := by
    intro h
    rcases bind_eq_error_iff.1 h with h | ⟨values, -, h⟩
    · exact attributeValues_ne_unbalancedEnd tag h
    · cases h
  intro h
  cases F with
  | root => exact hbind h
  | expression e | ignored => cases h
  | routine r =>
    rw [openInside] at h
    split at h
    · exact hbind h
    · cases h
  | rule r =>
    rw [openInside] at h
    split at h
    · exact hbind h
    · split at h
      · exact hbind h
      · cases h

theorem open_ne_unbalancedEnd (p : Progress) (tag : Tag) :
    p.open tag ≠ .error (.unreadable .unbalancedEnd) := by
  intro h
  unfold Progress.open at h
  split at h
  · split at h <;> cases h
  · rcases bind_eq_error_iff.1 h with h | ⟨F, -, h⟩
    · exact openInside_ne_unbalancedEnd _ tag h
    · cases h

/-- Only an end tag where no element is open is unbalanced. -/
theorem of_step_eq_unbalancedEnd {p : Progress} {e : Event}
    (h : p.step e = .error (.unreadable .unbalancedEnd)) :
    (∃ name, e = .closing name) ∧ p.stack = [] := by
  cases e with
  | opening tag => exact absurd h (open_ne_unbalancedEnd p tag)
  | selfClosed tag =>
    rcases bind_eq_error_iff.1 h with h | ⟨inside, -, h⟩
    · exact absurd h (open_ne_unbalancedEnd p tag)
    · cases h
  | closing name =>
    rw [Progress.step] at h
    split at h
    · next hnil => exact ⟨⟨name, rfl⟩, List.isEmpty_iff.1 hnil⟩
    · cases h
  | text raw =>
    rw [Progress.step] at h
    split at h
    · split at h <;> cases h
    · cases h
  | cdata content | other => cases h

/-- **The frames at a point of a text** are disciplined, they hold what has been read up to there,
and an end tag finds one to close. -/
theorem of_events {s : String} {es rest : List Event} (hevents : (Xml.read s).events = es ++ rest)
    {p : Progress} (h : es.foldlM Progress.step .start = .ok p) :
    Disciplined p.stack ∧ (es.foldl Point.follow .start).events = es ∧
      Reads (es.foldl Point.follow .start) p ∧
      ∀ name behind, rest = .closing name :: behind → p.stack ≠ [] := by
  obtain ⟨opened, last, hopened, hrest⟩ := exists_nested hevents
  obtain ⟨hsame, hnames⟩ := Point.events_foldl (p := .start) hopened
  have hreads := Reads.start.foldl h
  have hkeeps : Disciplined p.stack :=
    foldlM_keeps (P := fun p => Disciplined p.stack) (fun _ _ _ hp => hp.step) .nil h
  refine ⟨hkeeps, hsame, hreads, ?_⟩
  rintro name behind rfl hnil
  have hpath : (es.foldl Point.follow .start).path = [] :=
    frames_eq_nil_iff.1 (hreads.stack.symm.trans hnil)
  rw [← hnames, Point.names, hpath] at hrest
  cases hrest

/-- **Frames are disciplined.** At every point of a text the frames follow the discipline and hold
what has been read, and an end tag finds one to close; so no end tag is unbalanced. If the text is
read, its routines are those that stand in its root element. -/
theorem readLibrary_frames (s : String) :
    (∀ es rest p, (Xml.read s).events = es ++ rest → es.foldlM Progress.step .start = .ok p →
      Disciplined p.stack ∧ (es.foldl Point.follow .start).events = es ∧
        Reads (es.foldl Point.follow .start) p ∧
        ∀ name behind, rest = .closing name :: behind → p.stack ≠ []) ∧
    readLibrary s ≠ .error (.unreadable .unbalancedEnd) ∧
    ∀ library, readLibrary s = .ok library →
      ∃ c : Content, (Xml.read s).events = c.events ∧ library.routines = libraryOf c := by
  refine ⟨fun es rest p hevents h => of_events hevents h, fun h => ?_, fun library h => ?_⟩
  · rcases bind_eq_error_iff.1 h with h | ⟨p, -, h⟩
    · obtain ⟨before, e, behind, p, hevents, hp, he⟩ := exists_of_foldlM_eq_error h
      obtain ⟨⟨name, rfl⟩, hnil⟩ := of_step_eq_unbalancedEnd he
      obtain ⟨-, -, -, hopen⟩ := of_events hevents hp
      exact hopen name behind rfl hnil
    · split at h
      · cases h
      · split at h
        · split at h <;> cases h
        · cases h
  · obtain ⟨p, hp, h⟩ := bind_eq_ok_iff.1 h
    obtain ⟨-, hevents, hreads, -⟩ := of_events (List.append_nil _).symm hp
    split at h
    · cases h
    · split at h
      · next hnil =>
        split at h
        · cases h
          have hpath := frames_eq_nil_iff.1 (hreads.stack.symm.trans (List.isEmpty_iff.1 hnil))
          refine ⟨((Xml.read s).events.foldl Point.follow .start).before, ?_, ?_⟩
          · rw [Point.events, hpath] at hevents
            simpa using hevents.symm
          · have hroutines := hreads.routines
            rw [closedRoutines, hpath, openRoutines, List.append_nil] at hroutines
            exact hroutines
        · cases h
      · cases h

/-- A library that breaks off in the second expression of a rule, at an end tag that does not fit. -/
def brokenText : String :=
  "<s><F dest=\"3\"><RegExp dest=\"3\"><expression>a</expression><x><RegExp/></x>" ++
    "<expression>b</s>"

theorem readLibrary_frames_brokenText :
    (∃ p, (Xml.read brokenText).events.foldlM Progress.step .start = .ok p ∧ p.stack.length = 4 ∧
      Disciplined p.stack ∧ Reads ((Xml.read brokenText).events.foldl Point.follow .start) p) ∧
    ∃ library, readLibrary "<s><F dest=\"3\"/></s>" = .ok library ∧ library.routines.length = 1 ∧
      ∃ c : Content, (Xml.read "<s><F dest=\"3\"/></s>").events = c.events ∧
        library.routines = libraryOf c := by
  constructor
  · have hlength : ((Xml.read brokenText).events.foldlM Progress.step .start).toOption.map
        (fun p => p.stack.length) = some 4 := by
      decide
    cases hfold : (Xml.read brokenText).events.foldlM Progress.step .start with
    | error e =>
      rw [hfold] at hlength
      cases hlength
    | ok p =>
      rw [hfold] at hlength
      obtain ⟨hdisciplined, -, hreads, -⟩ :=
        (readLibrary_frames brokenText).1 _ [] p (List.append_nil _).symm hfold
      exact ⟨p, rfl, Option.some.inj hlength, hdisciplined, hreads⟩
  · have hlength : (readLibrary "<s><F dest=\"3\"/></s>").toOption.map
        (fun library => library.routines.length) = some 1 := by
      decide
    cases hread : readLibrary "<s><F dest=\"3\"/></s>" with
    | error e =>
      rw [hread] at hlength
      cases hlength
    | ok library =>
      rw [hread] at hlength
      exact ⟨library, rfl, Option.some.inj hlength, (readLibrary_frames _).2.2 library hread⟩

end MediaScraper.Scraper
