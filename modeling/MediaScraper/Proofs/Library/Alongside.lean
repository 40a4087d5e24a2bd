import MediaScraper.Proofs.Library.Reading
import MediaScraper.Proofs.Repair.Event

/-!
# Libraries that are read alongside

Two texts are read alongside if they are sequences of events that correspond (`Alongside`): in the
place of each event of the first one, or of what a function makes of it, the second one has an event
of the same effect (`Alike`). Tags are alike if they have the same name and the same values
(`ReadsAs`), which they have if they differ in their values only and these stand for the same texts
(`readsAs_of_retells`).

So what the first text reads as, the second one reads as, too (`Alongside.follow`).
-/

namespace MediaScraper

open Xml
open Repair.Brackets

namespace Scraper

/-! ## Tags -/

theorem value_of_unescape {a b : Attribute}
    (h : ∀ v, unescape a.raw = .ok v → unescape b.raw = .ok v) {text : String}
    (ha : a.value = .ok text) : b.value = .ok text := by
  cases hraw : unescape a.raw with
  | error e => simp [Attribute.value, hraw, Except.map] at ha
  | ok v =>
    rw [Attribute.value, h v hraw]
    rwa [Attribute.value, hraw] at ha

/-- **The values of a tag are the same** if they are written in another way. -/
theorem attributeValues_of_retells {R : List Char → List Char → Prop} {s t : List Char}
    (h : Retells R s t)
    (hR : ∀ raw raw', R raw raw' → ∀ v, unescape raw = .ok v → unescape raw' = .ok v)
    (hfits : TagFits (.ofSource s)) {values : List (List Char × String)}
    (hvalues : attributeValues (.ofSource s) = .ok values) :
    attributeValues (.ofSource t) = .ok values := by
  obtain ⟨hname, hnames⟩ := hfits
  obtain ⟨as, has, hread⟩ := attributeValues_eq_ok_iff.1 hvalues
  rw [has] at hnames
  obtain ⟨bs, hbs, hall⟩ := h.attributes hname has hnames
  refine attributeValues_eq_ok_iff.2 ⟨bs, hbs, ?_⟩
  clear has hbs hnames hvalues
  induction hall generalizing values with
  | nil =>
    cases hread
    exact .nil
  | @cons a b as bs hab _ ih =>
    obtain ⟨v, values, hav, hrest, rfl⟩ := List.forall₂_cons_left_iff.1 hread
    exact .cons ⟨hab.1.trans hav.1, value_of_unescape (hR _ _ hab.2) hav.2⟩ (ih hrest)

/-- Reading `tag'` gives what reading `tag` gives, if that is not a fault. -/
structure ReadsAs (tag tag' : Tag) : Prop where
  name : tag'.name = tag.name
  values : ∀ values, attributeValues tag = .ok values → attributeValues tag' = .ok values

/-- **Tags whose values are written in another way** read alike. -/
theorem readsAs_of_retells {R : List Char → List Char → Prop} {s t : List Char}
    (h : Retells R s t)
    (hR : ∀ raw raw', R raw raw' → ∀ v, unescape raw = .ok v → unescape raw' = .ok v)
    (hfits : TagFits (.ofSource s)) : ReadsAs (.ofSource s) (.ofSource t) :=
  ⟨h.tagName_eq hfits.1, fun _ => attributeValues_of_retells h hR hfits⟩

namespace ReadsAs

variable {tag tag' : Tag}

theorem bind (h : ReadsAs tag tag') {α : Type} {f : List (List Char × String) → Except Failure α}
    {a : α} (ha : attributeValues tag >>= f = .ok a) : attributeValues tag' >>= f = .ok a := by
  obtain ⟨values, hvalues, ha⟩ := bind_eq_ok_iff.1 ha
  rw [h.values values hvalues]
  exact ha

theorem openInside (h : ReadsAs tag tag') {parent frame : Frame}
    (hopen : Scraper.openInside parent tag = .ok frame) :
    Scraper.openInside parent tag' = .ok frame := by
  cases parent with
  | root =>
    rw [Scraper.openInside] at hopen ⊢
    rw [h.name]
    exact h.bind hopen
  | routine r =>
    rw [Scraper.openInside] at hopen ⊢
    rw [h.name]
    split_ifs at hopen ⊢
    · exact h.bind hopen
    · exact hopen
  | rule r =>
    rw [Scraper.openInside] at hopen ⊢
    rw [h.name]
    split_ifs at hopen ⊢
    · exact h.bind hopen
    · exact h.bind hopen
    · exact hopen
  | expression e => exact hopen
  | ignored => exact hopen

theorem progress_open (h : ReadsAs tag tag') {p q : Progress} (hopen : p.open tag = .ok q) :
    p.open tag' = .ok q := by
  obtain ⟨root, stack, routines⟩ := p
  cases stack with
  | nil =>
    cases root with
    | none =>
      rw [Progress.open] at hopen ⊢
      rwa [h.name]
    | some root => cases hopen
  | cons parent stack =>
    obtain ⟨frame, hframe, hopen⟩ := bind_eq_ok_iff.1 hopen
    show Scraper.openInside parent tag' >>= _ = _
    rw [h.openInside hframe]
    exact hopen

end ReadsAs

/-! ## Events -/

/-- The second event has the effect of the first one, if that is not a fault. -/
inductive Alike : Event → Event → Prop
  | same (e : Event) : Alike e e
  | opening {tag tag' : Tag} : ReadsAs tag tag' → Alike (.opening tag) (.opening tag')
  | selfClosed {tag tag' : Tag} : ReadsAs tag tag' → Alike (.selfClosed tag) (.selfClosed tag')
  | text {raw raw' : List Char} : (∀ v, unescape raw = .ok v → unescape raw' = .ok v) →
      Alike (.text raw) (.text raw')

/-- **Events alike have the same effect**, if there is no fault. -/
theorem step_of_alike {e e' : Event} (h : Alike e e') {p q : Progress}
    (hstep : p.step e = .ok q) : p.step e' = .ok q := by
  cases h with
  | same => exact hstep
  | opening h => exact h.progress_open hstep
  | selfClosed h =>
    obtain ⟨inside, hopen, hclose⟩ := bind_eq_ok_iff.1 hstep
    rw [Progress.step, h.progress_open hopen]
    exact hclose
  | @text raw raw' h =>
    rw [Progress.step] at hstep ⊢
    split_ifs at hstep ⊢
    · cases hraw : unescape raw with
      | error e =>
        rw [hraw] at hstep
        cases hstep
      | ok v =>
        rw [hraw] at hstep
        rwa [h v hraw]
    · exact hstep

theorem openBehind?_of_alike {e e' : Event} (h : Alike e e') (opened : List (List Char)) :
    openBehind? opened e' = openBehind? opened e := by
  cases h with
  | opening h => rw [openBehind?, openBehind?, h.name]
  | _ => rfl

/-! ## Texts -/

/-- Events that correspond, one after the other; `f` is what is made of those of the first text. -/
inductive Alongside (f : Event → Event) : List Char → List Char → Prop
  | nil : Alongside f [] []
  | cons {e e' : Event} {w w' rest rest' : List Char} :
      w ≠ [] → event (w ++ rest) = .ok (e, w.length) →
      w' ≠ [] → event (w' ++ rest') = .ok (e', w'.length) →
      (∀ opened, openBehind? opened (f e) = openBehind? opened e) → Alike (f e) e' →
      Alongside f rest rest' → Alongside f (w ++ rest) (w' ++ rest')

/-- **What the first text reads as, the second one reads as**, if that is not a fault. -/
theorem Alongside.follow {f : Event → Event} {s t : List Char} (h : Alongside f s t)
    {opened : List (List Char)} {p q : Progress}
    (hfollow : followFrom (fun p e => p.step (f e)) opened p s = .ok q) :
    followFrom Progress.step opened p t = .ok q := by
  induction h generalizing opened p with
  | nil => exact hfollow
  | cons hw hevent hw' hevent' hsame halike _ ih =>
    obtain ⟨opened', next, hopen, hstep, hfollow⟩ := exists_of_followFrom _ hw hevent hfollow
    have hopen' := (openBehind?_of_alike halike opened).trans ((hsame opened).trans hopen)
    rw [followFrom_of_event _ hw' hevent' (nestFrom_of_openBehind? hopen'),
      step_of_alike halike hstep]
    exact ih hfollow

end Scraper
end MediaScraper
