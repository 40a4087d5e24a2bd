import MediaScraper.Proofs.Library.Alongside
import MediaScraper.Proofs.Repair.Declaration
import MediaScraper.Repair

/-!
# Repairing libraries that read

The repairs of a library are made before it is read, so they should not change a library that reads
as it stands. They do not, if they are made for what stands in it (`readLibrary_library`):

* a declaration stands at the beginning only, and a split tag nowhere, since their repairs find them
  in patterns and comments as well;
* every event is one that the repair of brackets takes for what it is (`Regular`).

The repaired text is read alongside the text, event by event (`alongside_escape`): each tag has the
same name and the same values, so the reader takes the same step. A pattern that holds a declaration
shows that the first condition is needed (`exists_readLibrary_library_ne`).
-/

namespace MediaScraper

open Xml
open Repair (Prolog)
open Repair.Brackets

namespace Scraper

theorem alike_of_mended {e e' : Event} (h : Mended e e') : Alike e e' := by
  have hreads {s t : List Char} (h : InTag s t) (hfits : TagFits (.ofSource s)) :
      ReadsAs (.ofSource s) (.ofSource t) := by
    refine readsAs_of_retells h.retells ?_ hfits
    rintro raw _ rfl v
    exact unescape_escapeBracket
  cases h with
  | same => exact .same e
  | opening h hfits => exact .opening (hreads h hfits)
  | selfClosed h hfits => exact .selfClosed (hreads h hfits)

/-- **The escaped text is read alongside the text.** -/
theorem alongside_escape {s : List Char} (h : InEvents s) (hregular : Regular s) :
    Alongside (fun e => e) s (escape s) := by
  induction h with
  | nil => exact .nil
  | @cons e w rest htext hrest _ ih =>
    have hevent := event_append htext hrest
    obtain ⟨hfits, hregular⟩ := (regular_append htext.ne_nil hevent).1 hregular
    obtain ⟨e', w', htext', hmended, hescape⟩ := exists_mended htext hfits
    have hevent' := event_append htext' (hmended.head?_escape hrest)
    rw [escape_append hescape]
    exact .cons htext.ne_nil hevent htext'.ne_nil hevent' (fun _ => rfl)
      (alike_of_mended hmended) (ih hregular)

/-- **Following the escaped text has the same effect**, if there is no fault. -/
theorem follow_escape {s : List Char} (hregular : Regular s) {opened : List (List Char)}
    {p q : Progress} (h : followFrom Progress.step opened p s = .ok q) :
    followFrom Progress.step opened p (escape s) = .ok q :=
  (alongside_escape (inEvents_of_followFrom h) hregular).follow h

/-- A declaration in front of a text does not matter to a reader that takes nothing from it. -/
theorem followFrom_prolog {σ : Type} {step : σ → Event → Except Failure σ}
    (hother : ∀ state, step state .other = .ok state) {prolog : List Char} (h : Prolog prolog)
    (state : σ) (rest : List Char) :
    followFrom step [] state (prolog ++ rest) = followFrom step [] state rest := by
  cases h with
  | none => rfl
  | @declaration body _ h =>
    have hevent := event_instruction (Repair.not_infix_declaration h) rest
    rw [followFrom_of_event _ (by simp [instruction]) hevent (fun _ _ => rfl), hother]
    rfl

theorem follow_prolog {prolog : List Char} (h : Prolog prolog) (p : Progress) (rest : List Char) :
    followFrom Progress.step [] p (prolog ++ rest) = followFrom Progress.step [] p rest :=
  followFrom_prolog (fun _ => rfl) h p rest

/-- **The repairs do not change a library that reads.** -/
theorem readLibrary_library {text : String} {prolog body : List Char}
    (htext : text.toList = prolog ++ body) (hprolog : Prolog prolog)
    (hdeclaration : Text.Quiet Repair.Declaration.declaration? body)
    (hsplit : Text.Quiet Repair.SplitScript.split? body) (hregular : Regular body)
    {library : Library} (h : readLibrary text = .ok library) :
    readLibrary (Repair.library text) = .ok library := by
  obtain ⟨prolog', hprolog', hfix⟩ := Repair.exists_fix_prolog hprolog hdeclaration
  have hrepaired : (Repair.library text).toList = prolog' ++ escape body := by
    rw [Repair.library, String.toList_ofList, htext, hfix,
      Repair.neutralize_prolog hprolog' hsplit, Repair.escape_prolog hprolog']
  rw [readLibrary_eq, htext, follow_prolog hprolog] at h
  rw [readLibrary_eq, hrepaired, follow_prolog hprolog']
  obtain ⟨p, hp, hlast⟩ := bind_eq_ok_iff.1 h
  rw [follow_escape hregular hp]
  exact hlast

/-- A declaration with an attribute that is not known. -/
def dressedProlog : String := "<?xml version=\"1.0\" generator=\"x\"?>"

/-- A library with brackets wherever they may stand. -/
def dressedBody : String :=
  "<!DOCTYPE s [<!ENTITY a \"b\">]><s><!-- <b c=\" --><F dest=\"3\">" ++
    "<RegExp output='<b c=\"&#60;\">' dest=\"2\">" ++
      "<expression><![CDATA[<a b=\"(.)\">]]></expression></RegExp></F></s>"

/-- Nothing in the body has to be repaired, up to its brackets. The characters of each literal are
named before anything is computed from them: to take them from its bytes is slow. -/
theorem quiet_dressedBody :
    Text.Quiet Repair.Declaration.declaration? dressedBody.toList ∧
      Text.Quiet Repair.SplitScript.split? dressedBody.toList ∧ Regular dressedBody.toList := by
  delta dressedBody
  rw [String.toList_append, String.toList_append, String.toList_ofList, String.toList_ofList,
    String.toList_ofList]
  decide +kernel

theorem isOk_readLibrary_dressed : (readLibrary (dressedProlog ++ dressedBody)).isOk = true := by
  delta dressedProlog dressedBody
  rw [readLibrary_eq, String.toList_append, String.toList_append, String.toList_append,
    String.toList_ofList, String.toList_ofList, String.toList_ofList, String.toList_ofList]
  decide

theorem library_dressed_ne :
    Repair.library (dressedProlog ++ dressedBody) ≠ dressedProlog ++ dressedBody := by
  intro heq
  have hsame := String.toList_inj.2 heq
  rw [Repair.library, String.toList_ofList] at hsame
  revert hsame
  delta dressedProlog dressedBody
  rw [String.toList_append, String.toList_append, String.toList_append, String.toList_ofList,
    String.toList_ofList, String.toList_ofList, String.toList_ofList]
  decide +kernel

theorem readLibrary_library_dressed : ∃ library,
    readLibrary (dressedProlog ++ dressedBody) = .ok library ∧
      Repair.library (dressedProlog ++ dressedBody) ≠ dressedProlog ++ dressedBody ∧
      readLibrary (Repair.library (dressedProlog ++ dressedBody)) = .ok library := by
  have hprolog : Prolog dressedProlog.toList := by
    have htext : dressedProlog.toList =
        instruction ("xml".toList ++ " version=\"1.0\" generator=\"x\"".toList) := by
      decide
    rw [htext]
    exact .declaration (by decide) (by decide)
  obtain ⟨hdeclaration, hsplit, hregular⟩ := quiet_dressedBody
  cases hread : readLibrary (dressedProlog ++ dressedBody) with
  | error failure =>
    have hok := isOk_readLibrary_dressed
    rw [hread] at hok
    cases hok
  | ok library =>
    refine ⟨library, rfl, library_dressed_ne, ?_⟩
    exact readLibrary_library String.toList_append hprolog hdeclaration hsplit hregular hread

/-! ## A library that a repair changes -/

/-- A library whose pattern is that of a declaration, in a CDATA section. -/
def quotingText : String :=
  "<s><F dest=\"3\"><RegExp output=\"\\1\" dest=\"3\"><expression>" ++
    "<![CDATA[<?xml generator=\"x\"?>(.*)]]></expression></RegExp></F></s>"

/-- The patterns of a library. -/
def Library.patterns (library : Library) : List (Option String) :=
  library.routines.flatMap fun r => r.rules.map fun x => x.expression.map (·.pattern)

/-- Declarations are mended wherever they stand, also in a pattern. -/
theorem exists_readLibrary_library_ne : ∃ library, readLibrary quotingText = .ok library ∧
    readLibrary (Repair.library quotingText) ≠ .ok library := by
  have hpatterns : (readLibrary quotingText).toOption.map Library.patterns =
      some [some "<?xml generator=\"x\"?>(.*)"] := by
    delta quotingText
    rw [readLibrary_eq, String.toList_append, String.toList_ofList, String.toList_ofList]
    decide
  have hrepaired : (readLibrary (Repair.library quotingText)).toOption.map Library.patterns =
      some [some "<?xml version=\"1.0\"?>(.*)"] := by
    delta quotingText
    rw [readLibrary_eq, Repair.library, String.toList_ofList, String.toList_append,
      String.toList_ofList, String.toList_ofList]
    decide +kernel
  cases hread : readLibrary quotingText with
  | error failure =>
    rw [hread] at hpatterns
    cases hpatterns
  | ok library =>
    refine ⟨library, rfl, fun hsame => ?_⟩
    rw [hread] at hpatterns
    rw [hsame, hpatterns] at hrepaired
    exact absurd hrepaired (by decide)

end Scraper
end MediaScraper
