import MediaScraper.Proofs.Library.Charsets
import MediaScraper.Proofs.Library.Repairing
import MediaScraper.Proofs.Repair.NamedTag

/-!
# Libraries that use the names of HTML

The values and the patterns of a library may use names that XML does not know. Such a library means
what its events mean when the names in them are spelled by number (`readSpelled`); tags and texts
end where they end in the library itself, and the five names of XML stay.

**Writing out.** The reader repairs the library and, if it does not read then, writes the names out.
The result is read alongside what the library means, and alongside the repaired library
(`alongside_decode`). So a library that means something is read as that, with or without the
names being written out (`readText_spelled`).

**What is needed.** Names are written out wherever they stand, so every event must be one that this
does not change otherwise (`Clear`). A double quote that a name stands for, written out in a
value between double quotes, shows that this is needed (`exists_readText_spelled_ne`).
-/

namespace MediaScraper

open Xml
open Repair (Prolog)
open Repair.Brackets
open Repair.NamedEntities

namespace Scraper

/-! ## Meaning -/

/-- The event with the names in its text or its values spelled by number. -/
def spelledEvent : Event → Event
  | .opening tag => .opening ⟨tag.name, spelled tag.source⟩
  | .selfClosed tag => .selfClosed ⟨tag.name, spelled tag.source⟩
  | .text raw => .text (spelled raw)
  | e => e

/-- The library that has been read, if its elements are closed. -/
def Progress.library (p : Progress) : Except Failure Library :=
  if p.stack.isEmpty then
    match p.root with
    | some root => .ok ⟨root, p.routines.reverse⟩
    | none => .error (.unreadable .noRoot)
  else .error (.unreadable (.unclosedElements p.stack.length))

/-- **What a library means** that uses the names of HTML. -/
def readSpelled (text : String) : Except Failure Library :=
  (Xml.read text).follow (fun p e => p.step (spelledEvent e)) Progress.start >>= Progress.library

theorem readSpelled_eq (text : String) :
    readSpelled text = followFrom (fun p e => p.step (spelledEvent e)) [] Progress.start text.toList
      >>= Progress.library := rfl

/-! ## Events that stay events -/

/-- Names stand in the values of the tag, as characters that may stand there. -/
def ClearTag (tag : Tag) : Prop := tag.attributes.2 = none ∧ ClearSource tag.source

/-- What the writing out of names needs of an event and its text. -/
def Clear : Event → List Char → Prop
  | .opening tag, _ => ClearTag tag
  | .selfClosed tag, _ => ClearTag tag
  | .closing _, w => '&' ∉ w
  | .text raw, _ => Single raw
  | .cdata content, _ => decode content = content
  | .other, w => "<!--".toList <+: w ∨ event (decode w) = .ok (.other, (decode w).length)

instance (tag : Tag) : Decidable (ClearTag tag) :=
  inferInstanceAs (Decidable (tag.attributes.2 = none ∧ ClearSource tag.source))

instance (e : Event) (w : List Char) : Decidable (Clear e w) :=
  match e with
  | .opening tag | .selfClosed tag => inferInstanceAs (Decidable (ClearTag tag))
  | .closing _ => inferInstanceAs (Decidable ('&' ∉ w))
  | .text raw => inferInstanceAs (Decidable (Single raw))
  | .cdata content => inferInstanceAs (Decidable (decode content = content))
  | .other => inferInstanceAs (Decidable
      ("<!--".toList <+: w ∨ event (decode w) = .ok (.other, (decode w).length)))

/-- Every event of the text is one in which names can be written out. -/
def AllClear (s : List Char) : Prop := ∀ p ∈ (Text.items eventText s).1, Clear p.1 p.2

instance : DecidablePred AllClear := fun s =>
  inferInstanceAs (Decidable (∀ p ∈ (Text.items eventText s).1, Clear p.1 p.2))

theorem allClear_append {w rest : List Char} (hw : w ≠ []) {e : Event}
    (h : event (w ++ rest) = .ok (e, w.length)) :
    AllClear (w ++ rest) ↔ Clear e w ∧ AllClear rest := by
  rw [AllClear, items_eventText_append hw h, List.forall_mem_cons]
  rfl

/-! ## Tags -/

theorem tagFits_of_retells {R : List Char → List Char → Prop} {s t : List Char}
    (h : Retells R s t) (hfits : TagFits (.ofSource s))
    (hlisted : (Tag.ofSource s).attributes.2 = none) : TagFits (.ofSource t) := by
  obtain ⟨hname, hnames⟩ := hfits
  rcases has : (Tag.ofSource s).attributes with ⟨as, fault⟩
  rw [has] at hlisted hnames
  subst hlisted
  obtain ⟨bs, hbs, hall⟩ := h.attributes hname has hnames
  refine ⟨?_, ?_⟩
  · show Unquoted (tagName t)
    rw [h.tagName_eq hname]
    exact hname
  · rw [hbs]
    clear has hbs
    induction hall with
    | nil => exact fun b hb => absurd hb List.not_mem_nil
    | cons hab _ ih =>
      obtain ⟨ha, hnames⟩ := List.forall_mem_cons.1 hnames
      refine List.forall_mem_cons.2 ⟨?_, ih hnames⟩
      rw [hab.1]
      exact ha

/-- **A tag whose names are written out** reads as what it means, and as the repaired tag. -/
theorem readsAs_decode {s t : List Char} (h : InTag s t) (hfits : TagFits (.ofSource s))
    (hclear : ClearTag (.ofSource s)) :
    ReadsAs ⟨tagName s, spelled s⟩ (.ofSource (decode t)) ∧
      ReadsAs (.ofSource t) (.ofSource (decode t)) := by
  obtain ⟨hlisted, hsource⟩ := hclear
  have hspelled := retells_spelled h hsource
  have hdecode := retells_decode h hsource
  constructor
  · have htag : (⟨tagName s, spelled s⟩ : Tag) = .ofSource (spelled s) := by
      rw [Tag.ofSource, hspelled.tagName_eq hfits.1]
    rw [htag]
    refine readsAs_of_retells (hspelled.comp hdecode) ?_ (tagFits_of_retells hspelled hfits hlisted)
    rintro _ _ ⟨raw, ⟨rfl, hsingle⟩, rfl⟩ v hv
    rw [decode_escapeBracket]
    exact unescape_escapeBracket
      (unescape_eq_ok_iff.2 (denotes_decode hsingle (unescape_eq_ok_iff.1 hv)))
  · have hfits' := tagFits_of_retells h.retells hfits hlisted
    refine readsAs_of_retells (h.retells.comp hdecode) ?_ hfits'
    rintro _ _ ⟨raw, rfl, rfl⟩ v hv
    rwa [decode_of_denotes (unescape_eq_ok_iff.1 hv)]

/-! ## Texts -/

theorem decode_append {e : Event} {w rest : List Char} (h : EventText e w)
    (hrest : ∀ raw, e = .text raw → ∀ c ∈ rest.head?, c = '<') :
    decode (w ++ rest) = decode w ++ decode rest := by
  have hmarkup (x : List Char) :
      decode (x ++ ['>'] ++ rest) = decode (x ++ ['>']) ++ decode rest := by
    have hsplit (z : List Char) : decode (x ++ '>' :: z) = decode x ++ '>' :: decode z :=
      replaceTokens_append_cons (by decide)
    rw [List.append_assoc, List.singleton_append, hsplit, hsplit, List.append_assoc]
    rfl
  cases h with
  | text _ _ =>
    refine replaceTokens_append fun c hc => ?_
    rw [hrest _ rfl c hc]
    decide
  | @cdata content _ =>
    have hend : cdataSection content =
        '<' :: '!' :: '[' :: ("CDATA[".toList ++ (content ++ "]]".toList)) ++ ['>'] := by
      simp [cdataSection]
    rw [hend, hmarkup]
  | @comment note _ =>
    have hend : comment note = '<' :: '!' :: '-' :: '-' :: (note ++ "--".toList) ++ ['>'] := by
      simp [comment]
    rw [hend, hmarkup]
  | @instruction body _ =>
    have hend : instruction body = '<' :: '?' :: (body ++ ['?']) ++ ['>'] := by simp [instruction]
    rw [hend, hmarkup]
  | doctype _ => exact hmarkup ('<' :: '!' :: _)
  | closing _ => exact hmarkup ('<' :: ('/' :: _))
  | tag _ _ => exact hmarkup ('<' :: _)

/-! ## Events -/

theorem alike_tagEvent {s t w : List Char} (h : InTag s t) (hfits : Fits (tagEvent s) w)
    (hclear : Clear (tagEvent s) w) (hhead : ∀ c ∈ s.head?, c ≠ '!' ∧ c ≠ '?' ∧ c ≠ '/') :
    EventText (tagEvent (decode t)) ('<' :: (decode t ++ ['>'])) ∧
      Alike (spelledEvent (tagEvent s)) (tagEvent (decode t)) ∧
      Alike (tagEvent t) (tagEvent (decode t)) := by
  by_cases hslash : s.getLast? = some '/'
  · obtain ⟨t, rfl⟩ := List.getLast?_eq_some_iff.1 (h.retells.getLast?_eq.trans hslash)
    obtain ⟨s, rfl⟩ := List.getLast?_eq_some_iff.1 hslash
    have hinside := h.retells.dropLast hslash
    have hend : decode (t ++ ['/']) = decode t ++ ['/'] := replaceTokens_append_cons (by decide)
    rw [hend]
    simp only [tagEvent_of_slash List.getLast?_concat, List.dropLast_concat]
      at hinside hfits hclear ⊢
    obtain ⟨hspelled, hrepaired⟩ := readsAs_decode (.of_retells hinside) hfits hclear
    have hdecode := (retells_decode (.of_retells hinside) hclear.2).append
      (.plain (by decide) .nil : Retells _ ['/'] ['/'])
    have htext := EventText.tag (hdecode.head?_eq ▸ hhead) hdecode.tagBody?
    rw [tagEvent_of_slash List.getLast?_concat, List.dropLast_concat] at htext
    exact ⟨htext, .selfClosed hspelled, .selfClosed hrepaired⟩
  · have hlast : t.getLast? ≠ some '/' := h.retells.getLast?_eq ▸ hslash
    rw [tagEvent_of_ne_slash hslash] at hfits hclear ⊢
    obtain ⟨hspelled, hrepaired⟩ := readsAs_decode h hfits hclear
    have hdecode := retells_decode h hclear.2
    have htext := EventText.tag (hdecode.head?_eq ▸ hhead) hdecode.tagBody?
    rw [tagEvent_of_ne_slash (hdecode.getLast?_eq ▸ hslash)] at htext ⊢
    rw [tagEvent_of_ne_slash hlast]
    exact ⟨htext, .opening hspelled, .opening hrepaired⟩

theorem eventText_decode_other {w : List Char} (h : EventText .other w) (hclear : Clear .other w) :
    EventText .other (decode w) := by
  rcases hclear with hcomment | hevent
  · generalize he : Event.other = e at h
    cases h with
    | @comment note h =>
      have hdecode : decode (comment note) = comment (decode note) := by
        show decode ("<!--".toList ++ (note ++ "-->".toList)) = _
        rw [decode, replaceTokens_of_not_mem (by decide)]
        exact congrArg ("<!--".toList ++ ·) (replaceTokens_append_cons (by decide))
      rw [hdecode]
      exact .comment (not_infix_decode h)
    | instruction _ =>
      have hquestion := (List.cons_prefix_cons.1 hcomment).2
      exact absurd (List.cons_prefix_cons.1 hquestion).1 (by decide)
    | @doctype body h =>
      have hdash := (List.cons_prefix_cons.1 (List.cons_prefix_cons.1 hcomment).2).2
      have hhead : (body ++ ['>']).head? = some '-' := by
        obtain ⟨more, hmore⟩ := hdash
        rw [← hmore]
        rfl
      rcases h.head with hbody | hbody <;> obtain ⟨more, rfl⟩ := List.head?_eq_some_iff.1 hbody <;>
        exact absurd hhead (by simp)
    | tag _ _ =>
      rw [tagEvent] at he
      split at he <;> cases he
    | _ => cases he
  · by_cases hnil : decode w = []
    · exact absurd hnil (decode_ne_nil h.ne_nil)
    · obtain ⟨w', rest, hsplit, hlength, htext, -⟩ := exists_eventText hnil hevent
      have hrest : rest = [] := by
        rw [hsplit, List.length_append] at hlength
        exact List.length_eq_zero_iff.1 (by omega)
      rw [hrest, List.append_nil] at hsplit
      rwa [hsplit]

/-- **For every event one alike is written out**: alike to what the event means, and to the event
that the repair of brackets writes. -/
theorem exists_decoded {e : Event} {w : List Char} (h : EventText e w) (hfits : Fits e w)
    (hclear : Clear e w) :
    ∃ e' w' e'', EventText e' w' ∧ Mended e e' ∧
      (∀ out rest, escapeFrom out .text (w ++ rest) = escapeFrom (w'.reverse ++ out) .text rest) ∧
      EventText e'' (decode w') ∧ Alike (spelledEvent e) e'' ∧ Alike e' e'' := by
  have hsame {e'' : Event} (htag : ¬ IsTagEvent e) (htext : EventText e'' (decode w))
      (hspelled : Alike (spelledEvent e) e'') (hrepaired : Alike e e'') :
      ∃ e' w' e'', EventText e' w' ∧ Mended e e' ∧
        (∀ out rest, escapeFrom out .text (w ++ rest) =
          escapeFrom (w'.reverse ++ out) .text rest) ∧
        EventText e'' (decode w') ∧ Alike (spelledEvent e) e'' ∧ Alike e' e'' :=
    ⟨e, w, e'', h, .same e, fun out => escapeFrom_event out h hfits htag, htext, hspelled,
      hrepaired⟩
  cases h with
  | text hne hraw =>
    refine hsame not_false (.text (decode_ne_nil hne) (bracket_not_mem_decode (by decide) hraw))
      (.text fun v hv => ?_) (.text fun v hv => ?_)
    · exact unescape_eq_ok_iff.2 (denotes_decode hclear (unescape_eq_ok_iff.1 hv))
    · rwa [decode_of_denotes (unescape_eq_ok_iff.1 hv)]
  | @cdata content h =>
    have hdecode : decode (cdataSection content) = cdataSection content := by
      show decode ("<![CDATA[".toList ++ (content ++ "]]>".toList)) = _
      have hend : decode (content ++ "]]>".toList) = decode content ++ "]]>".toList :=
        replaceTokens_append_cons (by decide)
      rw [decode, replaceTokens_of_not_mem (by decide), ← decode, hend,
        (hclear : decode content = content)]
      rfl
    exact hsame not_false (hdecode.symm ▸ .cdata h) (.same _) (.same _)
  | comment h =>
    exact hsame not_false (eventText_decode_other (.comment h) hclear) (.same _) (.same _)
  | instruction h =>
    exact hsame not_false (eventText_decode_other (.instruction h) hclear) (.same _) (.same _)
  | doctype h =>
    exact hsame not_false (eventText_decode_other (.doctype h) hclear) (.same _) (.same _)
  | @closing name h =>
    have hdecode : decode ('<' :: ('/' :: name ++ ['>'])) = '<' :: ('/' :: name ++ ['>']) := by
      rw [← List.append_nil ('<' :: ('/' :: name ++ ['>'])), decode,
        replaceTokens_of_not_mem hclear]
      rfl
    exact hsame not_false (hdecode.symm ▸ .closing h) (.same _) (.same _)
  | @tag body hhead h =>
    obtain ⟨t, ht⟩ := exists_inTag_of_isTagBody h
    obtain ⟨htext, hspelled, hrepaired⟩ := alike_tagEvent ht hfits hclear hhead
    have hdecode : decode ('<' :: (t ++ ['>'])) = '<' :: (decode t ++ ['>']) := by
      rw [decode, replaceTokens_cons_of_ne (by decide)]
      exact congrArg ('<' :: ·) (replaceTokens_append_cons (by decide))
    refine ⟨_, _, _, .tag (ht.retells.head?_eq ▸ hhead) ht.retells.tagBody?,
      mended_tagEvent ht hfits, fun out => ?_, hdecode.symm ▸ htext, hspelled, hrepaired⟩
    exact escapeFrom_inTag out ht fun c hc => ⟨(hhead c hc).1, (hhead c hc).2.1⟩

/-! ## Libraries -/

theorem openBehind?_spelledEvent (opened : List (List Char)) (e : Event) :
    openBehind? opened (spelledEvent e) = openBehind? opened e := by
  cases e <;> rfl

theorem head?_decode {s : List Char} (h : ∀ c ∈ s.head?, c = '<') :
    ∀ c ∈ (decode s).head?, c = '<' := by
  cases s with
  | nil => exact h
  | cons d s =>
    obtain rfl := h d rfl
    rw [decode, replaceTokens_cons_of_ne (by decide)]
    rintro c ⟨⟩
    rfl

/-- **The written out library is read alongside what the library means**, and alongside the library
that is repaired otherwise. -/
theorem alongside_decode {s : List Char} (h : InEvents s) (hregular : Regular s)
    (hclear : AllClear s) :
    Alongside spelledEvent s (decode (escape s)) ∧
      Alongside (fun e => e) (escape s) (decode (escape s)) := by
  induction h with
  | nil => exact ⟨.nil, .nil⟩
  | @cons e w rest htext hrest _ ih =>
    have hevent := event_append htext hrest
    obtain ⟨hfits, hregular⟩ := (regular_append htext.ne_nil hevent).1 hregular
    obtain ⟨hclear, hallclear⟩ := (allClear_append htext.ne_nil hevent).1 hclear
    obtain ⟨hspelled, hrepaired⟩ := ih hregular hallclear
    obtain ⟨e', w', e'', htext', hmended, hescape, htext'', halike, halike'⟩ :=
      exists_decoded htext hfits hclear
    have hbehind := hmended.head?_escape hrest
    have hbehind' : ∀ raw, e'' = .text raw → ∀ c ∈ (decode (escape rest)).head?, c = '<' := by
      rintro raw rfl
      obtain ⟨raw', rfl⟩ : ∃ raw', e' = .text raw' := by
        cases halike' with
        | same => exact ⟨raw, rfl⟩
        | @text raw' _ _ => exact ⟨raw', rfl⟩
      exact head?_decode (hbehind raw' rfl)
    have hdecode := decode_append htext' hbehind
    rw [escape_append hescape, hdecode]
    exact ⟨.cons htext.ne_nil hevent htext''.ne_nil (event_append htext'' hbehind')
        (fun opened => openBehind?_spelledEvent opened e) halike hspelled,
      .cons htext'.ne_nil (event_append htext' hbehind) htext''.ne_nil
        (event_append htext'' hbehind') (fun _ => rfl) halike' hrepaired⟩

/-- **The repaired library is read as what the library means**, with or without its names being
written out. -/
theorem readRepaired_spelled {text : String} {prolog body : List Char}
    (htext : text.toList = prolog ++ body) (hprolog : Prolog prolog) (hamp : '&' ∉ prolog)
    (hdeclaration : Text.Quiet Repair.Declaration.declaration? body)
    (hsplit : Text.Quiet Repair.SplitScript.split? body) (hregular : Regular body)
    (hclear : AllClear body) {library : Library} (h : readSpelled text = .ok library) :
    readRepaired (Repair.library text) = .ok library := by
  obtain ⟨prolog', hprolog', hamp', hfix⟩ :=
    Repair.exists_fix_prolog_of_not_mem hprolog hamp hdeclaration
  have hrepaired : (Repair.library text).toList = prolog' ++ escape body := by
    rw [Repair.library, String.toList_ofList, htext, hfix,
      Repair.neutralize_prolog hprolog' hsplit, Repair.escape_prolog hprolog']
  have hdecoded : (Repair.namedEntities (Repair.library text)).toList =
      prolog' ++ decode (escape body) := by
    rw [Repair.namedEntities, String.toList_ofList, hrepaired]
    exact replaceTokens_of_not_mem hamp' _
  have hread (xml : String) {rest : List Char} (hxml : xml.toList = prolog' ++ rest) :
      readLibrary xml = followFrom Progress.step [] Progress.start rest >>= Progress.library := by
    rw [← follow_prolog hprolog', ← hxml]
    exact readLibrary_eq xml
  obtain ⟨p, hmeant, hlast⟩ := bind_eq_ok_iff.1 h
  change followFrom _ [] Progress.start text.toList = .ok p at hmeant
  rw [htext, followFrom_prolog (fun _ => rfl) hprolog] at hmeant
  obtain ⟨hspelled, hplain⟩ := alongside_decode (inEvents_of_followFrom hmeant) hregular hclear
  have hwritten : readLibrary (Repair.namedEntities (Repair.library text)) = .ok library := by
    rw [hread _ hdecoded, hspelled.follow hmeant]
    exact hlast
  rw [readRepaired]
  split
  · next direct hdirect =>
    -- The names are not written out, but that would not change what is read.
    obtain ⟨p', hfollow, hlast'⟩ := bind_eq_ok_iff.1 ((hread _ hrepaired).symm.trans hdirect)
    rw [hread _ hdecoded, hplain.follow hfollow] at hwritten
    exact (hlast'.symm.trans hwritten)
  · next e hfault =>
    simp only
    rw [if_neg, hwritten]
    intro heq
    rw [heq, hfault] at hwritten
    cases hwritten

/-- **A library that uses the names of HTML is read as what it means.** Each name in a value or a
pattern stands for the character that HTML assigns to it; tags, values and patterns end where they
end in the library, and the five names of XML stand for their characters. -/
theorem readText_spelled (id text : String) {prolog body : List Char}
    (htext : (Charset.unmarked text).toList = prolog ++ body) (hprolog : Prolog prolog)
    (hamp : '&' ∉ prolog) (hdeclaration : Text.Quiet Repair.Declaration.declaration? body)
    (hsplit : Text.Quiet Repair.SplitScript.split? body) (hregular : Regular body)
    (hclear : AllClear body) {library : Library}
    (h : readSpelled (Charset.unmarked text) = .ok library) :
    readText id text = .ok ((empty id).insertAll library.routines) := by
  have hread := readBytes_toUTF8
    (readRepaired_spelled htext hprolog hamp hdeclaration hsplit hregular hclear h)
  rw [readText, read, hread]
  rfl

/-- A declaration. -/
def namedProlog : String := "<?xml version=\"1.0\"?>"

/-- A library with names wherever they may stand: in values between either quotes, in a pattern and
in a comment. -/
def namedBody : String :=
  "<s><!-- &nbsp; --><F dest=\"2\"><RegExp input=\"&Iacute;\" output='&QUOT;&lt;' dest=\"2\">" ++
    "<expression>&LT;(.)&amp;</expression></RegExp></F></s>"

/-- What the rules of a library read, write and match. -/
def Library.contents (library : Library) : List (String × String × Option String) :=
  library.routines.flatMap fun r =>
    r.rules.map fun x => (x.input, x.output, x.expression.map (·.pattern))

theorem clear_namedBody :
    Text.Quiet Repair.Declaration.declaration? namedBody.toList ∧
      Text.Quiet Repair.SplitScript.split? namedBody.toList ∧
      Regular namedBody.toList ∧ AllClear namedBody.toList := by
  delta namedBody
  rw [String.toList_append, String.toList_ofList, String.toList_ofList]
  decide +kernel

theorem contents_named : (readSpelled (namedProlog ++ namedBody)).toOption.map Library.contents =
    some [("Í", "\"<", some "<(.)&")] := by
  delta namedProlog namedBody
  rw [readSpelled_eq, String.toList_append, String.toList_append, String.toList_ofList,
    String.toList_ofList, String.toList_ofList]
  decide +kernel

theorem isOk_readLibrary_named : (readLibrary (namedProlog ++ namedBody)).isOk = false := by
  delta namedProlog namedBody
  rw [readLibrary_eq, String.toList_append, String.toList_append, String.toList_ofList,
    String.toList_ofList, String.toList_ofList]
  decide

theorem readText_spelled_named : ∃ library,
    readSpelled (namedProlog ++ namedBody) = .ok library ∧
      library.contents = [("Í", "\"<", some "<(.)&")] ∧
      (readLibrary (namedProlog ++ namedBody)).isOk = false ∧
      readText "id" (namedProlog ++ namedBody) =
        .ok ((empty "id").insertAll library.routines) := by
  have hprolog : Prolog namedProlog.toList := by
    have htext : namedProlog.toList = instruction ("xml".toList ++ " version=\"1.0\"".toList) := by
      decide
    rw [htext]
    exact .declaration (by decide) (by decide)
  have hhead : (namedProlog ++ namedBody).toList.head? ≠ some Charset.byteOrderMark := by
    rw [String.toList_append]
    decide
  have hamp : '&' ∉ namedProlog.toList := by decide
  obtain ⟨hdeclaration, hsplit, hregular, hclear⟩ := clear_namedBody
  have hcontents := contents_named
  have hmark := Charset.unmarked_of_head? hhead
  cases hread : readSpelled (namedProlog ++ namedBody) with
  | error failure =>
    rw [hread] at hcontents
    cases hcontents
  | ok library =>
    rw [hread] at hcontents
    refine ⟨library, rfl, Option.some.inj hcontents, isOk_readLibrary_named, ?_⟩
    have htext : (Charset.unmarked (namedProlog ++ namedBody)).toList =
        namedProlog.toList ++ namedBody.toList := by rw [hmark, String.toList_append]
    exact readText_spelled "id" (namedProlog ++ namedBody) htext hprolog hamp hdeclaration hsplit
      hregular hclear (by rw [hmark, hread])

/-! ## A quote that closes a value -/

/-- A library in which a name stands for a double quote, in a value between double quotes. -/
def quoteText : String := "<s><F dest=\"2\"><RegExp output=\"&QUOT;x\" dest=\"2\"/></F></s>"

theorem contents_quoteText :
    (readSpelled quoteText).toOption.map Library.contents = some [("$$1", "\"x", none)] := by
  delta quoteText
  rw [readSpelled_eq, String.toList_ofList]
  decide +kernel

theorem isOk_readRepaired_quoteText : (readRepaired (Repair.library quoteText)).isOk = false := by
  have hdirect : (readLibrary (Repair.library quoteText)).isOk = false := by
    delta quoteText
    rw [readLibrary_eq, Repair.library, String.toList_ofList, String.toList_ofList]
    decide
  have hwritten :
      (readLibrary (Repair.namedEntities (Repair.library quoteText))).isOk = false := by
    delta quoteText
    rw [readLibrary_eq, Repair.namedEntities, Repair.library, String.toList_ofList,
      String.toList_ofList, String.toList_ofList]
    decide +kernel
  rw [readRepaired]
  split
  · next library hread =>
    rw [hread] at hdirect
    cases hdirect
  · dsimp only
    split
    · rfl
    · exact hwritten

/-- The quote that is written for a name closes the value in which the name stands. -/
theorem exists_readText_spelled_ne : ∃ library, readSpelled quoteText = .ok library ∧
    library.contents = [("$$1", "\"x", none)] ∧
    readText "id" quoteText ≠ .ok ((empty "id").insertAll library.routines) := by
  have hcontents := contents_quoteText
  have hnumbers : Charset.Numbers quoteText.toUTF8 quoteText := by
    unfold Charset.Numbers
    decide
  have hbytes : readBytes quoteText.toUTF8 = readRepaired (Repair.library quoteText) :=
    readBytes_of_ascii hnumbers (by decide +kernel)
  have hfault : (readText "id" quoteText).isOk = false := by
    have hrepaired := isOk_readRepaired_quoteText
    rw [readText, read, hbytes]
    cases hread : readRepaired (Repair.library quoteText) with
    | ok library =>
      rw [hread] at hrepaired
      cases hrepaired
    | error e => rfl
  cases hread : readSpelled quoteText with
  | error failure =>
    rw [hread] at hcontents
    cases hcontents
  | ok library =>
    rw [hread] at hcontents
    refine ⟨library, rfl, Option.some.inj hcontents, fun heq => ?_⟩
    rw [heq] at hfault
    cases hfault

end Scraper
end MediaScraper
