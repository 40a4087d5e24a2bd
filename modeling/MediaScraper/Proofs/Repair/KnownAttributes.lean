import Mathlib.Data.List.DropRight
import MediaScraper.Proofs.Repair.Declaration
import MediaScraper.Proofs.Repair.Idempotence

/-!
# What is kept of a declaration

A declaration lists attributes (`Entry`), each with blanks in front of it. Those with a known name
are kept as they are written (`declaration_entries`), with two exceptions.

**Question marks.** With a question mark in a value the declaration is not found, so it stays as it
is, with all of its attributes.

**Names.** The names of XML have more letters than are looked for. Of a name, that part is read
which begins with the first letter behind the last character that is none of a name (`seen`). If
this part is a known name and the name is not, the attribute is kept under that part of its name; if
there is no such part, attributes are looked for in the value.
-/

namespace MediaScraper.Repair.Declaration

open Xml (IsName instruction)

/-! ## Characters of names -/

theorem isNameChar_of_isNameStart {c : Char} (h : isNameStart c = true) : isNameChar c = true := by
  simp only [isNameStart, Bool.or_eq_true, decide_eq_true_eq, or_assoc] at h
  rcases h with halpha | rfl | rfl
  · have hcase : c.isUpper = true ∨ c.isLower = true := by
      unfold Char.isAlpha at halpha
      simpa using halpha
    have hbounds := hcase.imp CaseFolding.isUpper_iff.1 CaseFolding.isLower_iff.1
    have hword : isWordChar c = true := by
      have hall : ∀ n ∈ List.range' 65 26 ++ List.range' 97 26,
          wordChars.containsScalar n = true := by decide
      refine hall _ ?_
      rw [List.mem_append, List.mem_range'_1, List.mem_range'_1]
      omega
    simp [isNameChar, hword]
  · decide
  · decide

/-- The numbers of the blanks. -/
def blankNumbers : List Nat :=
  [0x9, 0xA, 0xB, 0xC, 0xD, 0x20, 0x85, 0xA0, 0x1680, 0x2000, 0x2001, 0x2002, 0x2003, 0x2004, 0x2005,
    0x2006, 0x2007, 0x2008, 0x2009, 0x200A, 0x2028, 0x2029, 0x202F, 0x205F, 0x3000]

theorem isNameChar_of_isBlank {c : Char} (h : isBlank c = true) : isNameChar c = false := by
  have hmem : c.toNat ∈ blankNumbers := by
    simp only [isBlank, CharSet.contains, CharSet.containsScalar, blanks, CharSet.containsFrom] at h
    simp only [blankNumbers, List.mem_cons, List.not_mem_nil, or_false]
    simp at h
    omega
  have hword : isWordChar c = false := by
    have hall : ∀ n ∈ blankNumbers, wordChars.containsScalar n = false := by decide +kernel
    exact hall _ hmem
  have hne {d : Char} (hd : d.toNat ∉ blankNumbers) : c ≠ d := by
    rintro rfl
    exact hd hmem
  simp [isNameChar, hword, hne (d := '-') (by decide), hne (d := '.') (by decide),
    hne (d := ':') (by decide)]

/-! ## Names -/

/-- The name is one that a declaration knows. -/
def isKnownName (name : List Char) : Bool := knownNames.any (Text.eqIgnoringCase name)

/-- The part of a name that is read. -/
def seen (name : List Char) : List Char :=
  (name.rtakeWhile isNameChar).dropWhile fun c => !isNameStart c

/-- A part of the name is read, and if it is a known name, it is all of it. -/
def IsSeen (name : List Char) : Prop :=
  seen name ≠ [] ∧ (isKnownName (seen name) = true → seen name = name)

instance : DecidablePred IsSeen := fun _ => inferInstanceAs (Decidable (_ ∧ _))

theorem isAlpha_of_toLower {c : Char} (h : c.toLower.isLower = true) : c.isAlpha = true := by
  have hlower := CaseFolding.isLower_iff.1 h
  rw [CaseFolding.toNat_toLower] at hlower
  refine Bool.or_eq_true_iff.2 ?_
  rw [CaseFolding.isLower_iff]
  split at hlower
  · next hupper => exact .inl hupper
  · exact .inr hlower

theorem isNameStart_of_isKnownName {name : List Char} (h : isKnownName name = true) :
    ∀ c ∈ name, isNameStart c = true := by
  intro c hc
  obtain ⟨known, hknown, heq⟩ := List.any_eq_true.1 h
  have hmem : c.toLower ∈ known.map Char.toLower := by
    rw [← show name.map Char.toLower = known.map Char.toLower from beq_iff_eq.1 heq]
    exact List.mem_map_of_mem hc
  have hletters : ∀ k ∈ knownNames, ∀ d ∈ k.map Char.toLower, d.isLower = true := by decide
  have halpha : c.isAlpha = true := isAlpha_of_toLower (hletters known hknown _ hmem)
  simp [isNameStart, halpha]

/-- **A known name is read as a whole.** -/
theorem seen_of_isKnownName {name : List Char} (h : isKnownName name = true) :
    seen name = name := by
  have hstart := isNameStart_of_isKnownName h
  have hrun : name.rtakeWhile isNameChar = name :=
    List.rtakeWhile_eq_self_iff.2 fun c hc => isNameChar_of_isNameStart (hstart c hc)
  rw [seen, hrun, List.dropWhile_eq_self_iff]
  intro hpos
  simp [hstart _ (List.getElem_mem hpos)]

/-- **What stands in front of the part that is read** ends in a character of no name, but for
characters that begin no name. -/
theorem exists_seen (name : List Char) :
    ∃ front between, name = front ++ between ++ seen name ∧
      (∀ c ∈ front.getLast?, isNameChar c = false) ∧ (∀ c ∈ between, isNameStart c = false) ∧
      (∀ c ∈ seen name, isNameChar c = true) ∧ ∀ c ∈ (seen name).head?, isNameStart c = true := by
  obtain ⟨hrun, hchars, hhead⟩ :=
    Xml.of_span (List.span_eq_takeWhile_dropWhile (fun c => !isNameStart c)
      (name.rtakeWhile isNameChar))
  refine ⟨name.rdropWhile isNameChar, (name.rtakeWhile isNameChar).takeWhile fun c => !isNameStart c,
    ?_, fun c hc => ?_, fun c hc => by simpa using hchars c hc, fun c hc => ?_, fun c hc => ?_⟩
  · rw [List.append_assoc, seen, ← hrun, List.rdropWhile_append_rtakeWhile]
  · have hlast := List.head?_dropWhile_not isNameChar name.reverse
    rw [List.rdropWhile, List.getLast?_reverse] at hc
    rw [Option.mem_def.1 hc] at hlast
    simpa using hlast
  · exact List.mem_rtakeWhile_imp ((List.dropWhile_suffix _).subset hc)
  · simpa using hhead c hc

/-! ## Attributes -/

/-- An attribute of a declaration as it is written, with the blanks in front of it. -/
structure Entry where
  gap : List Char
  name : List Char
  /-- The blanks in front of `=`. -/
  before : List Char
  /-- The blanks behind `=`. -/
  behind : List Char
  quote : Char
  value : List Char

namespace Entry

/-- What stands behind the name. -/
def assignment (e : Entry) : List Char :=
  e.before ++ '=' :: e.behind ++ (e.quote :: e.value ++ [e.quote])

def source (e : Entry) : List Char := e.name ++ e.assignment

/-- The attribute has a name of XML, and its value holds neither its quote nor brackets. -/
structure Fits (e : Entry) : Prop where
  gap_ne : e.gap ≠ []
  gap : ∀ c ∈ e.gap, isBlank c = true
  name : IsName e.name
  before : ∀ c ∈ e.before, isBlank c = true
  behind : ∀ c ∈ e.behind, isBlank c = true
  quote : e.quote = '"' ∨ e.quote = '\''
  value : ∀ c ∈ e.value, c ≠ e.quote ∧ c ≠ '<' ∧ c ≠ '>'

/-- The attribute that is read where this one is written. -/
def read (e : Entry) : Attribute := ⟨seen e.name, seen e.name ++ e.assignment⟩

end Entry

/-- Attributes one after the other. -/
def listing (entries : List Entry) : List Char := entries.flatMap fun e => e.gap ++ e.source

/-- The declaration that keeps the attributes with known names. -/
def kept (entries : List Entry) : List Char :=
  match entries.filter fun e => isKnownName e.name with
  | [] => "<?xml version=\"1.0\"?>".toList
  | known => "<?xml ".toList ++ List.intercalate [' '] (known.map Entry.source) ++ "?>".toList

/-- What stands behind a character of no name that follows a stretch of name characters stands
behind all of the stretch. -/
theorem mem_of_append_eq {p : Char → Bool} {x y stretch rest : List Char} {d : Char}
    (h : x ++ d :: y = stretch ++ rest) (hstretch : ∀ c ∈ stretch, p c = true)
    (hd : p d = false) : ∀ c ∈ y, c ∈ rest := by
  intro c hc
  rcases List.append_eq_append_iff.1 h with ⟨w, rfl, hw⟩ | ⟨w, rfl, rfl⟩
  · cases w with
    | nil =>
      rw [← show d :: y = rest from hw]
      exact List.mem_cons_of_mem d hc
    | cons d' w =>
      obtain ⟨rfl, -⟩ := List.cons.inj hw
      rw [hstretch d (List.mem_append_right x List.mem_cons_self)] at hd
      cases hd
  · exact List.mem_append_right w (List.mem_cons_of_mem d hc)

/-- **No attribute begins in front of the part of a name that is read.** -/
theorem attribute?_of_suffix {front between name before tail u : List Char}
    (hfront : ∀ c ∈ front.getLast?, isNameChar c = false)
    (hbetween : ∀ c ∈ between, isNameStart c = false) (hname : name ≠ [])
    (hhead : ∀ c ∈ name.head?, isNameStart c = true)
    (heq : '=' ∉ front ++ between ++ name ++ before) (hu : u <:+ front ++ between) (hne : u ≠ []) :
    attribute? (u ++ (name ++ (before ++ '=' :: tail))) = none := by
  by_contra hread
  obtain ⟨⟨a, n⟩, hread⟩ := Option.ne_none_iff_exists'.1 hread
  obtain ⟨rest, hs, ha, -⟩ := attribute?_eq_some_iff.1 hread
  cases ha with
  | @mk c q more gap gap' value hc hmore _ hgap _ _ _ =>
    -- up to the first `=`, what is read is the name of the attribute with blanks behind it
    have hstretch : ∀ d ∈ c :: more, isNameChar d = true :=
      List.forall_mem_cons.2 ⟨isNameChar_of_isNameStart hc, hmore⟩
    have hkey : '=' ∉ c :: more ++ gap := by
      rw [List.mem_append, not_or]
      exact ⟨not_mem_of_forall hstretch (by decide), not_mem_of_forall hgap (by decide)⟩
    have hmem : '=' ∉ u ++ name ++ before := fun hmem => heq (by
      simp only [List.mem_append] at hmem ⊢
      rcases hmem with (hmem | hmem) | hmem
      · exact .inl (.inl (List.mem_append.1 (hu.subset hmem)))
      · exact .inl (.inr hmem)
      · exact .inr hmem)
    have htext : u ++ name ++ before ++ '=' :: tail =
        c :: more ++ gap ++ '=' :: (gap' ++ q :: (value ++ q :: rest)) := by
      simpa using hs
    obtain ⟨hfirst, -⟩ := Xml.eq_of_append_eq hmem hkey htext
    have hbegins {v : List Char} (hv : v <:+ between) (hv' : v ≠ []) (w : List Char) :
        v ++ w ≠ c :: more ++ gap := by
      obtain ⟨d, v, rfl⟩ := List.exists_cons_of_ne_nil hv'
      intro h
      obtain ⟨rfl, -⟩ := List.cons.inj h
      rw [hbetween d (hv.subset List.mem_cons_self)] at hc
      cases hc
    rw [List.append_assoc] at hfirst
    rcases List.suffix_or_suffix_of_suffix hu (List.suffix_append front between) with hu | ⟨v, rfl⟩
    · exact hbegins hu hne _ hfirst
    · have hv : v <:+ front := List.suffix_append_self_iff.1 hu
      rcases List.eq_nil_or_concat v with rfl | ⟨v, d, rfl⟩
      · exact hbegins (List.suffix_refl _) hne _ hfirst
      · -- behind a character of no name there are blanks only
        have hd : isNameChar d = false := by
          obtain ⟨x, rfl⟩ := hv
          exact hfront d (by simp)
        obtain ⟨s, name, rfl⟩ := List.exists_cons_of_ne_nil hname
        have hs : s ∈ gap := by
          refine mem_of_append_eq (x := v) (d := d) (y := between ++ (s :: name ++ before)) ?_
            hstretch hd s (by simp)
          simpa using hfirst
        have hstart := (isBlank_of_isNameStart (hhead s rfl)).1
        rw [hgap s hs] at hstart
        cases hstart

theorem attribute?_of_isBlank {c : Char} (hc : isBlank c = true) (s : List Char) :
    attribute? (c :: s) = none := by
  have hstart : isNameStart c = false := by
    by_contra h
    rw [Bool.not_eq_false] at h
    rw [(isBlank_of_isNameStart h).1] at hc
    cases hc
  rw [attribute?, hstart]
  rfl

theorem Entry.Fits.isAttribute {e : Entry} (h : e.Fits) (hseen : seen e.name ≠ []) :
    IsAttribute e.read := by
  obtain ⟨front, between, -, -, -, hchars, hhead⟩ := exists_seen e.name
  obtain ⟨c, more, hname⟩ := List.exists_cons_of_ne_nil hseen
  rw [hname] at hchars hhead
  have hstop : ∀ d ∈ (e.before ++ ['=']).head?, isNameChar d = false := by
    cases hbefore : e.before with
    | nil =>
      rintro d ⟨⟩
      decide
    | cons d before =>
      rintro d' ⟨⟩
      exact isNameChar_of_isBlank (h.before d (hbefore ▸ List.mem_cons_self))
  have hquote : e.quote ∉ e.value := fun hmem => (h.value _ hmem).1 rfl
  have hmk := IsAttribute.mk (hhead c rfl) (List.forall_mem_cons.1 hchars).2 hstop h.before h.behind
    h.quote hquote
  rw [Entry.read, Entry.assignment, hname]
  simpa using hmk

/-- **The attributes of a list are read in order**, each under the part of its name that is read. -/
theorem tokens_listing {entries : List Entry} (h : ∀ e ∈ entries, e.Fits ∧ seen e.name ≠ [])
    {after : List Char} (hafter : ∀ c ∈ after, isBlank c = true) :
    Text.tokens attribute? (listing entries ++ after) = entries.map Entry.read := by
  induction entries with
  | nil =>
    have hnone : Text.tokens attribute? (after ++ []) = Text.tokens attribute? [] := by
      refine Text.tokens_append_of_none fun u hu hne => ?_
      obtain ⟨c, u, rfl⟩ := List.exists_cons_of_ne_nil hne
      exact attribute?_of_isBlank (hafter c (hu.subset List.mem_cons_self)) _
    rwa [List.append_nil] at hnone
  | cons e entries ih =>
    obtain ⟨⟨hfits, hseen⟩, h⟩ := List.forall_mem_cons.1 h
    obtain ⟨front, between, hname, hfront, hbetween, -, hhead⟩ := exists_seen e.name
    obtain ⟨rest, hrest⟩ : ∃ rest, rest = listing entries ++ after := ⟨_, rfl⟩
    -- in front of the part of the name that is read stand the blanks and the rest of the name
    have htext : listing (e :: entries) ++ after =
        (e.gap ++ front ++ between) ++ (e.read.source ++ rest) := by
      have hsource : e.source = front ++ between ++ e.read.source := by
        calc e.name ++ e.assignment
            _ = front ++ between ++ seen e.name ++ e.assignment := congrArg (· ++ e.assignment) hname
            _ = front ++ between ++ e.read.source := List.append_assoc ..
      simp [listing, hsource, hrest]
    have hlast : ∀ c ∈ (e.gap ++ front).getLast?, isNameChar c = false := by
      intro c hc
      rw [List.getLast?_append, Option.mem_def, Option.or_eq_some_iff] at hc
      rcases hc with hc | ⟨-, hc⟩
      · exact hfront c hc
      · exact isNameChar_of_isBlank (hfits.gap c (List.mem_of_getLast? hc))
    have heq : '=' ∉ e.gap ++ front ++ between ++ seen e.name ++ e.before := by
      have hsplit : e.gap ++ front ++ between ++ seen e.name ++ e.before =
          e.gap ++ e.name ++ e.before := by
        calc e.gap ++ front ++ between ++ seen e.name ++ e.before
            _ = e.gap ++ (front ++ between ++ seen e.name) ++ e.before := by simp
            _ = e.gap ++ e.name ++ e.before := by rw [← hname]
      have hgap : '=' ∉ e.gap := not_mem_of_forall hfits.gap (by decide)
      have hbefore : '=' ∉ e.before := not_mem_of_forall hfits.before (by decide)
      have hname' : '=' ∉ e.name := hfits.name.not_mem (by decide)
      rw [hsplit]
      simp [hgap, hbefore, hname']
    have hnone : Text.tokens attribute? (e.gap ++ front ++ between ++ (e.read.source ++ rest)) =
        Text.tokens attribute? (e.read.source ++ rest) := by
      refine Text.tokens_append_of_none fun u hu hne => ?_
      have hread : attribute? (u ++ (seen e.name ++ (e.before ++
          '=' :: (e.behind ++ (e.quote :: e.value ++ [e.quote]) ++ rest)))) = none :=
        attribute?_of_suffix hlast hbetween hseen hhead heq hu hne
      simpa [Entry.read, Entry.assignment] using hread
    have hattribute := hfits.isAttribute hseen
    rw [htext, hnone, Text.tokens_of_token hattribute.source_ne_nil
      (attribute?_eq_some_iff.2 ⟨rest, rfl, hattribute, rfl⟩), hrest, ih h, List.map_cons]

/-! ## Declarations -/

/-- What is kept of attributes whose names are seen are those with known names, as they are
written. -/
theorem write_listing {entries : List Entry} (h : ∀ e ∈ entries, e.Fits ∧ IsSeen e.name)
    {after : List Char} (hafter : ∀ c ∈ after, isBlank c = true) :
    write (listing entries ++ after) = kept entries := by
  have hknown : ∀ e ∈ entries, e.read.isKnown = isKnownName e.name := by
    intro e he
    cases hname : isKnownName e.name with
    | true =>
      have hseen := seen_of_isKnownName hname
      rwa [← hseen] at hname
    | false =>
      cases hread : isKnownName (seen e.name) with
      | true =>
        rw [(h e he).2.2 hread, hname] at hread
        cases hread
      | false => exact hread
  have htokens := tokens_listing (fun e he => ⟨(h e he).1, (h e he).2.1⟩) hafter
  have hkept : (Text.tokens attribute? (listing entries ++ after)).filter (·.isKnown) =
      (entries.filter fun e => isKnownName e.name).map Entry.read := by
    rw [htokens, List.filter_map]
    exact congrArg _ (List.filter_congr hknown)
  have hsources : ((entries.filter fun e => isKnownName e.name).map Entry.read).map (·.source) =
      (entries.filter fun e => isKnownName e.name).map Entry.source := by
    rw [List.map_map]
    refine List.map_congr_left fun e he => ?_
    have hseen := seen_of_isKnownName (List.mem_filter.1 he).2
    simp only [Function.comp_apply, Entry.read, Entry.source, hseen]
  rw [write, hkept, kept]
  generalize (entries.filter fun e => isKnownName e.name) = known at hsources
  cases known with
  | nil => rfl
  | cons e known =>
    simp only [List.map_cons] at hsources ⊢
    rw [hsources]

theorem Entry.Fits.of_mem {e : Entry} (h : e.Fits) {c : Char} (hc : c ∈ e.gap ++ e.source) :
    c ≠ '<' ∧ c ≠ '>' ∧ (c = '?' → c ∈ e.value) := by
  have hblank (hc : isBlank c = true) : c ≠ '<' ∧ c ≠ '>' ∧ (c = '?' → c ∈ e.value) := by
    refine ⟨?_, ?_, ?_⟩ <;> rintro rfl <;> exact absurd hc (by decide)
  simp only [Entry.source, Entry.assignment, List.mem_append, List.mem_cons, List.not_mem_nil,
    or_false] at hc
  rcases hc with hc | hc | (hc | rfl | hc) | (rfl | hc) | rfl
  · exact hblank (h.gap c hc)
  · refine ⟨?_, ?_, ?_⟩ <;> rintro rfl <;> exact absurd hc (h.name.not_mem (by decide))
  · exact hblank (h.before c hc)
  · exact ⟨by decide, by decide, fun heq => absurd heq (by decide)⟩
  · exact hblank (h.behind c hc)
  · rcases h.quote with hquote | hquote <;> rw [hquote] <;> simp
  · exact ⟨(h.value c hc).2.1, (h.value c hc).2.2, fun _ => hc⟩
  · rcases h.quote with hquote | hquote <;> rw [hquote] <;> simp

theorem of_mem_listing {entries : List Entry} (h : ∀ e ∈ entries, e.Fits) {after : List Char}
    (hafter : ∀ c ∈ after, isBlank c = true) {c : Char} (hc : c ∈ listing entries ++ after) :
    c ≠ '<' ∧ c ≠ '>' ∧ (c = '?' → ∃ e ∈ entries, c ∈ e.value) := by
  rcases List.mem_append.1 hc with hc | hc
  · obtain ⟨e, he, hc⟩ := List.mem_flatMap.1 hc
    obtain ⟨hopen, hclose, hmark⟩ := (h e he).of_mem hc
    exact ⟨hopen, hclose, fun heq => ⟨e, he, hmark heq⟩⟩
  · refine ⟨?_, ?_, ?_⟩ <;> rintro rfl <;> exact absurd (hafter _ hc) (by decide)

/-- **A question mark hides a declaration**: up to the first one, no `?>` is found. -/
theorem quiet_of_mem {body text : List Char} (hmark : '?' ∈ body)
    (hbody : ∀ c ∈ body, c ≠ '<' ∧ c ≠ '>') (htext : Text.Quiet declaration? text) :
    Text.Quiet declaration? (instruction ("xml".toList ++ body) ++ text) := by
  have hinside {s : List Char} (hs : '<' ∉ s) : Text.Quiet declaration? (s ++ text) := by
    induction s with
    | nil => exact htext
    | cons c s ih =>
      obtain ⟨hc, hs⟩ := List.ne_and_not_mem_of_not_mem_cons hs
      refine Text.quiet_cons.2 ⟨?_, ih hs⟩
      by_contra hread
      obtain ⟨⟨b, n⟩, hread⟩ := Option.ne_none_iff_exists'.1 hread
      obtain ⟨rest, heq, -⟩ := declaration?_eq_some_iff.1 hread
      exact hc (List.cons.inj heq).1.symm
  have hopen : '<' ∉ "?xml".toList ++ body ++ "?>".toList := by
    rw [List.mem_append, List.mem_append, not_or, not_or]
    exact ⟨⟨by decide, fun hmem => (hbody _ hmem).1 rfl⟩, by decide⟩
  have hwhole : instruction ("xml".toList ++ body) ++ text =
      '<' :: ("?xml".toList ++ body ++ "?>".toList ++ text) := by
    simp [instruction]
  rw [hwhole]
  refine Text.quiet_cons.2 ⟨?_, hinside hopen⟩
  by_contra hread
  obtain ⟨⟨b, n⟩, hread⟩ := Option.ne_none_iff_exists'.1 hread
  obtain ⟨rest, heq, hb, -⟩ := declaration?_eq_some_iff.1 hread
  -- the first question mark stands in front of `>` here, and in the body there
  obtain ⟨before, after, hbefore, rfl⟩ : ∃ before after, '?' ∉ before ∧
      body = before ++ '?' :: after := by
    obtain ⟨before, after, rfl, hbefore⟩ := List.eq_append_cons_of_mem hmark
    exact ⟨before, after, hbefore, rfl⟩
  have hsame : before ++ '?' :: (after ++ "?>".toList ++ text) = b ++ '?' :: ('>' :: rest) := by
    simpa [instruction] using heq
  obtain ⟨-, hbehind⟩ := Xml.eq_of_append_eq hbefore hb hsame
  cases after with
  | nil => cases (List.cons.inj hbehind).1
  | cons c after =>
    obtain ⟨rfl, -⟩ := List.cons.inj hbehind
    exact (hbody '>' (by simp)).2 rfl

/-- **What is kept of a declaration.** If no value holds a question mark and the names are seen, the
attributes with known names are kept as they are written, one space apart; with a question mark in a
value, the declaration stays as it is. -/
theorem declaration_entries (entries : List Entry) (after text : List Char)
    (h : ∀ e ∈ entries, e.Fits) (hafter : ∀ c ∈ after, isBlank c = true)
    (htext : ¬ "<?xml".toList <:+: text) :
    ((∀ e ∈ entries, '?' ∉ e.value ∧ IsSeen e.name) →
      declaration (.ofList (instruction ("xml".toList ++ (listing entries ++ after)) ++ text)) =
        .ofList (kept entries ++ text)) ∧
    ((∃ e ∈ entries, '?' ∈ e.value) →
      declaration (.ofList (instruction ("xml".toList ++ (listing entries ++ after)) ++ text)) =
        .ofList (instruction ("xml".toList ++ (listing entries ++ after)) ++ text)) := by
  have hquiet := quiet_declaration? htext
  rw [declaration, String.toList_ofList]
  constructor
  · intro hseen
    have hbody : ∀ c ∈ listing entries ++ after, c ≠ '?' ∧ c ≠ '<' := by
      intro c hc
      obtain ⟨hopen, -, hmark⟩ := of_mem_listing h hafter hc
      refine ⟨?_, hopen⟩
      rintro rfl
      obtain ⟨e, he, hmem⟩ := hmark rfl
      exact (hseen e he).1 hmem
    have hblank : (listing entries ++ after).head?.all isBlank = true := by
      cases entries with
      | nil => exact (Option.all_eq_true _ _).2 fun c hc => hafter c (List.mem_of_mem_head? hc)
      | cons e entries =>
        have hfits := h e List.mem_cons_self
        obtain ⟨c, gap, hgap⟩ := List.exists_cons_of_ne_nil hfits.gap_ne
        have hc := hfits.gap c (hgap ▸ List.mem_cons_self)
        simp [listing, hgap, hc]
    rw [fix_declaration hbody hblank hquiet,
      write_listing (fun e he => ⟨h e he, (hseen e he).2⟩) hafter]
  · rintro ⟨e, he, hmark⟩
    have hmem : '?' ∈ listing entries ++ after := by
      refine List.mem_append_left after (List.mem_flatMap.2 ⟨e, he, ?_⟩)
      simp [Entry.source, Entry.assignment, hmark]
    rw [fix, Text.replaceTokens_of_quiet]
    refine quiet_of_mem hmem (fun c hc => ?_) hquiet
    obtain ⟨hopen, hclose, -⟩ := of_mem_listing h hafter hc
    exact ⟨hopen, hclose⟩

instance (e : Entry) : Decidable e.Fits :=
  decidable_of_iff (e.gap ≠ [] ∧ (∀ c ∈ e.gap, isBlank c = true) ∧ IsName e.name ∧
      (∀ c ∈ e.before, isBlank c = true) ∧ (∀ c ∈ e.behind, isBlank c = true) ∧
      (e.quote = '"' ∨ e.quote = '\'') ∧ ∀ c ∈ e.value, c ≠ e.quote ∧ c ≠ '<' ∧ c ≠ '>')
    ⟨fun ⟨h₁, h₂, h₃, h₄, h₅, h₆, h₇⟩ => ⟨h₁, h₂, h₃, h₄, h₅, h₆, h₇⟩,
      fun ⟨h₁, h₂, h₃, h₄, h₅, h₆, h₇⟩ => ⟨h₁, h₂, h₃, h₄, h₅, h₆, h₇⟩⟩

/-- A known attribute with blanks around `=`. -/
def spaced : Entry := ⟨"\n\t".toList, "Version".toList, [' '], [' '], '\'', "1.0".toList⟩

/-- An attribute whose value reads like one. -/
def quoting : Entry := ⟨[' '], "ns:note".toList, [], [], '\'', " encoding=\"a\" ".toList⟩

/-- An attribute with a question mark in its value. -/
def asking : Entry := ⟨[' '], "note".toList, [], [], '"', "a?b".toList⟩

theorem declaration_entries_samples :
    declaration "<?xml\n\tVersion = '1.0' ns:note=' encoding=\"a\" ' ?><a/>" =
        "<?xml Version = '1.0'?><a/>" ∧
      declaration "<?xml\n\tVersion = '1.0' note=\"a?b\" ?><a/>" =
        "<?xml\n\tVersion = '1.0' note=\"a?b\" ?><a/>" :=
  ⟨(declaration_entries [spaced, quoting] [' '] "<a/>".toList (by decide) (by decide)
      (by decide)).1 (by decide),
    (declaration_entries [spaced, asking] [' '] "<a/>".toList (by decide) (by decide)
      (by decide)).2 (by decide)⟩

/-- **Not all attributes with other names go**: a question mark keeps them, and of a name with a
letter outside ASCII the rest is read. -/
theorem exists_declaration_ne :
    (∃ e : Entry, e.Fits ∧ '?' ∈ e.value ∧
      declaration (.ofList (instruction ("xml".toList ++ listing [e]) ++ "<a/>".toList)) ≠
        .ofList (kept [e] ++ "<a/>".toList)) ∧
    ∃ e : Entry, e.Fits ∧ ¬ IsSeen e.name ∧ '?' ∉ e.value ∧
      declaration (.ofList (instruction ("xml".toList ++ listing [e]) ++ "<a/>".toList)) ≠
        .ofList (kept [e] ++ "<a/>".toList) :=
  ⟨⟨asking, by decide, by decide, by decide⟩,
    ⟨[' '], "éversion".toList, [], [], '\'', "1.0".toList⟩, by decide, by decide,
      by decide, by decide⟩

end MediaScraper.Repair.Declaration
