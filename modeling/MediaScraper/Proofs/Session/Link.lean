import Mathlib.Data.List.Dedup
import Mathlib.Data.List.Infix
import MediaScraper.Proofs.Pattern.Found
import MediaScraper.Proofs.Text.Characters
import MediaScraper.Proofs.Unicode.CaseFolding
import MediaScraper.Proofs.Xml.Attribute

/-!
# Links of a search page

A pattern for the links by which a page lists what it has found. Compiled, it is an expression of
words up to case, with groups between them (`compile_linkSource`). What it matches are links
(`Link.Fits`), and a text reads as a link in one way only (`Link.Fits.eq_of_append`), so what is
remembered are the places of the parts of the link (`Link.remembers_iff`).
-/

namespace MediaScraper

open Pattern

/-! ## The pattern -/

/-- The pattern of a link: its groups are an id, a title and a year. -/
def linkSource : String := "<a href=\"/title/(tt[0-9]+)\">([^<]*)</a> \\(([0-9]{4})\\)"

/-- The parts of a link: words, and between them an id (letters and a number), a title and a
year. -/
structure Link where
  opener : List Char
  letters : List Char
  number : List Char
  middle : List Char
  title : List Char
  closer : List Char
  year : List Char
  last : List Char

namespace Link

/-! The words of a link: what stands before the id, what the id begins with, and what stands behind
the id, behind the title and behind the year. -/

def openerWord : List Char := "<a href=\"/title/".toList

def idWord : List Char := ['t', 't']

def middleWord : List Char := "\">".toList

def closerWord : List Char := "</a> (".toList

def lastWord : List Char := [')']

/-- A character up to case. -/
def letterSet (c : Char) : CharSet := CaseFolding.close (.singleton c.toNat)

def digitSet : CharSet := CaseFolding.close (.ofRanges [⟨0x30, 0x39⟩])

/-- All characters but `<`. -/
def titleSet : CharSet := (CaseFolding.close (.ofRanges [⟨0x3C, 0x3C⟩])).compl

/-- The expression of a link, given the sets for the letters of its words, for digits and for the
characters of a title. -/
def regexOf (letter : Char → CharSet) (digit title : CharSet) : Regex :=
  let word (cs : List Char) : List Regex := (cs.map letter).map .set
  .concat (word openerWord ++
    (.capture 1 (.concat (word idWord ++ [.repeated 1 none true (.set digit)])) ::
      (word middleWord ++ (.capture 2 (.repeated 0 none true (.set title)) ::
        (word closerWord ++ (.capture 3 (.repeated 4 (some 4) true (.set digit)) ::
          word lastWord))))))

/-- The expression of a link. -/
def regex : Regex := regexOf letterSet digitSet titleSet

/-! ## Its sets of characters -/

/-- The characters of the words. -/
def wordChars : List Char := openerWord ++ idWord ++ middleWord ++ closerWord ++ lastWord

theorem letterSet_eq {c : Char} (hc : c ∈ wordChars) : letterSet c = CaseFolding.caseless c := by
  -- many characters stand in several words, so each is looked up once
  have hsmall : ∀ c ∈ wordChars.dedup, c.toNat < 0xD800 := by decide
  have himages : ∀ c ∈ wordChars.dedup,
      CaseFolding.blocks.flatMap (CaseFolding.images ⟨c.toNat, c.toNat⟩) = [] := by decide +kernel
  have hsources : ∀ c ∈ wordChars.dedup, CaseFolding.blocks.flatMap
      (CaseFolding.sources ⟨c.toNat, c.toNat⟩) = CaseFolding.capital c := by decide +kernel
  have hmem : c ∈ wordChars.dedup := List.mem_dedup.2 hc
  exact CaseFolding.close_eq_caseless (hsmall c hmem) (himages c hmem) (hsources c hmem)

theorem digitSet_eq : digitSet = ⟨[⟨0x30, 0x39⟩]⟩ := by decide +kernel

theorem titleSet_eq : titleSet = ⟨[⟨0, 0x3B⟩, ⟨0x3D, 0xD7FF⟩, ⟨0xE000, 0x10FFFF⟩]⟩ := by
  have hbracket : CaseFolding.close (.ofRanges [⟨0x3C, 0x3C⟩]) = ⟨[⟨0x3C, 0x3C⟩]⟩ := by
    decide +kernel
  have hgaps : (CharSet.gaps 0 [⟨0x3C, 0x3C⟩]).flatMap CharSet.dropSurrogates =
      [⟨0, 0x3B⟩, ⟨0x3D, 0xD7FF⟩, ⟨0xE000, 0x10FFFF⟩] := by decide
  rw [titleSet, hbracket, CharSet.compl, CharSet.ofRanges, hgaps,
    List.mergeSort_of_pairwise (by decide)]
  rfl

theorem contains_letterSet_iff {c : Char} (hc : c ∈ wordChars) (d : Char) :
    (letterSet c).contains d = true ↔ d.toLower = c := by
  have hupper : ∀ c ∈ wordChars, c.isUpper = false := by decide
  rw [letterSet_eq hc, CaseFolding.contains_caseless_iff (hupper c hc)]

theorem contains_digitSet_iff (c : Char) : digitSet.contains c = true ↔ c.isDigit = true := by
  rw [digitSet_eq]
  simp only [CharSet.contains, CharSet.containsScalar, CharSet.containsFrom, Char.isDigit,
    UInt32.le_iff_toNat_le, ge_iff_le]
  change _ ↔ (decide (48 ≤ c.toNat) && decide (c.toNat ≤ 57)) = true
  split <;> simp <;> omega

theorem contains_titleSet_iff (c : Char) : titleSet.contains c = true ↔ c ≠ '<' := by
  have hvalid : c.toNat < 0xD800 ∨ 0xDFFF < c.toNat ∧ c.toNat < 0x110000 := c.valid
  have hne : c ≠ '<' ↔ c.toNat ≠ 0x3C := by rw [ne_eq, ← Char.toNat_inj]; rfl
  rw [titleSet_eq, hne]
  simp only [CharSet.contains, CharSet.containsScalar, CharSet.containsFrom]
  split <;> [skip; split <;> [skip; split]] <;> simp <;> omega

/-! ## Compiling the pattern -/

theorem regex_eq : regex = regexOf CaseFolding.caseless digitSet titleSet := by
  have hword (cs : List Char) (h : ∀ c ∈ cs, c ∈ wordChars) :
      cs.map letterSet = cs.map CaseFolding.caseless :=
    List.map_congr_left fun c hc => letterSet_eq (h c hc)
  simp only [regex, regexOf]
  rw [hword openerWord (by decide), hword idWord (by decide), hword middleWord (by decide),
    hword closerWord (by decide), hword lastWord (by decide)]

set_option maxRecDepth 20000 in
theorem parse?_linkSource : parse? linkSource.toList = some regex := by rfl

theorem fits_regex : Size.fits regex = true := by
  rw [regex_eq, digitSet_eq, titleSet_eq]
  decide

/-- **The pattern of a link** is compiled from its expression. -/
theorem compile_linkSource : Pattern.compile linkSource = ofRegex linkSource.toList regex := by
  have haccept : accept? Size.fits linkSource.toList = some regex := by
    rw [accept?, parse?_linkSource, Option.filter_some, if_pos fits_regex]
  rw [Pattern.compile, compileWith, haccept]

theorem groupCount_regex : regex.groupCount = 3 := by
  rw [regex_eq, digitSet_eq, titleSet_eq]
  decide

/-! ## Links -/

def id (l : Link) : List Char := l.letters ++ l.number

def text (l : Link) : List Char :=
  l.opener ++ (l.id ++ (l.middle ++ (l.title ++ (l.closer ++ (l.year ++ l.last)))))

/-- A text is a word up to case. -/
def Spells (word t : List Char) : Prop := t.map Char.toLower = word

/-- The parts are those of a link. -/
structure Fits (l : Link) : Prop where
  opener : Spells openerWord l.opener
  letters : Spells idWord l.letters
  number_ne_nil : l.number ≠ []
  number : ∀ c ∈ l.number, c.isDigit = true
  middle : Spells middleWord l.middle
  title : '<' ∉ l.title
  closer : Spells closerWord l.closer
  length_year : l.year.length = 4
  year : ∀ c ∈ l.year, c.isDigit = true
  last : Spells lastWord l.last

/-! The spans of the groups of a link that stands between two parts of a text. -/

def idSpan (l : Link) (before behind : List Char) : Span :=
  .between (before ++ l.opener) l.id
    (l.middle ++ (l.title ++ (l.closer ++ (l.year ++ (l.last ++ behind)))))

def titleSpan (l : Link) (before behind : List Char) : Span :=
  .between (before ++ l.opener ++ l.id ++ l.middle) l.title
    (l.closer ++ (l.year ++ (l.last ++ behind)))

def yearSpan (l : Link) (before behind : List Char) : Span :=
  .between (before ++ l.opener ++ l.id ++ l.middle ++ l.title ++ l.closer) l.year
    (l.last ++ behind)

/-- What is remembered of a link. -/
def saves (l : Link) (before behind : List Char) : Saves :=
  let whole := Span.between before l.text behind
  [(1, whole.stop), (7, (l.yearSpan before behind).stop), (6, (l.yearSpan before behind).start),
    (5, (l.titleSpan before behind).stop), (4, (l.titleSpan before behind).start),
    (3, (l.idSpan before behind).stop), (2, (l.idSpan before behind).start), (0, whole.start)]

/-- The match of a link. -/
def toMatch (l : Link) (before behind : List Char) : Match :=
  ⟨.between before l.text behind, [some (l.idSpan before behind),
    some (l.titleSpan before behind), some (l.yearSpan before behind)]⟩

theorem ofSaves?_saves (l : Link) (before behind : List Char) :
    Match.ofSaves? 3 (l.saves before behind) = some (l.toMatch before behind) := rfl

/-! ## What the expression matches -/

theorem reads_word {cs : List Char} (h : ∀ c ∈ cs, c ∈ wordChars) :
    Reads (MatchesAll ((cs.map letterSet).map .set)) (Spells cs) := by
  refine (Regex.reads_sets _).congr fun t => ?_
  rw [Spells]
  induction cs generalizing t with
  | nil => simp
  | cons c cs ih =>
    obtain ⟨hc, hcs⟩ := List.forall_mem_cons.1 h
    cases t with
    | nil => simp
    | cons d t =>
      rw [List.map_cons, List.forall₂_cons, List.map_cons, List.cons.injEq,
        contains_letterSet_iff hc, ih hcs]

theorem reads_id : Reads (Regex.concat ((idWord.map letterSet).map .set ++
    [.repeated 1 none true (.set digitSet)])).Matches fun t =>
      ∃ a b, t = a ++ b ∧ Spells idWord a ∧ b ≠ [] ∧ ∀ c ∈ b, c.isDigit = true := by
  have hnumber : Reads (MatchesAll [.repeated 1 none true (.set digitSet)]) _ :=
    fun before rest saves y => matchesAll_singleton.trans
      (Regex.reads_repeated_set digitSet 1 none true before rest saves y)
  have hword : ∀ c ∈ idWord, c ∈ wordChars := by decide
  have hparts := (reads_word hword).along hnumber
  intro before rest saves y
  rw [Regex.matches_concat_iff, matchesAll_append]
  refine (hparts.congr fun t => ?_) before rest saves y
  simp only [contains_digitSet_iff, Nat.one_le_iff_ne_zero, List.length_eq_zero_iff.ne]
  simp

theorem reads_title :
    Reads (Regex.repeated 0 none true (.set titleSet)).Matches fun t => '<' ∉ t := by
  refine (Regex.reads_repeated_set titleSet 0 none true).congr fun t => ?_
  constructor
  · rintro ⟨-, htitle⟩ hmem
    exact (contains_titleSet_iff '<').1 (htitle '<' hmem) rfl
  · intro hmem
    exact ⟨⟨Nat.zero_le _, by simp⟩, fun c hc =>
      (contains_titleSet_iff c).2 fun heq => hmem (heq ▸ hc)⟩

theorem reads_year : Reads (Regex.repeated 4 (some 4) true (.set digitSet)).Matches fun t =>
    t.length = 4 ∧ ∀ c ∈ t, c.isDigit = true := by
  refine (Regex.reads_repeated_set digitSet 4 (some 4) true).congr fun t => ?_
  simp only [contains_digitSet_iff, Option.mem_some_iff, forall_eq', Nat.max_self]
  rw [and_comm (a := 4 ≤ t.length), Nat.le_antisymm_iff]

/-- What the groups of a link add to what was remembered before it. -/
def remembered (l : Link) (before behind : List Char) (saves : Saves) : Saves :=
  (7, (l.yearSpan before behind).stop) :: (6, (l.yearSpan before behind).start) ::
    (5, (l.titleSpan before behind).stop) :: (4, (l.titleSpan before behind).start) ::
    (3, (l.idSpan before behind).stop) :: (2, (l.idSpan before behind).start) :: saves

/-- **What the expression matches** are links. -/
theorem exists_of_matches {before rest : List Char} {saves : Saves} {y : State}
    (h : regex.Matches (.between before rest, saves) y) :
    ∃ (l : Link) (behind : List Char), l.Fits ∧ rest = l.text ++ behind ∧
      y = (.between (before ++ l.text) behind, l.remembered before behind saves) := by
  rw [regex, regexOf, Regex.matches_concat_iff, matchesAll_append] at h
  obtain ⟨z, m, z', m', hrest⟩ := h
  obtain ⟨opener, rest, rfl, hopener, rfl⟩ := (reads_word (by decide) _ _ _ _).1 m
  obtain ⟨_, rest, rfl, ⟨letters, number, rfl, hletters, hne, hnumber⟩, rfl⟩ :=
    (Regex.matches_capture_iff reads_id).1 m'
  obtain ⟨z, m, z', m', hrest⟩ := matchesAll_append.1 hrest
  obtain ⟨middle, rest, rfl, hmiddle, rfl⟩ := (reads_word (by decide) _ _ _ _).1 m
  obtain ⟨title, rest, rfl, htitle, rfl⟩ := (Regex.matches_capture_iff reads_title).1 m'
  obtain ⟨z, m, z', m', hrest⟩ := matchesAll_append.1 hrest
  obtain ⟨closer, rest, rfl, hcloser, rfl⟩ := (reads_word (by decide) _ _ _ _).1 m
  obtain ⟨year, rest, rfl, ⟨hlength, hyear⟩, rfl⟩ := (Regex.matches_capture_iff reads_year).1 m'
  obtain ⟨last, behind, rfl, hlast, rfl⟩ := (reads_word (by decide) _ _ _ _).1 hrest
  refine ⟨⟨opener, letters, number, middle, title, closer, year, last⟩, behind, ?_, ?_, ?_⟩
  · exact
      { opener := hopener
        letters := hletters
        number_ne_nil := hne
        number := hnumber
        middle := hmiddle
        title := htitle
        closer := hcloser
        length_year := hlength
        year := hyear
        last := hlast }
  · simp [text, id]
  · simp [text, id, remembered, idSpan, titleSpan, yearSpan, Span.between]

/-- **The expression matches every link.** -/
theorem Fits.matches {l : Link} (h : l.Fits) (before behind : List Char) (saves : Saves) :
    regex.Matches (.between before (l.text ++ behind), saves)
      (.between (before ++ l.text) behind, l.remembered before behind saves) := by
  have hid : ∃ a b, l.id = a ++ b ∧ Spells idWord a ∧ b ≠ [] ∧ ∀ c ∈ b, c.isDigit = true :=
    ⟨l.letters, l.number, rfl, h.letters, h.number_ne_nil, h.number⟩
  have htext : l.text ++ behind = l.opener ++ (l.id ++ (l.middle ++ (l.title ++ (l.closer ++
      (l.year ++ (l.last ++ behind)))))) := by simp [text]
  rw [regex, regexOf, Regex.matches_concat_iff, htext]
  refine matchesAll_append.2 ⟨_, (reads_word (by decide) _ _ _ _).2 ⟨_, _, rfl, h.opener, rfl⟩, _,
    (Regex.matches_capture_iff reads_id).2 ⟨_, _, rfl, hid, rfl⟩, ?_⟩
  refine matchesAll_append.2 ⟨_, (reads_word (by decide) _ _ _ _).2 ⟨_, _, rfl, h.middle, rfl⟩, _,
    (Regex.matches_capture_iff reads_title).2 ⟨_, _, rfl, h.title, rfl⟩, ?_⟩
  refine matchesAll_append.2 ⟨_, (reads_word (by decide) _ _ _ _).2 ⟨_, _, rfl, h.closer, rfl⟩, _,
    (Regex.matches_capture_iff reads_year).2 ⟨_, _, rfl, ⟨h.length_year, h.year⟩, rfl⟩, ?_⟩
  refine (reads_word (by decide) _ _ _ _).2 ⟨_, _, rfl, h.last, ?_⟩
  simp [text, remembered, idSpan, titleSpan, yearSpan, Span.between]

theorem remembers_iff {before rest : List Char} {w : Saves} : regex.Remembers before rest w ↔
    ∃ (l : Link) (behind : List Char), l.Fits ∧ rest = l.text ++ behind ∧
      w = l.saves before behind := by
  constructor
  · rintro ⟨stop, saves, hmatches, rfl⟩
    obtain ⟨l, behind, hl, rfl, heq⟩ := exists_of_matches hmatches
    cases heq
    exact ⟨l, behind, hl, rfl, rfl⟩
  · rintro ⟨l, behind, hl, rfl, rfl⟩
    exact ⟨_, _, hl.matches before behind _, rfl⟩

/-! ## Links are told apart -/

theorem Spells.length_eq {word s t : List Char} (hs : Spells word s) (ht : Spells word t) :
    s.length = t.length := by
  rw [← List.length_map (f := Char.toLower), hs, ← ht, List.length_map]

theorem append_inj_of_stretch {p : Char → Bool} {s t x y : List Char} (h : s ++ x = t ++ y)
    (hs : ∀ c ∈ s, p c = true) (ht : ∀ c ∈ t, p c = true) (hx : ∀ c ∈ x.head?, p c = false)
    (hy : ∀ c ∈ y.head?, p c = false) : s = t ∧ x = y := by
  have heq : s = t := by
    rw [← Xml.takeWhile_stretch hs hx, h, Xml.takeWhile_stretch ht hy]
  subst heq
  exact ⟨rfl, List.append_cancel_left h⟩

/-- What a word begins with, if it is no letter. -/
theorem Spells.eq_cons {d : Char} {word t : List Char} (h : Spells (d :: word) t)
    (hd : d.isLower = false) : ∃ t', t = d :: t' := by
  cases t with
  | nil => cases h
  | cons c t => exact ⟨t, by rw [CaseFolding.eq_of_toLower_eq (List.cons.inj h).1 hd]⟩

/-- **A text reads as a link in one way only.** -/
theorem Fits.eq_of_append {k l : Link} (hk : k.Fits) (hl : l.Fits) {x y : List Char}
    (h : k.text ++ x = l.text ++ y) : k = l ∧ x = y := by
  have hquote {m : Link} (hm : m.Fits) (rest : List Char) :
      ∀ c ∈ (m.middle ++ rest).head?, c.isDigit = false := by
    obtain ⟨t, ht⟩ := hm.middle.eq_cons (by decide)
    rw [ht]
    rintro c ⟨⟩
    decide
  have hbracket {m : Link} (hm : m.Fits) (rest : List Char) :
      ∀ c ∈ (m.closer ++ rest).head?, (c != '<') = false := by
    obtain ⟨t, ht⟩ := hm.closer.eq_cons (by decide)
    rw [ht]
    rintro c ⟨⟩
    decide
  have htitle {m : Link} (hm : m.Fits) : ∀ c ∈ m.title, (c != '<') = true := fun c hc =>
    bne_iff_ne.2 fun heq => hm.title (heq ▸ hc)
  simp only [text, id, List.append_assoc] at h
  obtain ⟨hopener, h⟩ := List.append_inj h (hk.opener.length_eq hl.opener)
  obtain ⟨hletters, h⟩ := List.append_inj h (hk.letters.length_eq hl.letters)
  obtain ⟨hnumber, h⟩ := append_inj_of_stretch h hk.number hl.number (hquote hk _) (hquote hl _)
  obtain ⟨hmiddle, h⟩ := List.append_inj h (hk.middle.length_eq hl.middle)
  obtain ⟨htitle, h⟩ :=
    append_inj_of_stretch h (htitle hk) (htitle hl) (hbracket hk _) (hbracket hl _)
  obtain ⟨hcloser, h⟩ := List.append_inj h (hk.closer.length_eq hl.closer)
  obtain ⟨hyear, h⟩ := List.append_inj h (hk.length_year.trans hl.length_year.symm)
  obtain ⟨hlast, h⟩ := List.append_inj h (hk.last.length_eq hl.last)
  obtain ⟨_, _, _, _, _, _, _, _⟩ := k
  obtain ⟨_, _, _, _, _, _, _, _⟩ := l
  simp_all

/-- A link is the only match from where it begins. -/
theorem Fits.remembers_iff {l : Link} (h : l.Fits) {before behind : List Char} {w : Saves} :
    regex.Remembers before (l.text ++ behind) w ↔ w = l.saves before behind := by
  rw [Link.remembers_iff]
  constructor
  · rintro ⟨k, behind', hk, heq, rfl⟩
    obtain ⟨rfl, rfl⟩ := h.eq_of_append hk heq
    rfl
  · rintro rfl
    exact ⟨l, behind, h, rfl, rfl⟩

/-! ## Texts without links -/

/-- Nowhere in the text is what a link begins with, up to case. -/
def Linkless (s : List Char) : Prop :=
  ∀ u, u <:+ s → Text.startsIgnoringCase (openerWord ++ idWord) u = false

instance : DecidablePred Linkless := fun s =>
  decidable_of_iff (∀ u ∈ s.tails, Text.startsIgnoringCase (openerWord ++ idWord) u = false)
    (forall_congr' fun _ => by rw [List.mem_tails])

theorem startsIgnoringCase_append {word s : List Char} (h : Spells word s)
    (hword : word.map Char.toLower = word) (rest : List Char) :
    Text.startsIgnoringCase word (s ++ rest) = true := by
  have hlength : s.length = word.length := by rw [← h, List.length_map]
  rw [Text.startsIgnoringCase, Text.eqIgnoringCase, ← hlength, List.take_left, hword, h,
    beq_self_eq_true]

/-- A link that begins in a text without links would reach over its end: there is no bracket inside
of what a link begins with. -/
theorem Linkless.silentUpTo {gap : List Char} (h : Linkless gap) {behind : List Char}
    (hbehind : ∀ c ∈ behind.head?, c = '<') (before : List Char) :
    regex.SilentUpTo before gap behind := by
  intro a b hgap hb w hw
  obtain ⟨l, rest, hl, heq, -⟩ := Link.remembers_iff.1 hw
  have hfront : Spells (openerWord ++ idWord) (l.opener ++ l.letters) := by
    rw [Spells, List.map_append, hl.opener, hl.letters]
  have hword : (openerWord ++ idWord).map Char.toLower = openerWord ++ idWord := by decide
  have hstart (u : List Char) : b ≠ l.opener ++ l.letters ++ u := by
    intro hu
    have hnone := h b ⟨a, hgap.symm⟩
    rw [hu, startsIgnoringCase_append hfront hword] at hnone
    cases hnone
  have htext : l.text ++ rest = (l.opener ++ l.letters) ++ (l.number ++ (l.middle ++ (l.title ++
      (l.closer ++ (l.year ++ (l.last ++ rest)))))) := by simp [text, id]
  rcases List.append_eq_append_iff.1 (heq.trans htext) with ⟨t, ht, hrest⟩ | ⟨t, ht, -⟩
  · cases t with
    | nil => exact hstart [] (by rw [ht, List.append_nil, List.append_nil])
    | cons c t =>
      have hc : c = '<' := hbehind c (by rw [hrest]; rfl)
      subst hc
      have hmem : '<' ∈ (l.opener ++ l.letters).tail := by
        rw [ht, List.tail_append_of_ne_nil hb]
        exact List.mem_append_right _ List.mem_cons_self
      have hlower := List.mem_map_of_mem (f := Char.toLower) hmem
      rw [List.map_tail, hfront] at hlower
      exact absurd hlower (by decide)
  · exact hstart t ht

theorem Linkless.not_remembers {gap : List Char} (h : Linkless gap) (before a b : List Char)
    (hgap : gap = a ++ b) (w : Saves) : ¬ regex.Remembers (before ++ a) b w := by
  by_cases hb : b = []
  · subst hb
    intro hw
    obtain ⟨l, rest, hl, heq, -⟩ := Link.remembers_iff.1 hw
    rw [text] at heq
    have hopener : l.opener = [] :=
      (List.append_eq_nil_iff.1 (List.append_eq_nil_iff.1 heq.symm).1).1
    have hword : [].map Char.toLower = openerWord := hopener ▸ hl.opener
    exact absurd hword (by decide)
  · have hend : ∀ c ∈ ([] : List Char).head?, c = '<' := by rintro c ⟨⟩
    have hsilent := h.silentUpTo hend before a b hgap hb w
    rwa [List.append_nil] at hsilent

end Link
end MediaScraper
