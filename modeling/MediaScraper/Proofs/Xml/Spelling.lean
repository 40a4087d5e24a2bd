import MediaScraper.Unicode.CharSet
import MediaScraper.Xml.Event
import MediaScraper.Xml.Reference

/-!
# Names and spellings

How markup is written, as the other side of how it is read.

**Names** (`IsName`) are those of XML: a letter, `_` or `:`, then these, digits, `-`, `.` and marks.
No character that means something in a tag stands in a name (`IsName.not_mem`).

**Spellings** (`Spelling`) of a text write each character as itself, where it may stand plainly, or
by one of the five names. Reading a spelling gives the text back (`unescape_of_spelling`).
-/

namespace MediaScraper.Xml

/-- What holds of the characters of a text is decided from these, not from all characters. -/
instance decidableForallMem (p : Char → Prop) [DecidablePred p] (s : List Char) :
    Decidable (∀ c ∈ s, p c) := List.decidableBAll p s

/-! ## Names -/

/-- The characters that a name may begin with. -/
def nameStarts : CharSet :=
  ⟨[⟨0x3A, 0x3A⟩, ⟨0x41, 0x5A⟩, ⟨0x5F, 0x5F⟩, ⟨0x61, 0x7A⟩, ⟨0xC0, 0xD6⟩, ⟨0xD8, 0xF6⟩,
    ⟨0xF8, 0x2FF⟩, ⟨0x370, 0x37D⟩, ⟨0x37F, 0x1FFF⟩, ⟨0x200C, 0x200D⟩, ⟨0x2070, 0x218F⟩,
    ⟨0x2C00, 0x2FEF⟩, ⟨0x3001, 0xD7FF⟩, ⟨0xF900, 0xFDCF⟩, ⟨0xFDF0, 0xFFFD⟩, ⟨0x10000, 0xEFFFF⟩]⟩

/-- The characters that stand in names, but not first. -/
def nameExtras : CharSet :=
  ⟨[⟨0x2D, 0x2E⟩, ⟨0x30, 0x39⟩, ⟨0xB7, 0xB7⟩, ⟨0x300, 0x36F⟩, ⟨0x203F, 0x2040⟩]⟩

def isNameChar (c : Char) : Bool := nameStarts.contains c || nameExtras.contains c

/-- A name of an element or an attribute. -/
def IsName : List Char → Prop
  | [] => False
  | c :: cs => nameStarts.contains c = true ∧ ∀ d ∈ cs, isNameChar d = true

instance : DecidablePred IsName := fun
  | [] => inferInstanceAs (Decidable False)
  | c :: cs =>
    inferInstanceAs (Decidable (nameStarts.contains c = true ∧ ∀ d ∈ cs, isNameChar d = true))

/-- The characters that mean something in a tag, or in a text that holds tags. -/
def reservedChars : List Char :=
  [' ', '\t', '\r', '\n', '<', '>', '/', '=', '"', '\'', '!', '?', '+', '&', ';']

theorem isNameChar_of_mem_reserved : ∀ c ∈ reservedChars, isNameChar c = false := by decide

namespace IsName

variable {n : List Char}

theorem isNameChar_of_mem (h : IsName n) {c : Char} (hc : c ∈ n) : isNameChar c = true := by
  cases n with
  | nil => exact h.elim
  | cons d ds =>
    rcases List.mem_cons.1 hc with rfl | hc
    · rw [isNameChar, h.1, Bool.true_or]
    · exact h.2 c hc

/-- **Names hold no reserved characters.** -/
theorem not_mem (h : IsName n) {c : Char} (hc : c ∈ reservedChars) : c ∉ n := fun hn => by
  have hno := isNameChar_of_mem_reserved c hc
  rw [h.isNameChar_of_mem hn] at hno
  exact absurd hno (by decide)

theorem ne_of_mem (h : IsName n) {c d : Char} (hc : c ∈ reservedChars) (hd : d ∈ n) : d ≠ c :=
  fun heq => h.not_mem hc (heq ▸ hd)

theorem isSpace_of_mem (h : IsName n) {c : Char} (hc : c ∈ n) : isSpace c = false := by
  have h1 := h.ne_of_mem (c := ' ') (by decide) hc
  have h2 := h.ne_of_mem (c := '\t') (by decide) hc
  have h3 := h.ne_of_mem (c := '\r') (by decide) hc
  have h4 := h.ne_of_mem (c := '\n') (by decide) hc
  simp [isSpace, h1, h2, h3, h4]

end IsName

/-! ## Spellings -/

/-- `Spelling plain s w`: the characters of `w` spell the text `s`. A character stands for itself if
it is plain; any of the five named ones can be written by its name. -/
inductive Spelling (plain : Char → Bool) : List Char → List Char → Prop
  | nil : Spelling plain [] []
  | plain {c : Char} {s w : List Char} :
      plain c = true → Spelling plain s w → Spelling plain (c :: s) (c :: w)
  | named {c : Char} {name s w : List Char} :
      Entity.predefined? name = some c → Spelling plain s w →
        Spelling plain (c :: s) ('&' :: name ++ ';' :: w)

/-- What may stand plainly in a value between double quotes: brackets may. -/
def plainInValue (c : Char) : Bool := c ≠ '&' && c ≠ '"'

/-- What may stand plainly between tags. -/
def plainInText (c : Char) : Bool := c ≠ '&' && c ≠ '<'

/-- The characters that have a name. -/
def namedChars : List Char := ['<', '>', '&', '"', '\'']

theorem mem_namedChars_of_plainInValue {c : Char} (h : plainInValue c = false) :
    c ∈ namedChars := by
  by_cases hc : c = '&' <;> simp_all [plainInValue, namedChars]

theorem mem_namedChars_of_plainInText {c : Char} (h : plainInText c = false) : c ∈ namedChars := by
  by_cases hc : c = '&' <;> simp_all [plainInText, namedChars]

/-- Every text has a spelling, if all but the named characters are plain. -/
theorem exists_spelling {plain : Char → Bool} (h : ∀ {c}, plain c = false → c ∈ namedChars)
    (s : List Char) :
    ∃ w, Spelling plain s w := by
  induction s with
  | nil => exact ⟨[], .nil⟩
  | cons c s ih =>
    obtain ⟨w, hw⟩ := ih
    cases hc : plain c with
    | true => exact ⟨c :: w, .plain hc hw⟩
    | false =>
      have hname : ∃ name, Entity.predefined? name = some c := by
        have hmem := h hc
        simp only [namedChars, List.mem_cons, List.not_mem_nil, or_false] at hmem
        rcases hmem with rfl | rfl | rfl | rfl | rfl
        · exact ⟨['l', 't'], rfl⟩
        · exact ⟨['g', 't'], rfl⟩
        · exact ⟨['a', 'm', 'p'], rfl⟩
        · exact ⟨['q', 'u', 'o', 't'], rfl⟩
        · exact ⟨['a', 'p', 'o', 's'], rfl⟩
      obtain ⟨name, hname⟩ := hname
      exact ⟨_, .named hname hw⟩

theorem spelling_self {plain : Char → Bool} {s : List Char} (h : ∀ c ∈ s, plain c = true) :
    Spelling plain s s := by
  induction s with
  | nil => exact .nil
  | cons c s ih =>
    exact .plain (h c List.mem_cons_self) (ih fun d hd => h d (List.mem_cons_of_mem c hd))

theorem eq_of_predefined? {name : List Char} {c : Char} (h : Entity.predefined? name = some c) :
    (name = ['l', 't'] ∧ c = '<') ∨ (name = ['g', 't'] ∧ c = '>') ∨
      (name = ['a', 'm', 'p'] ∧ c = '&') ∨ (name = ['q', 'u', 'o', 't'] ∧ c = '"') ∨
      (name = ['a', 'p', 'o', 's'] ∧ c = '\'') := by
  unfold Entity.predefined? at h
  split at h <;> cases h <;> simp

/-- A character that is neither plain nor part of a reference stands in no spelling. -/
theorem Spelling.not_mem {plain : Char → Bool} {s w : List Char} (h : Spelling plain s w)
    {c : Char} (hc : plain c = false)
    (hn : c ∉ ['&', ';', 'l', 't', 'g', 'a', 'm', 'p', 'q', 'u', 'o', 's']) : c ∉ w := by
  induction h with
  | nil => exact List.not_mem_nil
  | plain hd _ ih =>
    rintro (_ | ⟨_, hw⟩)
    · rw [hd] at hc
      cases hc
    · exact ih hw
  | named hd _ ih =>
    rcases eq_of_predefined? hd with h | h | h | h | h <;> obtain ⟨rfl, rfl⟩ := h <;>
      simp_all

theorem unescapeFrom_of_spelling {plain : Char → Bool} (hp : plain '&' = false)
    {s w : List Char} (h : Spelling plain s w) (size position : Nat) (out : List Char) :
    unescapeFrom size position out 0 w = .ok (out.reverse ++ s) := by
  induction h generalizing position out with
  | nil => simp [unescapeFrom]
  | @plain c s w hc _ ih =>
    have hne : c ≠ '&' := by
      rintro rfl
      rw [hp] at hc
      cases hc
    rw [unescapeFrom, if_neg hne, ih]
    simp
  | named hd _ ih =>
    rcases eq_of_predefined? hd with h | h | h | h | h <;> obtain ⟨rfl, rfl⟩ := h <;>
      simp [unescapeFrom, resolve, Entity.predefined?, ih]

/-- **Reading a spelling gives the text back.** -/
theorem unescape_of_spelling {plain : Char → Bool} (hp : plain '&' = false) {s w : List Char}
    (h : Spelling plain s w) : unescape w = .ok s :=
  unescapeFrom_of_spelling hp h _ 0 []

end MediaScraper.Xml
