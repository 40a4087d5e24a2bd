import MediaScraper.Proofs.Html.Provenance
import MediaScraper.Proofs.Text.Characters
import MediaScraper.Unicode.Word

/-!
# The start tags of a text

A start tag stands in the text, behind a bracket (`exists_readTag_of_read`), and so do the
attributes of all elements of a fragment (`holds_ofFragment`).

**Where an attribute stands** (`exists_source_of_readTag`). A value that is not empty stands in the tag
behind its key, an equals sign and blanks between them; and the key stands behind the name of the
tag and behind a character that is no part of a word. The invariant of the automaton that reads tags
says this of the attributes that it has, and of the one that it is about to have (`Draft.Stands`).
-/

namespace MediaScraper.Html

variable {P : String × String → Prop}

/-! ## Tokens that are start tags -/

theorem declaration_ne_opening {inForeign : Bool} {cs : List Char} {tag : Tag} {n : Nat} :
    declaration inForeign cs ≠ (.opening tag, n) := by
  unfold declaration
  split
  · rintro ⟨⟩
  · split
    · rintro ⟨⟩
    · split
      · split <;> rintro ⟨⟩
      · rintro ⟨⟩

theorem exists_readTag_of_bracket {inForeign : Bool} {cs : List Char} {tag : Tag} {n : Nat}
    (h : bracket inForeign cs = (.opening tag, n)) : ∃ m, readTag cs = some (tag, m) := by
  unfold bracket at h
  split at h
  · exact absurd h declaration_ne_opening
  · cases h
  · cases h
  · split at h
    · split at h <;> cases h
    · split at h <;> cases h
  · split at h
    · split at h
      · next hread =>
        cases h
        exact ⟨_, hread⟩
      · cases h
    · cases h
  · cases h

theorem le_lengthBeforeEnd (name : List Char) (seen : Nat) (cs : List Char) :
    seen ≤ lengthBeforeEnd name seen cs := by
  fun_induction lengthBeforeEnd name seen cs <;> omega

theorem le_scriptLength (veil : Veil) (seen skip : Nat) (cs : List Char) :
    seen ≤ scriptLength veil seen skip cs := by
  fun_induction scriptLength veil seen skip cs <;> omega

theorem head_of_beginsEndTag {name : List Char} {c : Char} {cs : List Char}
    (h : beginsEndTag name (c :: cs) = true) : c = '<' := by
  unfold beginsEndTag at h
  split at h
  · next heq => exact (List.cons.inj heq).1
  · cases h

theorem head_of_lengthBeforeEnd {name : List Char} {c : Char} {cs : List Char}
    (h : lengthBeforeEnd name 0 (c :: cs) = 0) : c = '<' := by
  rw [lengthBeforeEnd] at h
  split at h
  · next hend => exact head_of_beginsEndTag hend
  · have := le_lengthBeforeEnd name (0 + 1) cs
    omega

theorem head_of_scriptLength {veil : Veil} {c : Char} {cs : List Char}
    (h : scriptLength veil 0 0 (c :: cs) = 0) : c = '<' := by
  rw [scriptLength] at h
  split at h
  · next hend => exact head_of_beginsEndTag hend.2
  · split at h
    · next veil skip _ =>
      have := le_scriptLength veil (0 + 1) skip cs
      omega
    · have := le_scriptLength (veil.step c) (0 + 1) 0 cs
      omega

theorem head_of_beforeEnd {n m : Nat} {write : List Char → List Char} {c : Char} {cs : List Char}
    {tag : Tag} (h : beforeEnd n write (c :: cs) = (.opening tag, m)) :
    n = 0 ∧ bracket false cs = (.opening tag, m) := by
  unfold beforeEnd at h
  split at h
  · next hn => exact ⟨hn, h⟩
  · cases h

/-- **A start tag stands behind a bracket.** -/
theorem exists_readTag_of_read {model : ContentModel} {inForeign : Bool} {c : Char} {cs : List Char}
    {tag : Tag} {n : Nat} (h : Token.read model inForeign (c :: cs) = (.opening tag, n)) :
    c = '<' ∧ ∃ m, readTag cs = some (tag, m) := by
  cases model with
  | plain => cases h
  | markup =>
    unfold Token.read at h
    simp only at h
    split at h
    · next heq =>
      obtain ⟨rfl, rfl⟩ := List.cons.inj heq
      exact ⟨rfl, exists_readTag_of_bracket h⟩
    · cases h
  | raw name =>
    obtain ⟨hlength, hbracket⟩ := head_of_beforeEnd h
    exact ⟨head_of_lengthBeforeEnd hlength, exists_readTag_of_bracket hbracket⟩
  | escapable name =>
    obtain ⟨hlength, hbracket⟩ := head_of_beforeEnd h
    exact ⟨head_of_lengthBeforeEnd hlength, exists_readTag_of_bracket hbracket⟩
  | script =>
    obtain ⟨hlength, hbracket⟩ := head_of_beforeEnd h
    exact ⟨head_of_scriptLength hlength, exists_readTag_of_bracket hbracket⟩

/-! ## Elements of a fragment -/

theorem Builder.Holds.read {b : Builder} (h : b.Holds P) {s : List Char}
    (hs : ∀ u tag n, '<' :: u <:+ s → readTag u = some (tag, n) → tag.Holds P) (skip : Nat) :
    (b.read skip s).Holds P := by
  induction s generalizing b skip with
  | nil => exact h
  | cons c s ih =>
    have hbehind : ∀ u tag n, '<' :: u <:+ s → readTag u = some (tag, n) → tag.Holds P :=
      fun u tag n hu => hs u tag n (hu.trans (List.suffix_cons c s))
    cases skip with
    | succ skip => exact ih h hbehind skip
    | zero =>
      rw [Builder.read]
      split
      next token n hread =>
      refine ih (h.accept ?_) hbehind (n - 1)
      cases token with
      | opening tag =>
        obtain ⟨rfl, m, htag⟩ := exists_readTag_of_read hread
        exact hs s tag m (List.suffix_refl _) htag
      | _ => trivial

/-- **All attributes of a fragment stand in its start tags.** -/
theorem holds_ofFragment {s : String}
    (hs : ∀ u tag n, '<' :: u <:+ normalize s.toList → readTag u = some (tag, n) → tag.Holds P) :
    (Forest.ofFragment s).Holds P :=
  (Builder.holds_start.read hs 0).finish

/-! ## Where an attribute stands -/

/-- The front of a tag, up to where a key may begin: it reaches beyond the name, and no word goes on
at its end. -/
def Leads (x : List Char) : Prop :=
  (∃ c ∈ x, isSpace c = true ∨ c = '/') ∧ ∃ y c, x = y ++ [c] ∧ isWordChar c = false

/-- The source of a tag has this key, with a value. -/
def Assigns (name : String) (w : List Char) : Prop :=
  ∃ x key blanks rest, w = x ++ (key ++ (blanks ++ '=' :: rest)) ∧ Leads x ∧
    nameOf key.reverse = name ∧ ∀ c ∈ blanks, isSpace c = true

theorem Assigns.append {name : String} {w : List Char} (h : Assigns name w) (t : List Char) :
    Assigns name (w ++ t) := by
  obtain ⟨x, key, blanks, rest, rfl, hx, hkey, hblanks⟩ := h
  exact ⟨x, key, blanks, rest ++ t, by simp, hx, hkey, hblanks⟩

theorem isWordChar_eq_false {c : Char} (h : isSpace c = true ∨ c = '/' ∨ c = '"' ∨ c = '\'') :
    isWordChar c = false := by
  have hall : ∀ c ∈ [' ', '\t', '\n', '\x0c', '\r', '/', '"', '\''], isWordChar c = false := by
    decide
  refine hall c ?_
  simp only [isSpace, Bool.or_eq_true, decide_eq_true_eq] at h
  simpa [or_assoc] using h

theorem leads_of_ends {w : List Char} {c : Char} (h : isSpace c = true ∨ c = '/') :
    Leads (w ++ [c]) :=
  ⟨⟨c, List.mem_append_right w List.mem_cons_self, h⟩, w, c, rfl,
    isWordChar_eq_false (h.imp_right .inl)⟩

theorem Assigns.leads_of_quote {name : String} {w : List Char} (h : Assigns name w) {q : Char}
    (hq : q = '"' ∨ q = '\'') : Leads (w ++ [q]) := by
  obtain ⟨x, key, blanks, rest, rfl, ⟨⟨c, hc, hends⟩, -⟩, -⟩ := h
  exact ⟨⟨c, by simp [hc], hends⟩, _, q, rfl, isWordChar_eq_false (.inr (.inr hq))⟩

namespace Draft

/-- What has been read of a tag up to some spot. -/
def Stands (w : List Char) (d : Draft) : Prop :=
  match d.spot with
  | .name => True
  | .between | .slash => Leads w
  | .key => d.value = [] ∧ ∃ x, w = x ++ d.key.reverse ∧ Leads x
  | .afterKey => d.value = [] ∧ Leads w ∧
      ∃ x blanks, w = x ++ (d.key.reverse ++ blanks) ∧ Leads x ∧ ∀ c ∈ blanks, isSpace c = true
  | .beforeValue => d.value = [] ∧ Assigns (nameOf d.key) w
  | .quoted q => (q = '"' ∨ q = '\'') ∧ Assigns (nameOf d.key) w
  | .bare => Assigns (nameOf d.key) w

/-- The values of a tag that are not empty stand in its source. -/
structure Reads (w : List Char) (d : Draft) : Prop where
  attributes : ∀ a ∈ d.attributes, a.2 ≠ "" → Assigns a.1 w
  stands : d.Stands w

variable {w : List Char} {d : Draft}

theorem reads_start : Reads [] ⟨.name, [], [], [], []⟩ := ⟨by simp, trivial⟩

/-- The attribute that has been read stands in the source if its value is not empty. -/
theorem assigns_of_mem_finishAttribute (h : ∀ a ∈ d.attributes, a.2 ≠ "" → Assigns a.1 w)
    (hkey : d.value = [] ∨ Assigns (nameOf d.key) w) (spot : Spot) :
    ∀ a ∈ (d.finishAttribute spot).attributes, a.2 ≠ "" → Assigns a.1 w := by
  intro a ha hne
  simp only [finishAttribute] at ha
  split at ha
  · exact h a ha hne
  · rcases List.mem_cons.1 ha with rfl | ha
    · rcases hkey with hvalue | hkey
      · rw [hvalue] at hne
        exact absurd rfl hne
      · exact hkey
    · exact h a ha hne

theorem Reads.step (h : d.Reads w) (c : Char) : (d.step c).Reads (w ++ [c]) := by
  obtain ⟨hattributes, hstands⟩ := h
  have hkept : ∀ a ∈ d.attributes, a.2 ≠ "" → Assigns a.1 (w ++ [c]) :=
    fun a ha hne => (hattributes a ha hne).append [c]
  have hfinished (hkey : d.value = [] ∨ Assigns (nameOf d.key) w) (spot : Spot) :
      ∀ a ∈ (d.finishAttribute spot).attributes, a.2 ≠ "" → Assigns a.1 (w ++ [c]) :=
    assigns_of_mem_finishAttribute hkept (hkey.imp_right (·.append [c])) spot
  have hbetween (hleads : Leads w) : Reads (w ++ [c])
      (if isSpace c then { d with spot := .between }
      else if c = '/' then { d with spot := .slash } else d.beginKey c) := by
    split_ifs with hspace hslash
    · exact ⟨hkept, leads_of_ends (.inl hspace)⟩
    · exact ⟨hkept, leads_of_ends (.inr hslash)⟩
    · exact ⟨hkept, rfl, w, rfl, hleads⟩
  unfold Draft.step
  cases hspot : d.spot <;> simp only [Stands, hspot] at hstands ⊢
  case name =>
    split_ifs with hspace hslash
    · exact ⟨hkept, leads_of_ends (.inl hspace)⟩
    · exact ⟨hkept, leads_of_ends (.inr hslash)⟩
    · exact ⟨hkept, trivial⟩
  case between => exact hbetween hstands
  case slash => exact hbetween hstands
  case key =>
    obtain ⟨hvalue, x, rfl, hx⟩ := hstands
    split_ifs with hspace hslash hequals
    · refine ⟨hkept, hvalue, leads_of_ends (.inl hspace), x, [c], ?_, hx, ?_⟩
      · simp
      · simpa using hspace
    · exact ⟨hfinished (.inl hvalue) .slash, leads_of_ends (.inr hslash)⟩
    · refine ⟨hkept, hvalue, x, d.key.reverse, [], [], ?_, hx, ?_, by simp⟩
      · simp [hequals]
      · rw [List.reverse_reverse]
    · exact ⟨hkept, hvalue, x, by simp, hx⟩
  case afterKey =>
    obtain ⟨hvalue, hleads, x, blanks, rfl, hx, hblanks⟩ := hstands
    split_ifs with hspace hslash hequals
    · refine ⟨hkept, ?_⟩
      simp only [Stands, hspot]
      refine ⟨hvalue, leads_of_ends (.inl hspace), x, blanks ++ [c], by simp, hx, ?_⟩
      intro e he
      rcases List.mem_append.1 he with he | he
      · exact hblanks e he
      · rwa [List.mem_singleton.1 he]
    · exact ⟨hfinished (.inl hvalue) .slash, leads_of_ends (.inr hslash)⟩
    · refine ⟨hkept, hvalue, x, d.key.reverse, blanks, [], ?_, hx, ?_, hblanks⟩
      · simp [hequals]
      · rw [List.reverse_reverse]
    · exact ⟨hfinished (.inl hvalue) .between, rfl, _, rfl, hleads⟩
  case beforeValue =>
    obtain ⟨hvalue, hkey⟩ := hstands
    split_ifs with hspace hquote
    · refine ⟨hkept, ?_⟩
      simp only [Stands, hspot]
      exact ⟨hvalue, hkey.append [c]⟩
    · exact ⟨hkept, hquote, hkey.append [c]⟩
    · exact ⟨hkept, hkey.append [c]⟩
  case quoted q =>
    obtain ⟨hquote, hkey⟩ := hstands
    split_ifs with hq
    · subst hq
      exact ⟨hfinished (.inr hkey) .between, hkey.leads_of_quote hquote⟩
    · exact ⟨hkept, hquote, hkey.append [c]⟩
  case bare =>
    split_ifs with hspace
    · exact ⟨hfinished (.inr hstands) .between, leads_of_ends (.inl hspace)⟩
    · exact ⟨hkept, hstands.append [c]⟩

theorem Reads.finish (h : d.Reads w) : ∀ a ∈ d.finish.attributes, a.2 ≠ "" → Assigns a.1 w := by
  obtain ⟨hattributes, hstands⟩ := h
  have hfinished (hkey : d.value = [] ∨ Assigns (nameOf d.key) w) :
      ∀ a ∈ (d.finishAttribute .between).attributes, a.2 ≠ "" → Assigns a.1 w :=
    assigns_of_mem_finishAttribute hattributes hkey .between
  intro a ha
  unfold Draft.finish at ha
  cases hspot : d.spot <;> simp only [Stands, hspot, List.mem_reverse] at hstands ha
  case key => exact hfinished (.inl hstands.1) a ha
  case afterKey => exact hfinished (.inl hstands.1) a ha
  case beforeValue => exact hfinished (.inl hstands.1) a ha
  case bare => exact hfinished (.inr hstands) a ha
  all_goals exact hattributes a ha

end Draft

theorem exists_source_of_readTagFrom {w : List Char} {d : Draft} (hd : d.Reads w) {u : List Char}
    {seen n : Nat} {tag : Tag} (h : readTagFrom d seen u = some (tag, n)) :
    ∃ v rest, u = v ++ '>' :: rest ∧ n = seen + v.length + 1 ∧
      ∀ a ∈ tag.attributes, a.2 ≠ "" → Assigns a.1 (w ++ v) := by
  induction u generalizing w d seen with
  | nil => cases h
  | cons c u ih =>
    rw [readTagFrom] at h
    split at h
    · next hend =>
      cases h
      exact ⟨[], u, by rw [hend.1]; rfl, rfl, by rw [List.append_nil]; exact hd.finish⟩
    · obtain ⟨v, rest, rfl, hn, hv⟩ := ih (hd.step c) h
      refine ⟨c :: v, rest, rfl, ?_, ?_⟩
      · rw [hn, List.length_cons]
        omega
      · rwa [List.append_assoc, List.singleton_append] at hv

/-- **A value that is not empty stands in its tag.** -/
theorem exists_source_of_readTag {u : List Char} {tag : Tag} {n : Nat}
    (h : readTag u = some (tag, n)) : ∃ v rest, u = v ++ '>' :: rest ∧ n = v.length + 1 ∧
      ∀ a ∈ tag.attributes, a.2 ≠ "" → Assigns a.1 v := by
  obtain ⟨v, rest, hu, hn, hv⟩ := exists_source_of_readTagFrom Draft.reads_start h
  exact ⟨v, rest, hu, by rwa [Nat.zero_add] at hn, hv⟩

end MediaScraper.Html
