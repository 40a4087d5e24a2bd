import MediaScraper.Html.Reference
import MediaScraper.Proofs.Repair.Tag
import MediaScraper.Proofs.Text.Numeral
import MediaScraper.Proofs.Text.Replacement
import MediaScraper.Repair.NamedEntities

/-!
# Texts that use the names of HTML

**Meaning.** A text that uses names of HTML stands for what it stands for when each of them is
spelled by the numbers of its characters, which every reader of markup knows (`spelled`).

**Writing out.** The repair writes characters in the place of names (`decode`). Where each name has
one character, a text stands for the same when its names are written out as when they are spelled
(`denotes_decode`). A text that reads as it stands is not changed (`decode_of_denotes`). Names hold
no brackets, and none are written for them, so brackets may be escaped before names are written out
or behind it (`decode_escapeBracket`).
-/

namespace MediaScraper.Repair.NamedEntities

open Xml Brackets

/-! ## Names in a text -/

/-- A letter, then letters and digits. -/
def IsEntityName (name : List Char) : Prop :=
  name.head?.any Char.isAlpha = true ∧ ∀ c ∈ name, c.isAlphanum = true

/-- A name between `&` and `;`. -/
def reference (name : List Char) : List Char := '&' :: name ++ [';']

/-- **A name is read** between `&` and `;`. -/
theorem name?_eq_some_iff {s name : List Char} {n : Nat} :
    name? s = some (name, n) ↔
      IsEntityName name ∧ n = (reference name).length ∧ reference name <+: s := by
  constructor
  · intro h
    unfold name? at h
    split at h
    · next c cs =>
      split at h
      · next hc =>
        rcases hspan : cs.span Char.isAlphanum with ⟨more, rest⟩
        obtain ⟨rfl, hmore, -⟩ := of_span hspan
        simp only [hspan] at h
        split at h
        · next rest =>
          cases h
          refine ⟨⟨by simpa using hc, List.forall_mem_cons.2 ⟨?_, hmore⟩⟩, ?_, rest, ?_⟩
          · rw [Char.isAlphanum, hc, Bool.true_or]
          · simp [reference]
          · simp [reference]
        · cases h
      · cases h
    · cases h
  · rintro ⟨⟨hhead, hall⟩, rfl, rest, rfl⟩
    cases name with
    | nil => cases hhead
    | cons c more =>
      obtain ⟨-, hmore⟩ := List.forall_mem_cons.1 hall
      have hc : c.isAlpha = true := by simpa using hhead
      have hspan : (more ++ ([';'] ++ rest)).span Char.isAlphanum = (more, [';'] ++ rest) :=
        span_stretch hmore (by rintro d ⟨⟩; decide)
      have htext : reference (c :: more) ++ rest = '&' :: c :: (more ++ ([';'] ++ rest)) := by
        simp [reference]
      rw [htext, name?, if_pos hc, hspan]
      simp [reference]

theorem name?_reference {name : List Char} (h : IsEntityName name) (s : List Char) :
    name? (reference name ++ s) = some (name, (reference name).length) :=
  name?_eq_some_iff.2 ⟨h, rfl, List.prefix_append _ s⟩

theorem reference_ne_nil (name : List Char) : reference name ≠ [] := by simp [reference]

theorem name?_of_ne {c : Char} (hc : c ≠ '&') (s : List Char) : name? (c :: s) = none := by
  unfold name?
  split
  · next heq => exact absurd (List.cons.inj heq).1 hc
  · rfl

theorem IsEntityName.not_mem {name : List Char} (h : IsEntityName name) {c : Char}
    (hc : c.isAlphanum = false) : c ∉ name := fun hmem => by
  rw [h.2 c hmem] at hc
  cases hc

theorem IsEntityName.plain {name : List Char} (h : IsEntityName name) :
    ∀ c ∈ name, c ≠ '&' ∧ c ≠ ';' :=
  fun _ hc => ⟨fun heq => h.not_mem (by decide) (heq ▸ hc),
    fun heq => h.not_mem (by decide) (heq ▸ hc)⟩

theorem amp_not_mem_body {body : List Char} (h : ∀ c ∈ body, c ≠ '&' ∧ c ≠ ';') :
    '&' ∉ body ++ [';'] := by
  intro hmem
  rcases List.mem_append.1 hmem with hmem | hmem
  · exact (h _ hmem).1 rfl
  · exact absurd hmem (by decide)

/-- What follows a name must not go on with it. -/
theorem name?_append {s z : List Char} (hs : s ≠ [])
    (hz : ∀ c ∈ z.head?, c ≠ ';' ∧ c.isAlphanum = false) : name? (s ++ z) = name? s := by
  refine Option.ext fun ⟨name, n⟩ => ?_
  rw [name?_eq_some_iff, name?_eq_some_iff]
  refine and_congr_right fun hname => and_congr_right fun _ =>
    ⟨fun ⟨rest, hrest⟩ => ?_, fun h => h.trans (List.prefix_append s z)⟩
  rcases List.append_eq_append_iff.1 hrest with ⟨u, hu, -⟩ | ⟨u, hu, hrest⟩
  · exact ⟨u, hu.symm⟩
  · cases u with
    | nil => exact ⟨[], by rw [hu]; simp⟩
    | cons c u =>
      -- the name would go on behind the text
      obtain ⟨hsemicolon, halphanum⟩ := hz c (by rw [hrest]; rfl)
      have hmem : c ∈ name ++ [';'] := by
        cases s with
        | nil => exact absurd rfl hs
        | cons d s =>
          have hbehind : name ++ [';'] = s ++ c :: u := (List.cons.inj hu).2
          rw [hbehind]
          exact List.mem_append_right s List.mem_cons_self
      rcases List.mem_append.1 hmem with hmem | hmem
      · exact absurd hmem (hname.not_mem halphanum)
      · exact absurd (List.mem_singleton.1 hmem) hsemicolon

/-- **A text is read name by name**, and character by character between the names. -/
theorem names_induction {P : List Char → Prop} (nil : P [])
    (plain : ∀ c s, name? (c :: s) = none → P s → P (c :: s))
    (named : ∀ name s, IsEntityName name → P s → P (reference name ++ s)) (s : List Char) :
    P s := by
  induction hn : s.length using Nat.strongRecOn generalizing s with
  | ind n ih =>
    subst hn
    cases s with
    | nil => exact nil
    | cons c s =>
      cases hread : name? (c :: s) with
      | none => exact plain c s hread (ih s.length (Nat.lt_succ_self _) s rfl)
      | some r =>
        obtain ⟨hname, -, rest, hrest⟩ := name?_eq_some_iff.1 hread
        have hlt : rest.length < (c :: s).length := by
          rw [← hrest, List.length_append]
          exact Nat.lt_add_of_pos_left (by simp [reference])
        rw [← hrest]
        exact named r.1 rest hname (ih rest.length hlt rest rfl)

/-! ## Rewriting names -/

section

variable {f : List Char → List Char} {s z : List Char}

theorem replaceTokens_named {name : List Char} (h : IsEntityName name) (s : List Char) :
    Text.replaceTokens name? f (reference name ++ s) = f name ++ Text.replaceTokens name? f s :=
  Text.replaceTokens_of_token f (reference_ne_nil name) (name?_reference h s)

theorem replaceTokens_of_not_mem {w : List Char} (hw : '&' ∉ w) (s : List Char) :
    Text.replaceTokens name? f (w ++ s) = w ++ Text.replaceTokens name? f s := by
  refine Text.replaceTokens_append_of_none (fun u rest hu hne => ?_) s
  cases u with
  | nil => exact absurd rfl hne
  | cons c u => exact name?_of_ne (fun hc => hw (hu.subset (hc ▸ List.mem_cons_self))) _

theorem replaceTokens_cons_of_ne {c : Char} (hc : c ≠ '&') (s : List Char) :
    Text.replaceTokens name? f (c :: s) = c :: Text.replaceTokens name? f s :=
  Text.replaceTokens_cons f (name?_of_ne hc s)

/-- **Texts in front of what is no part of a name** are rewritten on their own. -/
theorem replaceTokens_append (hz : ∀ c ∈ z.head?, c ≠ ';' ∧ c.isAlphanum = false) :
    Text.replaceTokens name? f (s ++ z) =
      Text.replaceTokens name? f s ++ Text.replaceTokens name? f z := by
  refine Text.replaceTokens_append fun u _ hne => ⟨name?_append hne hz, ?_⟩
  rintro ⟨name, n⟩ hread
  obtain ⟨-, rfl, hprefix⟩ := name?_eq_some_iff.1 hread
  exact hprefix.length_le

theorem replaceTokens_append_cons {c : Char} (hc : c ≠ '&' ∧ c ≠ ';' ∧ c.isAlphanum = false) :
    Text.replaceTokens name? f (s ++ c :: z) =
      Text.replaceTokens name? f s ++ c :: Text.replaceTokens name? f z := by
  have hbehind : ∀ d ∈ (c :: z).head?, d ≠ ';' ∧ d.isAlphanum = false := by
    rintro d ⟨⟩
    exact hc.2
  rw [replaceTokens_append hbehind, replaceTokens_cons_of_ne hc.1]

theorem mem_replaceTokens {d : Char} (h : d ∈ Text.replaceTokens name? f s) :
    d ∈ s ∨ ∃ name, IsEntityName name ∧ d ∈ f name := by
  rcases Text.mem_replaceTokens h with h | ⟨u, name, n, -, hread, hd⟩
  · exact .inl h
  · exact .inr ⟨name, (name?_eq_some_iff.1 hread).1, hd⟩

end

/-! ## What names stand for -/

/-- The characters that HTML assigns to a name which XML does not know. -/
def assigned? (name : List Char) : Option (List Char) :=
  match Entity.predefined? name with
  | some _ => none
  | none => Html.named? name

/-- A character by its number. -/
def number (c : Char) : List Char := '&' :: ('#' :: Nat.toDigits 10 c.toNat) ++ [';']

/-- The characters of a name by their numbers; other names stay. -/
def spell (name : List Char) : List Char :=
  match assigned? name with
  | some cs => cs.flatMap number
  | none => reference name

/-- The text with the names of HTML spelled by number. -/
def spelled (s : List Char) : List Char := Text.replaceTokens name? spell s

/-- Every name of HTML in the text stands for one character. -/
def Single (s : List Char) : Prop :=
  ∀ name ∈ Text.tokens name? s, ∀ cs ∈ assigned? name, cs.length = 1

instance : DecidablePred Single := fun s =>
  inferInstanceAs (Decidable (∀ name ∈ Text.tokens name? s, ∀ cs ∈ assigned? name, cs.length = 1))

theorem single_cons {c : Char} {s : List Char} (h : name? (c :: s) = none) :
    Single (c :: s) ↔ Single s := by
  rw [Single, Text.tokens_cons h]
  rfl

theorem single_named {name : List Char} (h : IsEntityName name) (s : List Char) :
    Single (reference name ++ s) ↔ (∀ cs ∈ assigned? name, cs.length = 1) ∧ Single s := by
  rw [Single, Text.tokens_of_token (reference_ne_nil name) (name?_reference h s),
    List.forall_mem_cons]
  rfl

theorem single_of_append_cons {d : Char} (hd : d ≠ ';' ∧ d.isAlphanum = false)
    {s z : List Char} (h : Single (s ++ d :: z)) : Single s := by
  have hbehind : ∀ e ∈ (d :: z).head?, e ≠ ';' ∧ e.isAlphanum = false := by
    rintro e ⟨⟩
    exact hd
  induction s using names_induction with
  | nil => exact fun name hname => absurd hname List.not_mem_nil
  | plain c s hread ih =>
    have hread' : name? (c :: (s ++ d :: z)) = none :=
      (name?_append (List.cons_ne_nil c s) hbehind).trans hread
    exact (single_cons hread).2 (ih ((single_cons hread').1 h))
  | named name s hname ih =>
    rw [List.append_assoc] at h
    exact (single_named hname s).2 (((single_named hname _).1 h).imp_right ih)

theorem named?_cases {name : List Char} (h : Entity.predefined? name = none) :
    (Html.named? name = none ∧ Entity.named? name = none) ∨
      ∃ c cs, Html.named? name = some (c :: cs) ∧ Entity.named? name = some c := by
  rw [Html.named?, Entity.named?, h]
  simp only
  cases Entity.single.lookup (String.ofList name) with
  | some n => exact .inr ⟨Char.ofNat n, [], rfl, rfl⟩
  | none =>
    cases Entity.double.lookup (String.ofList name) with
    | some p => exact .inr ⟨Char.ofNat p.1, [Char.ofNat p.2], rfl, rfl⟩
    | none => exact .inl ⟨rfl, rfl⟩

/-- **What is written for a name**: its character, or the first one, or the reference as it is. -/
theorem write_cases (name : List Char) :
    (assigned? name = none ∧ write name = reference name) ∨
      ∃ c cs, assigned? name = some (c :: cs) ∧ write name = Entity.escapeChar c := by
  cases hfive : Entity.predefined? name with
  | some d => exact .inl ⟨by rw [assigned?, hfive], by rw [write, hfive]; rfl⟩
  | none =>
    rw [assigned?, write, hfive]
    rcases named?_cases hfive with ⟨hnone, hwrite⟩ | ⟨c, cs, hsome, hwrite⟩
    · exact .inl ⟨hnone, by rw [hwrite]; rfl⟩
    · exact .inr ⟨c, cs, hsome, by rw [hwrite]⟩

theorem write_ne_nil (name : List Char) : write name ≠ [] := by
  rcases write_cases name with ⟨-, h⟩ | ⟨c, -, -, h⟩ <;> rw [h]
  · exact List.cons_ne_nil _ _
  · unfold Entity.escapeChar
    split <;> exact List.cons_ne_nil _ _

/-- **No brackets are written for a name.** -/
theorem bracket_not_mem_write {name : List Char} (h : IsEntityName name) :
    ∀ c ∈ ['<', '>'], c ∉ write name := by
  intro c hc
  have hbracket : c.isAlphanum = false ∧ c ≠ '&' ∧ c ≠ ';' := by
    revert c
    decide
  rcases write_cases name with ⟨-, hwrite⟩ | ⟨d, -, -, hwrite⟩ <;> rw [hwrite]
  · simp [reference, hbracket.2, h.not_mem hbracket.1]
  · unfold Entity.escapeChar
    split
    · revert c
      decide
    · revert c
      decide
    · revert c
      decide
    · next hlt hgt =>
      simp only [List.mem_cons, List.not_mem_nil, or_false] at hc ⊢
      rcases hc with rfl | rfl
      · exact fun heq => hlt heq.symm
      · exact fun heq => hgt heq.symm

theorem exists_spell_eq_cons (name : List Char) : ∃ w, spell name = '&' :: w := by
  rcases write_cases name with ⟨h, -⟩ | ⟨c, cs, h, -⟩ <;> rw [spell, h]
  · exact ⟨_, rfl⟩
  · exact ⟨_, rfl⟩

/-- Spelling a name writes digits and `&`, `#` and `;`, or the name itself. -/
theorem not_mem_spell {name : List Char} (h : IsEntityName name) {c : Char}
    (hc : c.isAlphanum = false) (hother : c ∉ ['&', '#', ';']) : c ∉ spell name := by
  simp only [List.mem_cons, List.not_mem_nil, or_false, not_or] at hother
  obtain ⟨hamp, hhash, hsemicolon⟩ := hother
  unfold spell
  split
  · intro hmem
    obtain ⟨d, -, hmem⟩ := List.mem_flatMap.1 hmem
    simp only [number, List.cons_append, List.mem_cons, List.mem_append, List.not_mem_nil, or_false,
      hamp, hhash, hsemicolon, false_or] at hmem
    rw [Char.isAlphanum, Numeral.isDigit_of_mem_toDigits hmem, Bool.or_true] at hc
    cases hc
  · simp [reference, hamp, hsemicolon, h.not_mem hc]

/-! ## Meaning -/

theorem resolve_number {c d : Char}
    (h : resolve 0 ('#' :: Nat.toDigits 10 c.toNat) = .ok d) : d = c := by
  have hdigit (e : Char) (he : e.isDigit = false) (rest : List Char) :
      Nat.toDigits 10 c.toNat ≠ e :: rest := by
    intro heq
    have hmem : e ∈ Nat.toDigits 10 c.toNat := heq ▸ List.mem_cons_self
    rw [Numeral.isDigit_of_mem_toDigits hmem] at he
    cases he
  have hbound : c.toNat ≤ 0xFFFFFFFF := by
    have hlt : c.toNat < 0x110000 := by
      rcases c.valid with h | ⟨-, h⟩
      · exact Nat.lt_trans h (by decide)
      · exact h
    omega
  have hnumber : numbered 10 (Nat.toDigits 10 c.toNat) = .ok d := by
    unfold resolve at h
    split at h
    · next heq => exact absurd (List.cons.inj heq).2 (hdigit 'x' (by decide) _)
    · next heq =>
      rw [(List.cons.inj heq).2]
      exact h
    · next hother => exact absurd rfl (hother _)
  unfold numbered at hnumber
  split at hnumber
  · cases hnumber
  · cases hnumber
  · rw [Numeral.readUnsigned_toDigits hbound] at hnumber
    simp only at hnumber
    split_ifs at hnumber
    cases hnumber
    exact Char.ofNat_toNat c

theorem denotes_escapeChar {w s : List Char} (h : Denotes w s) (c : Char) :
    Denotes (Entity.escapeChar c ++ w) (c :: s) := by
  unfold Entity.escapeChar
  split
  · exact @Denotes.reference ['a', 'm', 'p'] _ _ '&' (by decide) rfl h
  · exact @Denotes.reference ['l', 't'] _ _ '<' (by decide) rfl h
  · exact @Denotes.reference ['g', 't'] _ _ '>' (by decide) rfl h
  · next hamp _ _ => exact .plain hamp h

theorem exists_of_denotes_number {c : Char} {w v : List Char} (h : Denotes (number c ++ w) v) :
    ∃ v', v = c :: v' ∧ Denotes w v' := by
  have hdigits : ∀ d ∈ '#' :: Nat.toDigits 10 c.toNat, d ≠ '&' ∧ d ≠ ';' := by
    refine List.forall_mem_cons.2 ⟨by decide, fun d hd => ?_⟩
    have hdigit := Numeral.isDigit_of_mem_toDigits hd
    constructor <;> rintro rfl <;> exact absurd hdigit (by decide)
  rw [number, List.append_assoc, List.singleton_append] at h
  obtain ⟨d, v', rfl, hd, hv⟩ := (denotes_reference_iff hdigits).1 h
  exact ⟨v', by rw [resolve_number hd], hv⟩

/-- A reference that is no name stands in the text, since what is spelled begins with another one. -/
theorem exists_of_denotes_spelled {s v : List Char} (h : Denotes ('&' :: spelled s) v) :
    ∃ body rest, s = body ++ [';'] ++ rest ∧ (∀ c ∈ body, c ≠ '&' ∧ c ≠ ';') ∧
      spelled s = body ++ [';'] ++ spelled rest := by
  obtain ⟨body, w, hw, hbody⟩ := exists_of_denotes_amp h
  have hwrite (name : List Char) : ∃ d x, spell name = d :: x ∧ d ∉ body ++ [';'] := by
    obtain ⟨x, hx⟩ := exists_spell_eq_cons name
    exact ⟨'&', x, hx, amp_not_mem_body hbody⟩
  have hprefix : body ++ [';'] <+: spelled s := ⟨w, by rw [hw, List.append_assoc]; rfl⟩
  obtain ⟨rest, hs, hspelled⟩ := Text.exists_of_prefix_replaceTokens hwrite hprefix
  exact ⟨body, rest, hs, hbody, hspelled⟩

/-- **A text stands for what it stands for with its names spelled** when its names are written out,
if each of them has one character. -/
theorem denotes_decode {s v : List Char} (hsingle : Single s) (h : Denotes (spelled s) v) :
    Denotes (decode s) v := by
  induction s using names_induction generalizing v with
  | nil => exact h
  | plain c s hread ih =>
    have hrest := (single_cons hread).1 hsingle
    rw [spelled, Text.replaceTokens_cons spell hread, ← spelled] at h
    rw [decode, Text.replaceTokens_cons write hread, ← decode]
    by_cases hc : c = '&'
    · subst hc
      obtain ⟨body, rest, rfl, hbody, hspelled⟩ := exists_of_denotes_spelled h
      have hplain := amp_not_mem_body hbody
      rw [hspelled, List.append_assoc, List.singleton_append] at h
      obtain ⟨d, v, rfl, hd, hv⟩ := (denotes_reference_iff hbody).1 h
      -- the induction is over characters, so it is used for what stands behind the `&`
      have hbehind := ih hrest (v := body ++ [';'] ++ v)
        (hspelled ▸ (denotes_append_iff hplain).2 ⟨v, rfl, hv⟩)
      rw [decode, replaceTokens_of_not_mem hplain, ← decode] at hbehind ⊢
      obtain ⟨v', heq, hv'⟩ := (denotes_append_iff hplain).1 hbehind
      obtain rfl := List.append_cancel_left heq
      rw [List.append_assoc, List.singleton_append]
      exact (denotes_reference_iff hbody).2 ⟨d, v, rfl, hd, hv'⟩
    · have hfront : '&' ∉ [c] := by simpa using Ne.symm hc
      obtain ⟨v, rfl, hv⟩ := (denotes_append_iff hfront).1 h
      exact .plain hc (ih hrest hv)
  | named name s hname ih =>
    obtain ⟨hone, hrest⟩ := (single_named hname s).1 hsingle
    rw [spelled, replaceTokens_named hname, ← spelled] at h
    rw [decode, replaceTokens_named hname, ← decode]
    rcases write_cases name with ⟨hassigned, hwrite⟩ | ⟨c, cs, hassigned, hwrite⟩
    · rw [spell, hassigned] at h
      rw [hwrite]
      simp only [reference, List.append_assoc, List.singleton_append] at h ⊢
      obtain ⟨d, v, rfl, hd, hv⟩ := (denotes_reference_iff hname.plain).1 h
      exact (denotes_reference_iff hname.plain).2 ⟨d, v, rfl, hd, ih hrest hv⟩
    · obtain rfl : cs = [] := by simpa using hone _ hassigned
      rw [spell, hassigned] at h
      simp only [List.flatMap_singleton] at h
      obtain ⟨v, rfl, hv⟩ := exists_of_denotes_number h
      rw [hwrite]
      exact denotes_escapeChar (ih hrest hv) c

theorem write_of_resolve {name : List Char} (hname : IsEntityName name) {position : Nat} {d : Char}
    (h : resolve position name = .ok d) : write name = reference name := by
  have hnumber (digits : List Char) : name ≠ '#' :: digits := fun heq =>
    hname.not_mem (c := '#') (by decide) (heq ▸ List.mem_cons_self)
  rcases resolve_eq_ok h with ⟨digits, heq, -⟩ | ⟨digits, heq, -⟩ | hfive
  · exact absurd heq (hnumber _)
  · exact absurd heq (hnumber _)
  · rw [write, hfive]
    rfl

/-- **A text that reads as it stands** is not changed. -/
theorem decode_of_denotes {w v : List Char} (h : Denotes w v) : decode w = w := by
  induction h with
  | nil => rfl
  | plain hc _ ih => rw [decode, replaceTokens_cons_of_ne hc, ← decode, ih]
  | @reference body w _ _ hbody hd _ ih =>
    have hsource : '&' :: body ++ ';' :: w = reference body ++ w := by simp [reference]
    rw [hsource]
    by_cases hname : IsEntityName body
    · rw [decode, replaceTokens_named hname, ← decode, ih, write_of_resolve hname hd]
    · have hread : name? (reference body ++ w) = none := by
        rw [Option.eq_none_iff_forall_ne_some]
        rintro ⟨name, n⟩ hread
        obtain ⟨hname', -, rest, hrest⟩ := name?_eq_some_iff.1 hread
        simp only [reference, List.append_assoc, List.cons_append] at hrest
        obtain ⟨rfl, -⟩ := eq_of_append_eq (hname'.not_mem (by decide))
          (fun hmem => (hbody _ hmem).2 rfl) (List.cons.inj hrest).2
        exact hname hname'
      simp only [reference, List.cons_append] at hread ⊢
      rw [decode, Text.replaceTokens_cons write hread,
        replaceTokens_of_not_mem (amp_not_mem_body hbody), ← decode, ih]

/-! ## Brackets -/

theorem prefix_of_prefix_escapeBracket {w s : List Char} (hw : '&' ∉ w)
    (h : w <+: s.flatMap escapeBracket) : w <+: s := by
  induction w generalizing s with
  | nil => exact List.nil_prefix
  | cons d w ih =>
    obtain ⟨hd, hw⟩ := List.ne_and_not_mem_of_not_mem_cons hw
    cases s with
    | nil => exact absurd h (by simp)
    | cons c s =>
      rw [List.flatMap_cons] at h
      generalize hc : escapeBracket c = written at h
      unfold escapeBracket at hc
      split at hc <;> subst hc
      · exact absurd (List.cons_prefix_cons.1 h).1.symm hd
      · exact absurd (List.cons_prefix_cons.1 h).1.symm hd
      · rw [List.singleton_append] at h
        obtain ⟨rfl, hrest⟩ := List.cons_prefix_cons.1 h
        exact List.cons_prefix_cons.2 ⟨rfl, ih hw hrest⟩

/-- **Brackets may be escaped before names are written out**, or behind it. -/
theorem decode_escapeBracket (s : List Char) :
    decode (s.flatMap escapeBracket) = (decode s).flatMap escapeBracket := by
  induction s using names_induction with
  | nil => rfl
  | plain c s hread ih =>
    have hplain : decode (c :: s) = c :: decode s := Text.replaceTokens_cons write hread
    rw [hplain, List.flatMap_cons, List.flatMap_cons, ← ih]
    have hname {name : List Char} (h : IsEntityName name) (hfive : write name = reference name) :
        decode (reference name ++ s.flatMap escapeBracket) =
          reference name ++ decode (s.flatMap escapeBracket) := by
      rw [decode, replaceTokens_named h, hfive, ← decode]
    generalize hc : escapeBracket c = written
    unfold escapeBracket at hc
    split at hc <;> subst hc
    · exact @hname ['l', 't'] ⟨by decide, by decide⟩ rfl
    · exact @hname ['g', 't'] ⟨by decide, by decide⟩ rfl
    · refine Text.replaceTokens_cons write ?_
      rw [Option.eq_none_iff_forall_ne_some] at hread ⊢
      rintro ⟨name, n⟩ hread'
      obtain ⟨hname, hn, hprefix⟩ := name?_eq_some_iff.1 hread'
      obtain ⟨rfl, hbehind⟩ : '&' = c ∧ name ++ [';'] <+: s.flatMap escapeBracket :=
        List.cons_prefix_cons.1 hprefix
      refine hread (name, n) (name?_eq_some_iff.2 ⟨hname, hn, List.cons_prefix_cons.2 ⟨rfl, ?_⟩⟩)
      exact prefix_of_prefix_escapeBracket (amp_not_mem_body hname.plain) hbehind
  | named name s hname ih =>
    have hbracket : ∀ c ∈ ['<', '>'], c ∉ reference name := by
      intro c hc
      have hother : c.isAlphanum = false ∧ c ≠ '&' ∧ c ≠ ';' := by
        revert c
        decide
      simp [reference, hother.2, hname.not_mem hother.1]
    have hnamed (z : List Char) : decode (reference name ++ z) = write name ++ decode z :=
      replaceTokens_named hname z
    rw [List.flatMap_append, flatMap_escapeBracket hbracket, hnamed, hnamed, List.flatMap_append,
      flatMap_escapeBracket (bracket_not_mem_write hname), ih]

theorem decode_ne_nil {s : List Char} (h : s ≠ []) : decode s ≠ [] := by
  induction s using names_induction with
  | nil => exact absurd rfl h
  | plain c s hread _ =>
    rw [decode, Text.replaceTokens_cons write hread]
    exact List.cons_ne_nil _ _
  | named name s hname _ =>
    rw [decode, replaceTokens_named hname]
    exact List.append_ne_nil_of_left_ne_nil (write_ne_nil name) _

theorem bracket_not_mem_decode {s : List Char} {c : Char} (hc : c ∈ ['<', '>']) (h : c ∉ s) :
    c ∉ decode s := by
  intro hmem
  rcases mem_replaceTokens hmem with hmem | ⟨name, hname, hmem⟩
  · exact h hmem
  · exact bracket_not_mem_write hname c hc hmem

/-! ## Comments -/

theorem ne_hyphen_of_assigned? {name cs : List Char} {c : Char}
    (h : assigned? name = some (c :: cs)) : c ≠ '-' := by
  have hsingle : (Entity.single.all fun p => Char.ofNat p.2 ≠ '-') = true := by
    delta Entity.single
    simp only [List.all_append]
    decide
  have hdouble : ∀ p ∈ Entity.double, Char.ofNat p.2.1 ≠ '-' := by decide
  unfold assigned? at h
  split at h
  · cases h
  · next hfive =>
    rw [Html.named?, hfive] at h
    simp only at h
    cases hlookup : Entity.single.lookup (String.ofList name) with
    | some n =>
      rw [hlookup] at h
      cases h
      obtain ⟨front, back, heq, -⟩ := List.lookup_eq_some_iff.1 hlookup
      have hmem : (String.ofList name, n) ∈ Entity.single :=
        heq ▸ List.mem_append_right front List.mem_cons_self
      exact of_decide_eq_true (List.all_eq_true.1 hsingle _ hmem)
    | none =>
      rw [hlookup] at h
      cases hlookup : Entity.double.lookup (String.ofList name) with
      | none =>
        rw [hlookup] at h
        cases h
      | some p =>
        rw [hlookup] at h
        cases h
        obtain ⟨front, back, heq, -⟩ := List.lookup_eq_some_iff.1 hlookup
        exact hdouble (_, p) (heq ▸ List.mem_append_right front List.mem_cons_self)

/-- What is written for a name begins with no character that closes a comment. -/
theorem exists_write_eq_cons (name : List Char) :
    ∃ d w, write name = d :: w ∧ d ∉ "-->".toList ∧ (IsEntityName name → '-' ∉ d :: w) := by
  rcases write_cases name with ⟨-, hwrite⟩ | ⟨c, cs, hassigned, hwrite⟩ <;> rw [hwrite]
  · refine ⟨'&', name ++ [';'], rfl, by decide, fun hname => ?_⟩
    simp [hname.not_mem (c := '-') (by decide)]
  · have hne := ne_hyphen_of_assigned? hassigned
    unfold Entity.escapeChar
    split
    · exact ⟨_, _, rfl, by decide, fun _ => by decide⟩
    · exact ⟨_, _, rfl, by decide, fun _ => by decide⟩
    · exact ⟨_, _, rfl, by decide, fun _ => by decide⟩
    · next hgt => exact ⟨c, [], rfl, by simpa [hne] using hgt, fun _ => by simpa using hne.symm⟩

/-- **A comment stays one** when the names in it are written out. -/
theorem not_infix_decode {note : List Char} (h : ¬ "-->".toList <:+: note) :
    ¬ "-->".toList <:+: decode note := by
  rintro ⟨front, back, heq⟩
  rw [List.append_assoc] at heq
  rcases Text.suffix_replaceTokens (heq ▸ List.suffix_append front _) with
    ⟨u, hu, hv⟩ | ⟨u, name, n, x, rest, -, hread, hx, hne, -, hv⟩
  · have hwrite (name : List Char) : ∃ d w, write name = d :: w ∧ d ∉ "-->".toList := by
      obtain ⟨d, w, hw, hd, -⟩ := exists_write_eq_cons name
      exact ⟨d, w, hw, hd⟩
    obtain ⟨rest, rfl, -⟩ :=
      Text.exists_of_prefix_replaceTokens hwrite (hv ▸ List.prefix_append _ back)
    exact h ((List.prefix_append _ rest).isInfix.trans hu.isInfix)
  · obtain ⟨d, w, hw, -, hhyphen⟩ := exists_write_eq_cons name
    obtain ⟨c, x, rfl⟩ := List.exists_cons_of_ne_nil hne
    obtain rfl : '-' = c := (List.cons.inj hv).1
    exact hhyphen (name?_eq_some_iff.1 hread).1 (hw ▸ hx.subset List.mem_cons_self)

end MediaScraper.Repair.NamedEntities
