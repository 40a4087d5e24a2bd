import MediaScraper.Html.Reference
import MediaScraper.Proofs.Entity.Escape
import MediaScraper.Proofs.Text.Numeral

/-!
# References with and without tags around them

A captured text without tags has its references resolved by one reader, and a fragment by another
one. The first takes closed references only, of a name or of a number, and of the two characters of
a name the first; the second also takes old names that are not closed and unclosed numbers, and it
reads the numbers of the C1 controls as Windows-1252.

What follows an ampersand is *settled* if it is the same for both: a closed name of one character,
the closed number of a character that is none of these controls, or nothing that begins a reference
(`Settled`). Where every ampersand is settled, both readers give the same text
(`unescape_of_settled`).
-/

namespace MediaScraper.Html

/-! ## Names and numbers -/

/-- The character of a name that stands for one. -/
def soleCharacter? (name : List Char) : Option Char :=
  Entity.predefined? name <|> (Entity.single.lookup (.ofList name)).map Char.ofNat

/-- The numbers of C1 controls that Windows-1252 does not assign. -/
def unassigned : List Nat := [0x81, 0x8D, 0x8F, 0x90, 0x9D]

/-- A number that stands for the character of this number, whatever the reader. -/
def isUndisputed (n : Nat) : Bool :=
  n.isValidChar && !Entity.isForbiddenControl n && (n < 0x80 || 0x9F < n || unassigned.contains n)

theorem named?_of_soleCharacter {name : List Char} {c : Char} (h : soleCharacter? name = some c) :
    named? name = some [c] ∧ Entity.named? name = some c := by
  rw [soleCharacter?] at h
  rw [named?, Entity.named?]
  cases hfive : Entity.predefined? name with
  | some d =>
    rw [hfive] at h
    obtain rfl : d = c := Option.some.inj h
    exact ⟨rfl, rfl⟩
  | none =>
    rw [hfive] at h
    obtain ⟨n, hn, rfl⟩ := Option.map_eq_some_iff.1 h
    simp only [hn]
    exact ⟨rfl, rfl⟩

theorem isSome_named?_of_entity {name : List Char} (h : (Entity.named? name).isSome) :
    (named? name).isSome := by
  rw [Entity.named?] at h
  rw [named?]
  cases hfive : Entity.predefined? name with
  | some d => rfl
  | none =>
    simp only
    cases hsingle : Entity.single.lookup (.ofList name) with
    | some n => rfl
    | none =>
      cases hdouble : Entity.double.lookup (.ofList name) with
      | some p => rfl
      | none =>
        rw [hfive, hsingle, hdouble] at h
        cases h

theorem ofNumber_of_isUndisputed {n : Nat} (h : isUndisputed n = true) :
    ofNumber n = Char.ofNat n ∧ Entity.ofNumber? n = some (Char.ofNat n) := by
  simp only [isUndisputed, Bool.and_eq_true, Bool.or_eq_true, Bool.not_eq_true', decide_eq_true_eq]
    at h
  obtain ⟨⟨hvalid, hcontrol⟩, hrange⟩ := h
  have hzero : n ≠ 0 := by
    rintro rfl
    exact absurd hcontrol (by decide)
  refine ⟨?_, if_pos ⟨hvalid, by simp [hcontrol]⟩⟩
  rw [ofNumber, if_neg (by simp [hzero, hvalid])]
  split
  · next m hm =>
    refine if_pos ?_
    rcases hrange with (hlow | hhigh) | hfree
    · exact .inl hlow
    · have hlength : n - 0x80 < windows1252.length := (List.getElem?_eq_some_iff.1 hm).1
      have hsize : windows1252.length = 32 := rfl
      omega
    · have hnone : ∀ n ∈ unassigned, windows1252[n - 0x80]? = some 0 := by decide
      exact .inr (Option.some.inj (hm.symm.trans (hnone n (List.contains_iff_mem.1 hfree))))
  · rfl

/-! ## Digits -/

theorem isSome_digit?_ten (c : Char) : (Numeral.digit? 10 c).isSome = c.isDigit := by
  cases h : c.isDigit with
  | true => rw [Numeral.digit?_of_isDigit h]; rfl
  | false =>
    -- a letter counts from ten
    simp only [Numeral.digit?, h, Bool.false_eq_true, if_false]
    rw [if_neg, Option.isSome_none]
    split_ifs <;> omega

theorem isAlphanumeric_of_isSome_digit? {base : Nat} {c : Char}
    (h : (Numeral.digit? base c).isSome = true) : isAlphanumeric c = true := by
  simp only [Numeral.digit?] at h
  unfold isAlphanumeric Char.isAlphanum Char.isAlpha Char.isLower Char.isUpper
  split_ifs at h <;> simp_all [Char.le_def]

/-- What ends a reference is no letter and no digit, and neither is what begins one. -/
theorem ne_of_isAlphanumeric {c d : Char} (hc : isAlphanumeric c = true)
    (hd : isAlphanumeric d = false) : c ≠ d := by
  rintro rfl
  rw [hc] at hd
  cases hd

/-- What a number spells is not below what has been read of it, and it is read within any bound
that it does not pass. -/
theorem valueFrom?_spec {base : Nat} (hbase : 0 < base) {s : List Char} {m n : Nat}
    (h : Numeral.valueFrom? base m s = some n) :
    m ≤ n ∧ (∀ c ∈ s, (Numeral.digit? base c).isSome = true) ∧
      ∀ bound, n ≤ bound → Numeral.readFrom base bound m s = .ok n := by
  induction s generalizing m with
  | nil =>
    obtain rfl : m = n := Option.some.inj h
    exact ⟨Nat.le_refl m, by simp, fun _ _ => rfl⟩
  | cons c s ih =>
    rw [Numeral.valueFrom?] at h
    cases hc : Numeral.digit? base c with
    | none =>
      rw [hc] at h
      cases h
    | some d =>
      rw [hc] at h
      obtain ⟨hle, hdigits, hread⟩ := ih h
      have hgrow : m ≤ m * base + d := Nat.le_add_right_of_le (Nat.le_mul_of_pos_right m hbase)
      refine ⟨hgrow.trans hle, List.forall_mem_cons.2 ⟨by rw [hc]; rfl, hdigits⟩, fun bound hn => ?_⟩
      rw [Numeral.readFrom, hc]
      simp only
      rw [if_pos (hle.trans hn), hread bound hn]

/-! ## What is settled -/

/-- Does the number of a reference begin here, behind the ampersand? -/
def beginsNumber : List Char → Bool
  | '#' :: 'x' :: cs => cs.head?.any fun c => (Numeral.digit? 16 c).isSome
  | '#' :: 'X' :: cs => cs.head?.any fun c => (Numeral.digit? 16 c).isSome
  | '#' :: cs => cs.head?.any Char.isDigit
  | _ => false

/-- What follows an ampersand is read in one way, with and without tags around it. -/
inductive Settled : List Char → Prop
  /-- A closed name of one character. -/
  | named (name : List Char) {rest : List Char} {c : Char} : (∀ d ∈ name, isAlphanumeric d = true) →
      soleCharacter? name = some c → Settled (name ++ ';' :: rest)
  | decimal (digits : List Char) {rest : List Char} {n : Nat} : digits ≠ [] →
      Numeral.valueFrom? 10 0 digits = some n → isUndisputed n = true →
      Settled ('#' :: (digits ++ ';' :: rest))
  | hexadecimal {x : Char} (digits : List Char) {rest : List Char} {n : Nat} : x = 'x' ∨ x = 'X' →
      digits ≠ [] → Numeral.valueFrom? 16 0 digits = some n → isUndisputed n = true →
      Settled ('#' :: x :: (digits ++ ';' :: rest))
  /-- Nothing that begins a reference: no closed name, no old name and no number. -/
  | nothing {cs : List Char} : (∀ name, (named? name).isSome = true → ¬ name ++ [';'] <+: cs) →
      (∀ name ∈ Entity.legacy, ¬ name.toList <+: cs) → beginsNumber cs = false → Settled cs

/-! ## One reading -/

theorem entityReference?_closed {body : List Char} (hbody : ∀ c ∈ body, c ≠ '&' ∧ c ≠ ';')
    (rest : List Char) : Entity.reference? ('&' :: (body ++ ';' :: rest)) =
      (Entity.resolve? body).map fun c => (c, body.length + 2) := by
  have hall : ∀ c ∈ body, (decide (c ≠ '&') && decide (c ≠ ';')) = true := fun c hc => by
    simpa using hbody c hc
  rw [Entity.reference?, List.span_eq_takeWhile_dropWhile,
    List.takeWhile_append_of_pos hall, List.dropWhile_append_of_pos hall]
  simp

theorem reference?_of_ne_number {cs : List Char} (h : cs.head? ≠ some '#') (inAttribute : Bool) :
    reference? inAttribute ('&' :: cs) =
      (namedReference? inAttribute cs).map fun r => (r.1, r.2 + 1) := by
  unfold reference?
  split <;> simp_all

theorem resolve?_of_ne_number {body : List Char} (h : body.head? ≠ some '#') :
    Entity.resolve? body = Entity.named? body := by
  unfold Entity.resolve?
  split <;> simp_all

theorem reference?_decimal {cs : List Char} (h : cs.head? ≠ some 'x') (h' : cs.head? ≠ some 'X')
    (inAttribute : Bool) :
    reference? inAttribute ('&' :: '#' :: cs) = (numbered? 10 cs).map fun r => (r.1, r.2 + 2) := by
  unfold reference?
  split <;> grind

theorem resolve?_decimal {digits : List Char} (h : digits.head? ≠ some 'x')
    (h' : digits.head? ≠ some 'X') :
    Entity.resolve? ('#' :: digits) = Entity.numbered? 10 digits := by
  unfold Entity.resolve?
  split <;> simp_all

theorem numbered?_of_valueFrom? {base n : Nat} (hbase : 0 < base)
    (hclose : (Numeral.digit? base ';').isSome = false) {digits : List Char} (hne : digits ≠ [])
    (hvalue : Numeral.valueFrom? base 0 digits = some n) (hn : isUndisputed n = true)
    (rest : List Char) :
    numbered? base (digits ++ ';' :: rest) = some ([Char.ofNat n], digits.length + 1) ∧
      Entity.numbered? base digits = some (Char.ofNat n) := by
  obtain ⟨-, hdigits, hread⟩ := valueFrom?_spec hbase hvalue
  obtain ⟨hchar, hchar?⟩ := ofNumber_of_isUndisputed hn
  have htake : (digits ++ ';' :: rest).takeWhile (fun c => (Numeral.digit? base c).isSome) =
      digits := by
    rw [List.takeWhile_append_of_pos hdigits, List.takeWhile_cons_of_neg (by simp [hclose]),
      List.append_nil]
  have hbound : n ≤ 0xFFFFFFFF := by
    have hvalid : n.isValidChar := by
      simp only [isUndisputed, Bool.and_eq_true, decide_eq_true_eq] at hn
      exact hn.1.1
    have hlt : n < 0x110000 := by
      rcases hvalid with h | h <;> omega
    omega
  constructor
  · rw [numbered?]
    simp only [htake, hvalue, Option.getD_some, hchar, List.drop_left, List.head?_cons, if_true]
    rw [if_neg (by simpa using hne)]
  · rw [Entity.numbered?, Numeral.readUnsigned, if_neg (by simpa using hne), hread _ hbound]
    exact hchar?

/-! ## Nothing to read -/

theorem numbered?_eq_none {base : Nat} {cs : List Char}
    (h : (cs.head?.any fun c => (Numeral.digit? base c).isSome) = false) :
    numbered? base cs = none := by
  have hnil : (cs.takeWhile fun c => (Numeral.digit? base c).isSome) = [] := by
    cases cs with
    | nil => rfl
    | cons c cs => exact List.takeWhile_cons_of_neg (by simpa using h)
  rw [numbered?]
  simp only [hnil, List.isEmpty_nil, if_true]

theorem entityNumbered?_eq_none {base : Nat} {digits : List Char}
    (h : (digits.head?.any fun c => (Numeral.digit? base c).isSome) = false) :
    Entity.numbered? base digits = none := by
  cases digits with
  | nil => rfl
  | cons c digits =>
    have hc : Numeral.digit? base c = none := by simpa using h
    rw [Entity.numbered?, Numeral.readUnsigned, if_neg (by simp), Numeral.readFrom, hc]
    rfl

theorem oldName?_eq_none {cs : List Char} (h : ∀ name ∈ Entity.legacy, ¬ name.toList <+: cs)
    (n : Nat) : oldName? cs n = none := by
  induction n with
  | zero => rfl
  | succ n ih =>
    rw [oldName?, if_neg, ih]
    rintro ⟨-, hname⟩
    refine h _ (List.contains_iff_mem.1 hname) ?_
    rw [String.toList_ofList]
    exact List.take_prefix _ cs

theorem namedReference?_eq_none {cs : List Char}
    (hclosed : ∀ name, (named? name).isSome = true → ¬ name ++ [';'] <+: cs)
    (hold : ∀ name ∈ Entity.legacy, ¬ name.toList <+: cs) (inAttribute : Bool) :
    namedReference? inAttribute cs = none := by
  have hrun : oldName? (cs.takeWhile isAlphanumeric) 6 = none := oldName?_eq_none (fun name hname h =>
    hold name hname (h.trans (List.takeWhile_prefix _))) 6
  have hname : (if (cs.dropWhile isAlphanumeric).head? = some ';' then
      named? (cs.takeWhile isAlphanumeric) else none) = none := by
    split
    · next hend =>
      rw [← Option.not_isSome_iff_eq_none]
      intro hsome
      obtain ⟨rest, hrest⟩ := List.head?_eq_some_iff.1 hend
      refine hclosed _ hsome ⟨rest, ?_⟩
      rw [List.append_assoc, List.singleton_append, ← hrest, List.takeWhile_append_dropWhile]
    · rfl
  simp only [namedReference?, List.span_eq_takeWhile_dropWhile, hname, hrun]
  rfl

theorem reference?_eq_none {cs : List Char}
    (hclosed : ∀ name, (named? name).isSome = true → ¬ name ++ [';'] <+: cs)
    (hold : ∀ name ∈ Entity.legacy, ¬ name.toList <+: cs) (hnumber : beginsNumber cs = false) :
    reference? false ('&' :: cs) = none := by
  unfold beginsNumber at hnumber
  split at hnumber
  · rw [reference?, numbered?_eq_none hnumber, Option.map_none]
  · rw [reference?, numbered?_eq_none hnumber, Option.map_none]
  · next cs hx hX =>
    have hdigit : (cs.head?.any fun c => (Numeral.digit? 10 c).isSome) = false := by
      simpa only [isSome_digit?_ten] using hnumber
    rw [reference?_decimal, numbered?_eq_none hdigit, Option.map_none]
    · exact fun h => (List.head?_eq_some_iff.1 h).elim hx
    · exact fun h => (List.head?_eq_some_iff.1 h).elim hX
  · next hsign =>
    rw [reference?_of_ne_number, namedReference?_eq_none hclosed hold, Option.map_none]
    exact fun h => (List.head?_eq_some_iff.1 h).elim hsign

theorem resolve?_eq_none {body rest : List Char}
    (hclosed : ∀ name, (named? name).isSome = true → ¬ name ++ [';'] <+: body ++ ';' :: rest)
    (hnumber : beginsNumber (body ++ ';' :: rest) = false) : Entity.resolve? body = none := by
  have hhead {p : Char → Bool} {digits : List Char}
      (h : (digits ++ ';' :: rest).head?.any p = false) : digits.head?.any p = false := by
    cases digits with
    | nil => rfl
    | cons d digits => exact h
  unfold Entity.resolve?
  split
  · exact entityNumbered?_eq_none (hhead hnumber)
  · exact entityNumbered?_eq_none (hhead hnumber)
  · next digits hx hX =>
    have hnumber : (digits ++ ';' :: rest).head?.any Char.isDigit = false := by
      rw [List.cons_append, beginsNumber] at hnumber
      · exact hnumber
      · rintro cs hcs
        cases digits with
        | nil => cases hcs
        | cons d digits => exact hx digits (by rw [(List.cons.inj hcs).1])
      · rintro cs hcs
        cases digits with
        | nil => cases hcs
        | cons d digits => exact hX digits (by rw [(List.cons.inj hcs).1])
    refine entityNumbered?_eq_none ?_
    simpa only [isSome_digit?_ten] using hhead hnumber
  · rw [← Option.not_isSome_iff_eq_none]
    exact fun h => hclosed body (isSome_named?_of_entity h) ⟨rest, by simp⟩

theorem entityReference?_eq_none {cs : List Char}
    (hclosed : ∀ name, (named? name).isSome = true → ¬ name ++ [';'] <+: cs)
    (hnumber : beginsNumber cs = false) : Entity.reference? ('&' :: cs) = none := by
  rw [Entity.reference?, List.span_eq_takeWhile_dropWhile]
  simp only
  split
  · next rest hrest =>
    have hcs := List.takeWhile_append_dropWhile (p := fun c => decide (c ≠ '&') && decide (c ≠ ';'))
      (l := cs)
    rw [hrest] at hcs
    rw [Option.map_eq_none_iff]
    exact resolve?_eq_none (by rwa [hcs]) (by rwa [hcs])
  · rfl

/-- Both readers give the same for this text behind an ampersand. -/
def SameReading (cs : List Char) : Prop :=
  reference? false ('&' :: cs) = (Entity.reference? ('&' :: cs)).map fun r => ([r.1], r.2)

theorem sameReading_named {name : List Char} {c : Char}
    (hname : ∀ d ∈ name, isAlphanumeric d = true) (hc : soleCharacter? name = some c)
    (rest : List Char) : SameReading (name ++ ';' :: rest) := by
  obtain ⟨hhtml, hentity⟩ := named?_of_soleCharacter hc
  have hbody : ∀ d ∈ name, d ≠ '&' ∧ d ≠ ';' := fun d hd =>
    ⟨ne_of_isAlphanumeric (hname d hd) rfl, ne_of_isAlphanumeric (hname d hd) rfl⟩
  have hhead : name.head? ≠ some '#' := fun hhead =>
    ne_of_isAlphanumeric (hname '#' (List.mem_of_mem_head? hhead)) rfl rfl
  have hhead' : (name ++ ';' :: rest).head? ≠ some '#' := by
    cases name with
    | nil => rintro ⟨⟩
    | cons d name => exact hhead
  rw [SameReading, entityReference?_closed hbody, resolve?_of_ne_number hhead, hentity,
    reference?_of_ne_number hhead', namedReference?, List.span_eq_takeWhile_dropWhile,
    List.takeWhile_append_of_pos hname, List.dropWhile_append_of_pos hname]
  simp [hhtml, isAlphanumeric]

theorem sameReading_decimal {digits : List Char} {n : Nat} (hne : digits ≠ [])
    (hvalue : Numeral.valueFrom? 10 0 digits = some n) (hn : isUndisputed n = true)
    (rest : List Char) : SameReading ('#' :: (digits ++ ';' :: rest)) := by
  obtain ⟨hhtml, hentity⟩ := numbered?_of_valueFrom? (by decide) (by decide) hne hvalue hn rest
  have hdigits := (valueFrom?_spec (by decide) hvalue).2.1
  have hbody : ∀ d ∈ '#' :: digits, d ≠ '&' ∧ d ≠ ';' :=
    List.forall_mem_cons.2 ⟨by decide, fun d hd =>
      have hd := isAlphanumeric_of_isSome_digit? (hdigits d hd)
      ⟨ne_of_isAlphanumeric hd rfl, ne_of_isAlphanumeric hd rfl⟩⟩
  -- A digit follows the number sign, so it is no number in base sixteen.
  have hhead {x : Char} (hx : (Numeral.digit? 10 x).isSome = false) (rest : List Char) :
      (digits ++ rest).head? ≠ some x := by
    cases digits with
    | nil => exact absurd rfl hne
    | cons d digits =>
      rintro ⟨⟩
      rw [hdigits _ List.mem_cons_self] at hx
      cases hx
  have hnil {x : Char} (hx : (Numeral.digit? 10 x).isSome = false) : digits.head? ≠ some x :=
    List.append_nil digits ▸ hhead hx []
  rw [SameReading, reference?_decimal (hhead (by decide) _) (hhead (by decide) _), hhtml,
    ← List.cons_append, entityReference?_closed hbody,
    resolve?_decimal (hnil (by decide)) (hnil (by decide)), hentity]
  rfl

theorem sameReading_hexadecimal {x : Char} {digits : List Char} {n : Nat} (hx : x = 'x' ∨ x = 'X')
    (hne : digits ≠ []) (hvalue : Numeral.valueFrom? 16 0 digits = some n)
    (hn : isUndisputed n = true) (rest : List Char) :
    SameReading ('#' :: x :: (digits ++ ';' :: rest)) := by
  obtain ⟨hhtml, hentity⟩ := numbered?_of_valueFrom? (by decide) (by decide) hne hvalue hn rest
  have hdigits := (valueFrom?_spec (by decide) hvalue).2.1
  have hbody : ∀ d ∈ '#' :: x :: digits, d ≠ '&' ∧ d ≠ ';' := by
    refine List.forall_mem_cons.2 ⟨by decide, List.forall_mem_cons.2 ⟨?_, fun d hd => ?_⟩⟩
    · rcases hx with rfl | rfl <;> decide
    · have hd := isAlphanumeric_of_isSome_digit? (hdigits d hd)
      exact ⟨ne_of_isAlphanumeric hd rfl, ne_of_isAlphanumeric hd rfl⟩
  rw [SameReading, ← List.cons_append, ← List.cons_append, entityReference?_closed hbody]
  rcases hx with rfl | rfl
  · rw [Entity.resolve?, hentity, List.cons_append, List.cons_append, reference?, hhtml]
    rfl
  · rw [Entity.resolve?, hentity, List.cons_append, List.cons_append, reference?, hhtml]
    rfl

/-- **What is settled is read in one way.** -/
theorem Settled.sameReading {cs : List Char} (h : Settled cs) : SameReading cs := by
  cases h with
  | named _ hname hc => exact sameReading_named hname hc _
  | decimal _ hne hvalue hn => exact sameReading_decimal hne hvalue hn _
  | hexadecimal _ hx hne hvalue hn => exact sameReading_hexadecimal hx hne hvalue hn _
  | nothing hclosed hold hnumber =>
    rw [SameReading, reference?_eq_none hclosed hold hnumber,
      entityReference?_eq_none hclosed hnumber]
    rfl

/-- **Where every ampersand is settled**, both readers write the same text. -/
theorem unescape_of_settled {s : List Char} (h : ∀ cs, '&' :: cs <:+ s → Settled cs) :
    unescape false s = Entity.unescape s := by
  refine Text.replaceTokens_congr fun u hu hne => ?_
  cases u with
  | nil => exact absurd rfl hne
  | cons c cs =>
    by_cases hc : c = '&'
    · subst hc
      have hsame := (h cs hu).sameReading
      rw [SameReading] at hsame
      rw [hsame, Option.map_map]
      rfl
    · have hnone : reference? false (c :: cs) = none := by
        unfold reference?
        split <;> simp_all
      rw [hnone, Entity.reference?_of_ne hc]
      rfl

end MediaScraper.Html
