import MediaScraper.Proofs.Repair.Joining
import MediaScraper.Proofs.Text.Replacement
import MediaScraper.Proofs.Xml.Event

/-!
# What is repaired

What the readers of repairs find at the beginning of a text: a declaration
(`declaration?_eq_some_iff`), an attribute of a declaration (`attribute?_eq_some_iff`) and a split
tag (`split?_eq_some_iff`). Each of them is closed by its own text, so it is found before any other
text as well.
-/

namespace MediaScraper.Repair

open Xml Declaration SplitScript

/-! ## Declarations -/

/-- **A declaration** is `<?xml`, then nothing or a blank and no question mark, then `?>`. -/
theorem declaration?_eq_some_iff {s body : List Char} {n : Nat} :
    declaration? s = some (body, n) ↔
      ∃ rest, s = instruction ("xml".toList ++ body) ++ rest ∧ '?' ∉ body ∧
        body.head?.all isBlank = true ∧ n = (instruction ("xml".toList ++ body)).length := by
  constructor
  · intro h
    rw [declaration?] at h
    split at h
    · cases h
    · next behind hopen =>
      rcases hspan : behind.span (· ≠ '?') with ⟨before, after⟩
      simp only [hspan] at h
      split at h
      · next rest =>
        have hfits : before.head?.all isBlank = true ∧
            (before, before.length + 7) = (body, n) := by
          cases before with
          | nil => exact ⟨rfl, Option.some.inj h⟩
          | cons c before =>
            dsimp only at h
            split at h
            · next hc => exact ⟨hc, Option.some.inj h⟩
            · cases h
        obtain ⟨hblank, heq⟩ := hfits
        cases heq
        obtain ⟨rfl, hmem⟩ := of_span_ne hspan
        refine ⟨rest, ?_, hmem, hblank, by simp [instruction]⟩
        rw [← List.isPrefixOf?_eq_some_iff_append_eq.1 hopen]
        simp [instruction]
      · cases h
  · rintro ⟨rest, rfl, hmem, hblank, rfl⟩
    have hopen : "<?xml".toList.isPrefixOf? (instruction ("xml".toList ++ body) ++ rest) =
        some (body ++ '?' :: '>' :: rest) :=
      List.isPrefixOf?_eq_some_iff_append_eq.2 (by simp [instruction])
    rw [declaration?, hopen]
    simp only [span_ne hmem]
    cases body with
    | nil => rfl
    | cons c body =>
      rw [List.head?_cons, Option.all_some] at hblank
      simp [hblank, instruction]

/-! ## Attributes -/

/-- An attribute of a declaration: a name, `=` and a value between quotes of one kind, with blanks
around `=`. -/
inductive IsAttribute : Declaration.Attribute → Prop
  | mk {c q : Char} {more gap gap' value : List Char} :
      isNameStart c = true → (∀ d ∈ more, Declaration.isNameChar d = true) →
      (∀ d ∈ (gap ++ ['=']).head?, Declaration.isNameChar d = false) →
      (∀ d ∈ gap, isBlank d = true) → (∀ d ∈ gap', isBlank d = true) →
      q = '"' ∨ q = '\'' → q ∉ value →
      IsAttribute ⟨c :: more, c :: more ++ gap ++ '=' :: gap' ++ (q :: value ++ [q])⟩

theorem quoted?_eq_some_iff {s v : List Char} :
    quoted? s = some v ↔
      ∃ q value rest, s = v ++ rest ∧ (q = '"' ∨ q = '\'') ∧ q ∉ value ∧ v = q :: value ++ [q] := by
  constructor
  · intro h
    cases s with
    | nil => cases h
    | cons q cs =>
      rw [quoted?] at h
      split at h
      · next hq =>
        rcases hspan : cs.span (· ≠ q) with ⟨value, after⟩
        simp only [hspan] at h
        split at h
        · cases h
        · next rest =>
          cases h
          obtain ⟨rfl, hmem⟩ := of_span_ne hspan
          exact ⟨q, value, rest, by simp, hq, hmem, rfl⟩
      · cases h
  · rintro ⟨q, value, rest, rfl, hq, hmem, rfl⟩
    rw [List.cons_append, List.cons_append, quoted?, if_pos hq, List.append_assoc,
      List.singleton_append]
    simp only [span_ne hmem]
    rfl

/-- **An attribute is read as it is written**, before any rest. -/
theorem attribute?_eq_some_iff {s : List Char} {a : Declaration.Attribute} {n : Nat} :
    attribute? s = some (a, n) ↔
      ∃ rest, s = a.source ++ rest ∧ IsAttribute a ∧ n = a.source.length := by
  constructor
  · intro h
    cases s with
    | nil => cases h
    | cons c cs =>
      rw [attribute?] at h
      split at h
      · next hc =>
        rcases hname : cs.span Declaration.isNameChar with ⟨more, behind⟩
        rcases hgap : behind.span isBlank with ⟨gap, after⟩
        simp only [hname, hgap] at h
        split at h
        · next after =>
          rcases hgap' : after.span isBlank with ⟨gap', text⟩
          simp only [hgap'] at h
          split at h
          · next v hvalue =>
            cases h
            obtain ⟨q, value, rest, rfl, hq, hmem, rfl⟩ := quoted?_eq_some_iff.1 hvalue
            obtain ⟨rfl, hmore, hbehind⟩ := of_span hname
            obtain ⟨rfl, hblank, -⟩ := of_span hgap
            obtain ⟨rfl, hblank', -⟩ := of_span hgap'
            refine ⟨rest, by simp, .mk hc hmore ?_ hblank hblank' hq hmem, rfl⟩
            intro d hd
            refine hbehind d ?_
            cases gap <;> exact hd
          · cases h
        · cases h
      · cases h
  · rintro ⟨rest, rfl, h, rfl⟩
    cases h with
    | @mk c q more gap gap' value hc hmore hbehind hblank hblank' hq hmem =>
      have hname : (more ++ (gap ++ '=' :: (gap' ++ (q :: value ++ [q] ++ rest)))).span
          Declaration.isNameChar = (more, gap ++ '=' :: (gap' ++ (q :: value ++ [q] ++ rest))) := by
        refine span_stretch hmore fun d hd => hbehind d ?_
        cases gap <;> exact hd
      have hgap : (gap ++ '=' :: (gap' ++ (q :: value ++ [q] ++ rest))).span isBlank =
          (gap, '=' :: (gap' ++ (q :: value ++ [q] ++ rest))) := by
        refine span_stretch hblank ?_
        rintro d ⟨⟩
        decide
      have hgap' : (gap' ++ (q :: value ++ [q] ++ rest)).span isBlank =
          (gap', q :: value ++ [q] ++ rest) := by
        refine span_stretch hblank' ?_
        rintro d ⟨⟩
        rcases hq with rfl | rfl <;> decide
      have hvalue : quoted? (q :: value ++ [q] ++ rest) = some (q :: value ++ [q]) :=
        quoted?_eq_some_iff.2 ⟨q, value, rest, rfl, hq, hmem, rfl⟩
      have hs : c :: more ++ gap ++ '=' :: gap' ++ (q :: value ++ [q]) ++ rest =
          c :: (more ++ (gap ++ '=' :: (gap' ++ (q :: value ++ [q] ++ rest)))) := by simp
      rw [hs, attribute?, if_pos hc]
      simp only [hname, hgap, hgap', hvalue]

/-! ## Split tags -/

/-- A split tag: a bracket, perhaps a slash, and the two parts of the word with a joint between
them. -/
inductive IsSplit : Split → List Char → Prop
  | mk {slash : Bool} {sc joint ript : List Char} :
      dropLetters? ['s', 'c'] sc = some [] → joint? joint = some (joint, []) →
      dropLetters? ['r', 'i', 'p', 't'] ript = some [] →
      IsSplit ⟨slash, joint⟩ ('<' :: ((if slash then ['/'] else []) ++ (sc ++ joint ++ ript)))

theorem isLetter_of_dropLetters? {ls w : List Char} (h : dropLetters? ls w = some []) :
    w.length = ls.length ∧ ∀ c ∈ w, ∃ l ∈ ls, isLetter l c = true := by
  induction ls generalizing w with
  | nil =>
    cases h
    exact ⟨rfl, fun c hc => absurd hc List.not_mem_nil⟩
  | cons l ls ih =>
    cases w with
    | nil => cases h
    | cons c w =>
      rw [dropLetters?] at h
      split at h
      · next hc =>
        obtain ⟨hlength, hw⟩ := ih h
        refine ⟨congrArg (· + 1) hlength, List.forall_mem_cons.2 ⟨⟨l, List.mem_cons_self, hc⟩, ?_⟩⟩
        intro d hd
        obtain ⟨l', hl', hletter⟩ := hw d hd
        exact ⟨l', List.mem_cons_of_mem l hl', hletter⟩
      · cases h

theorem dropLetters?_eq_some_iff {ls s z : List Char} (hls : ∀ l ∈ ls, isLetter l '<' = false) :
    dropLetters? ls s = some z ↔ ∃ w, s = w ++ z ∧ dropLetters? ls w = some [] := by
  constructor
  · intro h
    obtain ⟨w, rfl, -, hw⟩ := exists_of_dropLetters? hls h
    exact ⟨w, rfl, by simpa using hw []⟩
  · rintro ⟨w, rfl, h⟩
    obtain ⟨w', hw', -, hdrop⟩ := exists_of_dropLetters? hls h
    rw [List.append_nil] at hw'
    rw [hw', hdrop]

theorem joint?_eq_some_iff {s joint z : List Char} :
    joint? s = some (joint, z) ↔ ∃ q gap gap' q', s = joint ++ z ∧
      joint = q :: gap ++ '+' :: gap' ++ [q'] ∧ isQuote q = true ∧ isQuote q' = true ∧
      (∀ d ∈ gap, isBlank d = true) ∧ ∀ d ∈ gap', isBlank d = true := by
  constructor
  · intro h
    obtain ⟨hs, -, -⟩ := exists_of_joint? h
    cases s with
    | nil => cases h
    | cons q cs =>
      obtain ⟨gap, more, gap', q', hgap, hgap', ⟨hq, hq'⟩, rfl⟩ := joint?_eq_some.1 h
      exact ⟨q, gap, gap', q', hs, rfl, hq, hq', (of_span hgap).2.1, (of_span hgap').2.1⟩
  · rintro ⟨q, gap, gap', q', rfl, rfl, hq, hq', hgap, hgap'⟩
    have hend : isBlank q' = false := by
      simp only [isQuote, Bool.or_eq_true, decide_eq_true_eq] at hq'
      rcases hq' with rfl | rfl <;> decide
    simp only [List.cons_append, List.append_assoc, List.nil_append]
    refine joint?_eq_some.2 ⟨gap, gap' ++ q' :: z, gap', q', ?_, ?_, ⟨hq, hq'⟩, by simp⟩
    · exact span_eq_of_forall hgap (by decide) _
    · exact span_eq_of_forall hgap' hend z

/-- **A split tag is read as it is written**, before any rest. -/
theorem split?_eq_some_iff {s : List Char} {t : Split} {n : Nat} :
    split? s = some (t, n) ↔ ∃ w rest, s = w ++ rest ∧ IsSplit t w ∧ n = w.length := by
  constructor
  · intro h
    unfold split? at h
    split at h
    · next cs =>
      split at h
      next slash behind hslash =>
      have hcs : cs = (if slash then ['/'] else []) ++ behind := by
        split at hslash <;> (cases hslash; rfl)
      split at h
      · cases h
      · next joint rest hjoint =>
        split at h
        · next x hrest =>
          cases h
          obtain ⟨y, hy, hread⟩ := Option.bind_eq_some_iff.1 hjoint
          obtain ⟨sc, rfl, hsc⟩ := (dropLetters?_eq_some_iff (by decide)).1 hy
          obtain ⟨rfl, -, hall⟩ := exists_of_joint? hread
          obtain ⟨ript, rfl, hript⟩ := (dropLetters?_eq_some_iff (by decide)).1 hrest
          have hjoint' : joint? joint = some (joint, []) := by simpa using hall []
          refine ⟨_, x, ?_, @IsSplit.mk slash _ _ _ hsc hjoint' hript, ?_⟩
          · simp [hcs]
          · have hlength : sc.length = 2 := (isLetter_of_dropLetters? hsc).1
            have hlength' : ript.length = 4 := (isLetter_of_dropLetters? hript).1
            cases slash <;> simp [hlength, hlength'] <;> omega
        · cases h
    · cases h
  · rintro ⟨w, rest, rfl, h, rfl⟩
    cases h with
    | @mk slash sc joint ript hsc hjoint hript =>
      obtain ⟨-, -, hall⟩ := exists_of_joint? hjoint
      have hread : (dropLetters? ['s', 'c'] (sc ++ (joint ++ (ript ++ rest)))).bind joint? =
          some (joint, ript ++ rest) := by
        rw [(dropLetters?_eq_some_iff (by decide)).2 ⟨sc, rfl, hsc⟩, Option.bind_some, hall]
      have hrest : dropLetters? ['r', 'i', 'p', 't'] (ript ++ rest) = some rest :=
        (dropLetters?_eq_some_iff (by decide)).2 ⟨ript, rfl, hript⟩
      obtain ⟨hlength, hletters⟩ := isLetter_of_dropLetters? hsc
      have hlength' : ript.length = 4 := (isLetter_of_dropLetters? hript).1
      cases slash with
      | true =>
        simp only [if_true, List.cons_append, List.nil_append, List.append_assoc, split?, hread,
          hrest]
        simp [hlength, hlength']
        omega
      | false =>
        cases sc with
        | nil => cases hlength
        | cons c sc =>
          have hslash : ∀ l ∈ ['s', 'c'], isLetter l '/' = false := by decide
          have hc : c ≠ '/' := by
            rintro rfl
            obtain ⟨l, hl, hletter⟩ := hletters '/' List.mem_cons_self
            rw [hslash l hl] at hletter
            cases hletter
          rw [List.cons_append] at hread
          simp only [Bool.false_eq_true, if_false, List.cons_append, List.nil_append,
            List.append_assoc, split?, List.cons.injEq, hc, false_and, imp_false, not_false_eq_true,
            implies_true, hread, hrest]
          have hone : sc.length = 1 := by simpa using hlength
          simp [hone, hlength']
          omega

/-- What stands in no split tag, behind its bracket. -/
theorem isForeign_of_mem {d : Char} (hd : d ∈ ['<', '&', '?']) :
    d ≠ '/' ∧ d ≠ '+' ∧ isQuote d = false ∧ isBlank d = false ∧
      ∀ l ∈ ['s', 'c', 'r', 'i', 'p', 't'], isLetter l d = false := by
  revert d
  decide

theorem not_mem_of_dropLetters? {ls w : List Char} {d : Char} (h : dropLetters? ls w = some [])
    (hd : ∀ l ∈ ls, isLetter l d = false) : d ∉ w := by
  intro hmem
  obtain ⟨l, hl, hletter⟩ := (isLetter_of_dropLetters? h).2 d hmem
  rw [hd l hl] at hletter
  cases hletter

theorem not_mem_of_forall {p : Char → Bool} {w : List Char} {d : Char} (h : ∀ c ∈ w, p c = true)
    (hd : p d = false) : d ∉ w := by
  intro hmem
  rw [h d hmem] at hd
  cases hd

theorem ne_of_isQuote {q d : Char} (h : isQuote q = true) (hd : isQuote d = false) : d ≠ q := by
  rintro rfl
  rw [h] at hd
  cases hd

/-- Behind the bracket of a split tag stand letters, quotes, blanks, the slash and `+`. -/
theorem IsSplit.exists_eq_cons {t : Split} {w : List Char} (h : IsSplit t w) :
    ∃ v, w = '<' :: v ∧ (∀ d ∈ ['<', '&', '?'], d ∉ v) ∧ ∀ d ∈ t.joint, d ∈ v := by
  cases h with
  | @mk slash sc joint ript hsc hjoint hript =>
    refine ⟨_, rfl, fun d hd hmem => ?_, fun d hd => by simp [hd]⟩
    obtain ⟨hslash, hplus, hquote, hblank, hletter⟩ := isForeign_of_mem hd
    obtain ⟨q, gap, gap', q', -, rfl, hq, hq', hgap, hgap'⟩ := joint?_eq_some_iff.1 hjoint
    have hfirst : d ∉ (if slash then ['/'] else []) := by
      cases slash <;> simp [hslash]
    simp only [List.mem_append, List.mem_cons, List.not_mem_nil, or_false] at hmem
    rcases hmem with hmem | (hmem | (((hmem | hmem) | hmem | hmem) | hmem)) | hmem
    · exact hfirst hmem
    · exact not_mem_of_dropLetters? hsc (fun l hl => hletter l (by revert l; decide)) hmem
    · exact ne_of_isQuote hq hquote hmem
    · exact not_mem_of_forall hgap hblank hmem
    · exact hplus hmem
    · exact not_mem_of_forall hgap' hblank hmem
    · exact ne_of_isQuote hq' hquote hmem
    · exact not_mem_of_dropLetters? hript (fun l hl => hletter l (by revert l; decide)) hmem

/-- **What is written for a split tag** holds the characters of its joint and of its letters. -/
theorem exists_write_split (t : Split) : ∃ x, SplitScript.write t = '&' :: x ∧
    ∀ d ∈ x, d ∈ "lt;/script".toList ∨ d ∈ t.joint := by
  refine ⟨"lt;".toList ++ (if t.slash then ['/'] else []) ++ "sc".toList ++ t.joint ++
    "ript".toList, rfl, fun d hd => ?_⟩
  simp only [List.mem_append] at hd
  have hlt : ∀ d ∈ "lt;".toList, d ∈ "lt;/script".toList := by decide
  have hsc : ∀ d ∈ "sc".toList, d ∈ "lt;/script".toList := by decide
  have hript : ∀ d ∈ "ript".toList, d ∈ "lt;/script".toList := by decide
  have hslash : ∀ d ∈ (if t.slash then ['/'] else []), d ∈ "lt;/script".toList := by
    cases t.slash <;> decide
  rcases hd with (((hd | hd) | hd) | hd) | hd
  · exact .inl (hlt d hd)
  · exact .inl (hslash d hd)
  · exact .inl (hsc d hd)
  · exact .inr hd
  · exact .inl (hript d hd)

/-- A split tag that goes on behind a quote is not followed by what may come behind a value. -/
theorem IsSplit.not_behind {t : Split} {q : Char} {front back : List Char}
    (h : IsSplit t (front ++ q :: back)) (hq : isQuote q = true) (hfront : q ∉ front)
    (more : List Char) : ¬ Behind (back ++ more) := by
  intro hbehind
  generalize hw : front ++ q :: back = w at h
  cases h with
  | @mk slash sc joint ript hsc hjoint hript =>
    obtain ⟨p, gap, gap', p', -, rfl, hp, hp', hgap, hgap'⟩ := joint?_eq_some_iff.1 hjoint
    have hletters : ∀ l ∈ ['s', 'c', 'r', 'i', 'p', 't'], isLetter l q = false := by
      simp only [isQuote, Bool.or_eq_true, decide_eq_true_eq] at hq
      rcases hq with rfl | rfl <;> decide
    have hothers : q ≠ '<' ∧ q ≠ '/' ∧ q ≠ '+' ∧ isBlank q = false := by
      simp only [isQuote, Bool.or_eq_true, decide_eq_true_eq] at hq
      rcases hq with rfl | rfl <;> decide
    obtain ⟨hbracket, hslash, hplus, hblank⟩ := hothers
    have hopen : q ∉ '<' :: ((if slash then ['/'] else []) ++ sc) := by
      have hsc : q ∉ sc := not_mem_of_dropLetters? hsc fun l hl => hletters l (by revert l; decide)
      cases slash <;> simp [hbracket, hslash, hsc]
    have hript' : q ∉ ript :=
      not_mem_of_dropLetters? hript fun l hl => hletters l (by revert l; decide)
    have hmiddle : q ∉ gap ++ '+' :: gap' := by
      simp [hplus, not_mem_of_forall hgap hblank, not_mem_of_forall hgap' hblank]
    by_cases hpq : q = p
    · -- the quote opens the joint, so `+` comes next
      subst hpq
      have hcut : front ++ q :: back = '<' :: ((if slash then ['/'] else []) ++ sc) ++
          q :: (gap ++ '+' :: (gap' ++ p' :: ript)) := by simp [hw]
      obtain ⟨-, rfl⟩ := eq_of_append_eq hfront hopen hcut
      refine hbehind.plus ?_
      rw [List.append_assoc, List.dropWhile_append_of_pos hgap, List.cons_append,
        List.dropWhile_cons_of_neg (by decide), List.head?_cons]
    · by_cases hpq' : q = p'
      · -- the quote ends the joint, so the rest of the word comes next
        subst hpq'
        have hcut : front ++ q :: back = '<' :: ((if slash then ['/'] else []) ++ sc) ++
            p :: (gap ++ '+' :: gap') ++ q :: ript := by simp [hw]
        obtain ⟨-, rfl⟩ := eq_of_append_eq hfront (by simp_all) hcut
        have hread : dropLetters? ['r', 'i', 'p', 't'] (back ++ more) = some more :=
          (dropLetters?_eq_some_iff (by decide)).2 ⟨back, rfl, hript⟩
        rw [hbehind.letter] at hread
        cases hread
      · have hmem : q ∈ front ++ q :: back := by simp
        rw [hw] at hmem
        simp_all

end MediaScraper.Repair
