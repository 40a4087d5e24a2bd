import MediaScraper.Proofs.Repair.Declaration
import MediaScraper.Proofs.Text.Search
import MediaScraper.Proofs.Unicode.CaseFolding
import MediaScraper.Repair

/-!
# Repairing twice

**Declarations.** A declaration with attributes that it knows, one space apart, is written as it
stands (`write_of_listed`). Every declaration is rewritten to one of these, and the rewriting makes
no other one (`settled_fix`).

**Split tags.** What is written for split tags makes no new one (`quiet_neutralize`), so there is
nothing to write the second time (`neutralize_neutralize`). A split tag may stand in a quoted value
of a declaration; there it is rewritten within the value, so that the attribute stays one
(`settled_neutralize`).

**Registers.** So a register's text is repaired once and for all (`buffer_buffer`).
-/

namespace MediaScraper.Repair

open Xml Declaration SplitScript

/-! ## Declarations that are kept -/

/-- Attributes that a declaration knows, each behind a space. -/
inductive Listed : List Char → Prop
  | single {a : Declaration.Attribute} : IsAttribute a → a.isKnown = true → Listed (' ' :: a.source)
  | cons {a : Declaration.Attribute} {body : List Char} : IsAttribute a → a.isKnown = true →
      Listed body → Listed (' ' :: a.source ++ body)

/-- A text in which every declaration lists attributes that it knows. -/
def Settled (s : List Char) : Prop :=
  ∀ u body n, u <:+ s → declaration? u = some (body, n) → Listed body

theorem IsAttribute.source_ne_nil {a : Declaration.Attribute} (h : IsAttribute a) :
    a.source ≠ [] := by
  cases h
  simp

theorem tokens_source {a : Declaration.Attribute} (h : IsAttribute a) (rest : List Char) :
    Text.tokens attribute? (' ' :: a.source ++ rest) = a :: Text.tokens attribute? rest := by
  rw [List.cons_append, Text.tokens_cons rfl, Text.tokens_of_token h.source_ne_nil]
  exact attribute?_eq_some_iff.2 ⟨rest, rfl, h, rfl⟩

theorem exists_tokens_of_listed {body : List Char} (h : Listed body) :
    ∃ a as, (Text.tokens attribute? body).filter (·.isKnown) = a :: as ∧
      body = ' ' :: List.intercalate [' '] ((a :: as).map (·.source)) := by
  induction h with
  | @single a ha hknown =>
    refine ⟨a, [], ?_, by simp⟩
    have htokens := tokens_source ha []
    rw [List.append_nil] at htokens
    rw [htokens]
    simp [hknown, Text.tokens, Text.segment, Text.segmentFrom, Text.pushPlain]
  | @cons a body ha hknown _ ih =>
    obtain ⟨b, bs, htokens, hbody⟩ := ih
    refine ⟨a, b :: bs, ?_, ?_⟩
    · rw [tokens_source ha, List.filter_cons_of_pos hknown, htokens]
    · rw [hbody]
      simp

theorem write_of_listed {body : List Char} (h : Listed body) :
    Declaration.write body = instruction ("xml".toList ++ body) := by
  obtain ⟨a, as, htokens, hbody⟩ := exists_tokens_of_listed h
  rw [Declaration.write, htokens]
  simp only
  rw [hbody]
  simp [instruction]

theorem listed_intercalate {a : Declaration.Attribute} {as : List Declaration.Attribute}
    (h : ∀ b ∈ a :: as, IsAttribute b ∧ b.isKnown = true) :
    Listed (' ' :: List.intercalate [' '] ((a :: as).map (·.source))) := by
  induction as generalizing a with
  | nil =>
    obtain ⟨ha, hknown⟩ := h a List.mem_cons_self
    simpa using Listed.single ha hknown
  | cons b bs ih =>
    obtain ⟨ha, hknown⟩ := h a List.mem_cons_self
    simpa using Listed.cons ha hknown (ih fun c hc => h c (List.mem_cons_of_mem a hc))

theorem isAttribute_of_mem_tokens {body : List Char} {a : Declaration.Attribute}
    (h : a ∈ Text.tokens attribute? body) : IsAttribute a := by
  obtain ⟨piece, hpiece, heq⟩ := List.mem_filterMap.1 h
  cases piece with
  | plain p => cases heq
  | token t =>
    cases heq
    obtain ⟨u, n, -, hread⟩ := Text.standsIn_of_mem_segment hpiece
    obtain ⟨-, -, ha, -⟩ := attribute?_eq_some_iff.1 hread
    exact ha

/-- **A declaration is rewritten to one that lists what it knows.** -/
theorem exists_listed_write {body : List Char} (h : '?' ∉ body) :
    ∃ b, Declaration.write body = instruction ("xml".toList ++ b) ∧ Listed b ∧ '?' ∉ b := by
  cases heq : (Text.tokens attribute? body).filter (·.isKnown) with
  | nil =>
    refine ⟨' ' :: "version=\"1.0\"".toList, by rw [Declaration.write, heq]; rfl, ?_, by decide⟩
    have hversion : IsAttribute ⟨"version".toList, "version=\"1.0\"".toList⟩ :=
      @IsAttribute.mk 'v' '"' "ersion".toList [] [] "1.0".toList (by decide) (by decide)
        (by rintro d ⟨⟩; decide) (by decide) (by decide) (.inl rfl) (by decide)
    exact .single hversion (by decide)
  | cons a as =>
    have hkept : ∀ b ∈ a :: as, b ∈ Text.tokens attribute? body ∧ b.isKnown = true := by
      intro b hb
      rw [← heq] at hb
      exact List.mem_filter.1 hb
    refine ⟨' ' :: List.intercalate [' '] ((a :: as).map (·.source)), ?_,
      listed_intercalate fun b hb => (hkept b hb).imp_left isAttribute_of_mem_tokens, ?_⟩
    · rw [Declaration.write, heq]
      simp [instruction]
    · rw [List.mem_cons, not_or]
      refine ⟨by decide, fun hmem => ?_⟩
      rcases mem_intercalate hmem with hmem | ⟨source, hsource, hmem⟩
      · exact absurd hmem (by decide)
      · obtain ⟨b, hb, rfl⟩ := List.mem_map.1 hsource
        exact h (mem_of_mem_tokens (hkept b hb).1 _ hmem)

/-- **A settled text stays**: its declarations are written as they stand. -/
theorem fix_of_settled {s : List Char} (h : Settled s) : fix s = s := by
  refine Text.replaceTokens_eq_self fun u body n hu hread => ?_
  rw [write_of_listed (h u body n hu hread)]
  obtain ⟨rest, rfl, -, -, rfl⟩ := declaration?_eq_some_iff.1 hread
  exact ⟨by simp [instruction], rfl, List.prefix_append _ rest⟩

/-! ## Rewritten declarations -/

theorem exists_cons_write (body : List Char) :
    ∃ x, Declaration.write body = '<' :: '?' :: 'x' :: x := by
  unfold Declaration.write
  split
  · exact ⟨_, rfl⟩
  · exact ⟨_, rfl⟩

/-- Up to `?>`, a text whose declarations are rewritten is the old one. -/
theorem exists_of_fix_eq {s body rest : List Char} (h : fix s = body ++ '?' :: '>' :: rest)
    (hbody : '?' ∉ body) : ∃ behind, s = body ++ '?' :: '>' :: behind := by
  induction body generalizing s with
  | nil =>
    have hclose : "?>".toList <+: fix s := ⟨rest, h.symm⟩
    have hwrite (b : List Char) : ∃ d x, Declaration.write b = d :: x ∧ d ∉ "?>".toList := by
      obtain ⟨x, hx⟩ := exists_cons_write b
      exact ⟨'<', _, hx, by decide⟩
    obtain ⟨behind, rfl, -⟩ := Text.exists_of_prefix_replaceTokens hwrite hclose
    exact ⟨behind, rfl⟩
  | cons c body ih =>
    obtain ⟨hc, hbehind⟩ := List.ne_and_not_mem_of_not_mem_cons hbody
    cases s with
    | nil => cases h
    | cons d s =>
      cases hread : declaration? (d :: s) with
      | some r =>
        -- a rewritten declaration has its first `?` before another letter
        obtain ⟨x, hx⟩ := exists_cons_write r.1
        rw [fix, Text.replaceTokens_cons_of_some _ hread, hx] at h
        cases body with
        | nil => exact absurd (List.cons.inj (List.cons.inj (List.cons.inj h).2).2).1 (by decide)
        | cons e body =>
          have he : '?' = e := (List.cons.inj (List.cons.inj h).2).1
          exact absurd List.mem_cons_self (he ▸ hbehind)
      | none =>
        rw [fix, Text.replaceTokens_cons _ hread] at h
        obtain ⟨rfl, htail⟩ := List.cons.inj h
        obtain ⟨behind, rfl⟩ := ih htail hbehind
        exact ⟨behind, rfl⟩

/-- No declaration begins within a rewritten one. -/
theorem declaration?_within {b x : List Char} (hb : '?' ∉ b)
    (hx : x <:+ instruction ("xml".toList ++ b)) (hne : x ≠ [])
    (hall : x ≠ instruction ("xml".toList ++ b)) (rest : List Char) :
    declaration? (x ++ rest) = none := by
  by_contra hread
  obtain ⟨⟨body, n⟩, hread⟩ := Option.ne_none_iff_exists'.1 hread
  obtain ⟨behind, heq, -⟩ := declaration?_eq_some_iff.1 hread
  obtain ⟨more, hmore⟩ : ∃ more, x ++ rest = '<' :: '?' :: 'x' :: more := ⟨_, heq⟩
  have hhead (d : Char) (y : List Char) (hxy : x = d :: y) : d = '<' := by
    rw [hxy] at hmore
    exact (List.cons.inj hmore).1
  have hinside : x <:+ '?' :: 'x' :: 'm' :: 'l' :: (b ++ "?>".toList) :=
    (List.suffix_cons_iff.1 hx).resolve_left hall
  iterate 4
    rcases List.suffix_cons_iff.1 hinside with heq | hinside
    · exact absurd (hhead _ _ heq) (by decide)
  rcases List.suffix_or_suffix_of_suffix hinside (List.suffix_append b "?>".toList)
    with hclose | ⟨b', rfl⟩
  · rcases List.suffix_cons_iff.1 hclose with heq | hclose
    · exact absurd (hhead _ _ heq) (by decide)
    · rcases List.suffix_cons_iff.1 hclose with heq | hclose
      · exact absurd (hhead _ _ heq) (by decide)
      · exact hne (List.suffix_nil.1 hclose)
  · have hb' : '?' ∉ b' := fun hmem =>
      hb ((List.suffix_append_self_iff.1 hinside).subset hmem)
    -- the first question mark of the declaration is the one that closes it
    have hfirst : b' ++ '?' :: '>' :: rest = ['<'] ++ '?' :: 'x' :: more := by
      rw [List.singleton_append, ← hmore]
      simp
    obtain ⟨-, hrest⟩ := eq_of_append_eq hb' (by decide) hfirst
    exact absurd (List.cons.inj hrest).1 (by decide)

/-- A declaration that a rewritten text begins with is rewritten itself. -/
theorem listed_of_declaration?_fix {s body : List Char} {n : Nat}
    (h : declaration? (fix s) = some (body, n)) : Listed body := by
  obtain ⟨rest, heq, hbody, hblank, -⟩ := declaration?_eq_some_iff.1 h
  cases s with
  | nil => cases heq
  | cons c s =>
    cases hread : declaration? (c :: s) with
    | some r =>
      obtain ⟨-, -, hb, -⟩ := declaration?_eq_some_iff.1 hread
      obtain ⟨b, hwrite, hlisted, hb⟩ := exists_listed_write hb
      rw [fix, Text.replaceTokens_cons_of_some _ hread, hwrite] at heq
      have hbodies :
          b ++ '?' :: ('>' :: fix (s.drop (r.2 - 1))) = body ++ '?' :: ('>' :: rest) := by
        simpa [instruction, fix] using heq
      rwa [← (eq_of_append_eq hb hbody hbodies).1]
    | none =>
      -- up to its end the text is the old one, where no declaration begins here
      rw [fix, Text.replaceTokens_cons _ hread] at heq
      obtain ⟨rfl, htail⟩ := List.cons.inj heq
      have htail : fix s = "?xml".toList ++ (body ++ '?' :: '>' :: rest) := by
        rw [fix, htail]
        simp
      have hwrite (b : List Char) : ∃ d x, Declaration.write b = d :: x ∧ d ∉ "?xml".toList := by
        obtain ⟨x, hx⟩ := exists_cons_write b
        exact ⟨'<', _, hx, by decide⟩
      obtain ⟨u, rfl, hfix⟩ := Text.exists_of_prefix_replaceTokens hwrite ⟨_, htail.symm⟩
      have hrest : fix u = body ++ '?' :: '>' :: rest :=
        List.append_cancel_left (hfix.symm.trans htail)
      obtain ⟨behind, rfl⟩ := exists_of_fix_eq hrest hbody
      rw [declaration?_eq_some_iff.2 ⟨behind, by simp [instruction], hbody, hblank, rfl⟩] at hread
      cases hread

/-- **Rewriting declarations settles a text.** -/
theorem settled_fix (s : List Char) : Settled (fix s) := by
  intro v body n hv hread
  rcases Text.suffix_replaceTokens hv with
    ⟨u, -, rfl⟩ | ⟨u, t, m, x, rest, -, hu, hx, hne, hall, rfl⟩
  · exact listed_of_declaration?_fix hread
  · obtain ⟨-, -, hb, -⟩ := declaration?_eq_some_iff.1 hu
    obtain ⟨b, hwrite, -, hb⟩ := exists_listed_write hb
    rw [hwrite] at hx hall
    rw [declaration?_within hb hx hne hall] at hread
    cases hread

/-! ## Rewritten split tags -/

theorem exists_cons_within {u x : List Char} {t : Split} {n : Nat} (h : split? u = some (t, n))
    (hx : x <:+ SplitScript.write t) (hne : x ≠ []) (hall : x ≠ SplitScript.write t) :
    ∃ d y, x = d :: y ∧ d ≠ '<' := by
  obtain ⟨w, rest, -, hsplit, -⟩ := split?_eq_some_iff.1 h
  obtain ⟨w', -, hforeign, hjoint⟩ := hsplit.exists_eq_cons
  obtain ⟨z, hz, hwrite⟩ := exists_write_split t
  obtain ⟨d, y, rfl⟩ := List.exists_cons_of_ne_nil hne
  refine ⟨d, y, rfl, ?_⟩
  rintro rfl
  rw [hz] at hx hall
  rcases hwrite '<' (((List.suffix_cons_iff.1 hx).resolve_left hall).subset List.mem_cons_self)
    with hmem | hmem
  · exact absurd hmem (by decide)
  · exact hforeign '<' (by decide) (hjoint '<' hmem)

/-- **Rewriting split tags makes none.** -/
theorem quiet_neutralize (s : List Char) : Text.Quiet split? (neutralize s) := by
  intro v hv hne
  rcases Text.suffix_replaceTokens hv with
    ⟨u, -, rfl⟩ | ⟨u, t, n, x, rest, -, hu, hx, hnil, hall, rfl⟩
  · by_contra hread
    obtain ⟨⟨t, n⟩, hread⟩ := Option.ne_none_iff_exists'.1 hread
    obtain ⟨w, rest, heq, hsplit, rfl⟩ := split?_eq_some_iff.1 hread
    obtain ⟨w', rfl, hforeign, -⟩ := hsplit.exists_eq_cons
    have hwrite (t : Split) : ∃ d x, SplitScript.write t = d :: x ∧ d ∉ '<' :: w' := by
      obtain ⟨x, hx, -⟩ := exists_write_split t
      exact ⟨'&', x, hx, List.not_mem_cons_of_ne_of_not_mem (by decide) (hforeign '&' (by decide))⟩
    obtain ⟨behind, rfl, -⟩ := Text.exists_of_prefix_replaceTokens hwrite ⟨rest, heq.symm⟩
    -- it would have been rewritten
    rw [Text.replaceTokens_of_token _ (List.cons_ne_nil _ _)
      (split?_eq_some_iff.2 ⟨_, behind, rfl, hsplit, rfl⟩)] at heq
    obtain ⟨y, hy, -⟩ := exists_write_split t
    rw [hy] at heq
    exact absurd (List.cons.inj heq).1 (by decide)
  · obtain ⟨d, x, rfl, hd⟩ := exists_cons_within hu hx hnil hall
    exact split?_of_ne hd _

theorem neutralize_neutralize (s : List Char) : neutralize (neutralize s) = neutralize s :=
  Text.replaceTokens_of_quiet _ (quiet_neutralize s)

theorem neutralize_append {s z : List Char}
    (h : ∀ t w rest, IsSplit t w → ∀ u, u <:+ s → u ≠ [] → u ++ z = w ++ rest → w <+: u) :
    neutralize (s ++ z) = neutralize s ++ neutralize z := by
  refine Text.replaceTokens_append fun u hu hne => ⟨Option.ext fun r => ?_, fun r hr => ?_⟩
  · rw [split?_eq_some_iff, split?_eq_some_iff]
    constructor
    · rintro ⟨w, rest, heq, hsplit, hlength⟩
      obtain ⟨more, rfl⟩ := h _ w rest hsplit u hu hne heq
      exact ⟨w, more, rfl, hsplit, hlength⟩
    · rintro ⟨w, rest, rfl, hsplit, hlength⟩
      exact ⟨w, rest ++ z, List.append_assoc .., hsplit, hlength⟩
  · obtain ⟨t, n⟩ := r
    obtain ⟨w, rest, rfl, -, hlength⟩ := split?_eq_some_iff.1 hr
    rw [hlength, List.length_append]
    exact Nat.le_add_right ..

theorem neutralize_cons {c : Char} (hc : c ≠ '<') (s : List Char) :
    neutralize (c :: s) = c :: neutralize s :=
  Text.replaceTokens_cons _ (split?_of_ne hc s)

theorem neutralize_of_not_mem {s : List Char} (hs : '<' ∉ s) (z : List Char) :
    neutralize (s ++ z) = s ++ neutralize z := by
  refine Text.replaceTokens_append_of_none (fun u rest hu hne => ?_) z
  obtain ⟨c, u, rfl⟩ := List.exists_cons_of_ne_nil hne
  refine split?_of_ne ?_ (u ++ rest)
  rintro rfl
  exact hs (hu.subset List.mem_cons_self)

theorem neutralize_question (s z : List Char) :
    neutralize (s ++ '?' :: z) = neutralize s ++ '?' :: neutralize z := by
  rw [neutralize_append, neutralize_cons (by decide)]
  intro t w rest hsplit u _ _ heq
  obtain ⟨v, rfl, hforeign, -⟩ := hsplit.exists_eq_cons
  exact prefix_of_prefix_append (List.not_mem_cons_of_ne_of_not_mem (by decide)
    (hforeign '?' (by decide))) ⟨rest, heq.symm⟩

/-- **No split tag reaches over the quote that closes a value.** -/
theorem neutralize_value {q : Char} {value rest : List Char} (hq : isQuote q = true)
    (hvalue : q ∉ value) (hrest : Behind rest) :
    neutralize (value ++ q :: rest) = neutralize value ++ q :: neutralize rest := by
  have hbracket : q ≠ '<' := by
    rintro rfl
    exact absurd hq (by decide)
  rw [neutralize_append, neutralize_cons hbracket]
  intro t w more hsplit u hu _ heq
  by_cases hmem : q ∈ w
  · obtain ⟨front, back, rfl, hfront⟩ := List.eq_append_cons_of_mem hmem
    rw [List.append_assoc, List.cons_append] at heq
    obtain ⟨-, rfl⟩ := eq_of_append_eq (fun hmem => hvalue (hu.subset hmem)) hfront heq
    exact absurd hrest (hsplit.not_behind hq hfront more)
  · exact prefix_of_prefix_append hmem ⟨more, heq.symm⟩

theorem mem_neutralize {s : List Char} {d : Char} (h : d ∈ neutralize s) :
    d ∈ s ∨ d ∈ "&lt;/script".toList := by
  rcases Text.mem_replaceTokens h with h | ⟨u, t, n, hu, hread, hd⟩
  · exact .inl h
  · obtain ⟨w, rest, rfl, hsplit, -⟩ := split?_eq_some_iff.1 hread
    obtain ⟨v, rfl, -, hjoint⟩ := hsplit.exists_eq_cons
    obtain ⟨x, hx, hwrite⟩ := exists_write_split t
    rw [hx] at hd
    rcases List.mem_cons.1 hd with rfl | hd
    · exact .inr (by decide)
    · rcases hwrite d hd with hd | hd
      · exact .inr (List.mem_cons_of_mem _ hd)
      · exact .inl (hu.subset (List.mem_append_left _ (List.mem_cons_of_mem _ (hjoint d hd))))

/-! ## Split tags in declarations -/

theorem isBlank_of_isNameStart {c : Char} (h : isNameStart c = true) :
    isBlank c = false ∧ c ≠ '+' := by
  simp only [isNameStart, Bool.or_eq_true, decide_eq_true_eq, or_assoc] at h
  rcases h with halpha | rfl | rfl
  · have hcase : c.isUpper = true ∨ c.isLower = true := by
      unfold Char.isAlpha at halpha
      simpa using halpha
    have hbounds := hcase.imp CaseFolding.isUpper_iff.1 CaseFolding.isLower_iff.1
    refine ⟨?_, ?_⟩
    · simp only [isBlank, CharSet.contains, CharSet.containsScalar, blanks, CharSet.containsFrom]
      simp
      omega
    · rintro rfl
      revert hbounds
      decide
  · decide
  · decide

theorem behind_nil : Behind [] := ⟨by decide, by decide⟩

theorem behind_listed {body : List Char} (h : Listed body) : Behind body := by
  obtain ⟨c, more, rfl, hc⟩ : ∃ c more, body = ' ' :: c :: more ∧ isNameStart c = true := by
    cases h with
    | single ha _ =>
      cases ha with
      | mk hc => exact ⟨_, _, rfl, hc⟩
    | cons ha _ _ =>
      cases ha with
      | mk hc => exact ⟨_, _, rfl, hc⟩
  obtain ⟨hblank, hplus⟩ := isBlank_of_isNameStart hc
  refine ⟨?_, by rw [dropLetters?, if_neg (by decide)]⟩
  rw [List.dropWhile_cons_of_pos (by decide), List.dropWhile_cons_of_neg (by simp [hblank]),
    List.head?_cons]
  exact fun heq => hplus (Option.some.inj heq)

/-- **An attribute stays one** when the split tags of its value are rewritten. -/
theorem exists_neutralize_source {a : Declaration.Attribute} (ha : IsAttribute a)
    {rest : List Char} (hrest : Behind rest) :
    ∃ b, IsAttribute b ∧ b.name = a.name ∧
      neutralize (' ' :: a.source ++ rest) = ' ' :: b.source ++ neutralize rest := by
  cases ha with
  | @mk c q more gap gap' value hc hmore hbehind hblank hblank' hq hmem =>
    have hquote : isQuote q = true ∧ q ∉ "&lt;/script".toList := by
      rcases hq with rfl | rfl <;> decide
    have hfront : '<' ∉ ' ' :: (c :: more ++ gap ++ '=' :: gap' ++ [q]) := by
      have hc' : '<' ≠ c := by
        rintro rfl
        exact absurd hc (by decide)
      have hq' : '<' ≠ q := by rcases hq with rfl | rfl <;> decide
      have hmore' : '<' ∉ more := not_mem_of_forall hmore (by decide)
      have hgap : '<' ∉ gap := not_mem_of_forall hblank (by decide)
      have hgap' : '<' ∉ gap' := not_mem_of_forall hblank' (by decide)
      simp [hc', hq', hmore', hgap, hgap']
    have hmem' : q ∉ neutralize value := by
      intro hvalue
      rcases mem_neutralize hvalue with hvalue | hvalue
      · exact hmem hvalue
      · exact hquote.2 hvalue
    refine ⟨_, .mk hc hmore hbehind hblank hblank' hq hmem', rfl, ?_⟩
    have hsplit := neutralize_of_not_mem hfront (value ++ q :: rest)
    rw [neutralize_value hquote.1 hmem hrest] at hsplit
    simpa using hsplit

theorem listed_neutralize {body : List Char} (h : Listed body) : Listed (neutralize body) := by
  induction h with
  | @single a ha hknown =>
    obtain ⟨b, hb, hname, hneutralize⟩ := exists_neutralize_source ha behind_nil
    rw [List.append_nil] at hneutralize
    rw [hneutralize]
    have hknown' : b.isKnown = true := by rwa [Attribute.isKnown, hname]
    simpa [neutralize, Text.replaceTokens_nil] using Listed.single hb hknown'
  | @cons a body ha hknown hbody ih =>
    obtain ⟨b, hb, hname, hneutralize⟩ := exists_neutralize_source ha (behind_listed hbody)
    rw [hneutralize]
    exact .cons hb (by rwa [Attribute.isKnown, hname]) ih

theorem all_head?_of_neutralize {s : List Char} (h : (neutralize s).head?.all isBlank = true) :
    s.head?.all isBlank = true := by
  cases s with
  | nil => rfl
  | cons c s =>
    cases hread : split? (c :: s) with
    | none =>
      rw [neutralize, Text.replaceTokens_cons _ hread] at h
      exact h
    | some r =>
      obtain ⟨x, hx, -⟩ := exists_write_split r.1
      rw [neutralize, Text.replaceTokens_cons_of_some _ hread, hx, List.cons_append,
        List.head?_cons, Option.all_some] at h
      exact absurd h (by decide)

/-- A declaration that a rewritten text begins with was one before. -/
theorem exists_declaration?_of_neutralize {s body : List Char} {n : Nat}
    (h : declaration? (neutralize s) = some (body, n)) :
    ∃ a m, declaration? s = some (a, m) ∧ body = neutralize a := by
  obtain ⟨rest, heq, hbody, hblank, -⟩ := declaration?_eq_some_iff.1 h
  have hwrite {w : List Char} (hw : '&' ∉ w) (t : Split) :
      ∃ d x, SplitScript.write t = d :: x ∧ d ∉ w := by
    obtain ⟨x, hx, -⟩ := exists_write_split t
    exact ⟨'&', x, hx, hw⟩
  have hopen : "<?xml".toList ++ (body ++ '?' :: '>' :: rest) = neutralize s := by
    rw [heq]
    simp [instruction]
  obtain ⟨u, rfl, hu⟩ := Text.exists_of_prefix_replaceTokens (hwrite (by decide)) ⟨_, hopen⟩
  have hrest : neutralize u = body ++ '?' :: '>' :: rest :=
    List.append_cancel_left (hu.symm.trans hopen.symm)
  have hmem : '?' ∈ u := by
    refine (mem_neutralize (d := '?') ?_).resolve_right (by decide)
    rw [hrest]
    simp
  obtain ⟨a, b, rfl, ha⟩ := List.eq_append_cons_of_mem hmem
  have ha' : '?' ∉ neutralize a := fun hmem => (mem_neutralize hmem).elim ha (by decide)
  rw [neutralize_question] at hrest
  obtain ⟨rfl, hclose⟩ := eq_of_append_eq ha' hbody hrest
  obtain ⟨b, rfl, -⟩ := Text.exists_of_prefix_replaceTokens (w := ['>']) (hwrite (by decide))
    ⟨rest, hclose.symm⟩
  refine ⟨a, _, declaration?_eq_some_iff.2 ⟨b, ?_, ha, all_head?_of_neutralize hblank, rfl⟩, rfl⟩
  simp [instruction]

/-- **Rewriting split tags keeps a text settled.** -/
theorem settled_neutralize {s : List Char} (h : Settled s) : Settled (neutralize s) := by
  intro v body n hv hread
  rcases Text.suffix_replaceTokens hv with
    ⟨u, hu, rfl⟩ | ⟨u, t, m, x, rest, -, hu, hx, hne, hall, rfl⟩
  · obtain ⟨a, m, ha, rfl⟩ := exists_declaration?_of_neutralize hread
    exact listed_neutralize (h u a m hu ha)
  · obtain ⟨d, y, rfl, hd⟩ := exists_cons_within hu hx hne hall
    obtain ⟨behind, heq, -⟩ := declaration?_eq_some_iff.1 hread
    exact absurd (List.cons.inj heq).1 hd

/-! ## Registers -/

theorem quiet_declaration? {s : List Char} (h : ¬ "<?xml".toList <:+: s) :
    Text.Quiet declaration? s := by
  intro u hu _
  by_contra hread
  obtain ⟨⟨body, n⟩, hread⟩ := Option.ne_none_iff_exists'.1 hread
  obtain ⟨rest, rfl, -⟩ := declaration?_eq_some_iff.1 hread
  exact h (List.IsInfix.trans ⟨[], body ++ "?>".toList ++ rest, by simp [instruction]⟩ hu.isInfix)

theorem quiet_split? {s : List Char} (h : '+' ∉ s) : Text.Quiet split? s := by
  intro u hu _
  by_contra hread
  obtain ⟨⟨t, n⟩, hread⟩ := Option.ne_none_iff_exists'.1 hread
  obtain ⟨w, rest, rfl, hsplit, -⟩ := split?_eq_some_iff.1 hread
  refine h (hu.subset (List.mem_append_left rest ?_))
  cases hsplit with
  | mk _ hjoint _ =>
    obtain ⟨q, gap, gap', q', -, rfl, -⟩ := joint?_eq_some_iff.1 hjoint
    simp

/-- **The early exit skips nothing** that is to be repaired. -/
theorem buffer_eq (s : String) : buffer s = splitScripts (declaration s) := by
  rw [buffer]
  split
  · rfl
  · next hexit =>
    simp only [Bool.or_eq_true, not_or, Text.occursIn_iff, List.contains_iff_mem] at hexit
    obtain ⟨hdeclaration, hplus⟩ := hexit
    have hfix : fix s.toList = s.toList :=
      Text.replaceTokens_of_quiet _ (quiet_declaration? hdeclaration)
    have hneutralize : neutralize s.toList = s.toList :=
      Text.replaceTokens_of_quiet _ (quiet_split? hplus)
    rw [declaration, hfix, String.ofList_toList, splitScripts, hneutralize, String.ofList_toList]

theorem buffer_buffer (s : String) : buffer (buffer s) = buffer s := by
  have hsettled : Settled (buffer s).toList := by
    rw [buffer_eq, splitScripts, declaration, String.toList_ofList, String.toList_ofList]
    exact settled_neutralize (settled_fix s.toList)
  have hneutralize : neutralize (buffer s).toList = (buffer s).toList := by
    rw [buffer_eq, splitScripts, String.toList_ofList]
    exact neutralize_neutralize _
  rw [buffer_eq (buffer s), declaration, fix_of_settled hsettled, String.ofList_toList,
    splitScripts, hneutralize, String.ofList_toList]

end MediaScraper.Repair
