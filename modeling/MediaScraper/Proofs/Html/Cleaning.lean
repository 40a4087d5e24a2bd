import MediaScraper.Proofs.Call.Marker
import MediaScraper.Proofs.Html.Reference
import MediaScraper.Proofs.Html.Run
import MediaScraper.Proofs.Text.Characters

/-!
# Cleaning captured texts

A captured text is read as a fragment of HTML if a tag may begin in it; otherwise its references are
resolved in a simpler way.

**Escaped texts** come back either way (`clean_escapeText`): every ampersand in them begins one of
three closed names.

**The two ways** give the same text where every ampersand is settled (`clean_eq_text`). They differ
at references that are not closed (`clean_unclosed`).
-/

namespace MediaScraper

namespace Entity

theorem bracket_not_mem_escape (s : List Char) : '<' ∉ escape s := fun h =>
  (plain_escape s _ h).1 rfl

theorem escapeChar_of_not_mem {c : Char} (h : c ∉ ['&', '<', '>']) : escapeChar c = [c] := by
  unfold escapeChar
  split <;> simp_all

theorem mem_of_mem_escape {s : List Char} {d : Char} (hd : ∀ c ∈ ['&', '<', '>'], d ∉ escapeChar c)
    (h : d ∈ escape s) : d ∈ s := by
  obtain ⟨c, hc, hdc⟩ := List.mem_flatMap.1 h
  by_cases hmem : c ∈ ['&', '<', '>']
  · exact absurd hdc (hd c hmem)
  · rw [escapeChar_of_not_mem hmem] at hdc
    exact List.mem_singleton.1 hdc ▸ hc

theorem ne_nul_of_ofNumber? {n : Nat} {c : Char} (h : ofNumber? n = some c) : c ≠ '\x00' := by
  rw [ofNumber?] at h
  split at h
  · next hn =>
    rintro rfl
    have hzero : n = 0 := by
      have hnat := congrArg Char.toNat (Option.some.inj h)
      rwa [Char.ofNat, dif_pos hn.1] at hnat
    rw [hzero] at hn
    exact absurd hn.2 (by decide)
  · cases h

theorem mem_of_lookup {α : Type} {table : List (String × α)} {name : String} {a : α}
    (h : table.lookup name = some a) : (name, a) ∈ table := by
  obtain ⟨front, behind, rfl, -⟩ := List.lookup_eq_some_iff.1 h
  exact List.mem_append_right front List.mem_cons_self

theorem ne_nul_of_named? {name : List Char} {c : Char} (h : named? name = some c) :
    c ≠ '\x00' := by
  have hfive : ∀ d ∈ predefined? name, d ≠ '\x00' := by
    unfold predefined?
    split <;> simp
  -- one letter after the other, since the table is long
  have hsingle : (single.all fun p => Char.ofNat p.2 ≠ '\x00') = true := by
    delta single
    simp only [List.all_append]
    decide
  have hdouble : ∀ p ∈ double, Char.ofNat p.2.1 ≠ '\x00' := by decide
  rw [named?, Option.orElse_eq_orElse, Option.orElse_eq_or, Option.or_eq_some_iff] at h
  rcases h with h | ⟨-, h⟩
  · exact hfive c h
  · rw [Option.orElse_eq_or, Option.or_eq_some_iff] at h
    rcases h with h | ⟨-, h⟩
    · obtain ⟨n, hn, rfl⟩ := Option.map_eq_some_iff.1 h
      exact of_decide_eq_true (List.all_eq_true.1 hsingle _ (mem_of_lookup hn))
    · obtain ⟨p, hp, rfl⟩ := Option.map_eq_some_iff.1 h
      exact hdouble _ (mem_of_lookup hp)

/-- No name and no number stands for NUL. -/
theorem ne_nul_of_resolve? {body : List Char} {c : Char} (h : resolve? body = some c) :
    c ≠ '\x00' := by
  have hnumber {base : Nat} {digits : List Char} (h : numbered? base digits = some c) :
      c ≠ '\x00' := by
    obtain ⟨n, -, hn⟩ := Option.bind_eq_some_iff.1 h
    exact ne_nul_of_ofNumber? hn
  unfold resolve? at h
  split at h
  · exact hnumber h
  · exact hnumber h
  · exact hnumber h
  · exact ne_nul_of_named? h

theorem exists_resolve?_of_reference? {u : List Char} {c : Char} {n : Nat}
    (h : reference? u = some (c, n)) : ∃ body, resolve? body = some c := by
  unfold reference? at h
  split at h
  · simp only at h
    split at h
    · obtain ⟨d, hd, heq⟩ := Option.map_eq_some_iff.1 h
      exact ⟨_, (Prod.mk.inj heq).1 ▸ hd⟩
    · cases h
  · cases h

theorem nul_not_mem_unescape {s : List Char} (h : '\x00' ∉ s) : '\x00' ∉ unescape s := by
  intro hmem
  rcases Text.mem_replaceTokens hmem with hs | ⟨u, c, n, -, hread, hc⟩
  · exact h hs
  · obtain ⟨body, hbody⟩ := exists_resolve?_of_reference? hread
    exact ne_nul_of_resolve? hbody (List.mem_singleton.1 hc).symm

end Entity

namespace Html

theorem clean_of_not_mem {s : String} (h : '<' ∉ s.toList) :
    clean s = .ofList (Entity.unescape s.toList) := by
  rw [clean, if_neg (by simpa using h)]
  split
  · rfl
  · next hand => rw [Entity.unescape_of_not_mem (by simpa using hand), String.ofList_toList]

theorem clean_of_plain {s : List Char} (hbracket : '<' ∉ s) (hand : '&' ∉ s) :
    clean (.ofList s) = .ofList s := by
  simp [clean, hbracket, hand]

/-! ## Escaped texts -/

theorem settled_of_suffix_escape {s cs : List Char} (h : '&' :: cs <:+ Entity.escape s) :
    Settled cs := by
  induction s with
  | nil => cases List.suffix_nil.1 h
  | cons c s ih =>
    rw [Entity.escape, List.flatMap_cons, ← Entity.escape] at h
    have hfive (name : List Char) {d : Char} (hd : Entity.predefined? name = some d)
        (hname : ∀ d ∈ name, isAlphanumeric d = true) :
        Settled (name ++ ';' :: Entity.escape s) :=
      .named name hname (by rw [soleCharacter?, hd]; rfl)
    by_cases hc : c ∈ ['&', '<', '>']
    · simp only [List.mem_cons, List.not_mem_nil, or_false] at hc
      rcases hc with rfl | rfl | rfl <;>
        simp only [Entity.escapeChar, List.cons_append, List.nil_append, List.suffix_cons_iff,
          List.cons.injEq, true_and, Char.reduceEq, false_and, false_or] at h
      · rcases h with rfl | h
        · exact hfive ['a', 'm', 'p'] rfl (by decide)
        · exact ih h
      · rcases h with rfl | h
        · exact hfive ['l', 't'] rfl (by decide)
        · exact ih h
      · rcases h with rfl | h
        · exact hfive ['g', 't'] rfl (by decide)
        · exact ih h
    · rw [Entity.escapeChar_of_not_mem hc, List.singleton_append, List.suffix_cons_iff] at h
      rcases h with h | h
      · exact absurd (by simp [(List.cons.inj h).1.symm]) hc
      · exact ih h

theorem clean_escape (s : List Char) : clean (.ofList (Entity.escape s)) = .ofList s := by
  rw [clean_of_not_mem, String.toList_ofList, Entity.unescape_escape]
  rw [String.toList_ofList]
  exact Entity.bracket_not_mem_escape s

/-- **Cleaning undoes escaping**, also around escaped text in a formatting element. -/
theorem clean_escapeText (s : String) :
    clean (Entity.escapeText s) = s ∧
      ('\x00' ∉ s.toList → '\r' ∉ s.toList →
        clean ("<b>" ++ Entity.escapeText s ++ "</b>") = s) := by
  have htext : (Entity.escapeText s).toList = Entity.escape s.toList := String.toList_ofList
  constructor
  · rw [Entity.escapeText, clean_escape, String.ofList_toList]
  · intro hnul hline
    have htag : ("<b>" ++ Entity.escapeText s ++ "</b>").toList.contains '<' = true := by
      simp
    have hbracket : '<' ∉ (Entity.escapeText s).toList := by
      rw [htext]
      exact Entity.bracket_not_mem_escape _
    have hline : '\r' ∉ (Entity.escapeText s).toList := by
      rw [htext]
      exact fun h => hline (Entity.mem_of_mem_escape (by decide) h)
    have hrun : runText (Entity.escape s.toList) = s.toList := by
      rw [runText, unescape_of_settled fun cs => settled_of_suffix_escape, Entity.unescape_escape,
        List.filter_eq_self]
      intro c hc
      simpa using fun heq : c = '\x00' => hnul (heq ▸ hc)
    rw [clean, if_pos htag, text_bold hbracket hline, htext, hrun, String.ofList_toList]

/-- Behind an escaped ampersand stands what would be a name. -/
theorem clean_escapeText_name :
    clean (Entity.escapeText "&lt; & <i>") = "&lt; & <i>" ∧
      clean ("<b>" ++ Entity.escapeText "&lt; & <i>" ++ "</b>") = "&lt; & <i>" :=
  (clean_escapeText "&lt; & <i>").imp_right fun h => h (by decide) (by decide)

/-! ## Two readers -/

/-- **Cleaning a group without tags** gives the text of the fragment that it is, where the line ends
are those of a fragment and every ampersand is settled. -/
theorem clean_eq_text {g : String} (hbracket : '<' ∉ g.toList)
    (hmark : g.toList.head? ≠ some '\uFEFF') (hline : '\r' ∉ g.toList) (hnul : '\x00' ∉ g.toList)
    (h : ∀ cs, '&' :: cs <:+ g.toList → Settled cs) : clean g = text g := by
  have hrun : runText g.toList = Entity.unescape g.toList := by
    rw [runText, unescape_of_settled h, List.filter_eq_self]
    intro c hc
    simpa using fun heq : c = '\x00' => Entity.nul_not_mem_unescape hnul (heq ▸ hc)
  rw [clean_of_not_mem hbracket, text_of_not_mem hbracket, normalize_of_not_mem hmark hline, hrun]

/-- A number, two names and an ampersand that begins no reference. -/
theorem clean_eq_text_settled :
    clean "&#x2603; &amp; &eacute; & co" = text "&#x2603; &amp; &eacute; & co" := by
  have hnumber : Entity.single.lookup (.ofList ['e', 'a', 'c', 'u', 't', 'e']) = some 0xE9 := by
    delta Entity.single
    simp only [List.lookup_append]
    decide
  have hname : soleCharacter? ['e', 'a', 'c', 'u', 't', 'e'] = some 'é' := by
    simp only [soleCharacter?, Entity.predefined?, hnumber, Option.map_some]
    rfl
  refine clean_eq_text (by decide) (by decide) (by decide) (by decide) fun cs hcs => ?_
  simp [List.suffix_cons_iff] at hcs
  rcases hcs with rfl | rfl | rfl | rfl
  · exact .hexadecimal ['2', '6', '0', '3'] (.inl rfl) (by decide) rfl (by decide)
  · exact .named ['a', 'm', 'p'] (by decide) rfl
  · exact .named ['e', 'a', 'c', 'u', 't', 'e'] (by decide) hname
  · refine .nothing (fun name _ h => ?_) (by decide +kernel) rfl
    have hclose : ';' ∈ [' ', 'c', 'o'] :=
      h.subset (List.mem_append_right name List.mem_cons_self)
    exact absurd hclose (by decide)

/-- A name that is not closed stands for a character in a fragment, and for itself where the group
holds no tag. -/
theorem clean_unclosed :
    '<' ∉ "Tom &amp Jerry".toList ∧ clean "Tom &amp Jerry" = "Tom &amp Jerry" ∧
      text "Tom &amp Jerry" = "Tom & Jerry" := by
  refine ⟨by decide, ?_, ?_⟩
  · rw [clean_of_not_mem (by decide)]
    decide
  · decide

end Html
end MediaScraper
