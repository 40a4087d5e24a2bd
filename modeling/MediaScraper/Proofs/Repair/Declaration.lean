import MediaScraper.Proofs.Repair.Event
import MediaScraper.Proofs.Repair.Token
import MediaScraper.Proofs.Text.Cut
import MediaScraper.Proofs.Text.Segment

/-!
# Texts behind a declaration

A text may begin with a declaration (`Prolog`). Its repair is a declaration again
(`exists_fix_prolog`), and the other repairs pass over it.
-/

namespace MediaScraper.Repair

open Xml Declaration

/-- Nothing, or one declaration in which no bracket stands. -/
inductive Prolog : List Char → Prop
  | none : Prolog []
  | declaration {body : List Char} : body.head?.all isBlank = true →
      (∀ c ∈ body, c ≠ '?' ∧ c ≠ '<') → Prolog (instruction ("xml".toList ++ body))

/-! ## What is kept of a declaration -/

theorem mem_intercalate {sep : List Char} {parts : List (List Char)} {c : Char}
    (h : c ∈ List.intercalate sep parts) : c ∈ sep ∨ ∃ part ∈ parts, c ∈ part := by
  induction parts with
  | nil => cases h
  | cons part parts ih =>
    cases parts with
    | nil => exact .inr ⟨part, List.mem_cons_self, by rwa [List.intercalate_singleton] at h⟩
    | cons next parts =>
      rw [List.intercalate_cons_cons, List.mem_append, List.mem_append] at h
      rcases h with (h | h) | h
      · exact .inr ⟨part, List.mem_cons_self, h⟩
      · exact .inl h
      · exact (ih h).imp_right fun ⟨p, hp, hc⟩ => ⟨p, List.mem_cons_of_mem part hp, hc⟩

theorem mem_of_mem_tokens {body : List Char} {a : Declaration.Attribute}
    (ha : a ∈ Text.tokens attribute? body) : ∀ c ∈ a.source, c ∈ body := by
  obtain ⟨piece, hpiece, heq⟩ := List.mem_filterMap.1 ha
  cases piece with
  | plain p => cases heq
  | token t =>
    cases heq
    obtain ⟨u, n, hu, hread⟩ := Text.standsIn_of_mem_segment hpiece
    obtain ⟨rest, rfl, -, -⟩ := attribute?_eq_some_iff.1 hread
    exact fun c hc => hu.subset (List.mem_append_left rest hc)

/-- **A declaration is repaired to one.** -/
theorem prolog_write {body : List Char} (h : ∀ c ∈ body, c ≠ '?' ∧ c ≠ '<') :
    Prolog (Declaration.write body) := by
  unfold Declaration.write
  split
  · show Prolog (instruction ("xml".toList ++ " version=\"1.0\"".toList))
    exact .declaration (by decide) (by decide)
  · show Prolog (instruction ("xml".toList ++ ' ' :: List.intercalate [' '] _))
    refine .declaration rfl (List.forall_mem_cons.2 ⟨by decide, ?_⟩)
    intro c hc
    rcases mem_intercalate hc with hc | ⟨source, hsource, hc⟩
    · rw [List.mem_singleton.1 hc]
      decide
    · obtain ⟨a, ha, rfl⟩ := List.mem_map.1 hsource
      exact h c (mem_of_mem_tokens (List.mem_of_mem_filter ha) c hc)

/-! ## Repairing -/

section

variable {body : List Char} (h : ∀ c ∈ body, c ≠ '?' ∧ c ≠ '<')
include h

theorem fix_declaration (hblank : body.head?.all isBlank = true) {rest : List Char}
    (hrest : Text.Quiet declaration? rest) :
    fix (instruction ("xml".toList ++ body) ++ rest) = Declaration.write body ++ rest := by
  have hmem : '?' ∉ body := fun hmem => (h _ hmem).1 rfl
  have hread := declaration?_eq_some_iff.2 ⟨rest, rfl, hmem, hblank, rfl⟩
  rw [fix, Text.replaceTokens_of_token _ (by simp [instruction]) hread]
  exact congrArg _ (Text.replaceTokens_of_quiet _ hrest)

theorem not_infix_declaration : ¬ "?>".toList <:+: '?' :: ("xml".toList ++ body) := by
  intro hoccurs
  rcases List.infix_cons_iff.1 hoccurs with hbegins | hoccurs
  · exact absurd (List.cons_prefix_cons.1 (List.cons_prefix_cons.1 hbegins).2).1 (by decide)
  · have hmem : '?' ∈ "xml".toList ++ body := hoccurs.subset (by decide)
    rcases List.mem_append.1 hmem with hmem | hmem
    · exact absurd hmem (by decide)
    · exact (h _ hmem).1 rfl

end

/-- No split tag begins where there is no bracket. -/
theorem quiet_append {s rest : List Char} (hs : '<' ∉ s)
    (hrest : Text.Quiet SplitScript.split? rest) : Text.Quiet SplitScript.split? (s ++ rest) := by
  induction s with
  | nil => exact hrest
  | cons c s ih =>
    obtain ⟨hc, hs⟩ := List.ne_and_not_mem_of_not_mem_cons hs
    exact Text.quiet_cons.2 ⟨split?_of_ne hc.symm _, ih hs⟩

section

variable {p rest : List Char} (hp : Prolog p)
include hp

/-- **The repair of a declaration is one again**, and the text behind it stays. -/
theorem exists_fix_prolog (hrest : Text.Quiet declaration? rest) :
    ∃ p', Prolog p' ∧ fix (p ++ rest) = p' ++ rest := by
  cases hp with
  | none => exact ⟨[], .none, Text.replaceTokens_of_quiet _ hrest⟩
  | @declaration body hblank h =>
    exact ⟨Declaration.write body, prolog_write h, fix_declaration h hblank hrest⟩

/-- The repair of a declaration writes no `&`. -/
theorem exists_fix_prolog_of_not_mem (hamp : '&' ∉ p) (hrest : Text.Quiet declaration? rest) :
    ∃ p', Prolog p' ∧ '&' ∉ p' ∧ fix (p ++ rest) = p' ++ rest := by
  cases hp with
  | none => exact ⟨[], .none, List.not_mem_nil, Text.replaceTokens_of_quiet _ hrest⟩
  | @declaration body hblank h =>
    have hbody : '&' ∉ body := fun hmem => hamp (by simp [instruction, hmem])
    refine ⟨_, prolog_write h, fun hmem => ?_, fix_declaration h hblank hrest⟩
    unfold Declaration.write at hmem
    split at hmem
    · exact absurd hmem (by decide)
    · rw [List.mem_append, List.mem_append] at hmem
      rcases hmem with (hmem | hmem) | hmem
      · exact absurd hmem (by decide)
      · rcases mem_intercalate hmem with hmem | ⟨source, hsource, hmem⟩
        · exact absurd hmem (by decide)
        · obtain ⟨a, ha, rfl⟩ := List.mem_map.1 hsource
          exact hbody (mem_of_mem_tokens (List.mem_of_mem_filter ha) _ hmem)
      · exact absurd hmem (by decide)

theorem neutralize_prolog (hrest : Text.Quiet SplitScript.split? rest) :
    SplitScript.neutralize (p ++ rest) = p ++ rest := by
  cases hp with
  | none => exact Text.replaceTokens_of_quiet _ hrest
  | @declaration body hblank h =>
    have hbehind : '<' ∉ "xml".toList ++ body ++ "?>".toList := by
      intro hmem
      rcases List.mem_append.1 hmem with hmem | hmem
      · rcases List.mem_append.1 hmem with hmem | hmem
        · exact absurd hmem (by decide)
        · exact (h _ hmem).2 rfl
      · exact absurd hmem (by decide)
    refine Text.replaceTokens_of_quiet _ (Text.quiet_cons.2 ⟨?_, Text.quiet_cons.2 ⟨?_, ?_⟩⟩)
    · refine (split?_cons (c := '?') (by decide)).2 ?_
      rintro ⟨_, _, hjoint, -⟩
      cases hjoint
    · exact split?_of_ne (by decide) _
    · exact quiet_append hbehind hrest

theorem escape_prolog (rest : List Char) :
    Brackets.escape (p ++ rest) = p ++ Brackets.escape rest := by
  cases hp with
  | none => rfl
  | @declaration body hblank h =>
    have hverbatim := Brackets.verbatim?_instruction (not_infix_declaration h)
    refine Brackets.escape_append (fun out rest => ?_) rest
    exact Brackets.escapeFrom_verbatim out (List.cons_ne_nil _ _) (hverbatim rest)

end

end MediaScraper.Repair
