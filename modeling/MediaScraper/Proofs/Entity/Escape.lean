import MediaScraper.Entity.Reference
import MediaScraper.Proofs.Text.Cut
import MediaScraper.Proofs.Text.Reading

/-!
# Escaping and resolving

What is escaped comes back when its references are resolved (`unescape_escape`).
-/

namespace MediaScraper

namespace Entity

theorem reference?_of_ne {c : Char} (hc : c ≠ '&') (s : List Char) : reference? (c :: s) = none := by
  unfold reference?
  split
  · next heq => exact absurd (List.cons.inj heq).1 hc
  · rfl

theorem unescape_escapeChar (c : Char) (rest : List Char) :
    unescape (escapeChar c ++ rest) = c :: unescape rest := by
  by_cases hamp : c = '&'
  · subst hamp
    exact Text.replaceTokens_of_token _ (List.cons_ne_nil _ _) rfl
  by_cases hlt : c = '<'
  · subst hlt
    exact Text.replaceTokens_of_token _ (List.cons_ne_nil _ _) rfl
  by_cases hgt : c = '>'
  · subst hgt
    exact Text.replaceTokens_of_token _ (List.cons_ne_nil _ _) rfl
  have hself : escapeChar c = [c] := by
    unfold escapeChar
    split <;> simp_all
  rw [hself]
  exact Text.replaceTokens_cons _ (reference?_of_ne hamp rest)

/-- **Escaped text comes back.** -/
theorem unescape_escape (s : List Char) : unescape (escape s) = s := by
  induction s with
  | nil => rfl
  | cons c s ih => rw [escape, List.flatMap_cons, unescape_escapeChar, ← escape, ih]

theorem unescape_of_not_mem {s : List Char} (h : '&' ∉ s) : unescape s = s := by
  refine Text.replaceTokens_of_quiet _ fun u hu hne => ?_
  cases u with
  | nil => exact absurd rfl hne
  | cons c u => exact reference?_of_ne (fun hc => h (hu.subset (hc ▸ List.mem_cons_self))) u

end Entity
end MediaScraper
