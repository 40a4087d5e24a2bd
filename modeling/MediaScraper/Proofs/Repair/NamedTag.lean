import MediaScraper.Proofs.Repair.NamedEntities
import MediaScraper.Proofs.Repair.Token

/-!
# Names of HTML in tags

Names may stand in the values of a tag. Whether they are spelled by number (`retells_spelled`) or
written out behind the repair of brackets (`retells_decode`), the tag has other values and is the
same outside of them.

That needs three things of the tag (`ClearSource`): names stand in values only, each of them has one
character, and none is written as the quote that closes its value.
-/

namespace MediaScraper.Repair.NamedEntities

open Xml Brackets

/-- The value at the beginning of a text, with its quotes. -/
def value? (s : List Char) : Option (List Char × Nat) :=
  (Declaration.quoted? s).map fun v => (v, v.length)

/-- Outside of the values there is no `&`. A value is still one when its names are written out, and
each of these has one character. -/
def ClearSource (s : List Char) : Prop :=
  '&' ∉ Text.replaceTokens value? (fun _ => []) s ∧
    ∀ v ∈ Text.tokens value? s, Declaration.quoted? (decode v) = some (decode v) ∧ Single v

instance : DecidablePred ClearSource := fun s =>
  inferInstanceAs (Decidable ('&' ∉ Text.replaceTokens value? (fun _ => []) s ∧
    ∀ v ∈ Text.tokens value? s, Declaration.quoted? (decode v) = some (decode v) ∧ Single v))

/-! ## The parts of a tag -/

section

variable {q c : Char} {raw s t : List Char}

theorem quote_not_named (hq : q = '"' ∨ q = '\'') :
    q ≠ '&' ∧ q ≠ ';' ∧ q.isAlphanum = false := by
  rcases hq with rfl | rfl <;> decide

theorem replaceTokens_value {f : List Char → List Char} (hq : q = '"' ∨ q = '\'') :
    Text.replaceTokens name? f (q :: (raw ++ q :: s)) =
      q :: (Text.replaceTokens name? f raw ++ q :: Text.replaceTokens name? f s) := by
  have hquote := quote_not_named hq
  rw [replaceTokens_cons_of_ne hquote.1, replaceTokens_append_cons hquote]

theorem ClearSource.of_cons (hc : c ≠ '"' ∧ c ≠ '\'') (h : ClearSource (c :: s)) :
    c ≠ '&' ∧ ClearSource s := by
  have hread : value? (c :: s) = none := by
    rw [value?, Declaration.quoted?, if_neg (not_or.2 hc)]
    rfl
  rw [ClearSource, Text.replaceTokens_cons _ hread, Text.tokens_cons hread] at h
  obtain ⟨hamp, hvalues⟩ := h
  obtain ⟨hne, hamp⟩ := List.ne_and_not_mem_of_not_mem_cons hamp
  exact ⟨hne.symm, hamp, hvalues⟩

theorem ClearSource.of_value (hq : q = '"' ∨ q = '\'') (hraw : q ∉ raw)
    (h : ClearSource (q :: (raw ++ q :: s))) : q ∉ decode raw ∧ Single raw ∧ ClearSource s := by
  have hread : value? (q :: raw ++ [q] ++ s) =
      some (q :: raw ++ [q], (q :: raw ++ [q]).length) := by
    rw [value?, quoted?_eq_some_iff.2 ⟨q, raw, s, rfl, hq, hraw, rfl⟩]
    rfl
  have htext : q :: (raw ++ q :: s) = q :: raw ++ [q] ++ s := by simp
  have hne : q :: raw ++ [q] ≠ [] := by simp
  rw [htext, ClearSource, Text.replaceTokens_of_token _ hne hread, Text.tokens_of_token hne hread,
    List.forall_mem_cons] at h
  obtain ⟨houtside, ⟨hquoted, hsingle⟩, hvalues⟩ := h
  refine ⟨?_, ?_, houtside, hvalues⟩
  · have hdecode : decode (q :: raw ++ [q]) = q :: (decode raw ++ [q]) := replaceTokens_value hq
    rw [hdecode] at hquoted
    obtain ⟨q', value, -, -, -, hvalue, heq⟩ := quoted?_eq_some_iff.1 hquoted
    obtain ⟨rfl, heq⟩ := List.cons.inj heq
    rwa [List.append_cancel_right heq]
  · have hquote := quote_not_named hq
    have hread : name? (q :: (raw ++ [q])) = none := name?_of_ne hquote.1 _
    exact single_of_append_cons hquote.2 ((single_cons hread).1 hsingle)

end

/-! ## Tags with other values -/

section

variable {s t : List Char}

/-- **The values of a tag are spelled**, and the tag is the same outside of them. -/
theorem retells_spelled (h : InTag s t) (hclear : ClearSource s) :
    Retells (fun raw raw' => raw' = spelled raw ∧ Single raw) s (spelled s) := by
  induction h with
  | nil => exact .nil
  | plain hc _ ih =>
    obtain ⟨hamp, hclear⟩ := hclear.of_cons ⟨hc.1, hc.2.1⟩
    rw [spelled, replaceTokens_cons_of_ne hamp]
    exact .plain hc (ih hclear)
  | @value q raw s t hq hraw _ ih =>
    obtain ⟨-, hsingle, hclear⟩ := hclear.of_value hq hraw
    rw [spelled, replaceTokens_value hq]
    refine .value hq hraw (fun hmem => ?_) ⟨rfl, hsingle⟩ (ih hclear)
    rcases mem_replaceTokens hmem with hmem | ⟨name, hname, hmem⟩
    · exact hraw hmem
    · have hother : q ∉ ['&', '#', ';'] := by rcases hq with rfl | rfl <;> decide
      exact not_mem_spell hname (quote_not_named hq).2.2 hother hmem

/-- **The values of a tag are written out** behind the repair of their brackets, and the tag is the
same outside of them. -/
theorem retells_decode (h : InTag s t) (hclear : ClearSource s) :
    Retells (fun raw raw' => raw' = decode (raw.flatMap escapeBracket)) s (decode t) := by
  induction h with
  | nil => exact .nil
  | plain hc _ ih =>
    obtain ⟨hamp, hclear⟩ := hclear.of_cons ⟨hc.1, hc.2.1⟩
    rw [decode, replaceTokens_cons_of_ne hamp]
    exact .plain hc (ih hclear)
  | @value q raw s t hq hraw _ ih =>
    obtain ⟨hvalue, -, hclear⟩ := hclear.of_value hq hraw
    rw [decode, replaceTokens_value hq]
    refine .value hq hraw ?_ rfl (ih hclear)
    rw [← decode, decode_escapeBracket]
    exact not_mem_escapeBracket hq hvalue

end

end MediaScraper.Repair.NamedEntities
