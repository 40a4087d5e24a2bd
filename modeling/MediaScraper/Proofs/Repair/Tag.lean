import MediaScraper.Proofs.Repair.Brackets
import MediaScraper.Proofs.Xml.Reference
import MediaScraper.Proofs.Xml.Retelling

/-!
# Escaping the brackets of any tag

What stands in a tag is read by the repair as the reader of tags reads it: characters, and stretches
between quotes (`InTag`). The first `>` outside of quotes ends the tag for both of them
(`exists_inTag`).

The tag that is written differs in its values only (`InTag.retells`), and these stand for the same
texts (`unescape_escapeBracket`).
-/

namespace MediaScraper.Repair.Brackets

open Xml

/-- `InTag s t`: in a tag, `t` is written for `s`. -/
inductive InTag : List Char → List Char → Prop
  | nil : InTag [] []
  | plain {c : Char} {s t : List Char} :
      c ≠ '"' ∧ c ≠ '\'' ∧ c ≠ '>' → InTag s t → InTag (c :: s) (c :: t)
  | value {q : Char} {raw s t : List Char} :
      q = '"' ∨ q = '\'' → q ∉ raw → InTag s t →
      InTag (q :: (raw ++ q :: s)) (q :: (raw.flatMap escapeBracket ++ q :: t))

/-- No quote of either kind stands in the text. -/
def Unquoted (s : List Char) : Prop := ∀ c ∈ s, c ≠ '"' ∧ c ≠ '\''

instance : DecidablePred Unquoted := fun s =>
  inferInstanceAs (Decidable (∀ c ∈ s, c ≠ '"' ∧ c ≠ '\''))

/-! ## The end of a tag -/

/-- A quote in a tag is closed, if the tag ends. -/
theorem exists_of_tagBody?_quote {q : Char} {before cs body : List Char}
    (h : tagBody? (some q) before cs = some body) :
    ∃ raw rest, cs = raw ++ q :: rest ∧ q ∉ raw := by
  induction cs generalizing before with
  | nil => cases h
  | cons c cs ih =>
    by_cases hc : c = q
    · exact ⟨[], cs, by rw [hc, List.nil_append], List.not_mem_nil⟩
    · rw [tagBody?, if_neg hc] at h
      obtain ⟨raw, rest, rfl, hraw⟩ := ih h
      exact ⟨c :: raw, rest, rfl, List.not_mem_cons_of_ne_of_not_mem (Ne.symm hc) hraw⟩

/-- **A tag ends for the repair where it ends for the reader.** -/
theorem exists_inTag {before cs body : List Char} (h : tagBody? none before cs = some body) :
    ∃ s t rest, cs = s ++ '>' :: rest ∧ body = before.reverse ++ s ∧ InTag s t := by
  induction hn : cs.length using Nat.strongRecOn generalizing before cs with
  | ind n ih =>
    subst hn
    cases cs with
    | nil => cases h
    | cons c cs =>
      rw [tagBody?] at h
      split at h
      · next hc =>
        cases h
        exact ⟨[], [], cs, by rw [hc, List.nil_append], (List.append_nil _).symm, .nil⟩
      · next hclose =>
        split at h
        · next hquote =>
          obtain ⟨raw, rest, rfl, hraw⟩ := exists_of_tagBody?_quote h
          rw [tagBody?_value hraw] at h
          obtain ⟨s, t, rest, rfl, rfl, hst⟩ := ih rest.length (by simp; omega) h rfl
          exact ⟨_, _, rest, by simp, by simp, .value hquote hraw hst⟩
        · next hquote =>
          obtain ⟨s, t, rest, rfl, rfl, hst⟩ := ih _ (Nat.lt_succ_self _) h rfl
          obtain ⟨h1, h2⟩ := not_or.1 hquote
          exact ⟨_, _, rest, rfl, by simp, .plain ⟨h1, h2, hclose⟩ hst⟩

theorem not_mem_escapeBracket {q : Char} (hq : q = '"' ∨ q = '\'') {raw : List Char}
    (h : q ∉ raw) : q ∉ raw.flatMap escapeBracket := by
  intro hmem
  obtain ⟨c, hc, hmem⟩ := List.mem_flatMap.1 hmem
  unfold escapeBracket at hmem
  split at hmem
  · rcases hq with rfl | rfl <;> exact absurd hmem (by decide)
  · rcases hq with rfl | rfl <;> exact absurd hmem (by decide)
  · exact h (List.mem_singleton.1 hmem ▸ hc)

namespace InTag

variable {s t : List Char}

theorem retells (h : InTag s t) :
    Retells (fun raw raw' => raw' = raw.flatMap escapeBracket) s t := by
  induction h with
  | nil => exact .nil
  | plain hc _ ih => exact .plain hc ih
  | value hq hraw _ ih => exact .value hq hraw (not_mem_escapeBracket hq hraw) rfl ih

theorem of_retells (h : Retells (fun raw raw' => raw' = raw.flatMap escapeBracket) s t) :
    InTag s t := by
  induction h with
  | nil => exact .nil
  | plain hc _ ih => exact .plain hc ih
  | value hq hraw _ hr _ ih =>
    subst hr
    exact .value hq hraw ih

theorem escapeFrom (h : InTag s t) (out rest : List Char) :
    escapeFrom out .tag (s ++ rest) = escapeFrom (t.reverse ++ out) .tag rest := by
  induction h generalizing out with
  | nil => rfl
  | @plain c s t hc _ ih =>
    have hplain : PlainInTag [c] := List.forall_mem_singleton.2 hc
    rw [← List.singleton_append, List.append_assoc, escapeFrom_tag _ hplain, ih]
    simp
  | @value q raw s t hq hraw _ ih =>
    rw [List.cons_append, Brackets.escapeFrom, Place.next, if_pos hq, Place.write_tag,
      List.append_assoc, List.cons_append, escapeFrom_value _ hraw, ih]
    simp

end InTag

/-! ## Values -/

theorem flatMap_escapeBracket {s : List Char} (h : ∀ c ∈ ['<', '>'], c ∉ s) :
    s.flatMap escapeBracket = s := by
  induction s with
  | nil => rfl
  | cons c s ih =>
    have hc : escapeBracket c = [c] := by
      unfold escapeBracket
      split
      · exact absurd List.mem_cons_self (h '<' (by decide))
      · exact absurd List.mem_cons_self (h '>' (by decide))
      · rfl
    rw [List.flatMap_cons, hc, ih fun d hd hmem => h d hd (List.mem_cons_of_mem c hmem)]
    rfl

theorem denotes_escapeBracket {w s : List Char} (h : Denotes w s) :
    Denotes (w.flatMap escapeBracket) s := by
  induction h with
  | nil => exact .nil
  | @plain c w s hc _ ih =>
    rw [List.flatMap_cons]
    unfold escapeBracket
    split
    · exact @Denotes.reference ['l', 't'] _ _ '<' (by decide) rfl ih
    · exact @Denotes.reference ['g', 't'] _ _ '>' (by decide) rfl ih
    · exact .plain hc ih
  | @reference body w s d hbody hd _ ih =>
    have hsource : ('&' :: body ++ ';' :: w).flatMap escapeBracket =
        '&' :: body ++ ';' :: w.flatMap escapeBracket := by
      rw [List.flatMap_append, List.flatMap_cons, List.flatMap_cons,
        flatMap_escapeBracket (bracket_not_mem_of_resolve hd)]
      rfl
    rw [hsource]
    exact .reference hbody hd ih

/-- **A value stands for the same text** when its brackets are escaped. -/
theorem unescape_escapeBracket {raw v : List Char} (h : unescape raw = .ok v) :
    unescape (raw.flatMap escapeBracket) = .ok v :=
  unescape_eq_ok_iff.2 (denotes_escapeBracket (unescape_eq_ok_iff.1 h))

end MediaScraper.Repair.Brackets
