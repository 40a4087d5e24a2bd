import MediaScraper.Proofs.Xml.Attribute
import MediaScraper.Proofs.Xml.Spelling

/-!
# Which texts resolve

A text reads without a fault if each `&` of it opens a reference that resolves, and then its other
characters stand for themselves (`unescape_eq_ok_iff`). What stands between `&` and `;` of such a
reference is one of the five names or a number, so it holds no brackets
(`bracket_not_mem_of_resolve`).
-/

namespace MediaScraper

/-! ## References -/

namespace Numeral

theorem digit?_bracket (base : Nat) : ∀ c ∈ ['<', '>'], digit? base c = none := by
  intro c hc
  simp only [List.mem_cons, List.not_mem_nil, or_false] at hc
  rcases hc with rfl | rfl <;> simp [digit?]

theorem isSome_digit?_of_readFrom {base bound n m : Nat} {s : List Char}
    (h : readFrom base bound n s = .ok m) : ∀ c ∈ s, (digit? base c).isSome := by
  induction s generalizing n with
  | nil => exact fun c hc => absurd hc List.not_mem_nil
  | cons c s ih =>
    rw [readFrom] at h
    cases hd : digit? base c with
    | none => simp [hd] at h
    | some d =>
      simp only [hd] at h
      split at h
      · exact List.forall_mem_cons.2 ⟨by rw [hd]; rfl, ih h⟩
      · cases h

end Numeral

namespace Xml

theorem bracket_not_mem_of_numbered {base : Nat} {digits : List Char} {d : Char}
    (h : numbered base digits = .ok d) : ∀ c ∈ ['<', '>'], c ∉ digits := by
  intro c hc hmem
  unfold numbered at h
  split at h
  · cases h
  · cases h
  · cases hread : Numeral.readUnsigned base 0xFFFFFFFF digits with
    | error e => simp [hread] at h
    | ok n =>
      rw [Numeral.readUnsigned] at hread
      split at hread
      · cases hread
      · have hdigit := Numeral.isSome_digit?_of_readFrom hread c hmem
        rw [Numeral.digit?_bracket base c hc] at hdigit
        cases hdigit

theorem resolve_eq_ok {position : Nat} {body : List Char} {d : Char}
    (h : resolve position body = .ok d) :
    (∃ digits, body = '#' :: 'x' :: digits ∧ numbered 16 digits = .ok d) ∨
      (∃ digits, body = '#' :: digits ∧ numbered 10 digits = .ok d) ∨
      Entity.predefined? body = some d := by
  unfold resolve at h
  split at h
  · exact .inl ⟨_, rfl, h⟩
  · exact .inr (.inl ⟨_, rfl, h⟩)
  · split at h
    · next heq =>
      cases h
      exact .inr (.inr heq)
    · cases h

/-- Where a reference stands matters for its faults only. -/
theorem resolve_of_ok {position : Nat} {body : List Char} {d : Char}
    (h : resolve position body = .ok d) (position' : Nat) : resolve position' body = .ok d := by
  unfold resolve at h ⊢
  split at h
  · exact h
  · exact h
  · split at h
    · next heq => simpa [heq] using h
    · cases h

theorem bracket_not_mem_of_resolve {position : Nat} {body : List Char} {d : Char}
    (h : resolve position body = .ok d) : ∀ c ∈ ['<', '>'], c ∉ body := by
  intro c hc
  have hne : c ≠ '#' ∧ c ≠ 'x' := by
    simp only [List.mem_cons, List.not_mem_nil, or_false] at hc
    rcases hc with rfl | rfl <;> decide
  rcases resolve_eq_ok h with ⟨digits, rfl, hd⟩ | ⟨digits, rfl, hd⟩ | hname
  · simp [hne, bracket_not_mem_of_numbered hd c hc]
  · simp [hne, bracket_not_mem_of_numbered hd c hc]
  · rcases eq_of_predefined? hname with h | h | h | h | h <;> obtain ⟨rfl, rfl⟩ := h <;>
      revert c <;> decide

/-! ## Texts -/

/-- `Denotes w s`: read from the left, each character of `w` stands for itself in `s`, or it belongs
to a reference that resolves. -/
inductive Denotes : List Char → List Char → Prop
  | nil : Denotes [] []
  | plain {c : Char} {w s : List Char} : c ≠ '&' → Denotes w s → Denotes (c :: w) (c :: s)
  | reference {body w s : List Char} {d : Char} :
      (∀ c ∈ body, c ≠ '&' ∧ c ≠ ';') → resolve 0 body = .ok d → Denotes w s →
      Denotes ('&' :: body ++ ';' :: w) (d :: s)

theorem unescapeFrom_skip (size position : Nat) (out : List Char) (skip : Nat) (s : List Char) :
    ∃ behind, unescapeFrom size position out skip s =
      unescapeFrom size behind out 0 (s.drop skip) := by
  induction s generalizing skip position with
  | nil => exact ⟨position, by simp [unescapeFrom]⟩
  | cons c s ih =>
    cases skip with
    | zero => exact ⟨position, rfl⟩
    | succ skip =>
      rw [unescapeFrom, List.drop_succ_cons]
      exact ih _ skip

theorem unescapeFrom_of_denotes {w s : List Char} (h : Denotes w s) (size position : Nat)
    (out : List Char) : unescapeFrom size position out 0 w = .ok (out.reverse ++ s) := by
  induction h generalizing position out with
  | nil => simp [unescapeFrom]
  | plain hc _ ih =>
    rw [unescapeFrom, if_neg hc, ih]
    simp
  | @reference body w s d hbody hd _ ih =>
    have htake : (body ++ ';' :: w).takeWhile (fun d => d ≠ '&' && d ≠ ';') = body := by
      rw [List.takeWhile_append_of_pos fun c hc => by simp [hbody c hc],
        List.takeWhile_cons_of_neg (by simp), List.append_nil]
    obtain ⟨behind, hskip⟩ :=
      unescapeFrom_skip size (position + 1) (d :: out) (body.length + 1) (body ++ ';' :: w)
    have hrest : (body ++ ';' :: w).drop (body.length + 1) = w := by
      rw [← List.drop_drop, List.drop_left, List.drop_succ_cons, List.drop_zero]
    rw [List.cons_append, unescapeFrom, if_pos rfl]
    simp only [htake, List.drop_left, resolve_of_ok hd, hskip, hrest, ih]
    simp

theorem exists_denotes {size position : Nat} {out w r : List Char}
    (h : unescapeFrom size position out 0 w = .ok r) :
    ∃ s, Denotes w s ∧ r = out.reverse ++ s := by
  induction hn : w.length using Nat.strongRecOn generalizing position out w with
  | ind n ih =>
    subst hn
    cases w with
    | nil =>
      rw [unescapeFrom] at h
      cases h
      exact ⟨[], .nil, (List.append_nil _).symm⟩
    | cons c w =>
      rw [unescapeFrom] at h
      split at h
      · next hc =>
        subst hc
        generalize hbody : w.takeWhile (fun d => d ≠ '&' && d ≠ ';') = body at h
        have hplain : ∀ c ∈ body, c ≠ '&' ∧ c ≠ ';' := by
          rw [← hbody]
          intro c hc
          simpa using List.mem_takeWhile_imp hc
        obtain ⟨rest, rfl⟩ : body <+: w := hbody ▸ List.takeWhile_prefix _
        simp only [List.drop_left] at h
        split at h
        · next rest =>
          split at h
          · next d hd =>
            obtain ⟨behind, hskip⟩ := unescapeFrom_skip size (position + 1) (d :: out)
              (body.length + 1) (body ++ ';' :: rest)
            rw [hskip, ← List.drop_drop, List.drop_left, List.drop_succ_cons, List.drop_zero] at h
            obtain ⟨s, hs, rfl⟩ := ih rest.length (by simp; omega) h rfl
            exact ⟨d :: s, .reference hplain (resolve_of_ok hd 0) hs, by simp⟩
          · cases h
        · cases h
      · next hc =>
        obtain ⟨s, hs, rfl⟩ := ih _ (Nat.lt_succ_self _) h rfl
        exact ⟨c :: s, .plain hc hs, by simp⟩

/-- **A text reads without a fault** if its references resolve. -/
theorem unescape_eq_ok_iff {w s : List Char} : unescape w = .ok s ↔ Denotes w s := by
  constructor
  · intro h
    obtain ⟨s, hs, rfl⟩ := exists_denotes h
    exact hs
  · exact fun h => unescapeFrom_of_denotes h _ 0 []

/-! ### Parts of texts -/

section

variable {w v : List Char}

theorem denotes_append_iff {p : List Char} (hp : '&' ∉ p) :
    Denotes (p ++ w) v ↔ ∃ s, v = p ++ s ∧ Denotes w s := by
  induction p generalizing v with
  | nil => simp
  | cons c p ih =>
    obtain ⟨hc, hp⟩ := List.ne_and_not_mem_of_not_mem_cons hp
    constructor
    · intro h
      generalize hx : c :: p ++ w = x at h
      cases h with
      | nil => cases hx
      | plain _ h =>
        obtain ⟨rfl, rfl⟩ := List.cons.inj hx
        obtain ⟨s, rfl, hs⟩ := (ih hp).1 h
        exact ⟨s, rfl, hs⟩
      | reference _ _ _ => exact absurd (List.cons.inj hx).1.symm hc
    · rintro ⟨s, rfl, hs⟩
      exact .plain hc.symm ((ih hp).2 ⟨s, rfl, hs⟩)

theorem exists_of_denotes_amp {s : List Char} (h : Denotes ('&' :: s) v) :
    ∃ body w, s = body ++ ';' :: w ∧ ∀ c ∈ body, c ≠ '&' ∧ c ≠ ';' := by
  generalize hx : '&' :: s = x at h
  cases h with
  | nil => cases hx
  | plain hc _ => exact absurd (List.cons.inj hx).1.symm hc
  | @reference body w _ _ hbody _ _ => exact ⟨body, w, (List.cons.inj hx).2, hbody⟩

theorem denotes_reference_iff {body : List Char} (hbody : ∀ c ∈ body, c ≠ '&' ∧ c ≠ ';') :
    Denotes ('&' :: body ++ ';' :: w) v ↔
      ∃ d s, v = d :: s ∧ resolve 0 body = .ok d ∧ Denotes w s := by
  constructor
  · intro h
    generalize hx : '&' :: body ++ ';' :: w = x at h
    cases h with
    | nil => cases hx
    | plain hc _ => exact absurd (List.cons.inj hx).1.symm hc
    | @reference body' w' s d hbody' hd hs =>
      obtain ⟨rfl, rfl⟩ := eq_of_append_eq (fun hmem => (hbody _ hmem).2 rfl)
        (fun hmem => (hbody' _ hmem).2 rfl) (List.cons.inj hx).2
      exact ⟨d, s, rfl, hd, hs⟩
  · rintro ⟨d, s, rfl, hd, hs⟩
    exact .reference hbody hd hs

end

end Xml
end MediaScraper
