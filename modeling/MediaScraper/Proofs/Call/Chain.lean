import Mathlib.Data.List.TakeWhile
import MediaScraper.Call
import MediaScraper.Proofs.Text.Search

/-!
# Chains in texts

A text asks for a chain exactly if it holds the beginning of one, a name without quotes up to the
bracket, and the end of a chain somewhere behind them (`isSome_chainFrom?_iff`): where the first
such beginning has no end behind it, no later one has.
-/

namespace MediaScraper.Call

theorem beforeLastEnd?_isSome_iff {cs : List Char} :
    (beforeLastEnd? cs).isSome ↔ chainEnd <:+: cs := by
  rw [beforeLastEnd?, Option.isSome_map, Text.isSome_breakAt?_iff (by decide), List.reverse_infix]

theorem chainName?_eq_some_iff {cs name rest : List Char} :
    chainName? cs = some (name, rest) ↔ cs = name ++ nameEnd ++ rest ∧ '"' ∉ name := by
  rw [chainName?, List.span_eq_takeWhile_dropWhile, Option.map_eq_some_iff]
  constructor
  · rintro ⟨rest', hrest, heq⟩
    obtain ⟨rfl, rfl⟩ := Prod.mk.inj heq
    refine ⟨?_, fun hmem => by simpa using List.mem_takeWhile_imp hmem⟩
    rw [List.append_assoc, List.isPrefixOf?_eq_some_iff_append_eq.1 hrest,
      List.takeWhile_append_dropWhile]
  · rintro ⟨rfl, hname⟩
    have hall : ∀ c ∈ name, decide (c ≠ '"') = true := fun c hc =>
      decide_eq_true fun heq => hname (heq ▸ hc)
    rw [List.append_assoc, List.takeWhile_append_of_pos hall, List.dropWhile_append_of_pos hall]
    exact ⟨rest, List.isPrefixOf?_eq_some_iff_append_eq.2 rfl, by simp [nameEnd]⟩

theorem length_nameEnd : nameEnd.length = 2 := rfl

/-- A chain that begins further behind reaches no further to the front with what follows its name:
its quote would end the name of the first one. -/
theorem length_le_of_chainStart {c : Char} {before name behind name' behind' : List Char}
    (h : chainStart ++ (name ++ nameEnd ++ behind) =
      c :: before ++ chainStart ++ (name' ++ nameEnd ++ behind'))
    (hname : '"' ∉ name) : behind'.length ≤ behind.length := by
  obtain ⟨q, hq⟩ : ∃ q, chainStart = q ++ ['"'] := ⟨"<chain function=".toList, by decide⟩
  have hsplit : q ++ ['"'] ++ name ++ (nameEnd ++ behind) =
      c :: before ++ q ++ ('"' :: (name' ++ nameEnd ++ behind')) := by
    simpa [hq] using h
  rcases List.append_eq_append_iff.1 hsplit with ⟨t, -, ht⟩ | ⟨t, ht, hbehind⟩
  · have hlength := congrArg List.length ht
    simp only [List.length_append, List.length_cons, length_nameEnd] at hlength
    omega
  · cases t with
    | nil =>
      have hlength := congrArg List.length hbehind
      simp only [List.length_append, List.length_cons, length_nameEnd, List.nil_append] at hlength
      omega
    | cons d t =>
      obtain rfl : d = '"' := (List.cons.inj hbehind).1.symm
      refine absurd ?_ hname
      have hdrop := congrArg (List.drop (q ++ ['"']).length) ht
      rw [List.drop_left, List.drop_append_of_le_length (by simp)] at hdrop
      rw [hdrop]
      exact List.mem_append_right _ List.mem_cons_self

/-- **A text asks for a chain** if it holds one. -/
theorem isSome_chainFrom?_iff {s : List Char} :
    (chainFrom? s).isSome ↔
      ∃ before name behind, s = before ++ chainStart ++ (name ++ nameEnd ++ behind) ∧
        '"' ∉ name ∧ chainEnd <:+: behind := by
  induction s with
  | nil =>
    refine iff_of_false (fun h => by cases h) ?_
    rintro ⟨before, name, behind, h, -⟩
    exact absurd (List.append_eq_nil_iff.1 (List.append_eq_nil_iff.1 h.symm).1).2 (by decide)
  | cons c s ih =>
    rw [chainFrom?]
    cases hfound : (chainStart.isPrefixOf? (c :: s)).bind chainName? with
    | some found =>
      obtain ⟨name, behind⟩ := found
      obtain ⟨rest, hstart, hname⟩ := Option.bind_eq_some_iff.1 hfound
      obtain ⟨rfl, hquote⟩ := chainName?_eq_some_iff.1 hname
      have htext := (List.isPrefixOf?_eq_some_iff_append_eq.1 hstart).symm
      simp only [Option.isSome_map, beforeLastEnd?_isSome_iff]
      refine ⟨fun hend => ⟨[], name, behind, htext, hquote, hend⟩, ?_⟩
      rintro ⟨before, name', behind', htext', hquote', hend⟩
      have hsuffix : behind' <:+ behind := by
        have hlength : behind'.length ≤ behind.length := by
          cases before with
          | nil =>
            have hsame := List.append_cancel_left (htext.symm.trans htext')
            have hboth := (chainName?_eq_some_iff.2 ⟨hsame, hquote'⟩).symm.trans
              (chainName?_eq_some_iff.2 ⟨rfl, hquote⟩)
            rw [(Prod.mk.inj (Option.some.inj hboth)).2]
          | cons d before =>
            obtain ⟨rfl, rfl⟩ := List.cons.inj htext'
            exact length_le_of_chainStart htext.symm hquote
        have hin : behind <:+ c :: s := by
          rw [htext, ← List.append_assoc, ← List.append_assoc]
          exact List.suffix_append _ _
        have hin' : behind' <:+ c :: s := by
          rw [htext', ← List.append_assoc]
          exact List.suffix_append _ _
        exact List.suffix_of_suffix_length_le hin' hin hlength
      exact hend.trans (List.IsSuffix.isInfix hsuffix)
    | none =>
      simp only
      rw [ih]
      constructor
      · rintro ⟨before, name, behind, rfl, hquote, hend⟩
        exact ⟨c :: before, name, behind, rfl, hquote, hend⟩
      · rintro ⟨before, name, behind, htext, hquote, hend⟩
        cases before with
        | nil =>
          have hstart : chainStart.isPrefixOf? (c :: s) = some (name ++ nameEnd ++ behind) :=
            List.isPrefixOf?_eq_some_iff_append_eq.2 htext.symm
          rw [hstart, Option.bind_some, chainName?_eq_some_iff.2 ⟨rfl, hquote⟩] at hfound
          cases hfound
        | cons d before =>
          obtain ⟨rfl, rfl⟩ := List.cons.inj htext
          exact ⟨before, name, behind, rfl, hquote, hend⟩

end MediaScraper.Call
