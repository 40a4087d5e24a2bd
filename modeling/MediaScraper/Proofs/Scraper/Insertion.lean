import MediaScraper.Scraper.Basic

/-!
# Inserting routines

Of two routines of one name the first counts. So a name stands for the routine that it stood for
before more were inserted, and else for the first new one (`find?_insertAll`). What a scraper holds
after insertion are routines it held or was given, in their order, and no name comes twice
(`routines_insertAll`, `nodup_insertAll`).
-/

namespace MediaScraper.Scraper

theorem find?_insert (s : Scraper) (r : Routine) (name : String) :
    (s.insert r).find? name = (s.find? name).or (if r.name = name then some r else none) := by
  cases hc : s.contains r.name with
  | true =>
    rw [insert, hc, if_pos rfl]
    split
    · next heq =>
      subst heq
      obtain ⟨x, hx⟩ := Option.isSome_iff_exists.1 (List.find?_isSome.2 (List.any_eq_true.1 hc))
      rw [find?, hx]
      rfl
    · rw [Option.or_none]
  | false =>
    rw [insert, hc, if_neg Bool.false_ne_true, find?, List.find?_append, List.find?_singleton]
    simp [find?]

/-- **A name stands for what it stood for**, or else for the first new routine of that name. -/
theorem find?_insertAll (s : Scraper) (rs : List Routine) (name : String) :
    (s.insertAll rs).find? name = (s.find? name).or (rs.find? (·.name = name)) := by
  induction rs generalizing s with
  | nil => rw [insertAll, List.foldl_nil, List.find?_nil, Option.or_none]
  | cons r rs ih =>
    rw [insertAll, List.foldl_cons, ← insertAll, ih, find?_insert, Option.or_assoc,
      List.find?_cons]
    by_cases hname : r.name = name <;> simp [hname]

theorem id_insertAll (s : Scraper) (rs : List Routine) : (s.insertAll rs).id = s.id := by
  induction rs generalizing s with
  | nil => rfl
  | cons r rs ih =>
    rw [insertAll, List.foldl_cons, ← insertAll, ih, insert]
    split <;> rfl

theorem routines_insertAll (s : Scraper) (rs : List Routine) :
    (s.insertAll rs).routines.Sublist (s.routines ++ rs) := by
  induction rs generalizing s with
  | nil => exact (List.append_nil s.routines).symm ▸ .refl _
  | cons r rs ih =>
    refine (ih (s.insert r)).trans ?_
    rw [insert]
    split
    · exact (List.sublist_cons_self r rs).append_left _
    · simp

theorem nodup_insertAll {s : Scraper} (h : (s.routines.map (·.name)).Nodup) (rs : List Routine) :
    ((s.insertAll rs).routines.map (·.name)).Nodup := by
  induction rs generalizing s with
  | nil => exact h
  | cons r rs ih =>
    refine ih ?_
    cases hc : s.contains r.name with
    | true => rwa [insert, hc, if_pos rfl]
    | false =>
      have hnew : ∀ x ∈ s.routines, x.name ≠ r.name := by
        simpa [contains] using hc
      rw [insert, hc, if_neg Bool.false_ne_true, List.map_append, List.nodup_append]
      refine ⟨h, List.pairwise_singleton _ _, fun a ha b hb heq => ?_⟩
      obtain ⟨x, hx, rfl⟩ := List.mem_map.1 ha
      exact hnew x hx (heq.trans (List.mem_singleton.1 hb))

end MediaScraper.Scraper
