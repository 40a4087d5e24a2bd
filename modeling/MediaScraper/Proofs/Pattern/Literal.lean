import MediaScraper.Proofs.Pattern.Escaping
import MediaScraper.Proofs.Pattern.Found
import MediaScraper.Proofs.Unicode.CaseFolding
import MediaScraper.Proofs.Unicode.FoldClosure

/-!
# Patterns that are taken literally

A pattern that is not accepted matches its own text up to case. The expression of the escaped text
reads what is equal to the text, character by character (`reads_letters`), and remembers no groups.
Texts that are equal up to case have the same number of characters, so from each place there is at
most one match, and the leftmost places at which there is one give the matches
(`Occurs.finds`). Every text has such a list of parts (`exists_occurs`), so it is the only one
(`findAll_compile_rejected`).

The pattern for texts that are too large asks for an edge of a word that is none
(`not_matches_nowhere`).
-/

namespace MediaScraper.Pattern

/-! ## Texts up to case -/

/-- The texts have as many characters, and agree on each up to simple case folding. -/
def EqualUpToCase (s t : List Char) : Prop :=
  List.Forall₂ (fun c d => CaseFolding.fold c.toNat = CaseFolding.fold d.toNat) s t

theorem contains_letter (c d : Char) : (letter c).contains d = true ↔
    CaseFolding.fold c.toNat = CaseFolding.fold d.toNat :=
  (CaseFolding.contains_close_singleton c d).trans eq_comm

/-- Behind so many characters of the text stands a part that is equal to the pattern. -/
def OccursAt (p text : List Char) (n : Nat) : Prop :=
  ∃ a part b, text = a ++ (part ++ b) ∧ a.length = n ∧ EqualUpToCase p part

/-- The parts of a text that are equal to the pattern, from the left and without overlaps: each is
the leftmost one behind the one before. The text before them is given too. -/
inductive Occurs (p : List Char) : List Char → List Char → List Match → Prop
  | nil {before rest : List Char} : (∀ n, ¬ OccursAt p rest n) → Occurs p before rest []
  | cons {before passed part behind : List Char} {ms : List Match} : EqualUpToCase p part →
      (∀ n < passed.length, ¬ OccursAt p (passed ++ (part ++ behind)) n) →
      Occurs p (before ++ passed ++ part) behind ms →
      Occurs p before (passed ++ (part ++ behind))
        (⟨.between (before ++ passed) part behind, []⟩ :: ms)

variable {p s t : List Char}

instance : Decidable (EqualUpToCase s t) := inferInstanceAs (Decidable (List.Forall₂ _ s t))

theorem OccursAt.add_length_le {text : List Char} {n : Nat} (h : OccursAt p text n) :
    n + p.length ≤ text.length := by
  obtain ⟨a, part, b, rfl, rfl, hpart⟩ := h
  rw [List.length_append, List.length_append, hpart.length_eq]
  omega

theorem occursAt_iff {text : List Char} {n : Nat} : OccursAt p text n ↔
    n ≤ text.length ∧ EqualUpToCase p ((text.drop n).take p.length) := by
  constructor
  · intro h
    refine ⟨by have hle := h.add_length_le; omega, ?_⟩
    obtain ⟨a, part, b, rfl, rfl, hpart⟩ := h
    rwa [List.drop_left, hpart.length_eq, List.take_left]
  · rintro ⟨hn, h⟩
    refine ⟨text.take n, (text.drop n).take p.length, (text.drop n).drop p.length, ?_, ?_, h⟩
    · rw [List.take_append_drop, List.take_append_drop]
    · rw [List.length_take, Nat.min_eq_left hn]

instance {text : List Char} {n : Nat} : Decidable (OccursAt p text n) :=
  decidable_of_iff _ occursAt_iff.symm

/-! ## What the expression matches -/

theorem reads_letters (p : List Char) :
    Reads (Regex.concat ((p.map letter).map .set)).Matches (EqualUpToCase p) := by
  intro before rest saves y
  rw [Regex.matches_concat_iff]
  refine ((Regex.reads_sets _).congr fun t => ?_) before rest saves y
  simp only [List.forall₂_map_left_iff, contains_letter]
  rfl

/-- What is remembered of a part of a text. -/
def partSaves (before part behind : List Char) : Saves :=
  [(1, .between (before ++ part) behind), (0, .between before (part ++ behind))]

theorem remembers_letters_iff {before rest : List Char} {w : Saves} :
    (Regex.concat ((p.map letter).map .set)).Remembers before rest w ↔
      ∃ part behind, rest = part ++ behind ∧ EqualUpToCase p part ∧
        w = partSaves before part behind := by
  constructor
  · rintro ⟨stop, saves, hmatches, rfl⟩
    obtain ⟨part, behind, rfl, hpart, ⟨⟩⟩ := (reads_letters p _ _ _ _).1 hmatches
    exact ⟨part, behind, rfl, hpart, rfl⟩
  · rintro ⟨part, behind, rfl, hpart, rfl⟩
    exact ⟨_, _, (reads_letters p _ _ _ _).2 ⟨part, behind, rfl, hpart, rfl⟩, rfl⟩

theorem OccursAt.of_remembers {before a rest : List Char} {w : Saves}
    (h : (Regex.concat ((p.map letter).map .set)).Remembers before rest w) :
    OccursAt p (a ++ rest) a.length := by
  obtain ⟨part, behind, rfl, hpart, -⟩ := remembers_letters_iff.1 h
  exact ⟨a, part, behind, rfl, rfl, hpart⟩

/-- **The parts that are equal to the pattern** are found. -/
theorem Occurs.finds (hp : p ≠ []) {before rest : List Char} {ms : List Match}
    (h : Occurs p before rest ms) :
    (Regex.concat ((p.map letter).map .set)).Finds 0 before rest ms := by
  induction h with
  | nil hnone =>
    refine .nil fun a b hab w hw => ?_
    rw [hab] at hnone
    exact hnone _ (.of_remembers hw)
  | @cons before passed part behind ms hpart hleft _ ih =>
    have hne : part ≠ [] := by
      rintro rfl
      exact hp (List.forall₂_nil_right_iff.1 hpart)
    refine .cons (w := partSaves (before ++ passed) part behind) (fun a b hab hb w hw => ?_)
      (fun w => ?_) rfl rfl hne ih
    · rw [hab, List.append_assoc] at hleft
      refine hleft a.length ?_ (.of_remembers hw)
      rw [List.length_append]
      exact Nat.lt_add_of_pos_right (List.length_pos_iff.2 hb)
    · rw [remembers_letters_iff]
      constructor
      · rintro ⟨part', behind', heq, hpart', rfl⟩
        have hlength := hpart.length_eq.symm.trans hpart'.length_eq
        obtain ⟨rfl, rfl⟩ := List.append_inj heq hlength
        rfl
      · exact fun h => ⟨part, behind, rfl, hpart, h⟩

/-! ## Every text has its parts -/

theorem exists_leftmost {rest : List Char} {n : Nat} (h : OccursAt p rest n) :
    ∃ passed part behind, rest = passed ++ (part ++ behind) ∧ EqualUpToCase p part ∧
      ∀ m < passed.length, ¬ OccursAt p rest m := by
  induction n using Nat.strongRecOn with
  | ind n ih =>
    by_cases hleft : ∃ m < n, OccursAt p rest m
    · obtain ⟨m, hm, hoccurs⟩ := hleft
      exact ih m hm hoccurs
    · obtain ⟨passed, part, behind, heq, rfl, hpart⟩ := h
      exact ⟨passed, part, behind, heq, hpart, fun m hm hoccurs => hleft ⟨m, hm, hoccurs⟩⟩

theorem exists_occurs (hp : p ≠ []) (before rest : List Char) : ∃ ms, Occurs p before rest ms := by
  induction hn : rest.length using Nat.strongRecOn generalizing before rest with
  | ind n ih =>
    by_cases h : ∃ n, OccursAt p rest n
    · obtain ⟨_, hoccurs⟩ := h
      obtain ⟨passed, part, behind, rfl, hpart, hleft⟩ := exists_leftmost hoccurs
      have hlt : behind.length < n := by
        have hpos := List.length_pos_iff.2 hp
        have hlength := hpart.length_eq
        simp only [List.length_append] at hn
        omega
      obtain ⟨ms, hms⟩ := ih _ hlt (before ++ passed ++ part) behind rfl
      exact ⟨_, .cons hpart hleft hms⟩
    · exact ⟨[], .nil fun n hn => h ⟨n, hn⟩⟩

theorem findAll_ofRegex_escape (hp : p ≠ []) (source : List Char) (text : String)
    (ms : List Match) :
    (ofRegex source (.concat ((p.map letter).map .set))).findAll text = ms ↔
      Occurs p [] text.toList ms := by
  have hgroups : (Regex.concat ((p.map letter).map .set)).groupCount = 0 := by
    refine Regex.groupCount_concat fun r hr => ?_
    obtain ⟨s, -, rfl⟩ := List.mem_map.1 hr
    rfl
  have hfound {ms : List Match} (h : Occurs p [] text.toList ms) :
      (ofRegex source (.concat ((p.map letter).map .set))).findAll text = ms :=
    findAll_ofRegex source (hgroups ▸ h.finds hp)
  constructor
  · rintro rfl
    obtain ⟨ms, h⟩ := exists_occurs hp [] text.toList
    rwa [hfound h]
  · exact hfound

/-! ## Matching nowhere -/

theorem not_matches_nowhere (x y : State) : ¬ nowhere.Matches x y := by
  rintro ⟨_, ⟨hedge, rfl⟩, hinterior, -⟩
  simp only [Place.holds, bne_iff_ne, beq_iff_eq] at hedge hinterior
  exact hedge hinterior

theorem findAll_nowhere (source : List Char) (text : String) :
    (ofRegex source nowhere).findAll text = [] := by
  refine findAll_ofRegex source (.nil fun a b hab w hw => ?_)
  obtain ⟨stop, saves, hmatches, -⟩ := hw
  exact not_matches_nowhere _ _ hmatches

/-! ## Patterns that are not accepted -/

/-- **A pattern that is not accepted** matches the leftmost parts of a text, without overlaps, that
are equal to it up to case, and has no groups; if it is too large for that, it matches nowhere. This
does not depend on what is taken for too large. -/
theorem findAll_compile_rejected {fits : Regex → Bool} {p : String}
    (h : accept? fits p.toList = none) :
    ((accept? fits (escape p.toList)).isSome = true → ∀ text ms,
      (compileWith fits p).findAll text = ms ↔ Occurs p.toList [] text.toList ms) ∧
    (accept? fits (escape p.toList) = none → ∀ text, (compileWith fits p).findAll text = []) := by
  constructor
  · intro hescape text ms
    obtain ⟨r, hr⟩ := Option.isSome_iff_exists.1 hescape
    have hne : p.toList ≠ [] := by
      intro hnil
      -- the empty pattern is its own escaped form
      rw [hnil] at h hr
      cases h.symm.trans hr
    have hcompile : compileWith fits p = ofRegex (escape p.toList) r := by
      simp only [compileWith, h, hr]
    obtain rfl : .concat ((p.toList.map letter).map .set) = r := by
      rw [accept?, parse?_escape] at hr
      exact Option.some.inj (Option.filter_eq_some_iff.1 hr).1
    rw [hcompile]
    exact findAll_ofRegex_escape hne _ text ms
  · intro hescape text
    have hcompile : compileWith fits p = ofRegex nowhereSource nowhere := by
      simp only [compileWith, h, hescape]
    rw [hcompile]
    exact findAll_nowhere nowhereSource text

/-- A group of so many letters, which is not closed. -/
def unclosed (n : Nat) : String := .ofList ('(' :: List.replicate n 'a')

theorem accept?_unclosed (fits : Regex → Bool) (n : Nat) :
    accept? fits (unclosed n).toList = none := by
  have hplain : ∀ c ∈ List.replicate n 'a', isMeta c = false := fun c hc => by
    rw [List.eq_of_mem_replicate hc]
    decide
  rw [unclosed, String.toList_ofList, accept?, ← escape_eq_self hplain, parse?_open_escape]
  rfl

theorem accept?_escape_unclosed {n : Nat} (h : Size.limit < Size.state * n) :
    accept? Size.fits (escape (unclosed n).toList) = none := by
  refine accept?_escape_eq_none ?_
  rw [unclosed, String.toList_ofList, List.length_cons, List.length_replicate, Nat.mul_succ]
  omega

theorem isSome_accept?_escape_unclosed :
    (accept? Size.fits (escape (unclosed 1).toList)).isSome = true := by
  have hletter : letter 'a' = CaseFolding.caseless 'a' :=
    CaseFolding.close_eq_caseless (by decide) (by decide) (by decide)
  have hopener : letter '(' = CaseFolding.caseless '(' :=
    CaseFolding.close_eq_caseless (by decide) (by decide) (by decide)
  have hfits : Size.fits (.concat ((['(', 'a'].map letter).map .set)) = true := by
    simp only [List.map_cons, List.map_nil, hletter, hopener]
    decide
  have hlist : (unclosed 1).toList = ['(', 'a'] := by simp [unclosed]
  rw [hlist, accept?, parse?_escape, Option.filter_some, hfits]
  rfl

theorem findAll_compile_unclosed :
    accept? Size.fits (unclosed 1).toList = none ∧
      (accept? Size.fits (escape (unclosed 1).toList)).isSome = true ∧
      (compile (unclosed 1)).findAll "x(Ay(a" =
        [⟨.between ['x'] ['(', 'A'] ['y', '(', 'a'], []⟩,
          ⟨.between ['x', '(', 'A', 'y'] ['(', 'a'] [], []⟩] ∧
      accept? Size.fits (unclosed 400000).toList = none ∧
      accept? Size.fits (escape (unclosed 400000).toList) = none ∧
      (compile (unclosed 400000)).findAll "x(Ay(a" = [] := by
  have hlong : accept? Size.fits (escape (unclosed 400000).toList) = none :=
    accept?_escape_unclosed (by decide)
  have hlist : (unclosed 1).toList = ['(', 'a'] := by simp [unclosed]
  refine ⟨accept?_unclosed _ 1, isSome_accept?_escape_unclosed,
    ((findAll_compile_rejected (accept?_unclosed _ 1)).1 isSome_accept?_escape_unclosed _ _).2 ?_,
    accept?_unclosed _ 400000, hlong,
    (findAll_compile_rejected (accept?_unclosed _ 400000)).2 hlong _⟩
  rw [hlist]
  have hsecond : Occurs ['(', 'a'] (([] ++ ['x']) ++ ['(', 'A']) (['y'] ++ (['(', 'a'] ++ []))
      [⟨.between ((([] ++ ['x']) ++ ['(', 'A']) ++ ['y']) ['(', 'a'] [], []⟩] :=
    .cons (by decide) (by decide)
      (.nil fun n h => absurd h.add_length_le (by simp))
  show Occurs ['(', 'a'] [] (['x'] ++ (['(', 'A'] ++ ['y', '(', 'a'])) _
  exact .cons (by decide) (by decide) hsecond

end MediaScraper.Pattern
