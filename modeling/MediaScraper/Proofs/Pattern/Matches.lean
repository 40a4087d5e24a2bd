import Mathlib.Data.List.Forall2
import MediaScraper.Pattern.Program
import MediaScraper.Proofs.Pattern.Place

/-!
# What an expression matches

What an expression matches is a relation between a place, with the places remembered so far, and the
place behind the match, with the places of the groups added (`Regex.Matches`). A concatenation
matches its parts one after the other, however it is nested (`matches_concat_iff`).

**Reading.** An expression without groups and conditions *reads* some texts (`Reads`): it matches
wherever one of them stands, and remembers nothing.
-/

namespace MediaScraper.Pattern

/-- A place, and the places remembered on the way there. -/
abbrev State := Place × Saves

/-- So many rounds of a relation. -/
inductive Rounds (M : State → State → Prop) : Nat → State → State → Prop
  | nil (x : State) : Rounds M 0 x x
  | cons {n : Nat} {x y z : State} : M x y → Rounds M n y z → Rounds M (n + 1) x z

/-- The expression matches from a place on. -/
def Regex.Matches : Regex → State → State → Prop
  | empty, x, y => y = x
  | set s, x, y =>
    ∃ c rest place, x.1.rest = c :: rest ∧ s.contains c = true ∧ x.1.advance? = some place ∧
      y = (place, x.2)
  | look l, x, y => x.1.holds l = true ∧ y = x
  | capture index r, x, y =>
    ∃ z, r.Matches (x.1, (2 * index, x.1) :: x.2) z ∧ y = (z.1, (2 * index + 1, z.1) :: z.2)
  | cat a b, x, y => ∃ z, a.Matches x z ∧ b.Matches z y
  | alt a b, x, y => a.Matches x y ∨ b.Matches x y
  | repeated least most _ r, x, y =>
    ∃ n, least ≤ n ∧ (∀ m ∈ most, n ≤ max least m) ∧ Rounds r.Matches n x y

/-- One relation, and then another. -/
def Along (M N : State → State → Prop) (x y : State) : Prop := ∃ z, M x z ∧ N z y

/-- At most so many rounds. -/
def AtMost (M : State → State → Prop) (n : Nat) (x y : State) : Prop := ∃ m ≤ n, Rounds M m x y

/-- At least so many rounds. -/
def AtLeast (M : State → State → Prop) (n : Nat) (x y : State) : Prop := ∃ m ≥ n, Rounds M m x y

section
variable {M : State → State → Prop}

theorem rounds_zero {x y : State} : Rounds M 0 x y ↔ y = x := by
  constructor
  · rintro ⟨⟩
    rfl
  · rintro rfl
    exact .nil y

theorem rounds_one {x y : State} : Rounds M 1 x y ↔ M x y := by
  constructor
  · rintro (_ | ⟨hxy, ⟨⟩⟩)
    exact hxy
  · exact fun h => .cons h (.nil y)

theorem Rounds.append {m n : Nat} {x y z : State} (hxy : Rounds M m x y) (hyz : Rounds M n y z) :
    Rounds M (m + n) x z := by
  induction hxy with
  | nil => rwa [Nat.zero_add]
  | cons h _ ih => rw [Nat.succ_add]; exact .cons h (ih hyz)

theorem rounds_add {m n : Nat} {x z : State} :
    Rounds M (m + n) x z ↔ Along (Rounds M m) (Rounds M n) x z := by
  constructor
  · intro h
    induction m generalizing x with
    | zero => exact ⟨x, .nil x, by rwa [Nat.zero_add] at h⟩
    | succ m ih =>
      rw [Nat.succ_add] at h
      cases h with
      | cons hxy hyz =>
        obtain ⟨y, hm, hn⟩ := ih hyz
        exact ⟨y, .cons hxy hm, hn⟩
  · rintro ⟨y, hm, hn⟩
    exact hm.append hn

end

/-! ## Concatenations -/

/-- The expressions match one after the other. -/
def MatchesAll : List Regex → State → State → Prop
  | [], x, y => y = x
  | r :: rs, x, y => Along r.Matches (MatchesAll rs) x y

theorem matchesAll_singleton {r : Regex} {x y : State} : MatchesAll [r] x y ↔ r.Matches x y := by
  constructor
  · rintro ⟨_, hr, rfl⟩
    exact hr
  · exact fun hr => ⟨y, hr, rfl⟩

theorem matchesAll_append {rs ss : List Regex} {x z : State} :
    MatchesAll (rs ++ ss) x z ↔ Along (MatchesAll rs) (MatchesAll ss) x z := by
  induction rs generalizing x with
  | nil =>
    constructor
    · exact fun h => ⟨x, rfl, h⟩
    · rintro ⟨_, rfl, h⟩
      exact h
  | cons r rs ih =>
    constructor
    · rintro ⟨y, hr, h⟩
      obtain ⟨z', hrs, hss⟩ := ih.1 h
      exact ⟨z', ⟨y, hr, hrs⟩, hss⟩
    · rintro ⟨z', ⟨y, hr, hrs⟩, hss⟩
      exact ⟨y, hr, ih.2 ⟨z', hrs, hss⟩⟩

namespace Regex

theorem matchesAll_joinPairs (joined rs : List Regex) {x y : State} :
    MatchesAll (joinPairs joined rs) x y ↔ MatchesAll (joined.reverse ++ rs) x y := by
  induction joined, rs using joinPairs.induct with
  | case1 joined a b rest ih =>
    rw [joinPairs, ih, List.reverse_cons, List.append_assoc, matchesAll_append, matchesAll_append]
    refine exists_congr fun z => and_congr_right fun _ => ?_
    constructor
    · rintro ⟨u, ⟨v, ha, hb⟩, hrest⟩
      exact ⟨v, ha, u, hb, hrest⟩
    · rintro ⟨v, ha, u, hb, hrest⟩
      exact ⟨u, ⟨v, ha, hb⟩, hrest⟩
  | case2 joined r => rw [joinPairs, List.reverse_cons]
  | case3 joined => rw [joinPairs, List.append_nil]

theorem matches_foldl_cat (r : Regex) (rs : List Regex) {x y : State} :
    (rs.foldl cat r).Matches x y ↔ MatchesAll (r :: rs) x y := by
  induction rs generalizing r with
  | nil => exact matchesAll_singleton.symm
  | cons s rs ih =>
    rw [List.foldl_cons, ih]
    constructor
    · rintro ⟨z, ⟨u, hr, hs⟩, hrs⟩
      exact ⟨u, hr, z, hs, hrs⟩
    · rintro ⟨u, hr, z, hs, hrs⟩
      exact ⟨z, ⟨u, hr, hs⟩, hrs⟩

theorem matches_joinPasses_iff (n : Nat) (rs : List Regex) {x y : State} :
    (joinPasses n rs).Matches x y ↔ MatchesAll rs x y := by
  induction n generalizing rs with
  | zero =>
    match rs with
    | [] => exact Iff.rfl
    | [r] => exact matchesAll_singleton.symm
    | r :: s :: rest => exact matches_foldl_cat r (s :: rest)
  | succ n ih =>
    match rs with
    | [] => exact Iff.rfl
    | [r] => exact matchesAll_singleton.symm
    | r :: s :: rest => exact (ih _).trans (matchesAll_joinPairs [] (r :: s :: rest))

/-- **A concatenation matches its parts** one after the other. -/
theorem matches_concat_iff (rs : List Regex) {x y : State} :
    (concat rs).Matches x y ↔ MatchesAll rs x y :=
  matches_joinPasses_iff rs.length rs

end Regex

/-! ## Reading -/

/-- Matches are the texts of a language, wherever they stand, and nothing is remembered. -/
def Reads (M : State → State → Prop) (L : List Char → Prop) : Prop :=
  ∀ before rest saves y, M (.between before rest, saves) y ↔
    ∃ t behind, rest = t ++ behind ∧ L t ∧ y = (.between (before ++ t) behind, saves)

theorem reads_nil : Reads (fun x y => y = x) (· = []) := by
  intro before rest saves y
  simp

theorem Reads.along {M N : State → State → Prop} {L K : List Char → Prop} (hM : Reads M L)
    (hN : Reads N K) : Reads (Along M N) fun t => ∃ a b, t = a ++ b ∧ L a ∧ K b := by
  intro before rest saves y
  constructor
  · rintro ⟨z, hxz, hzy⟩
    obtain ⟨a, _, rfl, ha, rfl⟩ := (hM _ _ _ _).1 hxz
    obtain ⟨b, behind, rfl, hb, rfl⟩ := (hN _ _ _ _).1 hzy
    exact ⟨a ++ b, behind, by rw [List.append_assoc], ⟨a, b, rfl, ha, hb⟩,
      by rw [List.append_assoc]⟩
  · rintro ⟨_, behind, rfl, ⟨a, b, rfl, ha, hb⟩, rfl⟩
    refine ⟨(.between (before ++ a) (b ++ behind), saves), (hM _ _ _ _).2 ?_, (hN _ _ _ _).2 ?_⟩
    · exact ⟨a, b ++ behind, by rw [List.append_assoc], ha, rfl⟩
    · exact ⟨b, behind, rfl, hb, by rw [List.append_assoc]⟩

theorem Reads.congr {M : State → State → Prop} {L K : List Char → Prop} (h : Reads M L)
    (hLK : ∀ t, L t ↔ K t) : Reads M K := by
  intro before rest saves y
  rw [h]
  exact exists_congr fun t => exists_congr fun _ => and_congr_right fun _ =>
    and_congr_left fun _ => hLK t

namespace Regex

theorem reads_set (s : CharSet) :
    Reads (set s).Matches fun t => ∃ c, t = [c] ∧ s.contains c = true := by
  intro before rest saves y
  constructor
  · rintro ⟨c, behind, place, rfl, hc, hplace, rfl⟩
    rw [Place.advance?_between_cons] at hplace
    cases hplace
    exact ⟨[c], behind, rfl, ⟨c, rfl, hc⟩, rfl⟩
  · rintro ⟨_, behind, rfl, ⟨c, rfl, hc⟩, rfl⟩
    exact ⟨c, behind, _, rfl, hc, Place.advance?_between_cons _ _ _, rfl⟩

theorem reads_sets (ss : List CharSet) : Reads (MatchesAll (ss.map set)) fun t =>
    List.Forall₂ (fun s c => s.contains c = true) ss t := by
  induction ss with
  | nil => exact reads_nil.congr fun t => List.forall₂_nil_left_iff.symm
  | cons s ss ih =>
    refine ((reads_set s).along ih).congr fun t => ?_
    rw [List.forall₂_cons_left_iff]
    constructor
    · rintro ⟨_, t, rfl, ⟨c, rfl, hc⟩, ht⟩
      exact ⟨c, t, hc, ht, rfl⟩
    · rintro ⟨c, t, hc, ht, rfl⟩
      exact ⟨[c], t, rfl, ⟨c, rfl, hc⟩, ht⟩

theorem reads_rounds_set (s : CharSet) (n : Nat) : Reads (Rounds (set s).Matches n) fun t =>
    t.length = n ∧ ∀ c ∈ t, s.contains c = true := by
  induction n with
  | zero =>
    have hnone : Reads (Rounds (set s).Matches 0) (· = []) := fun before rest saves y =>
      rounds_zero.trans (reads_nil before rest saves y)
    refine hnone.congr fun t => ⟨?_, fun h => List.eq_nil_of_length_eq_zero h.1⟩
    rintro rfl
    exact ⟨rfl, fun _ h => absurd h List.not_mem_nil⟩
  | succ n ih =>
    have hround : Reads (Rounds (set s).Matches 1) fun t => ∃ c, t = [c] ∧ s.contains c = true :=
      fun before rest saves y => rounds_one.trans (reads_set s before rest saves y)
    have hrounds : Reads (Rounds (set s).Matches (1 + n)) _ := fun before rest saves y =>
      rounds_add.trans (hround.along ih before rest saves y)
    rw [Nat.add_comm]
    refine hrounds.congr fun t => ?_
    constructor
    · rintro ⟨_, t, rfl, ⟨c, rfl, hc⟩, rfl, ht⟩
      exact ⟨by rw [List.length_append, List.length_singleton], List.forall_mem_cons.2 ⟨hc, ht⟩⟩
    · rintro ⟨hlength, ht⟩
      cases t with
      | nil => rw [List.length_nil] at hlength; omega
      | cons c t =>
        obtain ⟨hc, ht⟩ := List.forall_mem_cons.1 ht
        exact ⟨[c], t, rfl, ⟨c, rfl, hc⟩, by rw [List.length_cons] at hlength; omega, ht⟩

theorem reads_repeated_set (s : CharSet) (least : Nat) (most : Option Nat) (greedy : Bool) :
    Reads (repeated least most greedy (set s)).Matches fun t =>
      (least ≤ t.length ∧ ∀ m ∈ most, t.length ≤ max least m) ∧ ∀ c ∈ t, s.contains c = true := by
  intro before rest saves y
  constructor
  · rintro ⟨n, hleast, hmost, hrounds⟩
    obtain ⟨t, behind, hrest, ⟨rfl, ht⟩, hy⟩ := (reads_rounds_set s n _ _ _ _).1 hrounds
    exact ⟨t, behind, hrest, ⟨⟨hleast, hmost⟩, ht⟩, hy⟩
  · rintro ⟨t, behind, hrest, ⟨⟨hleast, hmost⟩, ht⟩, hy⟩
    exact ⟨t.length, hleast, hmost,
      (reads_rounds_set s _ _ _ _ _).2 ⟨t, behind, hrest, ⟨rfl, ht⟩, hy⟩⟩

theorem matches_capture_iff {r : Regex} {L : List Char → Prop} (h : Reads r.Matches L) {index : Nat}
    {before rest : List Char} {saves : Saves} {y : State} :
    (capture index r).Matches (.between before rest, saves) y ↔
      ∃ t behind, rest = t ++ behind ∧ L t ∧
        y = (.between (before ++ t) behind, (2 * index + 1, .between (before ++ t) behind) ::
          (2 * index, .between before (t ++ behind)) :: saves) := by
  constructor
  · rintro ⟨z, hz, rfl⟩
    obtain ⟨t, behind, rfl, ht, rfl⟩ := (h _ _ _ _).1 hz
    exact ⟨t, behind, rfl, ht, rfl⟩
  · rintro ⟨t, behind, rfl, ht, rfl⟩
    exact ⟨_, (h _ _ _ _).2 ⟨t, behind, rfl, ht, rfl⟩, rfl⟩

end Regex

end MediaScraper.Pattern
