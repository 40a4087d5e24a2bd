import Mathlib.Algebra.Ring.Nat
import MediaScraper.Pattern.Basic

/-!
# Reading an escaped text

The characters that mean something in a pattern are just those that escaping puts a backslash before
(`step_backslash`, `step_plain`). So an escaped text reads as its letters, one after the other, in
whatever group it stands (`run_escape`), and alone as their concatenation (`parse?_escape`). The
size of a pattern grows with each letter, so a text that is long enough is too large even when it is
escaped (`accept?_escape_eq_none`).
-/

namespace MediaScraper.Pattern

/-! ## Concatenations -/

namespace Regex

section
variable {P : Regex → Prop} (hcat : ∀ a b, P a → P b → P (cat a b))
include hcat

theorem forall_joinPairs {joined rs : List Regex} (hjoined : ∀ r ∈ joined, P r)
    (hrs : ∀ r ∈ rs, P r) : ∀ r ∈ joinPairs joined rs, P r := by
  induction joined, rs using joinPairs.induct with
  | case1 joined a b rest ih =>
    obtain ⟨ha, hrest⟩ := List.forall_mem_cons.1 hrs
    obtain ⟨hb, hrest⟩ := List.forall_mem_cons.1 hrest
    exact ih (List.forall_mem_cons.2 ⟨hcat a b ha hb, hjoined⟩) hrest
  | case2 joined r =>
    simpa [joinPairs, or_imp, forall_and] using ⟨hjoined, hrs r (List.mem_singleton_self r)⟩
  | case3 joined => simpa [joinPairs] using hjoined

/-- What two expressions hand on to their concatenation, the parts hand on to the whole. -/
theorem joinPasses_of_forall (hempty : P empty) (n : Nat) {rs : List Regex} (h : ∀ r ∈ rs, P r) :
    P (joinPasses n rs) := by
  induction n generalizing rs with
  | zero =>
    match rs with
    | [] => exact hempty
    | [r] => exact h r (List.mem_singleton_self r)
    | r :: s :: rest =>
      obtain ⟨hr, hrest⟩ := List.forall_mem_cons.1 h
      refine List.foldlRecOn (s :: rest) cat hr fun a ha b hb => ?_
      exact hcat a b ha (hrest b hb)
  | succ n ih =>
    match rs with
    | [] => exact hempty
    | [r] => exact h r (List.mem_singleton_self r)
    | r :: s :: rest => exact ih (forall_joinPairs hcat (fun _ h => absurd h List.not_mem_nil) h)

end

theorem groupCount_concat {rs : List Regex} (h : ∀ r ∈ rs, r.groupCount = 0) :
    (concat rs).groupCount = 0 := by
  refine joinPasses_of_forall (P := fun r => r.groupCount = 0) (fun a b ha hb => ?_) rfl _ h
  rw [groupCount, ha, hb, Nat.max_self]

section
variable {f : Regex → Nat} (hcat : ∀ a b, f (cat a b) = f a + f b)
include hcat

theorem sum_joinPairs (joined rs : List Regex) :
    ((joinPairs joined rs).map f).sum = (joined.map f).sum + (rs.map f).sum := by
  induction joined, rs using joinPairs.induct with
  | case1 joined a b rest ih =>
    rw [joinPairs, ih]
    simp only [List.map_cons, List.sum_cons, hcat]
    omega
  | case2 joined r => simp [joinPairs, Nat.add_comm]
  | case3 joined => simp [joinPairs]

theorem joinPasses_eq_sum (hempty : f empty = 0) (n : Nat) (rs : List Regex) :
    f (joinPasses n rs) = (rs.map f).sum := by
  induction n generalizing rs with
  | zero =>
    match rs with
    | [] => exact hempty
    | [r] => simp [joinPasses]
    | r :: s :: rest =>
      have hfold (r : Regex) (rs : List Regex) : f (rs.foldl cat r) = f r + (rs.map f).sum := by
        induction rs generalizing r with
        | nil => rfl
        | cons s rs ih =>
          rw [List.foldl_cons, ih, hcat, List.map_cons, List.sum_cons, Nat.add_assoc]
      exact hfold r (s :: rest)
  | succ n ih =>
    match rs with
    | [] => exact hempty
    | [r] => simp [joinPasses]
    | r :: s :: rest =>
      have hpairs := (ih _).trans (sum_joinPairs hcat [] (r :: s :: rest))
      rwa [List.map_nil, List.sum_nil, Nat.zero_add] at hpairs

end

end Regex

/-! ## The size of a concatenation -/

namespace Size

theorem size_concat (backwards : Bool) (rs : List Regex) :
    size backwards .inCat (.concat rs) = (rs.map (size backwards .inCat)).sum :=
  Regex.joinPasses_eq_sum (fun a b => by simp [size, size.asBranch]) (by rw [size]) rs.length rs

theorem size_inCat_le_alone (backwards : Bool) (r : Regex) :
    size backwards .inCat r ≤ size backwards .alone r := by
  cases r with
  | empty =>
    rw [size]
    exact Nat.zero_le _
  | _ => simp [size, size.asBranch]

theorem length_encode_pos (n : Nat) : 1 ≤ (encode n).length := by
  unfold encode
  repeat' split
  all_goals simp

theorem state_le_wide (backwards : Bool) (s : CharSet) : state ≤ setSize.wide backwards s := by
  unfold setSize.wide
  cases backwards with
  | true =>
    rw [if_pos rfl]
    exact Nat.le_trans (by omega) (Nat.le_add_right (2 * state + 4 * _) _)
  | false =>
    have hfold (nodes : List Node) :
        state ≤ nodes.foldr (fun node n => state + 8 * node.length + n) state := by
      cases nodes with
      | nil => exact Nat.le_refl _
      | cons node nodes =>
        rw [List.foldr_cons]
        omega
    exact hfold (share 4 [] (setSequences s)).1

theorem state_le_setSize (backwards : Bool) (s : CharSet) : state ≤ setSize backwards s := by
  have hwide := state_le_wide backwards s
  unfold setSize
  split
  · exact Nat.le_refl _
  · next r _ =>
    have hpos := length_encode_pos r.lo
    split
    · exact Nat.le_mul_of_pos_right _ hpos
    · split
      · omega
      · exact hwide
  · split
    · omega
    · exact hwide

theorem fits_concat_eq_false {ss : List CharSet} (h : limit < state * ss.length) :
    fits (.concat (ss.map .set)) = false := by
  have hsum : state * ss.length ≤ (ss.map fun s => size false .inCat (.set s)).sum := by
    clear h
    induction ss with
    | nil => exact Nat.le_refl _
    | cons s ss ih =>
      have hs : state ≤ size false .inCat (.set s) := by
        rw [size, size.asBranch]
        · exact state_le_setSize false s
        · exact nofun
      rw [List.length_cons, List.map_cons, List.sum_cons, Nat.mul_succ]
      omega
  have hcat := size_concat false (ss.map .set)
  have halone := size_inCat_le_alone false (.concat (ss.map .set))
  rw [List.map_map] at hcat
  change _ = (ss.map fun s => size false .inCat (.set s)).sum at hcat
  have hlarge : ¬ size false .alone (.concat (ss.map .set)) + surroundings + 2 * state ≤ limit := by
    omega
  simp [fits, hlarge]

end Size

/-! ## Letters -/

theorem escape_eq_self {s : List Char} (h : ∀ c ∈ s, isMeta c = false) : escape s = s := by
  induction s with
  | nil => rfl
  | cons c s ih =>
    obtain ⟨hc, hs⟩ := List.forall_mem_cons.1 h
    have hs := ih hs
    rw [escape] at hs ⊢
    rw [List.flatMap_cons, hs, hc]
    rfl

/-- A character up to case. -/
def letter (c : Char) : CharSet := CaseFolding.close (.singleton c.toNat)

/-- A part that reads one character up to case. -/
def letterItem (c : Char) : Item := ⟨.set (letter c), 0, false⟩

/-- Read a character for itself. -/
def Progress.addLetter (p : Progress) (c : Char) : Progress :=
  { p with items := letterItem c :: p.items }

section
variable {p : Progress} (hp : p.flags = .initial) {c : Char}
include hp

theorem step_backslash (hc : isMeta c = true) (cs : List Char) :
    p.step '\\' (c :: cs) = some (p.addLetter c, cs) := by
  have hread : readEscape p.flags (c :: cs) = some (.char c false, cs) := by
    simp only [isMeta, String.reduceToList, List.contains_eq_mem, List.mem_cons, List.not_mem_nil,
      or_false, decide_eq_true_iff] at hc
    rcases hc with rfl | rfl | rfl | rfl | rfl | rfl | rfl | rfl | rfl | rfl | rfl | rfl | rfl |
      rfl | rfl | rfl | rfl | rfl | rfl | rfl <;> rfl
  rw [Progress.step, hread]
  simp only [hp]
  rfl

theorem step_plain (hc : isMeta c = false) (cs : List Char) :
    p.step c cs = some (p.addLetter c, cs) := by
  unfold Progress.step
  split
  all_goals first | exact absurd hc (by decide) | skip
  rw [hp]
  rfl

theorem run_succ_of_step {p' : Progress} {cs cs' : List Char} (h : p.step c cs = some (p', cs'))
    (n : Nat) : p.run (n + 1) (c :: cs) = p'.run n cs' := by
  have hskip : p.flags.skip (c :: cs) = c :: cs := by rw [hp]; rfl
  rw [Progress.run, hskip]
  simp only [h]

/-- **An escaped text is read** letter by letter. -/
theorem run_escape (s : List Char) {n : Nat} (hn : (escape s).length ≤ n) :
    p.run n (escape s) = some { p with items := (s.map letterItem).reverse ++ p.items } := by
  induction s generalizing p n with
  | nil =>
    have hskip : p.flags.skip [] = [] := by rw [hp]; rfl
    cases n with
    | zero => rfl
    | succ n =>
      rw [escape, List.flatMap_nil, Progress.run, hskip]
      rfl
  | cons c s ih =>
    have hrest {n : Nat} (hn : (escape s).length ≤ n) : (p.addLetter c).run n (escape s) =
        some { p with items := ((c :: s).map letterItem).reverse ++ p.items } := by
      rw [ih (p := p.addLetter c) hp hn]
      simp [Progress.addLetter]
    cases hc : isMeta c with
    | true =>
      have hescape : escape (c :: s) = '\\' :: c :: escape s := by simp [escape, hc]
      rw [hescape, List.length_cons, List.length_cons] at hn
      obtain ⟨n, rfl⟩ : ∃ m, n = m + 1 := ⟨n - 1, by omega⟩
      rw [hescape, run_succ_of_step hp (step_backslash hp hc _)]
      exact hrest (by omega)
    | false =>
      have hescape : escape (c :: s) = c :: escape s := by simp [escape, hc]
      rw [hescape, List.length_cons] at hn
      obtain ⟨n, rfl⟩ : ∃ m, n = m + 1 := ⟨n - 1, by omega⟩
      rw [hescape, run_succ_of_step hp (step_plain hp hc _)]
      exact hrest (by omega)

end

theorem finishBranch_fst (items : List Item) :
    (finishBranch items).1 = .concat (items.reverse.map (·.regex)) := by
  match items with
  | [] | [_] | _ :: _ :: _ => rfl

theorem finishBranch_snd_le {items : List Item} (h : ∀ i ∈ items, i.depth = 0) :
    (finishBranch items).2 ≤ 1 := by
  have hfold : items.foldl (fun d i => max d i.depth) 0 = 0 :=
    List.foldlRecOn (motive := (· = 0)) items _ rfl fun d hd i hi => by
      rw [hd, h i hi, Nat.max_self]
  unfold finishBranch
  split
  · exact Nat.zero_le 1
  · next i => exact Nat.le_trans (Nat.le_of_eq (h i (List.mem_singleton_self i))) (Nat.zero_le 1)
  · exact Nat.succ_le_succ (Nat.le_of_eq hfold)

/-- **An escaped text reads as its letters**, one after the other. -/
theorem parse?_escape (s : List Char) :
    parse? (escape s) = some (.concat ((s.map letter).map .set)) := by
  have hrun := run_escape (p := .start) rfl s (Nat.le_refl _)
  have hregex :
      (finishBranch (s.map letterItem).reverse).1 = .concat ((s.map letter).map .set) := by
    rw [finishBranch_fst, List.reverse_reverse, List.map_map, List.map_map]
    rfl
  have hdepth : (finishBranch (s.map letterItem).reverse).2 ≤ nestLimit := by
    refine Nat.le_trans (finishBranch_snd_le fun i hi => ?_) (by decide)
    obtain ⟨c, -, rfl⟩ := List.mem_map.1 (List.mem_reverse.1 hi)
    rfl
  rw [parse?, hrun, Option.bind_eq_bind, Option.bind_some]
  simp only [Progress.start, List.append_nil, List.isEmpty_nil, if_true, finishGroup, hregex,
    if_pos hdepth]
  rfl

/-- A group that nothing closes. -/
theorem parse?_open_escape (s : List Char) : parse? ('(' :: escape s) = none := by
  let opened : Progress :=
    ({ Progress.start with groups := 1 }).openGroup (some 1) .initial
  have hhead (rest : List Char) : escape s ≠ '?' :: rest := by
    cases s with
    | nil => exact nofun
    | cons c s =>
      rw [escape, List.flatMap_cons]
      split
      · rintro ⟨⟩
      · rintro ⟨⟩
        contradiction
  have hstep : Progress.start.step '(' (escape s) = some (opened, escape s) := by
    have hskip : Progress.start.flags.skip (escape s) = escape s := rfl
    simp only [Progress.step, readGroup, hskip]
    split
    all_goals first | exact absurd ‹escape s = _› (hhead _) | rfl
  have hrun := run_escape (p := opened) rfl s (Nat.le_refl _)
  rw [parse?, List.length_cons, run_succ_of_step rfl hstep, hrun]
  rfl

/-- **A text that is too long** to be matched literally. -/
theorem accept?_escape_eq_none {s : List Char} (h : Size.limit < Size.state * s.length) :
    accept? Size.fits (escape s) = none := by
  have hfits : Size.fits (.concat ((s.map letter).map .set)) = false :=
    Size.fits_concat_eq_false (by rwa [List.length_map])
  rw [accept?, parse?_escape, Option.filter_some, hfits]
  rfl

end MediaScraper.Pattern
