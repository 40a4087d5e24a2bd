import Mathlib.Data.List.Perm.Subperm
import MediaScraper.Proofs.Pattern.Paths
import MediaScraper.Proofs.Pattern.Search

/-!
# Searches try everything

A search passes over what has been tried before. It misses nothing by that: at every step, what
follows from a job that has been tried has been tried as well, or is still to be done, and no job
that has been tried accepts (`Explored`). When nothing is left to be done, no job that has been
tried leads to acceptance (`Explored.not_leads`), and this stays so for the places at which the
search starts later.

**Fuel.** Every step takes a job away or tries a new pair, which adds at most two jobs. There are no
more pairs than instructions times places, so a search does not end for want of fuel
(`tryJobsListed_ends`).

So a search over a text finds the first place from which the program accepts, and finds none only if
there is none (`searchFrom_finds`).
-/

namespace MediaScraper.Pattern.Program

variable {p : Program} {s : List Char}

/-! ## What has been explored -/

/-- The number of pairs of an instruction and a place. -/
def pairs (p : Program) (s : List Char) : Nat := p.code.size * (Text.byteLength s + 1)

/-- What has been tried does not accept, and leads to nothing but what has been tried or is left to
be done. -/
structure Explored (p : Program) (s : List Char) (jobs : List Job) (tried : List Nat) : Prop where
  within : ∀ j ∈ jobs, j.Within p s
  nodup : tried.Nodup
  lt : ∀ k ∈ tried, k < p.pairs s
  settled : ∀ j, j.Within p s → p.key j ∈ tried →
    ∃ i, p.code[j.counter]? = some i ∧ i ≠ .accept ∧
      ∀ k ∈ successors i j, p.key k ∈ tried ∨ ∃ k' ∈ jobs, p.key k' = p.key k

namespace Explored

theorem nil : Explored p s [] [] :=
  ⟨fun _ h => absurd h List.not_mem_nil, List.nodup_nil, fun _ h => absurd h List.not_mem_nil,
    fun _ _ h => absurd h List.not_mem_nil⟩

variable {jobs : List Job} {tried : List Nat} {j : Job}

theorem length_le (h : Explored p s jobs tried) : tried.length ≤ p.pairs s := by
  have hsubset : tried ⊆ List.range (p.pairs s) := fun k hk => List.mem_range.2 (h.lt k hk)
  simpa using (h.nodup.subperm hsubset).length_le

theorem skip (h : Explored p s (j :: jobs) tried) (hj : p.key j ∈ tried) :
    Explored p s jobs tried := by
  refine ⟨fun k hk => h.within k (List.mem_cons_of_mem j hk), h.nodup, h.lt, fun k hk htried => ?_⟩
  obtain ⟨i, hi, haccept, hnext⟩ := h.settled k hk htried
  refine ⟨i, hi, haccept, fun l hl => ?_⟩
  rcases hnext l hl with hl | ⟨l', hl', hkey⟩
  · exact .inl hl
  · rcases List.mem_cons.1 hl' with rfl | hl'
    · exact .inl (hkey ▸ hj)
    · exact .inr ⟨l', hl', hkey⟩

theorem step (hp : p.Closed) (h : Explored p s (j :: jobs) tried) (hj : p.key j ∉ tried)
    {i : Instruction} (hi : p.code[j.counter]? = some i) (haccept : i ≠ .accept) :
    Explored p s (successors i j ++ jobs) (p.key j :: tried) := by
  have hwithin := h.within j List.mem_cons_self
  refine ⟨fun k hk => ?_, List.nodup_cons.2 ⟨hj, h.nodup⟩, ?_, fun k hk htried => ?_⟩
  · rcases List.mem_append.1 hk with hk | hk
    · exact hwithin.of_mem_successors hp hi hk
    · exact h.within k (List.mem_cons_of_mem j hk)
  · exact List.forall_mem_cons.2 ⟨hwithin.key_lt, h.lt⟩
  · rcases List.mem_cons.1 htried with hkey | htried
    · -- the job itself, perhaps with other places remembered
      obtain ⟨hcounter, hplace⟩ := hk.eq_of_key hwithin hkey
      refine ⟨i, by rw [hcounter, hi], haccept, fun l hl => ?_⟩
      obtain ⟨l', hl', hlcounter, hlplace⟩ := exists_mem_successors hl j.saves
      have hsame : ({ k with saves := j.saves } : Job) = j := by
        obtain ⟨counter, place, saves⟩ := j
        simp only at hcounter hplace
        rw [hcounter, hplace]
      rw [hsame] at hl'
      exact .inr ⟨l', List.mem_append_left jobs hl', by rw [key, key, hlcounter, hlplace]⟩
    · obtain ⟨i', hi', haccept', hnext⟩ := h.settled k hk htried
      refine ⟨i', hi', haccept', fun l hl => ?_⟩
      rcases hnext l hl with hl | ⟨l', hl', hkey⟩
      · exact .inl (List.mem_cons_of_mem _ hl)
      · rcases List.mem_cons.1 hl' with rfl | hl'
        · exact .inl (hkey ▸ List.mem_cons_self)
        · exact .inr ⟨l', List.mem_append_right _ hl', hkey⟩

/-- **Nothing leads on** when nothing is left to be done. -/
theorem not_leads (hp : p.Closed) (h : Explored p s [] tried) {n : Nat} (hj : j.Within p s)
    (htried : p.key j ∈ tried) {w : Saves} : ¬ Leads p.code n j w := by
  induction n generalizing j with
  | zero =>
    rintro ⟨hcode, -⟩
    obtain ⟨i, hi, haccept, -⟩ := h.settled j hj htried
    exact haccept (Option.some.inj (hi.symm.trans hcode))
  | succ n ih =>
    rintro ⟨i, hi, k, hk, hleads⟩
    obtain ⟨i', hi', -, hnext⟩ := h.settled j hj htried
    obtain rfl : i' = i := Option.some.inj (hi'.symm.trans hi)
    rcases hnext k hk with hk' | ⟨_, h, -⟩
    · exact ih (hj.of_mem_successors hp hi hk) hk' hleads
    · exact absurd h List.not_mem_nil

end Explored

/-! ## Trying jobs -/

/-- What trying jobs may end with: one of them leads to these places, or all of them have been tried
and nothing is left. -/
inductive Ends (p : Program) (s : List Char) (jobs : List Job) (tried : List Nat) :
    Option Saves × List Nat → Prop
  | found {j : Job} {n : Nat} {w : Saves} {tried' : List Nat} : j ∈ jobs → Leads p.code n j w →
      Ends p s jobs tried (some w, tried')
  | exhausted {tried' : List Nat} : Explored p s [] tried' → tried ⊆ tried' →
      (∀ j ∈ jobs, p.key j ∈ tried') → Ends p s jobs tried (none, tried')

variable {jobs : List Job} {tried : List Nat} {j : Job} {result : Option Saves × List Nat}

theorem Ends.skip (h : Ends p s jobs tried result) (hj : p.key j ∈ tried) :
    Ends p s (j :: jobs) tried result := by
  cases h with
  | found hk hleads => exact .found (List.mem_cons_of_mem j hk) hleads
  | exhausted hexplored hsubset hkeys =>
    exact .exhausted hexplored hsubset (List.forall_mem_cons.2 ⟨hsubset hj, hkeys⟩)

theorem Ends.step {i : Instruction} (hcode : p.code[j.counter]? = some i)
    (h : Ends p s (successors i j ++ jobs) (p.key j :: tried) result) :
    Ends p s (j :: jobs) tried result := by
  cases h with
  | @found k n w _ hk hleads =>
    rcases List.mem_append.1 hk with hk | hk
    · exact .found List.mem_cons_self (n := n + 1) ⟨i, hcode, k, hk, hleads⟩
    · exact .found (List.mem_cons_of_mem j hk) hleads
  | exhausted hexplored hsubset hkeys =>
    refine .exhausted hexplored (fun k hk => hsubset (List.mem_cons_of_mem _ hk))
      (List.forall_mem_cons.2 ⟨hsubset List.mem_cons_self, fun k hk => ?_⟩)
    exact hkeys k (List.mem_append_right _ hk)

theorem tryJobsListed_ends (hp : p.Closed) {fuel : Nat} {jobs : List Job} {tried : List Nat}
    (h : Explored p s jobs tried)
    (hfuel : jobs.length + 3 * (p.pairs s - tried.length) < fuel) :
    Ends p s jobs tried (p.tryJobsListed fuel jobs tried) := by
  induction fuel generalizing jobs tried with
  | zero => exact absurd hfuel (Nat.not_lt_zero _)
  | succ fuel ih =>
    cases jobs with
    | nil => exact .exhausted h (List.Subset.refl tried) fun _ hj => absurd hj List.not_mem_nil
    | cons j jobs =>
      rw [tryJobsListed]
      split
      · next htried =>
        have htried : p.key j ∈ tried := List.contains_iff_mem.1 htried
        refine (ih (h.skip htried) ?_).skip htried
        rw [List.length_cons] at hfuel
        omega
      · next htried =>
        have htried : p.key j ∉ tried := fun hj => htried (List.contains_iff_mem.2 hj)
        have hcounter := (h.within j List.mem_cons_self).counter
        have hcode : p.code[j.counter]? = some p.code[j.counter] :=
          Array.getElem?_eq_getElem hcounter
        rw [hcode]
        generalize p.code[j.counter] = i at hcode
        by_cases haccept : i = .accept
        · subst haccept
          exact .found List.mem_cons_self (show Leads p.code 0 j j.saves from ⟨hcode, rfl⟩)
        have hstep := h.step hp htried hcode haccept
        have hend : Ends p s (successors i j ++ jobs) (p.key j :: tried)
            (p.tryJobsListed fuel (successors i j ++ jobs) (p.key j :: tried)) := by
          refine ih hstep ?_
          have hjobs := length_successors_le i j
          have hpairs := hstep.length_le
          rw [List.length_cons] at hfuel hpairs ⊢
          rw [List.length_append]
          omega
        cases i with
        | accept => exact absurd rfl haccept
        | _ => exact hend.step hcode

/-! ## Searching -/

/-- From its entry at a place, the program can come to acceptance with these places remembered. -/
def Accepts (p : Program) (place : Place) (w : Saves) : Prop :=
  ∃ n, Leads p.code n ⟨p.entry, place, []⟩ w

/-- What a search from between two parts of a text finds: a way to acceptance from the first place
that has one. -/
inductive Finds (p : Program) : List Char → List Char → Option Saves → Prop
  | here {before rest : List Char} {w : Saves} : p.Accepts (.between before rest) w →
      Finds p before rest (some w)
  | later {before rest : List Char} {c : Char} {found : Option Saves} :
      (∀ w, ¬ p.Accepts (.between before (c :: rest)) w) → Finds p (before ++ [c]) rest found →
      Finds p before (c :: rest) found
  | nowhere {before : List Char} : (∀ w, ¬ p.Accepts (.between before []) w) →
      Finds p before [] none

/-- What a search from one place on tells. -/
inductive Starts (p : Program) (s : List Char) (place : Place) : Option Saves × List Nat → Prop
  | accepted {w : Saves} {tried : List Nat} : p.Accepts place w → Starts p s place (some w, tried)
  | rejected {tried : List Nat} : Explored p s [] tried → (∀ w, ¬ p.Accepts place w) →
      Starts p s place (none, tried)

theorem tryJobsListed_starts (hp : p.Closed) {tried : List Nat} (h : Explored p s [] tried)
    {place : Place} (hplace : place.IsIn s) :
    Starts p s place
      (p.tryJobsListed (p.fuel (Text.byteLength s)) [⟨p.entry, place, []⟩] tried) := by
  have hstart : Job.Within p s ⟨p.entry, place, []⟩ := ⟨hp.entry, hplace⟩
  have hexplored : Explored p s [⟨p.entry, place, []⟩] tried := by
    refine ⟨List.forall_mem_singleton.2 hstart, h.nodup, h.lt, fun j hj htried => ?_⟩
    obtain ⟨i, hi, haccept, hnext⟩ := h.settled j hj htried
    refine ⟨i, hi, haccept, fun k hk => .inl ((hnext k hk).resolve_right ?_)⟩
    rintro ⟨_, hnil, -⟩
    exact absurd hnil List.not_mem_nil
  have hfuel : [(⟨p.entry, place, []⟩ : Job)].length + 3 * (p.pairs s - tried.length) <
      p.fuel (Text.byteLength s) := by
    rw [fuel, List.length_singleton, ← pairs]
    omega
  have hends := tryJobsListed_ends hp hexplored hfuel
  generalize p.tryJobsListed _ _ _ = result at hends
  cases hends with
  | found hj hleads =>
    obtain rfl := List.mem_singleton.1 hj
    exact .accepted ⟨_, hleads⟩
  | exhausted hexplored _ hkeys =>
    refine .rejected hexplored ?_
    rintro w ⟨n, hleads⟩
    exact hexplored.not_leads hp hstart (hkeys _ (List.mem_singleton_self _)) hleads

/-- **A search finds the first place that has a way to acceptance.** -/
theorem searchFromListed_finds (hp : p.Closed) {tried : List Nat} {before rest : List Char}
    (h : Explored p (before ++ rest) [] tried) :
    p.Finds before rest (p.searchFromListed (p.fuel (Text.byteLength (before ++ rest))) tried
      before.getLast? (Text.byteLength before) rest) := by
  have hstarts := tryJobsListed_starts hp h (Place.isIn_between before rest)
  rw [Place.between] at hstarts
  induction rest generalizing before tried with
  | nil =>
    rw [searchFromListed]
    generalize p.tryJobsListed _ _ _ = result at hstarts
    cases hstarts with
    | accepted haccepts => exact .here haccepts
    | rejected _ hreject => exact .nowhere hreject
  | cons c rest ih =>
    rw [searchFromListed]
    generalize p.tryJobsListed _ _ _ = result at hstarts ⊢
    cases hstarts with
    | accepted haccepts => exact .here haccepts
    | rejected hexplored hreject =>
      have htext : before ++ c :: rest = (before ++ [c]) ++ rest := by simp
      have hlast : some c = (before ++ [c]).getLast? := List.getLast?_concat.symm
      have hoffset : Text.byteLength before + c.utf8Size = Text.byteLength (before ++ [c]) := by
        rw [Text.byteLength_append, Text.byteLength_cons, Text.byteLength_nil, Nat.add_zero]
      rw [htext] at hexplored ⊢
      refine .later hreject ?_
      show p.Finds _ rest (p.searchFromListed _ _ (some c) _ rest)
      rw [hlast, hoffset]
      exact ih hexplored (tryJobsListed_starts hp hexplored (Place.isIn_between _ _))

theorem searchFrom_finds (hp : p.Closed) (before rest : List Char) :
    p.Finds before rest (p.searchFrom (p.fuel (Text.byteLength (before ++ rest))) ∅
      before.getLast? (Text.byteLength before) rest) := by
  have hempty : Lists ∅ [] := fun _ => Std.HashSet.contains_empty
  rw [searchFrom_listed _ hempty]
  exact searchFromListed_finds hp .nil

/-! ## What is found -/

namespace Finds

variable {before passed behind : List Char} {found : Option Saves}

/-- If the program does not accept from any place up to one, it is searched for from there on. -/
theorem of_append (h : p.Finds before (passed ++ behind) found)
    (hpassed : ∀ a b, passed = a ++ b → b ≠ [] →
      ∀ w, ¬ p.Accepts (.between (before ++ a) (b ++ behind)) w) :
    p.Finds (before ++ passed) behind found := by
  induction passed generalizing before with
  | nil => rwa [List.append_nil]
  | cons c passed ih =>
    have hstart := hpassed [] (c :: passed) rfl (List.cons_ne_nil c passed)
    rw [List.append_nil] at hstart
    rw [List.cons_append] at h
    cases h with
    | here haccepts => exact absurd haccepts (hstart _)
    | later _ h =>
      have hfinds := ih h fun a b hab hb => by
        have hshift := hpassed (c :: a) b (by rw [hab, List.cons_append]) hb
        rwa [List.append_assoc, List.singleton_append]
      rwa [List.append_assoc, List.singleton_append] at hfinds

/-- **The first place that has a way** is found. -/
theorem exists_of_accepts (h : p.Finds before behind found) {w : Saves}
    (hw : p.Accepts (.between before behind) w) :
    ∃ w', found = some w' ∧ p.Accepts (.between before behind) w' := by
  cases h with
  | here haccepts => exact ⟨_, rfl, haccepts⟩
  | later hreject _ => exact absurd hw (hreject w)
  | nowhere hreject => exact absurd hw (hreject w)

theorem eq_none (h : p.Finds before behind found)
    (hbehind : ∀ a b, behind = a ++ b → ∀ w, ¬ p.Accepts (.between (before ++ a) b) w) :
    found = none := by
  induction h with
  | @here before rest w haccepts =>
    exact absurd haccepts (by simpa using hbehind [] rest rfl w)
  | @later before rest c found _ _ ih =>
    exact ih fun a b hab => by
      simpa using hbehind (c :: a) b (by rw [hab, List.cons_append])
  | nowhere _ => rfl

end Finds

end MediaScraper.Pattern.Program
