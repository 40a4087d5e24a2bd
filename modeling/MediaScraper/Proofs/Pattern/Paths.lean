import MediaScraper.Proofs.Pattern.Place

/-!
# Ways through a program

A program leads from a job to acceptance if following its instructions one by one can end there
(`Leads`). Which jobs follow depends on the instruction and the place of a job alone, not on what
has been remembered before (`exists_mem_successors`).

The instructions of a closed program name instructions of the program (`Program.Closed`). Then a job
at a place of a text is told by its key (`Job.Within.eq_of_key`), and so are all jobs that follow.
-/

namespace MediaScraper.Pattern

/-! ## What follows from a job -/

/-- The instructions that an instruction names. -/
def Instruction.targets : Instruction → List Nat
  | take _ next | look _ next | save _ next => [next]
  | choose first second => [first, second]
  | accept => []

namespace Program

theorem of_mem_successors {s : List Char} {i : Instruction} {j k : Job} (hj : j.place.IsIn s)
    (hk : k ∈ successors i j) : k.counter ∈ i.targets ∧ k.place.IsIn s := by
  cases i with
  | take set next =>
    rw [successors] at hk
    split at hk
    · next place hplace =>
      split at hk
      · split_ifs at hk
        · rw [List.mem_singleton.1 hk]
          exact ⟨List.mem_singleton_self next, hj.advance? hplace⟩
        · cases hk
      · cases hk
    · cases hk
  | look l next =>
    rw [successors] at hk
    split_ifs at hk
    · rw [List.mem_singleton.1 hk]
      exact ⟨List.mem_singleton_self next, hj⟩
    · cases hk
  | save slot next =>
    rw [List.mem_singleton.1 hk]
    exact ⟨List.mem_singleton_self next, hj⟩
  | choose first second =>
    rcases List.mem_cons.1 hk with rfl | hk
    · exact ⟨List.mem_cons_self, hj⟩
    · rw [List.mem_singleton.1 hk]
      exact ⟨List.mem_cons_of_mem _ (List.mem_singleton_self _), hj⟩
  | accept => cases hk

theorem length_successors_le (i : Instruction) (j : Job) : (successors i j).length ≤ 2 := by
  cases i with
  | take set next =>
    rw [successors]
    split
    · split
      · split_ifs <;> simp
      · simp
    · simp
  | look l next =>
    rw [successors]
    split_ifs <;> simp
  | save slot next => simp [successors]
  | choose first second => simp [successors]
  | accept => simp [successors]

/-- What has been remembered does not matter for what follows. -/
theorem exists_mem_successors {i : Instruction} {j k : Job} (hk : k ∈ successors i j)
    (saves : Saves) : ∃ k' ∈ successors i { j with saves }, k'.counter = k.counter ∧
      k'.place = k.place := by
  cases i with
  | take set next =>
    simp only [successors] at hk ⊢
    cases hplace : j.place.advance? with
    | none => simp [hplace] at hk
    | some place =>
      cases hrest : j.place.rest with
      | nil => simp [hplace, hrest] at hk
      | cons c cs =>
        by_cases hc : set.contains c = true
        · simp only [hplace, hrest, hc, if_true, List.mem_singleton] at hk ⊢
          exact ⟨_, rfl, by rw [hk], by rw [hk]⟩
        · simp [hplace, hrest, hc] at hk
  | look l next =>
    simp only [successors] at hk ⊢
    split_ifs at hk ⊢
    · exact ⟨_, List.mem_singleton_self _, by simp_all, by simp_all⟩
    · cases hk
  | save slot next =>
    rw [List.mem_singleton.1 hk]
    exact ⟨_, List.mem_singleton_self _, rfl, rfl⟩
  | choose first second =>
    rcases List.mem_cons.1 hk with rfl | hk
    · exact ⟨_, List.mem_cons_self, rfl, rfl⟩
    · rw [List.mem_singleton.1 hk]
      exact ⟨_, List.mem_cons_of_mem _ (List.mem_singleton_self _), rfl, rfl⟩
  | accept => cases hk

/-! ## Ways to acceptance -/

/-- In so many steps, the program can lead from a job to acceptance with these places
remembered. -/
def Leads (code : Array Instruction) : Nat → Job → Saves → Prop
  | 0, j, w => code[j.counter]? = some .accept ∧ w = j.saves
  | n + 1, j, w =>
    ∃ i, code[j.counter]? = some i ∧ ∃ k ∈ successors i j, Leads code n k w

end Program

/-! ## Closed programs -/

/-- All instructions that are named are instructions of the program. -/
structure Program.Closed (p : Program) : Prop where
  entry : p.entry < p.code.size
  targets : ∀ {a : Nat} {i : Instruction}, p.code[a]? = some i →
    ∀ target ∈ i.targets, target < p.code.size

/-- A job of a program on a text. -/
structure Job.Within (p : Program) (s : List Char) (j : Job) : Prop where
  counter : j.counter < p.code.size
  place : j.place.IsIn s

namespace Job.Within

variable {p : Program} {s : List Char} {j k : Job}

theorem key_lt (h : j.Within p s) : p.key j < p.code.size * (Text.byteLength s + 1) := by
  have hoffset : j.place.offset * p.code.size ≤ Text.byteLength s * p.code.size :=
    Nat.mul_le_mul_right _ h.place.offset_le
  have hcounter := h.counter
  rw [Program.key, Nat.mul_comm p.code.size, Nat.succ_mul]
  omega

/-- **Jobs with one key** are at one instruction and one place. -/
theorem eq_of_key (hj : j.Within p s) (hk : k.Within p s) (h : p.key j = p.key k) :
    j.counter = k.counter ∧ j.place = k.place := by
  have hpos : 0 < p.code.size := Nat.zero_lt_of_lt hj.counter
  have hcounter : j.counter = k.counter := by
    have hmod := congrArg (· % p.code.size) h
    simpa [Program.key, Nat.mod_eq_of_lt hj.counter,
      Nat.mod_eq_of_lt hk.counter, Nat.add_mod] using hmod
  refine ⟨hcounter, hj.place.eq_of_offset hk.place ?_⟩
  rw [Program.key, Program.key, hcounter] at h
  exact Nat.eq_of_mul_eq_mul_right hpos (Nat.add_right_cancel h)

theorem of_mem_successors (hp : p.Closed) (hj : j.Within p s) {i : Instruction}
    (hi : p.code[j.counter]? = some i) (hk : k ∈ Program.successors i j) : k.Within p s := by
  obtain ⟨htarget, hplace⟩ := Program.of_mem_successors hj.place hk
  exact ⟨hp.targets hi _ htarget, hplace⟩

end Job.Within

end MediaScraper.Pattern
