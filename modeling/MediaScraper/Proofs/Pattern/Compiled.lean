import MediaScraper.Proofs.Pattern.Matches
import MediaScraper.Proofs.Pattern.Paths

/-!
# Compiled expressions

What an expression matches is a relation between a place, with the places remembered so far, and the
place behind the match, with the places of the groups added (`Regex.Matches`).

A part of a program **goes** from one instruction to another along such a relation (`Goes`) if every
way from the one to acceptance is a match followed by a way from the other that is not longer, and
the other way round. Parts can be put one after the other, and side by side behind a choice. That
the second way is not longer makes a loop end: each round through its choice takes a step.

Compilation only adds instructions, and what it adds goes from its entry to the instruction that it
was given (`Emits`), whatever other instructions stand around. So a compiled expression accepts what
the expression matches (`accepts_program_iff`).
-/

namespace MediaScraper.Pattern

namespace Program

/-! ## Going from one instruction to another -/

/-- Go on with an instruction. -/
def jobAt (counter : Nat) (x : State) : Job := ⟨counter, x.1, x.2⟩

/-- The ways from `start` are matches with a way from `stop` behind them. -/
structure Goes (code : Array Instruction) (start : Nat) (M : State → State → Prop) (stop : Nat) :
    Prop where
  sound : ∀ {n x w}, Leads code n (jobAt start x) w →
    ∃ y, M x y ∧ ∃ m ≤ n, Leads code m (jobAt stop y) w
  complete : ∀ {n x y w}, M x y → Leads code n (jobAt stop y) w →
    ∃ m, Leads code m (jobAt start x) w

namespace Goes

variable {code : Array Instruction} {M N : State → State → Prop} {a b c : Nat}

theorem refl (code : Array Instruction) (a : Nat) : Goes code a (fun x y => y = x) a := by
  refine ⟨fun {n x w} h => ⟨x, rfl, n, Nat.le_refl n, h⟩, fun {n x y w} hxy h => ⟨n, ?_⟩⟩
  rwa [hxy] at h

theorem trans (h : Goes code a M b) (h' : Goes code b N c) : Goes code a (Along M N) c := by
  constructor
  · intro n x w hleads
    obtain ⟨y, hxy, m, hm, hleads⟩ := h.sound hleads
    obtain ⟨z, hyz, l, hl, hleads⟩ := h'.sound hleads
    exact ⟨z, ⟨y, hxy, hyz⟩, l, Nat.le_trans hl hm, hleads⟩
  · rintro n x z w ⟨y, hxy, hyz⟩ hleads
    obtain ⟨m, hleads⟩ := h'.complete hyz hleads
    exact h.complete hxy hleads

theorem congr (h : Goes code a M b) (hMN : ∀ x y, M x y ↔ N x y) : Goes code a N b := by
  refine ⟨fun {n x w} hleads => ?_, fun {n x y w} hxy hleads => h.complete ((hMN x y).2 hxy) hleads⟩
  obtain ⟨y, hxy, hy⟩ := h.sound hleads
  exact ⟨y, (hMN x y).1 hxy, hy⟩

end Goes

section
variable {code : Array Instruction} {a b next : Nat} {M N : State → State → Prop}

theorem leads_succ_iff {n : Nat} {x : State} {w : Saves} {i : Instruction} (hi : code[a]? = some i) :
    Leads code (n + 1) (jobAt a x) w ↔ ∃ k ∈ successors i (jobAt a x), Leads code n k w := by
  constructor
  · rintro ⟨i', hi', h⟩
    obtain rfl : i' = i := Option.some.inj (hi'.symm.trans hi)
    exact h
  · exact fun h => ⟨i, hi, h⟩

/-- An instruction with at most one job behind it goes along the relation that this job gives. -/
theorem goes_step {i : Instruction} (hi : code[a]? = some i) (haccept : i ≠ .accept)
    (h : ∀ x k, k ∈ successors i (jobAt a x) ↔ ∃ y, M x y ∧ k = jobAt next y) :
    Goes code a M next := by
  constructor
  · intro n x w hleads
    cases n with
    | zero => exact absurd (Option.some.inj (hi.symm.trans hleads.1)) haccept
    | succ n =>
      obtain ⟨k, hk, hleads⟩ := (leads_succ_iff hi).1 hleads
      obtain ⟨y, hxy, rfl⟩ := (h x k).1 hk
      exact ⟨y, hxy, n, Nat.le_succ n, hleads⟩
  · intro n x y w hxy hleads
    exact ⟨n + 1, (leads_succ_iff hi).2 ⟨_, (h x _).2 ⟨y, hxy, rfl⟩, hleads⟩⟩

theorem goes_take {s : CharSet} (hi : code[a]? = some (.take s next)) :
    Goes code a (Regex.set s).Matches next := by
  refine goes_step hi (by simp) fun x k => ?_
  simp only [successors, jobAt, Regex.Matches]
  cases hplace : x.1.advance? with
  | none => simp
  | some place =>
    cases hrest : x.1.rest with
    | nil => simp
    | cons c rest => by_cases hc : s.contains c = true <;> simp [hc]

theorem goes_look {l : Look} (hi : code[a]? = some (.look l next)) :
    Goes code a (Regex.look l).Matches next := by
  refine goes_step hi (by simp) fun x k => ?_
  simp only [successors, jobAt, Regex.Matches]
  by_cases hl : x.1.holds l = true <;> simp [hl]

theorem goes_save {slot : Nat} (hi : code[a]? = some (.save slot next)) :
    Goes code a (fun x y => y = (x.1, (slot, x.1) :: x.2)) next := by
  refine goes_step hi (by simp) fun x k => ?_
  simp [successors, jobAt]

theorem leads_choice_iff {greedy : Bool} (hi : code[a]? = some (choice greedy b next)) {n : Nat}
    {x : State} {w : Saves} : Leads code n (jobAt a x) w ↔
      ∃ m, n = m + 1 ∧ (Leads code m (jobAt b x) w ∨ Leads code m (jobAt next x) w) := by
  cases n with
  | zero =>
    constructor
    · rintro ⟨haccept, -⟩
      have hfalse := hi.symm.trans haccept
      cases greedy <;> cases hfalse
    · rintro ⟨_, h, -⟩
      cases h
  | succ n =>
    rw [leads_succ_iff hi]
    cases greedy <;> simp [choice, successors, jobAt, or_comm]

theorem goes_choice {g : Bool} {first second : Nat}
    (hi : code[a]? = some (choice g first second)) (hfirst : Goes code first M b)
    (hsecond : Goes code second N b) : Goes code a (fun x y => M x y ∨ N x y) b := by
  constructor
  · intro n x w hleads
    obtain ⟨m, rfl, h | h⟩ := (leads_choice_iff hi).1 hleads
    · obtain ⟨y, hxy, l, hl, hleads⟩ := hfirst.sound h
      exact ⟨y, .inl hxy, l, Nat.le_succ_of_le hl, hleads⟩
    · obtain ⟨y, hxy, l, hl, hleads⟩ := hsecond.sound h
      exact ⟨y, .inr hxy, l, Nat.le_succ_of_le hl, hleads⟩
  · rintro n x y w (hxy | hxy) hleads
    · obtain ⟨m, hleads⟩ := hfirst.complete hxy hleads
      exact ⟨m + 1, (leads_choice_iff hi).2 ⟨m, rfl, .inl hleads⟩⟩
    · obtain ⟨m, hleads⟩ := hsecond.complete hxy hleads
      exact ⟨m + 1, (leads_choice_iff hi).2 ⟨m, rfl, .inr hleads⟩⟩

/-- **A loop**: a choice to go through the body once more, or to leave. -/
theorem goes_loop {greedy : Bool} {again entry : Nat}
    (hi : code[again]? = some (choice greedy entry b)) (hbody : Goes code entry M again) :
    Goes code again (AtLeast M 0) b := by
  constructor
  · intro n
    -- by the length of the way: a round takes at least the step through the choice
    induction n using Nat.strongRecOn with
    | _ n ih =>
      intro x w hleads
      obtain ⟨m, rfl, h | h⟩ := (leads_choice_iff hi).1 hleads
      · obtain ⟨y, hxy, l, hl, hleads⟩ := hbody.sound h
        obtain ⟨z, ⟨k, -, hyz⟩, l', hl', hleads⟩ := ih l (Nat.lt_succ_of_le hl) hleads
        exact ⟨z, ⟨k + 1, Nat.zero_le _, .cons hxy hyz⟩, l',
          Nat.le_trans hl' (Nat.le_succ_of_le hl), hleads⟩
      · exact ⟨x, ⟨0, Nat.le_refl 0, .nil x⟩, m, Nat.le_succ m, h⟩
  · rintro n x y w ⟨k, -, hxy⟩ hleads
    induction hxy with
    | nil => exact ⟨n + 1, (leads_choice_iff hi).2 ⟨n, rfl, .inr hleads⟩⟩
    | cons hround _ ih =>
      obtain ⟨m, hleads⟩ := ih hleads
      obtain ⟨l, hleads⟩ := hbody.complete hround hleads
      exact ⟨l + 1, (leads_choice_iff hi).2 ⟨l, rfl, .inl hleads⟩⟩

end

/-! ## Emitting instructions -/

/-- The program has all instructions of another, and perhaps more behind them. -/
structure Extends (q p : Program) : Prop where
  size_le : p.code.size ≤ q.code.size
  keeps : ∀ {i}, i < p.code.size → q.code[i]? = p.code[i]?

/-- From one counter on, the instructions of a program stand in some code. -/
def StandsIn (q : Program) (first : Nat) (code : Array Instruction) : Prop :=
  ∀ i, first ≤ i → i < q.code.size → code[i]? = q.code[i]?

theorem Extends.refl (p : Program) : Extends p p := ⟨Nat.le_refl _, fun _ => rfl⟩

theorem Extends.trans {p q r : Program} (h : Extends r q) (h' : Extends q p) : Extends r p :=
  ⟨Nat.le_trans h'.size_le h.size_le, fun hi =>
    (h.keeps (Nat.lt_of_lt_of_le hi h'.size_le)).trans (h'.keeps hi)⟩

theorem extends_push (p : Program) (i : Instruction) : Extends (p.push i) p :=
  ⟨by simp [push], fun {j} hj => by simp [push, Array.getElem?_push, Nat.ne_of_lt hj]⟩

theorem StandsIn.of_extends {p q : Program} {first : Nat} {code : Array Instruction}
    (h : StandsIn q first code) (hq : Extends q p) : StandsIn p first code := fun i hfirst hi =>
  (h i hfirst (Nat.lt_of_lt_of_le hi hq.size_le)).trans (hq.keeps hi)

theorem StandsIn.mono {q : Program} {first later : Nat} {code : Array Instruction}
    (h : StandsIn q first code) (hle : first ≤ later) : StandsIn q later code := fun i hi =>
  h i (Nat.le_trans hle hi)

theorem StandsIn.push {p : Program} {i : Instruction} {first : Nat} {code : Array Instruction}
    (h : StandsIn (p.push i) first code) (hfirst : first ≤ p.code.size) :
    code[(p.push i).entry]? = some i := by
  rw [Program.push, h _ hfirst (by simp [Program.push])]
  simp [Program.push]

theorem Closed.push {p : Program} (h : p.Closed) {i : Instruction}
    (hi : ∀ target ∈ i.targets, target < p.code.size) : (p.push i).Closed := by
  refine ⟨by simp [Program.push], fun {a j} hj target htarget => ?_⟩
  simp only [Program.push, Array.getElem?_push, Array.size_push] at hj ⊢
  split at hj
  · cases hj
    exact Nat.lt_succ_of_lt (hi target htarget)
  · exact Nat.lt_succ_of_lt (h.targets hj target htarget)

theorem lt_of_mem_targets_choice {g : Bool} {first second bound target : Nat}
    (hfirst : first < bound) (hsecond : second < bound)
    (h : target ∈ (choice g first second).targets) : target < bound := by
  cases g <;> simp [choice, Instruction.targets] at h <;> rcases h with rfl | rfl <;>
    assumption

/-- What `f` adds to a program goes along a relation, from its entry to where the program was
entered before. -/
structure Emits (f : Program → Program) (M : State → State → Prop) : Prop where
  extends_ : ∀ p, Extends (f p) p
  closed : ∀ {p}, p.Closed → (f p).Closed
  goes : ∀ {p code}, StandsIn (f p) p.code.size code → Goes code (f p).entry M p.entry

section
variable {f g : Program → Program} {M N : State → State → Prop}

theorem Emits.congr (h : Emits f M) (hMN : ∀ x y, M x y ↔ N x y) : Emits f N :=
  ⟨h.extends_, h.closed, fun hcode => (h.goes hcode).congr hMN⟩

theorem emits_id : Emits (fun p => p) fun x y => y = x :=
  ⟨Extends.refl, id, fun {p code} _ => Goes.refl code p.entry⟩

theorem Emits.comp (hf : Emits f M) (hg : Emits g N) : Emits (fun p => f (g p)) (Along M N) := by
  refine ⟨fun p => (hf.extends_ _).trans (hg.extends_ p), fun h => hf.closed (hg.closed h),
    fun {p code} hcode => ?_⟩
  have hfirst := hf.goes (hcode.mono (hg.extends_ p).size_le)
  exact hfirst.trans (hg.goes (hcode.of_extends (hf.extends_ _)))

theorem emits_push {i : Nat → Instruction} (htargets : ∀ next, (i next).targets = [next])
    (hgoes : ∀ {code a next}, code[a]? = some (i next) → Goes code a M next) :
    Emits (fun p => p.push (i p.entry)) M := by
  refine ⟨fun p => extends_push p _, fun {p} h => h.push fun target htarget => ?_,
    fun hcode => hgoes (hcode.push (Nat.le_refl _))⟩
  rw [htargets, List.mem_singleton] at htarget
  exact htarget ▸ h.entry

theorem emits_iterate (h : Emits f M) (n : Nat) : Emits (iterate f n) (Rounds M n) := by
  induction n with
  | zero => exact emits_id.congr fun x y => rounds_zero.symm
  | succ n ih =>
    refine (ih.comp h).congr fun x y => ?_
    rw [rounds_add]
    exact exists_congr fun z => and_congr_right fun _ => rounds_one.symm

/-! ## Repetitions -/

theorem atMost_succ_iff {n : Nat} {x y : State} :
    AtMost M (n + 1) x y ↔ Along M (AtMost M n) x y ∨ y = x := by
  constructor
  · rintro ⟨_, hm, _ | ⟨hxz, hzy⟩⟩
    · exact .inr rfl
    · exact .inl ⟨_, hxz, _, Nat.le_of_succ_le_succ hm, hzy⟩
  · rintro (⟨z, hxz, m, hm, hzy⟩ | rfl)
    · exact ⟨m + 1, Nat.succ_le_succ hm, .cons hxz hzy⟩
    · exact ⟨0, Nat.zero_le _, .nil _⟩

/-- At most so many rounds: each time there is a choice to leave. -/
theorem emits_optional (h : Emits f M) (greedy : Bool) (n : Nat) :
    Emits (fun p => iterate (optionalTo p.entry f greedy) n p) (AtMost M n) := by
  -- with each round, what has been compiled so far takes the place of `p`
  suffices ∀ (n m : Nat) (p q : Program), Extends q p →
      Extends (iterate (optionalTo p.entry f greedy) n q) q ∧
      (p.Closed → q.Closed → (iterate (optionalTo p.entry f greedy) n q).Closed) ∧
      ∀ {code}, StandsIn (iterate (optionalTo p.entry f greedy) n q) q.code.size code →
        Goes code q.entry (AtMost M m) p.entry →
        Goes code (iterate (optionalTo p.entry f greedy) n q).entry (AtMost M (n + m)) p.entry by
    refine ⟨fun p => (this n 0 p p (.refl p)).1, fun {p} hp => (this n 0 p p (.refl p)).2.1 hp hp,
      fun {p code} hcode => (this n 0 p p (.refl p)).2.2 hcode ?_⟩
    refine (Goes.refl code p.entry).congr fun x y => ⟨?_, ?_⟩
    · rintro rfl
      exact ⟨0, Nat.le_refl 0, .nil _⟩
    · rintro ⟨m, hm, hxy⟩
      obtain rfl := Nat.le_zero.1 hm
      exact rounds_zero.1 hxy
  intro n
  induction n with
  | zero =>
    intro m p q hq
    exact ⟨.refl q, fun _ hq => hq, fun _ hgoes => by rwa [Nat.zero_add]⟩
  | succ n ih =>
    intro m p q hq
    have hround : Extends (optionalTo p.entry f greedy q) q :=
      (extends_push (f q) _).trans (h.extends_ q)
    obtain ⟨hextends, hclosed, hgoes⟩ := ih (m + 1) p _ (hround.trans hq)
    refine ⟨hextends.trans hround, fun hp hqclosed => hclosed hp ?_, fun {code} hcode hexit => ?_⟩
    · have hbody := h.closed hqclosed
      refine hbody.push fun target htarget => ?_
      have hentry : p.entry < (f q).code.size :=
        Nat.lt_of_lt_of_le hp.entry ((h.extends_ q).trans hq).size_le
      exact lt_of_mem_targets_choice hbody.entry hentry htarget
    · have hstands := hcode.of_extends hextends
      have hbody : Goes code (f q).entry M q.entry :=
        h.goes (hstands.of_extends (extends_push (f q) _))
      have hchoice := goes_choice (hstands.push (h.extends_ q).size_le) (hbody.trans hexit)
        (Goes.refl code p.entry)
      rw [Nat.succ_add, ← Nat.add_succ]
      exact hgoes (hcode.mono hround.size_le) (hchoice.congr fun x y => atMost_succ_iff.symm)

theorem size_loop (greedy : Bool) (p : Program) :
    (loop f greedy p).code.size = (f (p.push .accept)).code.size := by
  simp [loop]

theorem Emits.size_lt_loop (h : Emits f M) (greedy : Bool) (p : Program) :
    p.code.size < (loop f greedy p).code.size := by
  have hle := (h.extends_ (p.push .accept)).size_le
  rw [size_loop]
  rw [push, Array.size_push] at hle
  exact hle

theorem Emits.getElem?_loop (h : Emits f M) (greedy : Bool) (p : Program) (i : Nat) :
    (loop f greedy p).code[i]? =
      if i = p.code.size then some (choice greedy (loop f greedy p).entry p.entry)
      else (f (p.push .accept)).code[i]? := by
  have hsize := h.size_lt_loop greedy p
  rw [size_loop] at hsize
  simp only [loop, Array.getElem?_setIfInBounds, hsize, if_true, eq_comm]

theorem Emits.extends_loop (h : Emits f M) (greedy : Bool) (p : Program) :
    Extends (loop f greedy p) p := by
  refine ⟨Nat.le_of_lt (h.size_lt_loop greedy p), fun {i} hi => ?_⟩
  rw [h.getElem?_loop, if_neg (Nat.ne_of_lt hi)]
  exact ((h.extends_ _).trans (extends_push p _)).keeps hi

theorem Emits.closed_loop (h : Emits f M) (greedy : Bool) {p : Program} (hp : p.Closed) :
    (loop f greedy p).Closed := by
  have hclosed := h.closed (hp.push (i := .accept) fun _ htarget => by cases htarget)
  have hexit : p.entry < (f (p.push .accept)).code.size := by
    rw [← size_loop greedy]
    exact Nat.lt_trans hp.entry (h.size_lt_loop greedy p)
  refine ⟨by rw [size_loop]; exact hclosed.entry, fun {a i} hi target htarget => ?_⟩
  rw [h.getElem?_loop] at hi
  rw [size_loop]
  split at hi
  · cases hi
    exact lt_of_mem_targets_choice hclosed.entry hexit htarget
  · exact hclosed.targets hi target htarget

/-- From the entry of a loop the body goes to the choice, which goes back or out. -/
theorem Emits.goes_body (h : Emits f M) {greedy : Bool} {p : Program} {code : Array Instruction}
    (hcode : StandsIn (loop f greedy p) p.code.size code) :
    Goes code (loop f greedy p).entry M p.code.size ∧
      Goes code p.code.size (AtLeast M 0) p.entry := by
  have hchoice : code[p.code.size]? = some (choice greedy (loop f greedy p).entry p.entry) := by
    rw [hcode _ (Nat.le_refl _) (h.size_lt_loop greedy p), h.getElem?_loop, if_pos rfl]
  have hstands : StandsIn (f (p.push .accept)) (p.push .accept).code.size code := by
    intro i hfirst hi
    rw [push, Array.size_push] at hfirst
    rw [hcode i (Nat.le_of_succ_le hfirst) (by rwa [size_loop]), h.getElem?_loop,
      if_neg (Nat.ne_of_gt hfirst)]
  have hbody : Goes code (loop f greedy p).entry M p.code.size := h.goes hstands
  exact ⟨hbody, goes_loop hchoice hbody⟩

theorem emits_loop (h : Emits f M) (greedy : Bool) : Emits (loop f greedy) (AtLeast M 1) := by
  refine ⟨h.extends_loop greedy, h.closed_loop greedy, fun {p code} hcode => ?_⟩
  obtain ⟨hbody, hchoice⟩ := h.goes_body hcode
  refine (hbody.trans hchoice).congr fun x y => ⟨?_, ?_⟩
  · rintro ⟨z, hxz, n, -, hzy⟩
    exact ⟨n + 1, Nat.succ_le_succ (Nat.zero_le n), .cons hxz hzy⟩
  · rintro ⟨_, hn, _ | ⟨hxz, hzy⟩⟩
    · exact absurd hn (Nat.not_succ_le_zero 0)
    · exact ⟨_, hxz, _, Nat.zero_le _, hzy⟩

theorem emits_loopFromChoice (h : Emits f M) (greedy : Bool) :
    Emits (loopFromChoice f greedy) (AtLeast M 0) := by
  refine ⟨fun p => ⟨(h.extends_loop greedy p).size_le, (h.extends_loop greedy p).keeps⟩,
    fun {p} hp => ⟨h.size_lt_loop greedy p, (h.closed_loop greedy hp).targets⟩,
    fun {p code} hcode => (h.goes_body hcode).2⟩

theorem atMost_one_atLeast_one_iff {x y : State} :
    AtMost (AtLeast M 1) 1 x y ↔ AtLeast M 0 x y := by
  rw [atMost_succ_iff]
  constructor
  · rintro (⟨z, ⟨n, -, hxz⟩, k, hk, hzy⟩ | rfl)
    · obtain rfl := Nat.le_zero.1 hk
      obtain rfl := rounds_zero.1 hzy
      exact ⟨n, Nat.zero_le n, hxz⟩
    · exact ⟨0, Nat.le_refl 0, .nil _⟩
  · rintro ⟨_, -, _ | ⟨hxz, hzy⟩⟩
    · exact .inr rfl
    · exact .inl ⟨y, ⟨_, Nat.succ_le_succ (Nat.zero_le _), .cons hxz hzy⟩, 0, Nat.le_refl 0,
        .nil y⟩

theorem rounds_atMost_iff {least most : Nat} {x y : State} :
    Along (Rounds M least) (AtMost M (most - least)) x y ↔
      ∃ n, least ≤ n ∧ n ≤ max least most ∧ Rounds M n x y := by
  constructor
  · rintro ⟨z, hxz, n, hn, hzy⟩
    exact ⟨least + n, Nat.le_add_right _ _, by omega, hxz.append hzy⟩
  · rintro ⟨n, hleast, hmost, hxy⟩
    obtain ⟨k, rfl⟩ := Nat.exists_eq_add_of_le hleast
    obtain ⟨z, hxz, hzy⟩ := rounds_add.1 hxy
    exact ⟨z, hxz, k, by omega, hzy⟩

theorem rounds_atLeast_iff {least : Nat} {x y : State} :
    Along (Rounds M least) (AtLeast M 1) x y ↔ AtLeast M (least + 1) x y := by
  constructor
  · rintro ⟨z, hxz, n, hn, hzy⟩
    exact ⟨least + n, Nat.add_le_add_left hn least, hxz.append hzy⟩
  · rintro ⟨n, hleast, hxy⟩
    obtain ⟨k, rfl⟩ := Nat.exists_eq_add_of_le (Nat.le_of_succ_le hleast)
    obtain ⟨z, hxz, hzy⟩ := rounds_add.1 hxy
    exact ⟨z, hxz, k, by omega, hzy⟩

theorem emits_repetition (h : Emits f M) (consuming : Bool) (least : Nat) (most : Option Nat)
    (greedy : Bool) : Emits (repetition f consuming least most greedy)
      fun x y => ∃ n, least ≤ n ∧ (∀ m ∈ most, n ≤ max least m) ∧ Rounds M n x y := by
  cases most with
  | some most =>
    refine ((emits_iterate h least).comp (emits_optional h greedy (most - least))).congr ?_
    simp only [rounds_atMost_iff, Option.mem_def, Option.some.injEq, forall_eq', implies_true]
  | none =>
    suffices Emits (repetition f consuming least none greedy) (AtLeast M least) from
      this.congr fun x y => by simp [AtLeast]
    cases least with
    | zero =>
      cases consuming with
      | true => exact emits_loopFromChoice h greedy
      | false =>
        exact (emits_optional (emits_loop h greedy) greedy 1).congr fun x y =>
          atMost_one_atLeast_one_iff
    | succ least =>
      exact ((emits_iterate h least).comp (emits_loop h greedy)).congr fun x y =>
        rounds_atLeast_iff

end

end Program

/-! ## Expressions -/

open Program

theorem Regex.emits_compile (r : Regex) : Emits r.compile r.Matches := by
  induction r with
  | empty => exact emits_id
  | set s => exact emits_push (fun _ => rfl) goes_take
  | look l => exact emits_push (fun _ => rfl) goes_look
  | capture index r ih =>
    have hsave (slot : Nat) : Emits (fun p => p.push (.save slot p.entry))
        fun x y => y = (x.1, (slot, x.1) :: x.2) := emits_push (fun _ => rfl) goes_save
    refine ((hsave _).comp (ih.comp (hsave _))).congr fun x y => ?_
    constructor
    · rintro ⟨_, rfl, z, hz, rfl⟩
      exact ⟨z, hz, rfl⟩
    · rintro ⟨z, hz, rfl⟩
      exact ⟨_, rfl, z, hz, rfl⟩
  | cat a b iha ihb => exact iha.comp ihb
  | alt a b iha ihb =>
    -- the first alternative is compiled behind the second, and enters where the second does
    have hsecond (p : Program) : Extends ⟨(b.compile p).code, p.entry⟩ p :=
      ⟨(ihb.extends_ p).size_le, (ihb.extends_ p).keeps⟩
    have hfirst (p : Program) :
        Extends (a.compile ⟨(b.compile p).code, p.entry⟩) (b.compile p) :=
      have h := iha.extends_ ⟨(b.compile p).code, p.entry⟩
      ⟨h.size_le, h.keeps⟩
    refine ⟨fun p => (extends_push _ _).trans ((iha.extends_ _).trans (hsecond p)),
      fun {p} hp => ?_, fun {p code} hcode => ?_⟩
    · have hb := ihb.closed hp
      have ha : (a.compile ⟨(b.compile p).code, p.entry⟩).Closed := by
        refine iha.closed ⟨?_, hb.targets⟩
        exact Nat.lt_of_lt_of_le hp.entry (ihb.extends_ p).size_le
      refine ha.push fun target htarget => ?_
      refine lt_of_mem_targets_choice (g := true) ha.entry ?_ htarget
      exact Nat.lt_of_lt_of_le hb.entry (hfirst p).size_le
    · have hstands := hcode.of_extends (extends_push _ _)
      have hchoice := hcode.push (((hfirst p).trans (ihb.extends_ p)).size_le)
      have ha := iha.goes (hstands.mono (ihb.extends_ p).size_le)
      have hb := ihb.goes (hstands.of_extends (hfirst p))
      exact goes_choice (g := true) hchoice ha hb
  | repeated least most greedy r ih => exact emits_repetition ih r.consumes least most greedy

theorem closed_accepting : accepting.Closed := by
  refine ⟨Nat.zero_lt_one, fun {a i} hi target htarget => ?_⟩
  obtain rfl : i = .accept := by
    cases a with
    | zero => exact (Option.some.inj hi).symm
    | succ a => simp [accepting] at hi
  cases htarget

theorem Regex.closed_program (r : Regex) : r.program.Closed :=
  (capture 0 r).emits_compile.closed closed_accepting

/-- **The program of an expression** comes to acceptance by its matches. -/
theorem Regex.exists_leads_program_iff (r : Regex) {place : Place} {w : Saves} :
    (∃ n, Leads r.program.code n ⟨r.program.entry, place, []⟩ w) ↔
      ∃ stop saves, r.Matches (place, [(0, place)]) (stop, saves) ∧ w = (1, stop) :: saves := by
  have hemits := (capture 0 r).emits_compile
  have haccept : r.program.code[accepting.entry]? = some .accept :=
    (hemits.extends_ accepting).keeps (Nat.zero_lt_one)
  have hgoes : Goes r.program.code r.program.entry (capture 0 r).Matches accepting.entry :=
    hemits.goes fun _ _ _ => rfl
  constructor
  · rintro ⟨n, hleads⟩
    obtain ⟨_, ⟨⟨stop, saves⟩, hr, rfl⟩, m, -, hy⟩ := hgoes.sound (x := (place, [])) hleads
    cases m with
    | zero => exact ⟨stop, saves, hr, hy.2⟩
    | succ m =>
      obtain ⟨k, hk, -⟩ := (leads_succ_iff haccept).1 hy
      cases hk
  · rintro ⟨stop, saves, hr, rfl⟩
    exact hgoes.complete (x := (place, [])) (n := 0) ⟨(stop, saves), hr, rfl⟩ ⟨haccept, rfl⟩

end MediaScraper.Pattern
