import Mathlib.Data.List.TakeDrop
import Mathlib.Data.List.TakeWhile
import MediaScraper.Xml.Attribute

/-!
# Which attributes read without a fault

The attributes of a tag read without a fault if the tag lists attributes (`Lists`), each a name, `=`
and a value in quotes of either kind with spaces between and around them, and no name comes twice
(`attributesFrom_eq_none_iff`).
-/

namespace MediaScraper.Xml

/-- `Lists s as`: the text lists these attributes, with their values as they are written. -/
inductive Lists : List Char → List Attribute → Prop
  | nil : Lists [] []
  | space {c : Char} {s : List Char} {as : List Attribute} :
      isSpace c = true → Lists s as → Lists (c :: s) as
  | item {c q : Char} {more gap gap' raw s : List Char} {as : List Attribute} :
      isSpace c = false → (∀ d ∈ more, d ≠ '=' ∧ isSpace d = false) →
      (∀ d ∈ gap, isSpace d = true) → (∀ d ∈ gap', isSpace d = true) → (q = '"' ∨ q = '\'') →
      q ∉ raw → Lists s as →
      Lists (c :: (more ++ (gap ++ '=' :: (gap' ++ q :: (raw ++ q :: s))))) (⟨c :: more, raw⟩ :: as)

/-! ## Stretches -/

theorem takeWhile_stretch {stretch : List Char} {p : Char → Bool} (h : ∀ c ∈ stretch, p c = true)
    {rest : List Char} (hrest : ∀ c ∈ rest.head?, p c = false) :
    (stretch ++ rest).takeWhile p = stretch := by
  rw [List.takeWhile_append_of_pos h]
  cases rest with
  | nil => rw [List.takeWhile_nil, List.append_nil]
  | cons d rest => rw [List.takeWhile_cons_of_neg (by simp [hrest d rfl]), List.append_nil]

theorem takeWhile_ne {q : Char} {s : List Char} (h : q ∉ s) (rest : List Char) :
    (s ++ q :: rest).takeWhile (fun d => decide (d ≠ q)) = s := by
  refine takeWhile_stretch (fun d hd => decide_eq_true ?_) (by simp)
  exact fun heq => h (heq ▸ hd)

theorem of_span {p : Char → Bool} {s stretch rest : List Char} (h : s.span p = (stretch, rest)) :
    s = stretch ++ rest ∧ (∀ c ∈ stretch, p c = true) ∧ ∀ c ∈ rest.head?, p c = false := by
  rw [List.span_eq_takeWhile_dropWhile] at h
  cases h
  refine ⟨List.takeWhile_append_dropWhile.symm, fun c => List.mem_takeWhile_imp, fun c hc => ?_⟩
  have hhead := List.head?_dropWhile_not p s
  rw [Option.mem_def.1 hc] at hhead
  simpa using hhead

theorem exists_of_takeWhile_eq {p : Char → Bool} {s stretch : List Char}
    (h : s.takeWhile p = stretch) :
    ∃ rest, s = stretch ++ rest ∧ (∀ c ∈ stretch, p c = true) ∧ ∀ c ∈ rest.head?, p c = false := by
  subst h
  exact ⟨s.dropWhile p, of_span (List.span_eq_takeWhile_dropWhile p s)⟩

theorem span_stretch {p : Char → Bool} {stretch rest : List Char}
    (h : ∀ c ∈ stretch, p c = true) (hrest : ∀ c ∈ rest.head?, p c = false) :
    (stretch ++ rest).span p = (stretch, rest) := by
  rw [List.span_eq_takeWhile_dropWhile, takeWhile_stretch h hrest,
    List.dropWhile_append_of_pos h]
  cases rest with
  | nil => rfl
  | cons d rest => rw [List.dropWhile_cons_of_neg (by simp [hrest d rfl])]

theorem span_ne {q : Char} {w : List Char} (h : q ∉ w) (rest : List Char) :
    (w ++ q :: rest).span (· ≠ q) = (w, q :: rest) := by
  refine span_stretch (fun c hc => ?_) (by simp)
  simpa using fun heq : c = q => h (heq ▸ hc)

theorem of_span_ne {q d : Char} {s w rest : List Char} (h : s.span (· ≠ q) = (w, d :: rest)) :
    s = w ++ q :: rest ∧ q ∉ w := by
  obtain ⟨rfl, hw, hrest⟩ := of_span h
  have hd : d = q := by simpa using hrest d rfl
  exact ⟨by rw [hd], fun hmem => by simpa using hw q hmem⟩

theorem eq_of_append_eq {q : Char} {w w' rest rest' : List Char} (hw : q ∉ w) (hw' : q ∉ w')
    (h : w ++ q :: rest = w' ++ q :: rest') : w = w' ∧ rest = rest' := by
  have hspans : (w, q :: rest) = (w', q :: rest') := by
    rw [← span_ne hw, ← span_ne hw', h]
  obtain ⟨hfront, hbehind⟩ := Prod.mk.inj hspans
  exact ⟨hfront, (List.cons.inj hbehind).2⟩

/-! ## The parts of an attribute -/

theorem throughEq_eq_ok_iff {cs : List Char} {n : Nat} :
    throughEq cs = .ok n ↔
      ∃ gap rest, cs = gap ++ '=' :: rest ∧ (∀ d ∈ gap, isSpace d = true) ∧ n = gap.length + 1 := by
  constructor
  · intro h
    unfold throughEq at h
    generalize hgap : cs.takeWhile isSpace = gap at h
    obtain ⟨rest, rfl, hspace, -⟩ := exists_of_takeWhile_eq hgap
    simp only [List.drop_left] at h
    split at h
    · next heq =>
      cases h
      obtain ⟨more, rfl⟩ := List.head?_eq_some_iff.1 heq
      exact ⟨gap, more, rfl, hspace, rfl⟩
    · cases h
  · rintro ⟨gap, rest, rfl, hgap, rfl⟩
    have htake : (gap ++ '=' :: rest).takeWhile isSpace = gap :=
      takeWhile_stretch hgap (by simp [isSpace])
    simp [throughEq, htake]

theorem attributeValue_eq_ok_iff {cs value : List Char} {n : Nat} :
    attributeValue cs = .ok (value, n) ↔
      ∃ gap q rest, cs = gap ++ q :: (value ++ q :: rest) ∧ (∀ d ∈ gap, isSpace d = true) ∧
        (q = '"' ∨ q = '\'') ∧ q ∉ value ∧ n = gap.length + value.length + 2 := by
  constructor
  · intro h
    unfold attributeValue at h
    generalize hgap : cs.takeWhile isSpace = gap at h
    obtain ⟨rest, rfl, hspace, -⟩ := exists_of_takeWhile_eq hgap
    simp only [List.drop_left] at h
    split at h
    · cases h
    · next q rest =>
      split at h
      · next hq =>
        generalize hvalue : rest.takeWhile (· ≠ q) = raw at h
        obtain ⟨more, rfl, hraw, hmore⟩ := exists_of_takeWhile_eq hvalue
        simp only [List.drop_left] at h
        split at h
        · cases h
        · next d more =>
          cases h
          have hd : d = q := by simpa using hmore d rfl
          refine ⟨gap, q, more, by rw [hd], hspace, hq, fun hmem => ?_, rfl⟩
          simpa using hraw q hmem
      · cases h
  · rintro ⟨gap, q, rest, rfl, hgap, hq, hvalue, rfl⟩
    have htake : (gap ++ q :: (value ++ q :: rest)).takeWhile isSpace = gap := by
      refine takeWhile_stretch hgap ?_
      rcases hq with rfl | rfl <;> simp [isSpace]
    simp only [attributeValue, htake, List.drop_left, if_pos hq, takeWhile_ne hvalue]

/-! ## Lists of attributes -/

theorem attributesFrom_skip (seen : List (List Char × Nat)) (read : List Attribute)
    (position : Nat) (passed rest : List Char) :
    ∃ behind, attributesFrom position seen read passed.length (passed ++ rest) =
      attributesFrom behind seen read 0 rest := by
  induction passed generalizing position with
  | nil => exact ⟨position, rfl⟩
  | cons c passed ih => exact ih _

theorem attributesFrom_item {c q : Char} {more gap gap' raw : List Char} (hc : isSpace c = false)
    (hmore : ∀ d ∈ more, d ≠ '=' ∧ isSpace d = false) (hgap : ∀ d ∈ gap, isSpace d = true)
    (hgap' : ∀ d ∈ gap', isSpace d = true) (hq : q = '"' ∨ q = '\'') (hraw : q ∉ raw)
    (position : Nat) {seen : List (List Char × Nat)} (hseen : seen.lookup (c :: more) = none)
    (read : List Attribute) (s : List Char) :
    ∃ behind, attributesFrom position seen read 0
        (c :: (more ++ (gap ++ '=' :: (gap' ++ q :: (raw ++ q :: s))))) =
      attributesFrom behind ((c :: more, position) :: seen) (⟨c :: more, raw⟩ :: read) 0 s := by
  generalize hvalue : gap' ++ q :: (raw ++ q :: s) = value
  have hname :
      (more ++ (gap ++ '=' :: value)).takeWhile (fun d => d ≠ '=' && !isSpace d) = more := by
    refine takeWhile_stretch (fun d hd => by simp [hmore d hd]) fun d hd => ?_
    cases gap with
    | nil =>
      cases hd
      rfl
    | cons e gap =>
      cases hd
      simp [hgap d List.mem_cons_self]
  have hthrough : throughEq (gap ++ '=' :: value) = .ok (gap.length + 1) :=
    throughEq_eq_ok_iff.2 ⟨gap, value, rfl, hgap, rfl⟩
  have hbehind : (more ++ (gap ++ '=' :: value)).drop (more.length + (gap.length + 1)) = value := by
    rw [← List.drop_drop, List.drop_left, ← List.drop_drop, List.drop_left, List.drop_succ_cons,
      List.drop_zero]
  have hread : attributeValue value = .ok (raw, gap'.length + raw.length + 2) :=
    attributeValue_eq_ok_iff.2 ⟨gap', q, s, hvalue.symm, hgap', hq, hraw, rfl⟩
  rw [attributesFrom, if_neg (by simp [hc])]
  simp only [hname, List.drop_left, hthrough, hseen, hbehind, hread]
  have hpassed : more ++ (gap ++ '=' :: value) =
      (more ++ gap ++ '=' :: gap' ++ q :: raw ++ [q]) ++ s := by
    simp [← hvalue]
  have hlength : more.length + (gap.length + 1) + (gap'.length + raw.length + 2) =
      (more ++ gap ++ '=' :: gap' ++ q :: raw ++ [q]).length := by
    simp
    omega
  rw [hpassed, hlength]
  exact attributesFrom_skip ..

theorem exists_item {position : Nat} {seen : List (List Char × Nat)} {read out : List Attribute}
    {c : Char} {s : List Char} (hc : isSpace c = false)
    (h : attributesFrom position seen read 0 (c :: s) = (out, none)) :
    ∃ more gap gap' q raw rest, s = more ++ (gap ++ '=' :: (gap' ++ q :: (raw ++ q :: rest))) ∧
      (∀ d ∈ more, d ≠ '=' ∧ isSpace d = false) ∧ (∀ d ∈ gap, isSpace d = true) ∧
      (∀ d ∈ gap', isSpace d = true) ∧ (q = '"' ∨ q = '\'') ∧ q ∉ raw ∧
      seen.lookup (c :: more) = none := by
  rw [attributesFrom, if_neg (by simp [hc])] at h
  generalize hname : s.takeWhile (fun d => d ≠ '=' && !isSpace d) = more at h
  obtain ⟨behind, rfl, hmore, -⟩ := exists_of_takeWhile_eq hname
  simp only [List.drop_left] at h
  split at h
  · cases h
  · next hthrough =>
    obtain ⟨gap, value, rfl, hgap, rfl⟩ := throughEq_eq_ok_iff.1 hthrough
    split at h
    · cases h
    · next hseen =>
      rw [← List.drop_drop, List.drop_left, ← List.drop_drop, List.drop_left, List.drop_succ_cons,
        List.drop_zero] at h
      split at h
      · cases h
      · next hread =>
        obtain ⟨gap', q, rest, rfl, hgap', hq, hraw, rfl⟩ := attributeValue_eq_ok_iff.1 hread
        refine ⟨more, gap, gap', q, _, rest, rfl, fun d hd => ?_, hgap, hgap', hq, hraw, hseen⟩
        simpa using hmore d hd

theorem forall_lookup_cons {n : List Char} {position : Nat} {seen : List (List Char × Nat)}
    {as : List Attribute} :
    (∀ a ∈ as, ((n, position) :: seen).lookup a.name = none) ↔
      n ∉ as.map Attribute.name ∧ ∀ a ∈ as, seen.lookup a.name = none := by
  have hlookup (a : Attribute) : ((n, position) :: seen).lookup a.name = none ↔
      a.name ≠ n ∧ seen.lookup a.name = none := by
    by_cases hn : a.name = n
    · simp [hn]
    · rw [List.lookup_cons, beq_false_of_ne hn]
      simp only [ne_eq, hn, not_false_eq_true, true_and]
  simp only [hlookup, List.mem_map, not_exists, not_and]
  exact ⟨fun h => ⟨fun a ha => (h a ha).1, fun a ha => (h a ha).2⟩,
    fun h a ha => ⟨h.1 a ha, h.2 a ha⟩⟩

/-- **The attributes that a tag lists are read**, if no name comes twice; and nothing else is read
without a fault. -/
theorem attributesFrom_eq_none_iff {position : Nat} {seen : List (List Char × Nat)}
    {read out : List Attribute} {s : List Char} :
    attributesFrom position seen read 0 s = (out, none) ↔
      ∃ as, Lists s as ∧ out = read.reverse ++ as ∧ (as.map Attribute.name).Nodup ∧
        ∀ a ∈ as, seen.lookup a.name = none := by
  constructor
  · intro h
    induction hn : s.length using Nat.strongRecOn generalizing position seen read s with
    | ind n ih =>
      subst hn
      cases s with
      | nil =>
        rw [attributesFrom] at h
        cases h
        exact ⟨[], .nil, (List.append_nil _).symm, List.nodup_nil, by simp⟩
      | cons c s =>
        by_cases hc : isSpace c = true
        · rw [attributesFrom, if_pos hc] at h
          obtain ⟨as, has, rfl, hnodup, hseen⟩ := ih _ (Nat.lt_succ_self _) h rfl
          exact ⟨as, .space hc has, rfl, hnodup, hseen⟩
        · rw [Bool.not_eq_true] at hc
          obtain ⟨more, gap, gap', q, raw, rest, rfl, hmore, hgap, hgap', hq, hraw, hseen⟩ :=
            exists_item hc h
          obtain ⟨behind, hitem⟩ :=
            attributesFrom_item hc hmore hgap hgap' hq hraw position hseen read rest
          rw [hitem] at h
          obtain ⟨as, has, rfl, hnodup, hlookup⟩ := ih rest.length (by simp; omega) h rfl
          obtain ⟨hnew, hlookup⟩ := forall_lookup_cons.1 hlookup
          exact ⟨_, .item hc hmore hgap hgap' hq hraw has, by simp,
            List.nodup_cons.2 ⟨hnew, hnodup⟩, List.forall_mem_cons.2 ⟨hseen, hlookup⟩⟩
  · rintro ⟨as, has, rfl, hnodup, hseen⟩
    induction has generalizing position seen read with
    | nil => simp [attributesFrom]
    | space hc _ ih =>
      rw [attributesFrom, if_pos hc]
      exact ih hnodup hseen
    | @item c q more gap gap' raw s as hc hmore hgap hgap' hq hraw _ ih =>
      obtain ⟨hnew, hnodup⟩ := List.nodup_cons.1 hnodup
      obtain ⟨hfirst, hseen⟩ := List.forall_mem_cons.1 hseen
      obtain ⟨behind, hitem⟩ :=
        attributesFrom_item hc hmore hgap hgap' hq hraw position hfirst read s
      rw [hitem, ih hnodup (forall_lookup_cons.2 ⟨hnew, hseen⟩)]
      simp

end MediaScraper.Xml
