import MediaScraper.Proofs.Text.Segment
import MediaScraper.Template
import Mathlib.Data.List.Basic
import Mathlib.Data.List.TakeWhile

/-!
# What templates read

Register tokens never overlap, and no group token cuts one (`register?_append`). So the register
tokens of the stretches that group tokens leave over are register tokens of the whole template, and
rendering reads no register but those that the template refers to (`render_congr`).
-/

namespace MediaScraper.Template

open Text

/-! ## Register tokens -/

theorem register?_eq_some {s d : List Char} {n : Nat} (h : register? s = some (d, n)) :
    ∃ rest, s = '$' :: '$' :: (d ++ rest) ∧ d ≠ [] ∧ (∀ c ∈ d, c.isDigit) ∧
      (∀ c ∈ rest.head?, ¬ c.isDigit) ∧ n = d.length + 2 := by
  unfold register? at h
  split at h
  · next cs =>
    dsimp only at h
    split at h
    · cases h
    · next hne =>
      cases h
      refine ⟨cs.dropWhile Char.isDigit, by rw [List.takeWhile_append_dropWhile],
        by simpa using hne, fun c hc => List.mem_takeWhile_imp hc, fun c hc => ?_, rfl⟩
      have hhead := List.head?_dropWhile_not Char.isDigit cs
      rw [hc] at hhead
      simpa using hhead
  · cases h

theorem register?_of_digits {d rest : List Char} (hne : d ≠ []) (hd : ∀ c ∈ d, c.isDigit)
    (hrest : ∀ c ∈ rest.head?, ¬ c.isDigit) :
    register? ('$' :: '$' :: (d ++ rest)) = some (d, d.length + 2) := by
  have hbehind : rest.takeWhile Char.isDigit = [] := by
    cases rest with
    | nil => rfl
    | cons c rest => exact List.takeWhile_cons_of_neg (hrest c rfl)
  have hdigits : (d ++ rest).takeWhile Char.isDigit = d := by
    rw [List.takeWhile_append_of_pos hd, hbehind, List.append_nil]
  rw [register?, hdigits]
  simp [hne]

theorem register?_eq_none_of_isDigit {c : Char} (h : c.isDigit) (cs : List Char) :
    register? (c :: cs) = none ∧ register? ('$' :: c :: cs) = none := by
  have hc : c ≠ '$' := by
    rintro rfl
    exact absurd h (by decide)
  constructor <;> (unfold register?; split <;> simp_all)

/-- Register tokens never overlap: behind the first dollar sign of a token, no other one follows. -/
theorem apart_register? : Apart register? := by
  intro s d n h k hk hkn
  obtain ⟨rest, rfl, hne, hd, -, rfl⟩ := register?_eq_some h
  match k, hk with
  | 1, _ =>
    obtain ⟨c, cs, rfl⟩ := List.exists_cons_of_ne_nil hne
    exact (register?_eq_none_of_isDigit (hd c List.mem_cons_self) _).2
  | j + 2, _ =>
    have hj : j < d.length := by omega
    have hdrop : (d ++ rest).drop j = d[j] :: (d.drop (j + 1) ++ rest) := by
      rw [List.drop_append_of_le_length hj.le, List.drop_eq_getElem_cons hj, List.cons_append]
    rw [List.drop_succ_cons, List.drop_succ_cons, hdrop]
    exact (register?_eq_none_of_isDigit (hd _ (List.getElem_mem hj)) _).1

theorem register?_append {s rest d : List Char} {n : Nat} (h : register? s = some (d, n))
    (hrest : ∀ c ∈ rest.head?, ¬ c.isDigit) : register? (s ++ rest) = some (d, n) := by
  obtain ⟨behind, rfl, hne, hd, hbehind, rfl⟩ := register?_eq_some h
  rw [List.cons_append, List.cons_append, List.append_assoc]
  refine register?_of_digits hne hd ?_
  cases behind with
  | nil => exact hrest
  | cons c behind => exact hbehind

theorem head?_of_group? {s : List Char} (h : (group? s).isSome) : s.head? = some '\\' := by
  unfold group? at h
  split at h
  · rfl
  · cases h

theorem token_mem_of_plain {s p d : List Char} (hp : .plain p ∈ segment group? s)
    (hd : .token d ∈ segment register? p) : .token d ∈ segment register? s := by
  obtain ⟨before, after, rfl, hafter⟩ := standsIn_of_mem_segment hp
  obtain ⟨u, n, hu, hread⟩ := standsIn_of_mem_segment hd
  have hne : u ≠ [] := by
    rintro rfl
    cases hread
  have hhead : ∀ c ∈ after.head?, ¬ c.isDigit := by
    intro c hc
    rcases hafter with rfl | hgroup
    · cases hc
    · rw [head?_of_group? hgroup] at hc
      cases hc
      decide
  refine token_mem_segment apart_register? (u := u ++ after) (by simp [hne])
    (register?_append hread hhead) ?_
  obtain ⟨front, rfl⟩ := hu
  exact ⟨before ++ front, by simp⟩

/-! ## What is referred to -/

theorem mem_references {s : String} {i : Nat} :
    i ∈ references s ↔ ∃ d, .token d ∈ segment register? s.toList ∧ registerIndex? d = some i := by
  rw [references, List.mem_filterMap]
  refine exists_congr fun d => and_congr_left fun _ => ?_
  rw [tokens, List.mem_filterMap]
  constructor
  · rintro ⟨piece, hmem, heq⟩
    cases piece with
    | plain p => cases heq
    | token t =>
      cases heq
      exact hmem
  · intro hmem
    exact ⟨_, hmem, rfl⟩

theorem registerText_congr {s : String} {src src' : Source}
    (h : ∀ i ∈ references s, src.register i = src'.register i) {d : List Char}
    (hd : .token d ∈ segment register? s.toList) : src.registerText d = src'.registerText d := by
  unfold Source.registerText
  split
  · next i hi => rw [h i (mem_references.2 ⟨d, hd, hi⟩)]
  · rfl

theorem fill_congr {τ : Type} {read : List Char → Option (τ × Nat)} {value value' : τ → List Char}
    {parts : List Part}
    (h : ∀ s, .opened s ∈ parts → ∀ t, .token t ∈ segment read s → value t = value' t) :
    fill read value parts = fill read value' parts := by
  refine List.flatMap_congr fun part hpart => ?_
  cases part with
  | final s => rfl
  | opened s =>
    refine List.map_congr_left fun piece hpiece => ?_
    cases piece with
    | plain p => rfl
    | token t => exact congrArg Part.final (h s hpart t hpiece)

theorem token_mem_of_opened {template : String} {value : Nat → List Char} {s d : List Char}
    (hs : .opened s ∈ fill group? value [.opened template.toList])
    (hd : .token d ∈ segment register? s) : .token d ∈ segment register? template.toList := by
  rw [fill, List.flatMap_singleton, List.mem_map] at hs
  obtain ⟨piece, hpiece, heq⟩ := hs
  cases piece with
  | plain p =>
    cases heq
    exact token_mem_of_plain hpiece hd
  | token t => cases heq

/-- **Rendering reads the registers that the template refers to**, and no others. -/
theorem render_congr {template : String} (groups : List String) {src src' : Source}
    (hp : src.property = src'.property)
    (h : ∀ i ∈ references template, src.register i = src'.register i) :
    render template groups src = render template groups src' := by
  have hproperty : src.propertyText = src'.propertyText := by
    funext key
    rw [Source.propertyText, Source.propertyText, hp]
  have hregister : fill register? src.registerText
        (fill group? (Source.groupText groups) [.opened template.toList]) =
      fill register? src'.registerText
        (fill group? (Source.groupText groups) [.opened template.toList]) :=
    fill_congr fun s hs d hd => registerText_congr h (token_mem_of_opened hs hd)
  rw [render, render, hproperty, hregister]

theorem fillProperties_congr {s : String} {src src' : Source} (hp : src.property = src'.property) :
    fillProperties s src = fillProperties s src' := by
  have hproperty : src.propertyText = src'.propertyText := by
    funext key
    rw [Source.propertyText, Source.propertyText, hp]
  rw [fillProperties, fillProperties, hproperty]

theorem fillRegisters_congr {s : String} {src src' : Source}
    (h : ∀ i ∈ references s, src.register i = src'.register i) :
    fillRegisters s src = fillRegisters s src' := by
  have hfill : fill register? src.registerText [.opened s.toList] =
      fill register? src'.registerText [.opened s.toList] := by
    refine fill_congr fun p hp d hd => registerText_congr h ?_
    cases List.mem_singleton.1 hp
    exact hd
  rw [fillRegisters, fillRegisters, hfill]

end MediaScraper.Template
