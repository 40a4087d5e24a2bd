import Mathlib.Data.List.Forall2
import MediaScraper.Proofs.Xml.Tag

/-!
# Tags with other values

What stands in a tag is read as characters, and as values between quotes. `Retells R s t` says that
`t` is written in a tag for `s`, with values that differ from those of `s` as `R` allows; nothing
outside of the quotes differs.

**The end of a tag** is found behind `t` if it is found behind `s` (`Retells.tagBody?`), and the
slash of a tag that closes itself stands in both (`Retells.dropLast`).

**The parts of a tag** are the same if no quote stands in a name: the name of the tag
(`Retells.tagName_eq`) and its attributes, up to their values (`Retells.attributes`).
-/

namespace MediaScraper.Xml

/-- `Retells R s t`: in a tag, `t` is written for `s`, and `R` holds of the values. -/
inductive Retells (R : List Char → List Char → Prop) : List Char → List Char → Prop
  | nil : Retells R [] []
  | plain {c : Char} {s t : List Char} :
      c ≠ '"' ∧ c ≠ '\'' ∧ c ≠ '>' → Retells R s t → Retells R (c :: s) (c :: t)
  | value {q : Char} {raw raw' s t : List Char} :
      q = '"' ∨ q = '\'' → q ∉ raw → q ∉ raw' → R raw raw' → Retells R s t →
      Retells R (q :: (raw ++ q :: s)) (q :: (raw' ++ q :: t))

theorem ne_quote_of_isSpace {gap : List Char} (h : ∀ d ∈ gap, isSpace d = true) :
    ∀ d ∈ gap, d ≠ '"' ∧ d ≠ '\'' := by
  intro d hd
  have hspace := h d hd
  constructor <;> rintro rfl <;> exact absurd hspace (by decide)

namespace Retells

variable {R R' : List Char → List Char → Prop} {s t t' : List Char}

/-! ## The end of a tag -/

theorem tagBody?_append (h : Retells R s t) (before rest : List Char) :
    tagBody? none before (t ++ rest) = tagBody? none (t.reverse ++ before) rest := by
  induction h generalizing before with
  | nil => rfl
  | @plain c s t hc _ ih =>
    have hplain : PlainInTag [c] := List.forall_mem_singleton.2 hc
    rw [← List.singleton_append, List.append_assoc, tagBody?_plain hplain, ih]
    simp
  | @value q raw raw' s t hq _ hraw' _ _ ih =>
    have hclose : q ≠ '>' := by rcases hq with rfl | rfl <;> decide
    rw [List.cons_append, tagBody?]
    simp only [hclose, hq, if_true, if_false]
    rw [List.append_assoc, List.cons_append, tagBody?_value hraw', ih]
    simp

/-- **The tag that is written ends behind `t`.** -/
theorem tagBody? (h : Retells R s t) (rest : List Char) :
    Xml.tagBody? none [] (t ++ '>' :: rest) = some t := by
  rw [h.tagBody?_append, Xml.tagBody?]
  simp

theorem head?_eq (h : Retells R s t) : t.head? = s.head? := by
  cases h <;> rfl

theorem eq_nil (h : Retells R [] t) : t = [] := by
  cases h
  rfl

theorem getLast?_eq (h : Retells R s t) : t.getLast? = s.getLast? := by
  induction h with
  | nil => rfl
  | plain _ _ ih => rw [List.getLast?_cons, List.getLast?_cons, ih]
  | value _ _ _ _ _ ih =>
    rw [List.getLast?_cons, List.getLast?_cons, List.getLast?_append, List.getLast?_append,
      List.getLast?_cons, List.getLast?_cons, ih, Option.some_or, Option.some_or]

theorem ne_nil (h : Retells R s t) (hs : s ≠ []) : t ≠ [] := by
  rintro rfl
  have hlast := h.getLast?_eq
  rw [List.getLast?_nil] at hlast
  exact hs (List.getLast?_eq_none_iff.1 hlast.symm)

/-- A slash at the end stands outside of the quotes. -/
theorem dropLast (h : Retells R s t) (hslash : s.getLast? = some '/') :
    Retells R s.dropLast t.dropLast := by
  induction h with
  | nil => cases hslash
  | @plain c s t hc hst ih =>
    by_cases hs : s = []
    · subst hs
      rw [hst.eq_nil]
      exact .nil
    · rw [List.dropLast_cons_of_ne_nil hs, List.dropLast_cons_of_ne_nil (hst.ne_nil hs)]
      refine .plain hc (ih ?_)
      rwa [List.getLast?_cons_of_ne_nil hs] at hslash
  | @value q raw raw' s t hq hraw hraw' hr hst ih =>
    have hclosed (r x : List Char) : q :: (r ++ q :: x) = (q :: (r ++ [q])) ++ x := by simp
    rw [hclosed] at hslash
    by_cases hs : s = []
    · subst hs
      rw [List.append_nil, List.getLast?_cons, List.getLast?_concat] at hslash
      rcases hq with rfl | rfl <;> exact absurd hslash (by decide)
    · rw [List.getLast?_append_of_ne_nil _ hs] at hslash
      rw [hclosed, hclosed raw', List.dropLast_append_of_ne_nil hs,
        List.dropLast_append_of_ne_nil (hst.ne_nil hs), ← hclosed, ← hclosed]
      exact .value hq hraw hraw' hr (ih hslash)

theorem append {s' : List Char} (h : Retells R s t) (h' : Retells R s' t') :
    Retells R (s ++ s') (t ++ t') := by
  induction h with
  | nil => exact h'
  | plain hc _ ih => exact .plain hc ih
  | value hq hraw hraw' hr _ ih =>
    rw [List.cons_append, List.append_assoc, List.cons_append, List.cons_append, List.append_assoc,
      List.cons_append]
    exact .value hq hraw hraw' hr ih

/-! ## The parts of a tag -/

theorem of_append {p s t : List Char} (h : Retells R (p ++ s) t)
    (hp : ∀ c ∈ p, c ≠ '"' ∧ c ≠ '\'') : ∃ t', t = p ++ t' ∧ Retells R s t' := by
  induction p generalizing t with
  | nil => exact ⟨t, rfl, h⟩
  | cons c p ih =>
    obtain ⟨hc, hp⟩ := List.forall_mem_cons.1 hp
    generalize hx : c :: p ++ s = x at h
    cases h with
    | nil => cases hx
    | plain _ h =>
      obtain ⟨rfl, rfl⟩ := List.cons.inj hx
      obtain ⟨t, rfl, ht⟩ := ih h hp
      exact ⟨t, rfl, ht⟩
    | value hq _ _ _ _ =>
      obtain ⟨rfl, -⟩ := List.cons.inj hx
      exact absurd hq (not_or.2 hc)

/-- The first quote opens a value, which the same quote closes. -/
theorem of_value {q : Char} (hq : q = '"' ∨ q = '\'') {raw : List Char} (hraw : q ∉ raw)
    (h : Retells R (q :: (raw ++ q :: s)) t) :
    ∃ raw' t', t = q :: (raw' ++ q :: t') ∧ q ∉ raw' ∧ R raw raw' ∧ Retells R s t' := by
  generalize hx : q :: (raw ++ q :: s) = x at h
  cases h with
  | nil => cases hx
  | plain hc _ =>
    obtain ⟨rfl, -⟩ := List.cons.inj hx
    exact absurd hq (not_or.2 ⟨hc.1, hc.2.1⟩)
  | @value q' raw₁ raw' s' t _ hraw₁ hraw' hr hst =>
    obtain ⟨rfl, hx⟩ := List.cons.inj hx
    obtain rfl : raw = raw₁ := by rw [← takeWhile_ne hraw s, hx, takeWhile_ne hraw₁]
    obtain ⟨-, rfl⟩ := List.cons.inj (List.append_cancel_left hx)
    exact ⟨raw', t, rfl, hraw', hr, hst⟩

/-- Two texts that are written for one are written for each other. -/
theorem comp (h : Retells R s t) (h' : Retells R' s t') :
    Retells (fun a b => ∃ raw, R raw a ∧ R' raw b) t t' := by
  induction h generalizing t' with
  | nil =>
    rw [h'.eq_nil]
    exact .nil
  | @plain c s t hc _ ih =>
    have hfront : ∀ d ∈ [c], d ≠ '"' ∧ d ≠ '\'' := List.forall_mem_singleton.2 ⟨hc.1, hc.2.1⟩
    obtain ⟨t', rfl, ht'⟩ := of_append (p := [c]) h' hfront
    exact .plain hc (ih ht')
  | @value q raw a s t hq hraw ha hr _ ih =>
    obtain ⟨b, t', rfl, hb, hr', ht'⟩ := h'.of_value hq hraw
    exact .value hq ha hb ⟨raw, hr, hr'⟩ (ih ht')

/-- **The name of the tag stays.** -/
theorem tagName_eq (h : Retells R s t) (hname : ∀ c ∈ tagName s, c ≠ '"' ∧ c ≠ '\'') :
    tagName t = tagName s := by
  generalize hn : tagName s = name at hname
  obtain ⟨rest, rfl, hall, hrest⟩ := exists_of_takeWhile_eq hn
  obtain ⟨t, rfl, ht⟩ := h.of_append hname
  exact takeWhile_stretch hall fun c hc => hrest c (ht.head?_eq ▸ hc)

/-- The attributes that are listed have the same names, and `R` holds of their values. -/
theorem lists {as : List Attribute} (h : Lists s as)
    (hnames : ∀ a ∈ as, ∀ c ∈ a.name, c ≠ '"' ∧ c ≠ '\'') (hst : Retells R s t) :
    ∃ bs, Lists t bs ∧ List.Forall₂ (fun a b => b.name = a.name ∧ R a.raw b.raw) as bs := by
  induction h generalizing t with
  | nil =>
    rw [hst.eq_nil]
    exact ⟨[], .nil, .nil⟩
  | @space c s as hc _ ih =>
    have hplain := ne_quote_of_isSpace (List.forall_mem_singleton.2 hc : ∀ d ∈ [c], _)
    obtain ⟨t, rfl, ht⟩ := of_append (p := [c]) hst hplain
    obtain ⟨bs, hbs, hall⟩ := ih hnames ht
    exact ⟨bs, .space hc hbs, hall⟩
  | @item c q more gap gap' raw s as hc hmore hgap hgap' hq hraw _ ih =>
    obtain ⟨hname, hnames⟩ := List.forall_mem_cons.1 hnames
    have hkey : ∀ d ∈ c :: (more ++ (gap ++ '=' :: gap')), d ≠ '"' ∧ d ≠ '\'' := by
      obtain ⟨hc, hmore⟩ := List.forall_mem_cons.1 hname
      refine List.forall_mem_cons.2 ⟨hc, List.forall_mem_append.2 ⟨hmore, ?_⟩⟩
      refine List.forall_mem_append.2 ⟨ne_quote_of_isSpace hgap, ?_⟩
      exact List.forall_mem_cons.2 ⟨by decide, ne_quote_of_isSpace hgap'⟩
    have hsplit (x : List Char) : c :: (more ++ (gap ++ '=' :: (gap' ++ x))) =
        c :: (more ++ (gap ++ '=' :: gap')) ++ x := by simp
    rw [hsplit] at hst
    obtain ⟨_, rfl, hvalue⟩ := of_append hst hkey
    obtain ⟨raw', t, rfl, hraw', hr, ht⟩ := of_value hq hraw hvalue
    obtain ⟨bs, hbs, hall⟩ := ih hnames ht
    rw [← hsplit]
    exact ⟨_, .item hc hmore hgap hgap' hq hraw' hbs, .cons ⟨rfl, hr⟩ hall⟩

/-- **The attributes that are read have the same names**, and `R` holds of their values. -/
theorem attributes {as : List Attribute} (h : Retells R s t)
    (hname : ∀ c ∈ tagName s, c ≠ '"' ∧ c ≠ '\'')
    (has : (Tag.ofSource s).attributes = (as, none))
    (hnames : ∀ a ∈ as, ∀ c ∈ a.name, c ≠ '"' ∧ c ≠ '\'') :
    ∃ bs, (Tag.ofSource t).attributes = (bs, none) ∧
      List.Forall₂ (fun a b => b.name = a.name ∧ R a.raw b.raw) as bs := by
  rw [Tag.attributes, Tag.ofSource] at has ⊢
  rw [h.tagName_eq hname]
  obtain ⟨rest, hs⟩ : tagName s <+: s := List.takeWhile_prefix _
  generalize tagName s = name at hs hname has ⊢
  subst hs
  obtain ⟨t, rfl, hrest⟩ := h.of_append hname
  simp only [List.drop_left] at has ⊢
  obtain ⟨_, hlists, rfl, hnodup, -⟩ := attributesFrom_eq_none_iff.1 has
  obtain ⟨bs, hbs, hall⟩ := lists hlists hnames hrest
  have hsame : as.map Attribute.name = bs.map Attribute.name := by
    rw [← List.forall₂_eq_eq_eq, List.forall₂_map_left_iff, List.forall₂_map_right_iff]
    exact hall.imp fun _ _ hab => hab.1.symm
  refine ⟨bs, attributesFrom_eq_none_iff.2 ⟨bs, hbs, rfl, ?_, fun _ _ => rfl⟩, hall⟩
  rwa [← hsame]

end Retells

end MediaScraper.Xml
