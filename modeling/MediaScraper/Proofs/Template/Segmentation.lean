import MediaScraper.Proofs.Template
import MediaScraper.Proofs.Text.Cut
import MediaScraper.Proofs.Text.Numeral
import MediaScraper.Proofs.Text.Search
import Mathlib.Data.List.TakeDrop

/-!
# The segments of a template

**Segmentation.** The text of a template alone says where it is cut: at every group token, then what
is left at every register token, then what is left then at every setting token (`IsSegmentation`).
There is one such segmentation, which can be computed (`segments`).

**Rendering.** A rendered template is its segments, one after the other: literals as they stand, and
for each token the text that it stands for. As the segmentation does not depend on any of these
texts, nothing that is put in is looked at again, and nothing that is put in makes a token with what
stands next to it.
-/

namespace MediaScraper.Template

open Text

/-! ## Kinds of tokens -/

/-- A group token: a backslash and a digit. -/
def GroupToken : TokenKind Nat := fun i w _ => i < 10 ∧ w = ['\\', Nat.digitChar i]

/-- A register token: two dollar signs and a run of digits, with no digit behind it. -/
def RegisterToken : TokenKind (List Char) := fun d w rest =>
  (d ≠ [] ∧ ∀ c ∈ d, c.isDigit = true) ∧ (∀ c ∈ rest.head?, ¬ c.isDigit = true) ∧
    w = '$' :: '$' :: d

/-- A setting token: a key between brackets, not empty and without a closing bracket. -/
def PropertyToken : TokenKind (List Char) := fun key w _ =>
  (key ≠ [] ∧ ']' ∉ key) ∧ w = "$INFO[".toList ++ key ++ [']']

theorem isDigit_iff_digitChar {c : Char} :
    c.isDigit = true ↔ ∃ i, i < 10 ∧ c = Nat.digitChar i := by
  constructor
  · intro h
    simp only [Char.isDigit, Bool.and_eq_true, decide_eq_true_eq, UInt32.le_iff_toNat_le] at h
    have hlow : 48 ≤ c.toNat := h.1
    have hhigh : c.toNat ≤ 57 := h.2
    refine ⟨c.toNat - 48, by omega, Char.toNat_inj.1 ?_⟩
    rw [Nat.toNat_digitChar_of_lt_ten (by omega)]
    omega
  · rintro ⟨i, hi, rfl⟩
    rw [Nat.isDigit_digitChar, decide_eq_true hi]

theorem reads_group? : Reads group? GroupToken where
  ne_nil := by
    rintro i w rest ⟨-, rfl⟩
    exact List.cons_ne_nil _ _
  sound := by
    intro s i n h
    unfold group? at h
    split at h
    · next c cs =>
      split at h
      · next hc =>
        cases h
        obtain ⟨i, hi, rfl⟩ := isDigit_iff_digitChar.1 hc
        refine ⟨['\\', Nat.digitChar i], cs, rfl, rfl, ?_, ?_⟩
        · rwa [Nat.toNat_digitChar_of_lt_ten hi, show '0'.toNat = 48 from rfl,
            Nat.add_sub_cancel_left]
        · rw [Nat.toNat_digitChar_of_lt_ten hi, show '0'.toNat = 48 from rfl,
            Nat.add_sub_cancel_left]
      · cases h
    · cases h
  complete := by
    rintro i w rest ⟨hi, rfl⟩
    have hdigit : (Nat.digitChar i).isDigit = true := isDigit_iff_digitChar.2 ⟨i, hi, rfl⟩
    rw [List.cons_append, List.cons_append, group?, if_pos hdigit,
      Nat.toNat_digitChar_of_lt_ten hi, show '0'.toNat = 48 from rfl, Nat.add_sub_cancel_left]
    rfl

theorem reads_register? : Reads register? RegisterToken where
  ne_nil := by
    rintro d w rest ⟨-, -, rfl⟩
    exact List.cons_ne_nil _ _
  sound := by
    intro s d n h
    obtain ⟨rest, rfl, hne, hd, hrest, rfl⟩ := register?_eq_some h
    exact ⟨'$' :: '$' :: d, rest, rfl, rfl, ⟨hne, hd⟩, hrest, rfl⟩
  complete := by
    rintro d w rest ⟨⟨hne, hd⟩, hrest, rfl⟩
    exact register?_of_digits hne hd hrest

/-- What follows an opening is a token if a bracket closes it, and not at once. -/
theorem property?_append (behind : List Char) :
    property? ("$INFO[".toList ++ behind) =
      if behind.takeWhile (· ≠ ']') = [] ∨ behind.dropWhile (· ≠ ']') = [] then none
      else some (behind.takeWhile (· ≠ ']'), (behind.takeWhile (· ≠ ']')).length + 7) := by
  have hopen : "$INFO[".toList.isPrefixOf? ("$INFO[".toList ++ behind) = some behind :=
    List.isPrefixOf?_eq_some_iff_append_eq.2 rfl
  rw [property?, hopen]
  simp only [List.span_eq_takeWhile_dropWhile, List.isEmpty_iff]
  cases behind.dropWhile (fun c => decide (c ≠ ']')) with
  | nil => simp
  | cons c rest => simp

theorem length_propertySource (key : List Char) :
    ("$INFO[".toList ++ key ++ [']']).length = key.length + 7 := by
  have hopen : "$INFO[".toList.length = 6 := by decide
  rw [List.length_append, List.length_append, hopen, List.length_singleton]
  omega

theorem reads_property? : Reads property? PropertyToken where
  ne_nil := by
    rintro key w rest ⟨-, rfl⟩
    exact List.cons_ne_nil _ _
  sound := by
    intro s key n h
    cases hs : "$INFO[".toList.isPrefixOf? s with
    | none => rw [property?, hs] at h; cases h
    | some behind =>
      obtain rfl := List.isPrefixOf?_eq_some_iff_append_eq.1 hs
      rw [property?_append] at h
      split at h
      · cases h
      · next hne =>
        cases h
        obtain ⟨hkey, hbehind⟩ := not_or.1 hne
        obtain ⟨c, rest, hrest⟩ := List.exists_cons_of_ne_nil hbehind
        have hclose : c = ']' := by
          have hhead := List.head?_dropWhile_not (fun d => decide (d ≠ ']')) behind
          rw [hrest] at hhead
          simpa using hhead
        subst hclose
        refine ⟨_, rest, ?_, (length_propertySource _).symm, ⟨hkey, fun hmem => ?_⟩, rfl⟩
        · rw [List.append_assoc, List.append_assoc, List.singleton_append, ← hrest,
            List.takeWhile_append_dropWhile]
        · simpa using List.mem_takeWhile_imp hmem
  complete := by
    rintro key w rest ⟨⟨hne, hkey⟩, rfl⟩
    have hall : ∀ c ∈ key, decide (c ≠ ']') = true := fun c hc =>
      decide_eq_true fun heq => hkey (heq ▸ hc)
    have htake : (key ++ ']' :: rest).takeWhile (fun c => decide (c ≠ ']')) = key := by
      rw [List.takeWhile_append_of_pos hall]
      simp
    have hdrop : (key ++ ']' :: rest).dropWhile (fun c => decide (c ≠ ']')) = ']' :: rest := by
      rw [List.dropWhile_append_of_pos hall]
      simp
    rw [length_propertySource, List.append_assoc, List.append_assoc, List.singleton_append,
      property?_append, htake, hdrop, if_neg (not_or.2 ⟨hne, List.cons_ne_nil _ _⟩)]

/-! ## Segments -/

/-- A part of a template: a literal stretch, or a token. -/
inductive Segment where
  | literal (s : List Char)
  | group (index : Nat)
  | register (digits : List Char)
  | property (key : List Char)

namespace Segment

/-- How a segment stands in the template. -/
def source : Segment → List Char
  | literal s => s
  | group i => ['\\', Nat.digitChar i]
  | register d => '$' :: '$' :: d
  | property key => "$INFO[".toList ++ key ++ [']']

/-- What stands for a segment in the rendered text: a literal itself, and for a token its group,
register or setting. There is nothing for a group that does not exist, nor for a register whose
number does not fit a word. -/
def text (groups : List String) (src : Source) : Segment → List Char
  | literal s => s
  | group i => (groups[i]?.getD "").toList
  | register d =>
    if Nat.ofDigitChars 10 d 0 ≤ Numeral.maxWord then
      (src.register (Nat.ofDigitChars 10 d 0)).toList
    else []
  | property key => (src.property (.ofList key)).toList

def ofPiece {τ : Type} (token : τ → Segment) : Piece τ → Segment
  | .plain s => literal s
  | .token t => token t

end Segment

/-- `CutsLiterals kind token segs segs'`: each literal is cut at every token of the kind, and the
other segments stay. -/
inductive CutsLiterals {τ : Type} (kind : TokenKind τ) (token : τ → Segment) :
    List Segment → List Segment → Prop
  | nil : CutsLiterals kind token [] []
  | literal {s : List Char} {pieces : List (Piece τ)} {segs segs' : List Segment} :
      Cuts kind s pieces → CutsLiterals kind token segs segs' →
      CutsLiterals kind token (.literal s :: segs) (pieces.map (.ofPiece token) ++ segs')
  | token {seg : Segment} {segs segs' : List Segment} :
      (∀ s, seg ≠ .literal s) → CutsLiterals kind token segs segs' →
      CutsLiterals kind token (seg :: segs) (seg :: segs')

/-- `IsSegmentation s segs`: the text is cut at every group token, the literals left by that at
every register token, and the literals left by that at every setting token. -/
def IsSegmentation (s : List Char) (segs : List Segment) : Prop :=
  ∃ byGroups byRegisters, CutsLiterals GroupToken .group [.literal s] byGroups ∧
    CutsLiterals RegisterToken .register byGroups byRegisters ∧
    CutsLiterals PropertyToken .property byRegisters segs

section

variable {τ : Type} {read : List Char → Option (τ × Nat)} {kind : TokenKind τ} {token : τ → Segment}

/-- Cut the literals of some segments. -/
def cutLiterals (read : List Char → Option (τ × Nat)) (token : τ → Segment)
    (segs : List Segment) : List Segment :=
  segs.flatMap fun
    | .literal s => (segment read s).map (.ofPiece token)
    | seg => [seg]

theorem CutsLiterals.iff (h : Reads read kind) {segs segs' : List Segment} :
    CutsLiterals kind token segs segs' ↔ segs' = cutLiterals read token segs := by
  constructor
  · intro hcuts
    induction hcuts with
    | nil => rfl
    | literal hs _ ih => rw [h.cuts_iff.1 hs, ih]; rfl
    | @token seg _ _ hseg _ ih =>
      rw [ih]
      cases seg with
      | literal s => exact absurd rfl (hseg s)
      | group i => rfl
      | register d => rfl
      | property key => rfl
  · rintro rfl
    induction segs with
    | nil => exact .nil
    | cons seg segs ih =>
      cases seg with
      | literal s => exact .literal (h.cuts_iff.2 rfl) ih
      | group i => exact .token nofun ih
      | register d => exact .token nofun ih
      | property key => exact .token nofun ih

end

/-- The segments of a template. -/
def segments (s : List Char) : List Segment :=
  cutLiterals property? .property <| cutLiterals register? .register <|
    cutLiterals group? .group [.literal s]

theorem isSegmentation_iff {s : List Char} {segs : List Segment} :
    IsSegmentation s segs ↔ segs = segments s := by
  simp only [IsSegmentation, CutsLiterals.iff reads_group?, CutsLiterals.iff reads_register?,
    CutsLiterals.iff reads_property?, exists_and_left, exists_eq_left, segments]

/-! ## What segments are written like -/

section

variable {τ : Type} {kind : TokenKind τ} {token : τ → Segment}

theorem flatMap_source_stretch (token : τ → Segment) (p : List Char) :
    ((stretchPieces p).map (.ofPiece token)).flatMap Segment.source = p := by
  unfold stretchPieces
  split
  · next h => exact h.symm
  · exact List.append_nil p

theorem flatMap_source_of_cuts (hsource : ∀ t w rest, kind t w rest → (token t).source = w)
    {s : List Char} {pieces : List (Piece τ)} (h : Cuts kind s pieces) :
    (pieces.map (.ofPiece token)).flatMap Segment.source = s := by
  induction h with
  | rest => exact flatMap_source_stretch token _
  | @token p w rest t _ _ ht _ ih =>
    rw [List.map_append, List.flatMap_append, flatMap_source_stretch, List.map_cons,
      List.flatMap_cons, ih, Segment.ofPiece, hsource t w rest ht]

theorem CutsLiterals.flatMap_source (hsource : ∀ t w rest, kind t w rest → (token t).source = w)
    {segs segs' : List Segment} (h : CutsLiterals kind token segs segs') :
    segs'.flatMap Segment.source = segs.flatMap Segment.source := by
  induction h with
  | nil => rfl
  | literal hs _ ih =>
    rw [List.flatMap_append, flatMap_source_of_cuts hsource hs, ih, List.flatMap_cons]
    rfl
  | token _ _ ih => rw [List.flatMap_cons, List.flatMap_cons, ih]

theorem CutsLiterals.forall {P : Segment → Prop} (hliteral : ∀ s, P (.literal s))
    (htoken : ∀ t w rest, kind t w rest → P (token t)) {segs segs' : List Segment}
    (h : CutsLiterals kind token segs segs') (hsegs : ∀ seg ∈ segs, P seg) :
    ∀ seg ∈ segs', P seg := by
  have hpieces {s : List Char} {pieces : List (Piece τ)} (hs : Cuts kind s pieces) :
      ∀ piece ∈ pieces, P (.ofPiece token piece) := by
    have hstretch (p : List Char) :
        ∀ piece ∈ (stretchPieces p : List (Piece τ)), P (.ofPiece token piece) := by
      intro piece hmem
      unfold stretchPieces at hmem
      split at hmem
      · cases hmem
      · rw [List.mem_singleton.1 hmem]
        exact hliteral p
    induction hs with
    | rest => exact hstretch _
    | @token p w rest t _ _ ht _ ih =>
      exact List.forall_mem_append.2 ⟨hstretch p, List.forall_mem_cons.2 ⟨htoken t w rest ht, ih⟩⟩
  induction h with
  | nil => exact hsegs
  | literal hs _ ih =>
    refine List.forall_mem_append.2 ⟨fun seg hmem => ?_, ih (List.forall_mem_cons.1 hsegs).2⟩
    obtain ⟨piece, hpiece, rfl⟩ := List.mem_map.1 hmem
    exact hpieces hs piece hpiece
  | token _ _ ih =>
    obtain ⟨hseg, hsegs⟩ := List.forall_mem_cons.1 hsegs
    exact List.forall_mem_cons.2 ⟨hseg, ih hsegs⟩

end

/-! ## Rendering -/

namespace Segment

/-- A segment as a part of a template that is being rendered. -/
def part (groups : List String) (src : Source) : Segment → Part
  | literal s => .opened s
  | group i => .final (Source.groupText groups i)
  | register d => .final (src.registerText d)
  | property key => .final (src.propertyText key)

/-- The digits of a register segment are digits. -/
def HasDigits : Segment → Prop
  | register d => d ≠ [] ∧ ∀ c ∈ d, c.isDigit = true
  | _ => True

theorem text_part (groups : List String) (src : Source) {seg : Segment} (h : seg.HasDigits) :
    (seg.part groups src).text = seg.text groups src := by
  cases seg with
  | literal s => rfl
  | group i =>
    show Source.groupText groups i = _
    rw [Source.groupText, text]
    cases groups[i]? <;> rfl
  | register d =>
    show src.registerText d = _
    rw [Source.registerText, registerIndex?, Numeral.word?_of_isDigit h.1 h.2, text]
    by_cases hle : Nat.ofDigitChars 10 d 0 ≤ Numeral.maxWord
    · rw [if_pos hle, if_pos hle]
    · rw [if_neg hle, if_neg hle]
  | property key => rfl

end Segment

theorem fill_map_part {τ : Type} (read : List Char → Option (τ × Nat)) {token : τ → Segment}
    (value : τ → List Char) {groups : List String} {src : Source}
    (hvalue : ∀ t, (token t).part groups src = .final (value t)) (segs : List Segment) :
    fill read value (segs.map (Segment.part groups src)) =
      (cutLiterals read token segs).map (Segment.part groups src) := by
  rw [fill, cutLiterals, List.flatMap_map, List.map_flatMap]
  refine List.flatMap_congr fun seg _ => ?_
  cases seg with
  | literal s =>
    rw [List.map_map]
    refine List.map_congr_left fun piece _ => ?_
    cases piece with
    | plain p => rfl
    | token t => exact (hvalue t).symm
  | group i => rfl
  | register d => rfl
  | property key => rfl

theorem toList_join_map_part {groups : List String} {src : Source} {segs : List Segment}
    (h : ∀ seg ∈ segs, seg.HasDigits) :
    (join (segs.map (Segment.part groups src))).toList =
      segs.flatMap (Segment.text groups src) := by
  rw [join, String.toList_ofList, List.flatMap_map]
  exact List.flatMap_congr fun seg hseg => Segment.text_part groups src (h seg hseg)

/-! ## Looking first whether a token can stand there -/

theorem join_fill_of_avoids {τ : Type} {read : List Char → Option (τ × Nat)} {kind : TokenKind τ}
    (h : Reads read kind) (value : τ → List Char) {s : String} (hs : kind.Avoids s.toList []) :
    join (fill read value [.opened s.toList]) = s := by
  have hsegment : segment read s.toList = stretchPieces s.toList := (h.cuts_iff.1 (.rest hs)).symm
  simp only [fill, List.flatMap_singleton, hsegment, stretchPieces, join]
  split
  · next hnil => rw [String.toList_eq_nil_iff.1 hnil]; rfl
  · simp [Part.text]

/-- A text in which no tokens of a kind can begin, since what they begin with does not occur. -/
theorem avoids_of_not_occursIn {τ : Type} {kind : TokenKind τ} {opener : List Char}
    (hkind : ∀ t w rest, kind t w rest → opener <+: w) {s : List Char}
    (h : ¬ occursIn opener s = true) : kind.Avoids s [] := by
  rintro u hu - ⟨t, w, rest, heq, ht⟩
  rw [List.append_nil] at heq
  have hprefix : opener <+: u := heq ▸ (hkind t w rest ht).trans (List.prefix_append w rest)
  have hstart : opener <:+: u := List.IsPrefix.isInfix hprefix
  have hwhole : u <:+: s := List.IsSuffix.isInfix hu
  exact h (occursIn_iff.2 (hstart.trans hwhole))

/-- **Looking first does not change what is written** for registers. -/
theorem fillRegisters_eq_join (s : String) (src : Source) :
    fillRegisters s src = join (fill register? src.registerText [.opened s.toList]) := by
  rw [fillRegisters]
  split
  · rfl
  · next h =>
    refine (join_fill_of_avoids reads_register? _ (avoids_of_not_occursIn ?_ h)).symm
    rintro d w rest ⟨-, -, rfl⟩
    exact ⟨d, rfl⟩

/-- **Looking first does not change what is written** for settings. -/
theorem fillProperties_eq_join (s : String) (src : Source) :
    fillProperties s src = join (fill property? src.propertyText [.opened s.toList]) := by
  rw [fillProperties]
  split
  · rfl
  · next h =>
    refine (join_fill_of_avoids reads_property? _ (avoids_of_not_occursIn ?_ h)).symm
    rintro key w rest ⟨-, rfl⟩
    exact ⟨key ++ [']'], (List.append_assoc ..).symm⟩

/-! ## The law of templates -/

theorem hasDigits_segments (s : List Char) : ∀ seg ∈ segments s, seg.HasDigits := by
  obtain ⟨byGroups, byRegisters, hgroups, hregisters, hproperties⟩ :=
    isSegmentation_iff.2 (rfl : segments s = segments s)
  refine hproperties.forall (fun _ => trivial) (fun _ _ _ _ => trivial) ?_
  refine hregisters.forall (fun _ => trivial) (fun d w rest h => h.1) ?_
  refine hgroups.forall (fun _ => trivial) (fun _ _ _ _ => trivial) ?_
  exact List.forall_mem_singleton.2 trivial

theorem flatMap_source_segments (s : List Char) : (segments s).flatMap Segment.source = s := by
  obtain ⟨byGroups, byRegisters, hgroups, hregisters, hproperties⟩ :=
    isSegmentation_iff.2 (rfl : segments s = segments s)
  rw [hproperties.flatMap_source fun key w rest h => h.2.symm,
    hregisters.flatMap_source fun d w rest h => h.2.2.symm,
    hgroups.flatMap_source fun i w rest h => h.2.symm]
  exact List.append_nil s

theorem toList_render (s : String) (groups : List String) (src : Source) :
    (render s groups src).toList = (segments s.toList).flatMap (Segment.text groups src) := by
  rw [← toList_join_map_part (hasDigits_segments _), segments,
    ← fill_map_part property? src.propertyText fun _ => rfl,
    ← fill_map_part register? src.registerText fun _ => rfl,
    ← fill_map_part group? (Source.groupText groups) fun _ => rfl]
  rfl

theorem exists_segments {τ : Type} {read : List Char → Option (τ × Nat)} {kind : TokenKind τ}
    (h : Reads read kind) (token : τ → Segment)
    (hsource : ∀ t w rest, kind t w rest → (token t).source = w)
    (hdigits : ∀ t w rest, kind t w rest → (token t).HasDigits) {value : Source → τ → List Char}
    (hvalue : ∀ src t, (token t).part [] src = .final (value src t)) (s : List Char) :
    ∃ segs, (∀ segs', CutsLiterals kind token [.literal s] segs' ↔ segs' = segs) ∧
      segs.flatMap Segment.source = s ∧
      ∀ src, (join (fill read (value src) [.opened s])).toList =
        segs.flatMap (Segment.text [] src) := by
  have hcuts : CutsLiterals kind token [.literal s] (cutLiterals read token [.literal s]) :=
    (CutsLiterals.iff h).2 rfl
  refine ⟨_, fun _ => CutsLiterals.iff h, ?_, fun src => ?_⟩
  · rw [hcuts.flatMap_source hsource]
    exact List.append_nil s
  · rw [← toList_join_map_part
        (hcuts.forall (fun _ => trivial) hdigits (List.forall_mem_singleton.2 trivial)),
      ← fill_map_part read (value src) (hvalue src)]
    rfl

/-- **Templates are hygienic.** The text of a template alone cuts it, in one way, into literals and
tokens of three kinds: at every group token, then at every register token of the literals left, then
at every setting token of those left then. Whatever groups, registers and settings hold, the
rendered text is these segments one after the other: literals as they stand, and the text of each
token. Replacing registers alone, or settings alone, follows the same law for the one kind. -/
theorem render_eq_segments (s : String) :
    (∃ segs, (∀ segs', IsSegmentation s.toList segs' ↔ segs' = segs) ∧
      segs.flatMap Segment.source = s.toList ∧
      ∀ groups src, (render s groups src).toList = segs.flatMap (Segment.text groups src)) ∧
    (∃ segs, (∀ segs', CutsLiterals RegisterToken .register [.literal s.toList] segs' ↔
        segs' = segs) ∧
      segs.flatMap Segment.source = s.toList ∧
      ∀ src, (fillRegisters s src).toList = segs.flatMap (Segment.text [] src)) ∧
    ∃ segs, (∀ segs', CutsLiterals PropertyToken .property [.literal s.toList] segs' ↔
        segs' = segs) ∧
      segs.flatMap Segment.source = s.toList ∧
      ∀ src, (fillProperties s src).toList = segs.flatMap (Segment.text [] src) := by
  refine ⟨⟨segments s.toList, fun _ => isSegmentation_iff, flatMap_source_segments _,
    toList_render s⟩, ?_, ?_⟩
  · simp only [fillRegisters_eq_join]
    exact exists_segments reads_register? .register (fun d w rest h => h.2.2.symm)
      (fun d w rest h => h.1) (fun _ _ => rfl) s.toList
  · simp only [fillProperties_eq_join]
    exact exists_segments reads_property? .property (fun key w rest h => h.2.symm)
      (fun _ _ _ _ => trivial) (fun _ _ => rfl) s.toList

/-- A group token ends the number of a register before it, whatever the group holds, and leaves no
setting token of what stands around it. -/
example : segments "$$1\\2$INFO[a\\3]".toList =
    [.register ['1'], .group 2, .literal "$INFO[a".toList, .group 3, .literal [']']] := by
  rfl

end MediaScraper.Template
