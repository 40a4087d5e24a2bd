import MediaScraper.Pattern.Basic
import MediaScraper.Proofs.Pattern.Compiled
import MediaScraper.Proofs.Pattern.Exhaustive

/-!
# The matches of a pattern

An expression may match in several ways from one place, and then precedence decides. Where there is
only one way, from every place at which the search stops, what is found follows from what the
expression matches alone: the matches stand one after the other, each at the first place behind the
one before from which the expression matches (`Regex.Finds`), and these are the matches of the
pattern (`findAll_ofRegex`).
-/

namespace MediaScraper.Pattern

namespace Regex

variable {r : Regex} {groups : Nat}

/-- From between two parts of a text, a match of the whole expression can remember these places. -/
def Remembers (r : Regex) (before rest : List Char) (w : Saves) : Prop :=
  ∃ stop saves, r.Matches (.between before rest, [(0, .between before rest)]) (stop, saves) ∧
    w = (1, stop) :: saves

theorem accepts_program_iff {before rest : List Char} {w : Saves} :
    r.program.Accepts (.between before rest) w ↔ r.Remembers before rest w :=
  r.exists_leads_program_iff

/-- From no place up to one does the expression match. -/
def SilentUpTo (r : Regex) (before passed behind : List Char) : Prop :=
  ∀ a b, passed = a ++ b → b ≠ [] → ∀ w, ¬ r.Remembers (before ++ a) (b ++ behind) w

/-- Matches that stand one after the other, each the only one from the first place that has any. -/
inductive Finds (r : Regex) (groups : Nat) : List Char → List Char → List Match → Prop
  | nil {before rest : List Char} :
      (∀ a b, rest = a ++ b → ∀ w, ¬ r.Remembers (before ++ a) b w) → Finds r groups before rest []
  | cons {before passed part behind : List Char} {w : Saves} {m : Match} {ms : List Match} :
      r.SilentUpTo before passed (part ++ behind) →
      (∀ w', r.Remembers (before ++ passed) (part ++ behind) w' ↔ w' = w) →
      Match.ofSaves? groups w = some m → m.whole = .between (before ++ passed) part behind →
      part ≠ [] → Finds r groups (before ++ passed ++ part) behind ms →
      Finds r groups before (passed ++ (part ++ behind)) (m :: ms)

theorem find?_eq_some {before passed behind : List Char} {w : Saves}
    (hpassed : r.SilentUpTo before passed behind)
    (hbehind : ∀ w', r.Remembers (before ++ passed) behind w' ↔ w' = w) :
    r.program.find? groups (Text.byteLength (before ++ (passed ++ behind)))
      (.between before (passed ++ behind)) = Match.ofSaves? groups w := by
  have hfinds := (Program.searchFrom_finds r.closed_program before (passed ++ behind)).of_append
    fun a b hab hb w hw => hpassed a b hab hb w (accepts_program_iff.1 hw)
  obtain ⟨w', hfound, hw'⟩ :=
    hfinds.exists_of_accepts (accepts_program_iff.2 ((hbehind w).2 rfl))
  obtain rfl := (hbehind w').1 (accepts_program_iff.1 hw')
  rw [Program.find?, Place.between, hfound, Option.bind_some]

theorem find?_eq_none {before rest : List Char}
    (h : ∀ a b, rest = a ++ b → ∀ w, ¬ r.Remembers (before ++ a) b w) :
    r.program.find? groups (Text.byteLength (before ++ rest)) (.between before rest) = none := by
  have hnone := (Program.searchFrom_finds r.closed_program before rest).eq_none
    fun a b hab w hw => h a b hab w (accepts_program_iff.1 hw)
  rw [Program.find?, Place.between, hnone, Option.bind_none]

theorem Finds.length_le {before rest : List Char} {ms : List Match}
    (h : r.Finds groups before rest ms) : ms.length ≤ Text.byteLength rest := by
  induction h with
  | nil => exact Nat.zero_le _
  | @cons before passed part behind w m ms _ _ _ _ hpart _ ih =>
    have hpos : Text.byteLength part ≠ 0 := fun h => hpart (Text.byteLength_eq_zero.1 h)
    rw [List.length_cons, Text.byteLength_append, Text.byteLength_append]
    omega

theorem Finds.findAllFrom_eq {before rest : List Char} {ms : List Match}
    (h : r.Finds groups before rest ms) {n : Nat} (hn : ms.length < n) (lastEnd : Option Nat) :
    r.program.findAllFrom groups (Text.byteLength (before ++ rest)) n (.between before rest)
      lastEnd = ms := by
  induction h generalizing n lastEnd with
  | nil hnone =>
    cases n with
    | zero => exact absurd hn (Nat.not_lt_zero _)
    | succ n => rw [Program.findAllFrom, Program.findNext?, find?_eq_none hnone]
  | @cons before passed part behind w m ms hpassed hunique hm hwhole hpart _ ih =>
    cases n with
    | zero => exact absurd hn (Nat.not_lt_zero _)
    | succ n =>
      have htext : before ++ (passed ++ (part ++ behind)) =
          before ++ passed ++ part ++ behind := by simp
      have hne : ¬ (m.whole.isEmpty = true ∧ lastEnd = some m.whole.stop.offset) := by
        rw [hwhole, Span.isEmpty_between hpart]
        exact fun h => Bool.false_ne_true h.1
      rw [Program.findAllFrom, Program.findNext?, find?_eq_some hpassed hunique, hm]
      simp only [if_neg hne]
      rw [htext, hwhole]
      exact congrArg (m :: ·) (ih (Nat.lt_of_succ_lt_succ hn) _)

end Regex

/-- **The matches of a pattern.** -/
theorem findAll_ofRegex {r : Regex} {text : String} {ms : List Match} (source : List Char)
    (h : r.Finds r.groupCount [] text.toList ms) : (ofRegex source r).findAll text = ms := by
  have hlength := h.length_le
  have hall := h.findAllFrom_eq (n := Text.byteLength text.toList + 2) (by omega) none
  rwa [List.nil_append, ← Text.utf8ByteSize_eq_byteLength] at hall

end MediaScraper.Pattern
