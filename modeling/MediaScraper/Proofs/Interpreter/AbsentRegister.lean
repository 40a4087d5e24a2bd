import MediaScraper.Proofs.Interpreter.Omission
import MediaScraper.Proofs.Library.Reading
import MediaScraper.Proofs.Template.Joining

/-!
# Registers that do not exist

A number that is greater than that of the last register names none, wherever it is written
(`absent_register`). In a template and in a pattern it has no text, however long it is. As an input
and as a target it has to fit a word of 64 bits, too; then the input is empty, and the write is one
that can be left out.

A longer number is no number as an input or as a target: the input is taken for a text, and the
target for register zero (`overflowing_register`).
-/

namespace MediaScraper.Interpreter

open Template

variable {t : Interpreter} {registers : Registers}

theorem readRegister_of_count_le {i : Nat} (h : Registers.count ≤ i) :
    t.readRegister registers i = "" := by
  rw [readRegister, Registers.get_of_le h]
  rfl

theorem registerText_of_count_le {digits : List Char} (hd : digits ≠ [])
    (hdigits : ∀ c ∈ digits, c.isDigit = true)
    (habsent : Registers.count ≤ Nat.ofDigitChars 10 digits 0) :
    (t.source registers).registerText digits = [] := by
  rw [Source.registerText, registerIndex?, Numeral.word?_of_isDigit hd hdigits]
  split
  · next i hi =>
    split_ifs at hi
    cases hi
    rw [source_register, readRegister_of_count_le habsent]
    rfl
  · rfl

section

variable {digits : String} (hd : digits.toList ≠ [])
  (hdigits : ∀ c ∈ digits.toList, c.isDigit = true)
include hd hdigits

theorem references_register :
    references ("$$" ++ digits) = (Numeral.word? digits.toList).toList := by
  have htext : ("$$" ++ digits).toList = [] ++ ('$' :: '$' :: digits.toList ++ []) := by
    rw [String.toList_append, List.nil_append, List.append_nil]
    rfl
  have hsegment : Text.segment register? ("$$" ++ digits).toList = [.token digits.toList] := by
    rw [htext, segment_register hd hdigits (fun c hc => by cases hc) []]
    rfl
  rw [references, Text.tokens, hsegment]
  show List.filterMap registerIndex? [digits.toList] = _
  rw [List.filterMap_cons, registerIndex?, List.filterMap_nil]
  cases Numeral.word? digits.toList <;> rfl

theorem resolveInput_of_count_le
    (habsent : Registers.count ≤ Nat.ofDigitChars 10 digits.toList 0)
    (hword : Nat.ofDigitChars 10 digits.toList 0 ≤ Numeral.maxWord) :
    t.resolveInput registers ("$$" ++ digits) = "" := by
  rw [resolveInput, references_register hd hdigits, Numeral.word?_of_isDigit hd hdigits,
    if_pos hword]
  show String.join [t.readRegister registers _] = ""
  rw [readRegister_of_count_le habsent]
  rfl

theorem target_openRule {attributes : List (List Char × String)} {append : Bool}
    (hdest : attributes.lookup "dest".toList =
      some (digits ++ if append then "+" else ""))
    (hword : Nat.ofDigitChars 10 digits.toList 0 ≤ Numeral.maxWord) :
    (Scraper.openRule attributes).target = Nat.ofDigitChars 10 digits.toList 0 ∧
      (Scraper.openRule attributes).append = append := by
  have htarget : Scraper.readTarget (attributes.lookup "dest".toList) =
      (Nat.ofDigitChars 10 digits.toList 0, append) := by
    have htext : digits ++ (if append then "+" else "") =
        .ofList (digits.toList ++ if append then ['+'] else []) := by
      refine String.toList_inj.1 ?_
      rw [String.toList_append, String.toList_ofList]
      cases append <;> rfl
    rw [hdest, htext, Scraper.readTarget_of_isDigit hdigits, Numeral.word?_of_isDigit hd hdigits,
      if_pos hword]
    rfl
  unfold Scraper.openRule
  rw [htarget]
  exact ⟨rfl, rfl⟩

/-- **Registers beyond the last one do not exist.** Let digits spell the number of none. In a
template and in a pattern, their token stands for nothing, whatever stands around it. If a word can
hold the number, then the token as an input is the empty text. A rule whose target is given by the
digits keeps all registers, however it ends. Where no run is stopped midway, it can be left out
wherever it stands: a run that ends does so on the same registers without it, and with the same
result, if nothing stops it. -/
theorem absent_register (habsent : Registers.count ≤ Nat.ofDigitChars 10 digits.toList 0) :
    (∀ (t : Interpreter) registers (s behind : String),
      (∀ c ∈ behind.toList.head?, ¬ c.isDigit = true) →
      (∀ groups, render (s ++ ("$$" ++ digits) ++ behind) groups (t.source registers) =
        render s groups (t.source registers) ++ render behind groups (t.source registers)) ∧
      fillRegisters (s ++ ("$$" ++ digits) ++ behind) (t.source registers) =
        fillRegisters s (t.source registers) ++ fillRegisters behind (t.source registers)) ∧
    (Nat.ofDigitChars 10 digits.toList 0 ≤ Numeral.maxWord →
      (∀ (t : Interpreter) registers, t.resolveInput registers ("$$" ++ digits) = "") ∧
      ∀ attributes append,
        attributes.lookup "dest".toList = some (digits ++ if append then "+" else "") →
        (Scraper.openRule attributes).append = append ∧
        (∀ (t : Interpreter) depth reserve input output append expression m r after,
          t.act (t.answer depth reserve) input output (Scraper.openRule attributes).target append
            expression m = some (r, after) → after.registers = m.registers) ∧
        ∀ t t' : Interpreter, t.settings = t'.settings → t.limits = t'.limits →
          t.limits.interruption? = none ∨ t.limits.delay = 0 →
          Scraper.Omits (Scraper.openRule attributes).target (t.scraper.flat t.holds) t'.scraper →
          ∀ reserve registers name inputs ending,
            t.endingWith? reserve registers name inputs = some ending →
            ∃ ending', t'.endingWith? reserve registers name inputs = some ending' ∧
              ending'.registers = ending.registers ∧
              (t.limits.interruption? = none → ending'.result = ending.result)) := by
  refine ⟨fun t registers s behind hbehind => ?_, fun hword => ⟨fun t registers => ?_, ?_⟩⟩
  · have hnothing : (t.source registers).registerText digits.toList = [] :=
      registerText_of_count_le hd hdigits habsent
    constructor
    · intro groups
      rw [render_register hd hdigits hbehind, hnothing, String.ofList_nil, String.append_empty]
    · rw [fillRegisters_register hd hdigits hbehind, hnothing, String.ofList_nil,
        String.append_empty]
  · exact resolveInput_of_count_le hd hdigits habsent hword
  · intro attributes append hdest
    obtain ⟨htarget, happend⟩ := target_openRule hd hdigits hdest hword
    rw [htarget]
    refine ⟨happend, fun t depth reserve input output append expression => ?_,
      fun t t' hs hl hmidway homits reserve registers name inputs ending hending => ?_⟩
    · exact keeps_act_of_count_le habsent depth reserve input output append expression
    · exact endingWith?_of_omits habsent hs hl hmidway homits hending

end

/-- A routine that consists of these rules. -/
def routineOf (rules : List Rule) : Interpreter :=
  ⟨⟨"sample", [⟨"Wide", true, 1, false, rules⟩]⟩, .empty, .none⟩

def keptRule : Rule := .mk "$$1" "[\\1]" 1 false none [] none

/-- The rule of an element with this target. -/
def lostRule (dest : String) : Rule :=
  Scraper.openRule [("dest".toList, dest), ("output".toList, "lost")]

theorem absent_register_twentyFive :
    render ("<" ++ ("$$" ++ "25") ++ ">") [] ((routineOf []).source .empty) =
        render "<" [] ((routineOf []).source .empty) ++
          render ">" [] ((routineOf []).source .empty) ∧
      (routineOf []).resolveInput .empty ("$$" ++ "25") = "" ∧
      ∃ ending ending',
        (routineOf [lostRule "25+", keptRule]).endingWith? 0 .empty "Wide" ["", "x"] =
            some ending ∧
          (routineOf [keptRule]).endingWith? 0 .empty "Wide" ["", "x"] = some ending' ∧
          ending'.registers = ending.registers := by
  obtain ⟨htemplates, hword⟩ :=
    absent_register (show "25".toList ≠ [] by decide) (by decide) (by decide)
  obtain ⟨hinputs, htargets⟩ := hword (by decide)
  obtain ⟨-, -, hruns⟩ :=
    htargets [("dest".toList, "25+"), ("output".toList, "lost")] true (by decide)
  have hends : ((routineOf [lostRule "25+", keptRule]).endingWith? 0 .empty "Wide"
      ["", "x"]).isSome = true := by decide
  obtain ⟨ending, hending⟩ := Option.isSome_iff_exists.1 hends
  obtain ⟨ending', hending', hregisters, -⟩ :=
    hruns (routineOf [lostRule "25+", keptRule]) (routineOf [keptRule]) rfl rfl
      (.inl rfl) (.cons (.mk _ (.drop rfl rfl (.keep keptRule .nil))) .nil) 0 .empty "Wide"
      ["", "x"] ending hending
  have hbehind : ∀ c ∈ ">".toList.head?, ¬ c.isDigit = true := by
    rintro _ ⟨⟩
    decide
  exact ⟨(htemplates (routineOf []) .empty "<" ">" hbehind).1 [], hinputs (routineOf []) .empty,
    ending, ending', hending, hending', hregisters⟩

/-- With a number that no word can hold, an input is taken for a text, and a target for register
zero. -/
theorem overflowing_register :
    (routineOf []).resolveInput .empty ("$$" ++ "18446744073709551616") =
        "$$18446744073709551616" ∧
      ((routineOf [lostRule "18446744073709551616", keptRule]).endingWith? 0 .empty "Wide"
        ["", "x"]).map (·.registers.get 0) = some "lost" ∧
      ((routineOf [keptRule]).endingWith? 0 .empty "Wide" ["", "x"]).map (·.registers.get 0) =
        some "" := by
  decide

end MediaScraper.Interpreter
