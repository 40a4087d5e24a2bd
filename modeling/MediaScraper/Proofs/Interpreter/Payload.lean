import MediaScraper.Proofs.Interpreter.Inertness
import MediaScraper.Proofs.Interpreter.Likeness

/-!
# The payload of a chain

The first chain of a text reaches to the last end tag behind it (`chainFrom?_first`). So a chain
whose end tag is the last one of the text gets what stands between its tags: the routine runs with
exactly this text in register 1, and its result takes the place of the whole text
(`dispatch_payload`).

A chain that another one follows gets both (`payload_of_two`).
-/

namespace MediaScraper

namespace Call

/-! ## Where a chain ends -/

/-- The last end tag is the first one from the back. -/
theorem beforeLastEnd?_append {payload behind : List Char} (h : ¬ chainEnd <:+: behind) :
    beforeLastEnd? (payload ++ chainEnd ++ behind) = some payload := by
  obtain ⟨ds, hds, hbracket⟩ : ∃ ds, chainEnd.reverse = ds ++ ['<'] ∧ '<' ∉ ds :=
    ⟨"/chain>".toList.reverse, rfl, by decide⟩
  have hbehind : ¬ ds ++ ['<'] <:+: behind.reverse := by rwa [← hds, List.reverse_infix]
  rw [beforeLastEnd?, List.reverse_append, List.reverse_append, ← List.append_assoc, hds,
    Text.breakAt?_of_not_infix ds hbracket hbehind, Option.map_some, List.reverse_reverse]

/-! ## Where a chain begins -/

/-- A beginning that reaches over the front of another one would hold its bracket. -/
theorem not_prefix_of_not_infix {u rest : List Char} (hne : u ≠ [])
    (h : ¬ "<chain".toList <:+: u) : ¬ chainStart <+: u ++ (chainStart ++ rest) := by
  intro hstart
  have hname : "<chain".toList <+: chainStart := by decide
  rcases Nat.lt_or_ge u.length "<chain".toList.length with hlt | hge
  · obtain ⟨c, u, rfl⟩ := List.exists_cons_of_ne_nil hne
    have hover : c :: u ++ ['<'] <+: chainStart := by
      refine List.prefix_of_prefix_length_le ?_ hstart ?_
      · exact (List.prefix_append_right_inj _).2 ⟨chainStart.tail ++ rest, rfl⟩
      · rw [List.length_append]
        exact Nat.le_trans hlt hname.length_le
    have hin : '<' ∈ chainStart.tail :=
      (List.cons_prefix_cons.1 hover).2.subset (List.mem_append_right u List.mem_cons_self)
    exact absurd hin (by decide)
  · exact h (List.prefix_of_prefix_length_le (hname.trans hstart) (List.prefix_append u _) hge).isInfix

theorem chainFrom?_append {before : List Char} (h : ¬ "<chain".toList <:+: before)
    (rest : List Char) :
    chainFrom? (before ++ (chainStart ++ rest)) = chainFrom? (chainStart ++ rest) := by
  induction before with
  | nil => rfl
  | cons c before ih =>
    rw [List.cons_append, chainFrom?_cons_of_not_prefix, ih]
    · exact fun hwithin => h (hwithin.trans (List.suffix_cons c before).isInfix)
    · exact not_prefix_of_not_infix (List.cons_ne_nil c before) h

theorem chainFrom?_chainStart {name : List Char} (hname : '"' ∉ name) (rest : List Char) :
    chainFrom? (chainStart ++ (name ++ nameEnd ++ rest)) =
      (beforeLastEnd? rest).map fun payload => (name, payload) := by
  have hstart : chainStart.isPrefixOf? ('<' :: (chainStart.tail ++ (name ++ nameEnd ++ rest))) =
      some (name ++ nameEnd ++ rest) := List.isPrefixOf?_eq_some_iff_append_eq.2 rfl
  show chainFrom? ('<' :: (chainStart.tail ++ (name ++ nameEnd ++ rest))) = _
  rw [chainFrom?, hstart, Option.bind_some, chainName?_eq_some_iff.2 ⟨rfl, hname⟩]

/-- **The first chain** of a text reaches to the last end tag. -/
theorem chainFrom?_first {before name payload behind : List Char}
    (hbefore : ¬ "<chain".toList <:+: before) (hname : '"' ∉ name)
    (hbehind : ¬ chainEnd <:+: behind) :
    chainFrom? (before ++ (chainStart ++ (name ++ nameEnd ++ (payload ++ chainEnd ++ behind)))) =
      some (name, payload) := by
  rw [chainFrom?_append hbefore, chainFrom?_chainStart hname, beforeLastEnd?_append hbehind,
    Option.map_some]

/-! ## Elements that do not call -/

theorem site?_eq_none {text : String} (h : ∀ node ∈ (Html.Forest.ofFragment text).order,
    (Html.Forest.ofFragment text).mayCall node = false) : site? text = none := by
  have hfind : (Html.Forest.ofFragment text).order.find?
      (Html.Forest.ofFragment text).mayCall = none :=
    List.find?_eq_none.2 fun node hnode => by simp [h node hnode]
  have hnone : Html.callSite? text = none := by
    rw [Html.callSite?]
    simp only [hfind]
    rfl
  rw [site?, hnone, ite_self]

end Call

namespace Interpreter

/-- **A chain whose end tag is the last one gets its payload**: its routine runs one level deeper
with exactly the payload in register 1, and the result replaces the text. -/
theorem dispatch_payload (t : Interpreter) (depth : Nat) (before name payload behind : String)
    {routine : Routine} (hbefore : ¬ "<chain".toList <:+: before.toList) (hname : '"' ∉ name.toList)
    (hbehind : ¬ Call.chainEnd <:+: behind.toList) (hblank : allBlank name = false)
    (hfind : t.scraper.find? name = some routine)
    (hdepth : ∀ limit ∈ t.limits.callDepth, depth < limit) {text : String}
    (htext : text =
      before ++ "<chain function=\"" ++ name ++ "\">" ++ payload ++ "</chain>" ++ behind)
    (hsole : ∀ node ∈ (Html.Forest.ofFragment text).order,
      (Html.Forest.ofFragment text).mayCall node = false) (reserve : Nat) (m : Machine) :
    (((routine.entry m.registers).load ["", payload]).get 1 = payload) ∧
      dispatch (t.answer depth (reserve + 1)) text m =
        (t.runRoutine (t.answer (depth + 1) reserve) routine ["", payload]
          ⟨m.registers, ⟨depth, name, none⟩ :: m.calls, m.passed⟩).map fun r =>
            (r.1.map (Call.chainResult name), { r.2 with registers := m.registers }) := by
  have hchain : Call.chain? text = some (name, payload) := by
    have hlist : text.toList = before.toList ++ (Call.chainStart ++ (name.toList ++ Call.nameEnd ++
        (payload.toList ++ Call.chainEnd ++ behind.toList))) := by
      simp only [htext, String.toList_append, List.append_assoc]
      rfl
    rw [Call.chain?, hlist, Call.chainFrom?_first hbefore hname hbehind, Option.map_some,
      String.ofList_toList, String.ofList_toList]
  constructor
  · rw [Registers.get_load (by decide)]
    rfl
  · simp only [dispatch, dispatchWith, Call.site?_eq_none hsole, pure_bind, hchain]
    show Option.bind (t.answer depth (reserve + 1) name payload m) _ = _
    rw [answer_succ_apply (callee_eq_ok.2 ⟨hblank, hfind, hdepth⟩)]
    rcases t.runRoutine (t.answer (depth + 1) reserve) routine ["", payload]
      ⟨m.registers, ⟨depth, name, none⟩ :: m.calls, m.passed⟩ with _ | ⟨e | result, after⟩ <;> rfl

/-- A routine that puts brackets around its input. -/
def bracketing : Interpreter :=
  ⟨⟨"sample", [⟨"F", true, 3, false, [.mk "$$1" "[\\1]" 3 false none [] none]⟩]⟩, .empty, .none⟩

/-- A chain in a chain. -/
def nestedText : String := "a <chain function=\"F\"><chain>x</chain></chain> <i>b</i>"

/-- The payload may be a chain itself. -/
theorem dispatch_payload_nestedText :
    (dispatch (bracketing.answer 0 1) nestedText ⟨.empty, [], 0⟩).map (fun r => (r.1, r.2.calls)) =
      some (.ok "<F>[<chain>x</chain>]</F>", [⟨0, "F", none⟩]) := by
  have hsole : ∀ node ∈ (Html.Forest.ofFragment nestedText).order,
      (Html.Forest.ofFragment nestedText).mayCall node = false := by decide
  have hpayload := (dispatch_payload bracketing 0 "a " "F" "<chain>x</chain>" " <i>b</i>" (by decide)
    (by decide) (by decide) (by decide) rfl (by rintro limit ⟨⟩) (by decide) hsole 0
    ⟨.empty, [], 0⟩).2
  rw [hpayload]
  simp only [bracketing, runRoutine, runRules, runRule, act]
  decide

/-- Two chains side by side. -/
def twoChains : String := "<chain function=\"F\">a</chain> <chain function=\"F\">b</chain>"

/-- **The first of two chains** gets what stands before the last end tag. -/
theorem payload_of_two :
    (∀ node ∈ (Html.Forest.ofFragment twoChains).order,
      (Html.Forest.ofFragment twoChains).mayCall node = false) ∧
      Call.chain? twoChains = some ("F", "a</chain> <chain function=\"F\">b") ∧
      (dispatch (bracketing.answer 0 1) twoChains ⟨.empty, [], 0⟩).map (·.1) =
        some (.ok "<F>[a</chain> <chain function=\"F\">b]</F>") := by
  have hsole : ∀ node ∈ (Html.Forest.ofFragment twoChains).order,
      (Html.Forest.ofFragment twoChains).mayCall node = false := by decide
  have hchain : Call.chain? twoChains = some ("F", "a</chain> <chain function=\"F\">b") := by
    decide
  refine ⟨hsole, hchain, ?_⟩
  simp only [dispatch, dispatchWith, Call.site?_eq_none hsole, pure_bind, hchain]
  decide

end Interpreter
end MediaScraper
