import MediaScraper.Proofs.Interpreter.Extension
import MediaScraper.Proofs.Scraper.Insertion
import MediaScraper.Scraper.Reader

/-!
# Importing shared routines

Routines that are added to a scraper never take the place of one that it has. So they make a
difference only where a call asks for a routine that the scraper does not have
(`extends_importing`): a run without such a call is the same run with them
(`runNamed_importing`). What a library imports is added in this way (`read_eq_insertAll`).
-/

namespace MediaScraper

namespace Scraper

/-- **Imports are insertions** behind the routines of the library itself. -/
theorem read_eq_insertAll (id : String) (library : ByteArray) (imports : List String)
    (shared : List SharedLibrary) :
    read id library imports shared = (read id library [] []).map fun own =>
      own.insertAll ((shared.filter (·.isImportedBy imports)).flatMap SharedLibrary.routines) := by
  unfold read
  cases readBytes library <;> rfl

theorem find?_insertAll_of_eq_some {s : Scraper} {name : String} {routine : Routine}
    (h : s.find? name = some routine) (rs : List Routine) :
    (s.insertAll rs).find? name = some routine := by
  rw [find?_insertAll, h, Option.some_or]

end Scraper

namespace Interpreter

open Run

/-- The interpreter of the scraper with more routines. -/
def importing (t : Interpreter) (rs : List Routine) : Interpreter :=
  { t with scraper := t.scraper.insertAll rs }

/-- **More routines make a difference only where a call fails** for want of its routine. -/
theorem extends_importing (t : Interpreter) (rs : List Routine) :
    Extends (fun failure => ∃ name, failure = .unknownRoutine name) t (t.importing rs) where
  settings := rfl
  checkpoint := rfl
  callee depth name := by
    unfold callee
    split
    · exact .inl rfl
    cases hfind : t.scraper.find? name with
    | none => exact .inr ⟨.unknownRoutine name, rfl, name, rfl⟩
    | some routine =>
      have hfind' : (t.importing rs).scraper.find? name = some routine :=
        Scraper.find?_insertAll_of_eq_some hfind rs
      rw [hfind']
      exact .inl rfl

/-- **Imports are conservative.** A run of a routine that the scraper has, in which no call asks for
a routine that it does not have, leaves the same with any more routines. They change none that
the scraper has, and they are all that importing shared libraries adds. -/
theorem runNamed_importing {t : Interpreter} {reserve : Nat} {registers : Registers} {name : String}
    {inputs : List String} {r : Except Interruption String} {after : Machine} {routine : Routine}
    (hfind : t.scraper.find? name = some routine)
    (hrun : t.runNamed reserve name inputs ⟨registers, [], 0⟩ = some (r, after))
    (hknown : ∀ call ∈ after.calls, ∀ missing, call.failure ≠ some (.unknownRoutine missing))
    (rs : List Routine) :
    (∀ reserve', reserve ≤ reserve' →
      (t.importing rs).runNamed reserve' name inputs ⟨registers, [], 0⟩ = some (r, after)) ∧
      (∀ own routine, t.scraper.find? own = some routine →
        (t.importing rs).scraper.find? own = some routine) ∧
      ∀ id library imports shared, Scraper.read id library imports shared =
        (Scraper.read id library [] []).map (·.insertAll
          ((shared.filter (·.isImportedBy imports)).flatMap Scraper.SharedLibrary.routines)) := by
  refine ⟨fun reserve' hle => ?_, fun own routine hown => ?_, fun id library imports shared => ?_⟩
  · have hsame : (t.importing rs).scraper.find? name = t.scraper.find? name := by
      rw [hfind]
      exact Scraper.find?_insertAll_of_eq_some hfind rs
    refine ((extends_importing t rs).follows_runNamed hle hsame inputs _ r after hrun).2 ?_
    rintro call hcall _ hfailure ⟨missing, rfl⟩
    exact hknown call hcall missing hfailure
  · exact Scraper.find?_insertAll_of_eq_some hown rs
  · exact Scraper.read_eq_insertAll id library imports shared

/-- A routine that asks for another one. -/
def askingSample : Interpreter :=
  ⟨⟨"sample", [⟨"Find", true, 2, false,
    [.mk "$$1" "<chain function=\"Make\">\\1</chain>" 2 false none [] none]⟩,
    ⟨"Make", true, 3, false, [.mk "$$1" "made \\1" 3 false none [] none]⟩]⟩, .empty, .none⟩

/-- Routines of a name that there is already, and of a new one. -/
def moreRoutines : List Routine :=
  [⟨"Make", true, 3, false, [.mk "$$1" "other" 3 false none [] none]⟩, ⟨"More", true, 1, false, []⟩]

theorem runNamed_importing_askingSample :
    ∃ after,
      askingSample.runNamed 1 "Find" ["", "x"] ⟨.empty, [], 0⟩ =
        some (.ok "<Make>made x</Make>", after) ∧
      after.calls = [⟨0, "Make", none⟩] ∧
      (askingSample.importing moreRoutines).runNamed 1 "Find" ["", "x"] ⟨.empty, [], 0⟩ =
        some (.ok "<Make>made x</Make>", after) := by
  have hleft : (askingSample.runNamed 1 "Find" ["", "x"] ⟨.empty, [], 0⟩).map
      (fun r => (r.1, r.2.calls)) = some (.ok "<Make>made x</Make>", [⟨0, "Make", none⟩]) := by
    decide +kernel
  obtain ⟨⟨r, after⟩, hrun, heq⟩ := Option.map_eq_some_iff.1 hleft
  obtain ⟨rfl, hnoted⟩ := Prod.mk.inj heq
  have hknown : ∀ call ∈ after.calls, ∀ missing,
      call.failure ≠ some (.unknownRoutine missing) := by
    rw [hnoted]
    rintro call hcall missing hfailure
    cases List.mem_singleton.1 hcall
    cases hfailure
  have hfind : askingSample.scraper.find? "Find" = some ⟨"Find", true, 2, false,
    [.mk "$$1" "<chain function=\"Make\">\\1</chain>" 2 false none [] none]⟩ := rfl
  exact ⟨after, hrun, hnoted, (runNamed_importing hfind hrun hknown moreRoutines).1 1 (le_refl 1)⟩

end Interpreter
end MediaScraper
