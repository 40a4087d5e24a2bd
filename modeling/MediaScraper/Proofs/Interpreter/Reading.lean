import MediaScraper.Interpreter.Rule
import MediaScraper.Proofs.Registers
import MediaScraper.Proofs.Repair.Idempotence
import MediaScraper.Proofs.Repair.Unbroken
import MediaScraper.Proofs.Template.Setting

/-!
# Reading registers twice

The text of a register is repaired whenever it is read, and then its settings are put in. The repair
is made once and for all (`Repair.buffer_buffer`). So what has been read can be copied to another
register, and reads the same there, unless a setting that was put in has brought something to repair
or the token of another setting (`reading_settles`). Such a setting does make a difference
(`readRegister_brought`).
-/

namespace MediaScraper.Interpreter

open Repair Template Text

variable {t : Interpreter} {registers : Registers} {i : Nat} {s : String}

theorem readRegister_of_buffer_eq (h : registers.get i = s) (hbuffer : buffer s = s)
    (hquiet : Quiet property? s.toList) : t.readRegister registers i = s := by
  rw [readRegister, h, hbuffer]
  exact fillProperties_of_quiet hquiet _

theorem readRegister_of_unbroken (h : registers.get i = s) (hunbroken : Unbroken s.toList)
    (hsetting : '$' ∉ s.toList) : t.readRegister registers i = s :=
  readRegister_of_buffer_eq h (buffer_of_unbroken hunbroken) (quiet_property?_of_not_mem hsetting)

/-- **A register is repaired once and for all.** The repair of its text is the one of declarations,
then that of split tags, and repairing again changes nothing. So what is read from a register reads
the same from another one that it has been copied to, if the settings that were put in have left
nothing to repair and no token of a setting; in particular if the repaired text had none. -/
theorem reading_settles :
    (∀ s, buffer s = splitScripts (declaration s)) ∧ (∀ s, buffer (buffer s) = buffer s) ∧
      ∀ (t : Interpreter) (registers : Registers) (i j : Nat), j < Registers.count →
        let read := t.readRegister registers i
        let copied := registers.set j read
        (buffer read = read → Quiet property? read.toList → t.readRegister copied j = read) ∧
          (Quiet property? (buffer (registers.get i)).toList → t.readRegister copied j = read) := by
  refine ⟨buffer_eq, buffer_buffer, fun t registers i j hj => ?_⟩
  have hget : (registers.set j (t.readRegister registers i)).get j = t.readRegister registers i :=
    Registers.get_set_self hj _ _
  refine ⟨readRegister_of_buffer_eq hget, fun hquiet => ?_⟩
  have hread : t.readRegister registers i = buffer (registers.get i) :=
    fillProperties_of_quiet hquiet _
  refine readRegister_of_buffer_eq hget ?_ ?_
  · rw [hread, buffer_buffer]
  · rwa [hread]

/-- A setting for a split tag, and one for a letter. -/
def splitting : Interpreter :=
  ⟨⟨"sample", []⟩, .ofList [("tag", "<sc\"+\"ript"), ("letter", "x")], .none⟩

theorem reading_settles_splitting :
    splitting.readRegister (.set .empty 1 "<sc\"+\"ript $INFO[letter]") 1 =
        "&lt;sc\"+\"ript x" ∧
      splitting.readRegister
        ((Registers.set .empty 1 "<sc\"+\"ript $INFO[letter]").set 2 "&lt;sc\"+\"ript x") 2 =
          "&lt;sc\"+\"ript x" := by
  have hread : splitting.readRegister (.set .empty 1 "<sc\"+\"ript $INFO[letter]") 1 =
      "&lt;sc\"+\"ript x" := by
    decide
  have hcopied := (reading_settles.2.2 splitting (.set .empty 1 "<sc\"+\"ript $INFO[letter]") 1 2
    (by decide)).1
  rw [hread] at hcopied
  refine ⟨hread, hcopied (by decide) (quiet_property?_of_not_mem (by decide))⟩

/-- **A setting may bring a split tag**, which is repaired when the copy is read. -/
theorem readRegister_brought :
    let registers := Registers.set .empty 1 "$INFO[tag]"
    let read := splitting.readRegister registers 1
    read = "<sc\"+\"ript" ∧
      splitting.readRegister (registers.set 2 read) 2 = "&lt;sc\"+\"ript" := by
  decide

end MediaScraper.Interpreter
