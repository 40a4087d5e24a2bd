import MediaScraper.Proofs.CommandLine.Recording
import MediaScraper.Proofs.Diff.Report

/-!
# Output that differs

A command that is asked to compare its output with a file ends badly if they differ. It then prints
what has changed before it says so, which is all that it prints beside its log (`run_differing`). A
line without a line feed at its end gets two when it is printed, so an empty row follows it
(`run_unfinished`).
-/

namespace MediaScraper.CommandLine

open Diff (Shows)

/-- The words of a command that runs a routine and compares what it makes with what a file holds. -/
structure Compares (files : Files) (words : List String) (a : Arguments)
    (routine path wanted made : String) : Prop where
  read : Command.read? words = some (.work a)
  runs : a.options.lists = false
  expects : a.options.expected = some path
  makes : a.Makes files routine made
  wants : files.document path = .ok wanted

theorem run_eq_of_differs {files : Files} {words : List String} {a : Arguments}
    {routine path changes : String} (h : Command.read? words = some (.work a))
    (hdiffers : a.output files = .error (.differs routine path changes)) :
    run files words = ⟨1, "", changes ++ "Error: " ++
      ("Output of " ++ routine ++ " differs from '" ++ path ++ "'") ++ "\n"⟩ := by
  rw [run, h]
  simp only [hdiffers]
  rfl

/-- **What has changed is printed.** Let the output of a command differ from what it is compared
with, by more than blanks at the end, and let there be no carriage return in them. Then the command
ends badly, and what it prints before its message, the log apart, shows what has changed. -/
theorem run_differing {files : Files} {words : List String} {a : Arguments}
    {routine path wanted made : String} (h : Compares files words a routine path wanted made)
    (hdiffer : trimBlanksEnd wanted ≠ trimBlanksEnd made) (hwanted : '\r' ∉ wanted.toList)
    (hmade : '\r' ∉ made.toList) :
    ∃ shown : String, run files words = ⟨1, "", shown ++ "Error: " ++
        ("Output of " ++ routine ++ " differs from '" ++ path ++ "'") ++ "\n"⟩ ∧
      Shows shown.toList wanted.toList made.toList := by
  have hcompare : compare routine path wanted made =
      .error (.differs routine path (Diff.report wanted made)) := by
    rw [compare, if_neg hdiffer]
  have houtput : a.output files = .error (.differs routine path (Diff.report wanted made)) := by
    rw [h.makes.output_eq h.runs h.expects]
    exact bind_eq_error_iff.2 (.inr ⟨wanted, h.wants, hcompare⟩)
  exact ⟨Diff.report wanted made, run_eq_of_differs h.read houtput,
    Diff.shows_report hwanted hmade⟩

/-- The files of a routine that gives back its input, and of an output with four lines. -/
def fourLines : Files := (echoDirectory.store [['g']] "x\ny\n\nz\n".toUTF8).read

theorem run_differing_fourLines :
    Compares fourLines ["--expect", "g", "lib.xml", "F", "x\nz\n"]
        ⟨"lib.xml", "F", ["x\nz\n"], Options.none.expecting "g"⟩ "F" "g" "x\ny\n\nz\n" "x\nz\n" ∧
      ∃ shown : String, run fourLines ["--expect", "g", "lib.xml", "F", "x\nz\n"] =
          ⟨1, "", shown ++ "Error: " ++ ("Output of " ++ "F" ++ " differs from '" ++ "g" ++ "'") ++
            "\n"⟩ ∧
        Shows shown.toList "x\ny\n\nz\n".toList "x\nz\n".toList := by
  have hprints : run fourLines ["lib.xml", "F", "x\nz\n"] = ⟨0, "x\nz\n\n", ""⟩ := by
    decide +kernel
  have houtput : Arguments.output ⟨"lib.xml", "F", ["x\nz\n"], .none⟩ fourLines = .ok "x\nz\n\n" :=
    output_of_run (by decide) hprints
  obtain ⟨routine, made, htext, hmakes⟩ := exists_makes rfl rfl houtput
  obtain rfl : "F" = routine := Option.some.inj hmakes.1
  obtain rfl : "x\nz\n" = made := (String.append_left_inj "\n").1 htext
  have hcompares : Compares fourLines ["--expect", "g", "lib.xml", "F", "x\nz\n"]
      ⟨"lib.xml", "F", ["x\nz\n"], Options.none.expecting "g"⟩ "F" "g" "x\ny\n\nz\n" "x\nz\n" :=
    ⟨by decide, rfl, rfl, hmakes,
      document_of_stored rfl (by decide) (by decide)⟩
  exact ⟨hcompares, run_differing hcompares (by decide) (by decide) (by decide)⟩

/-- **A line without a line feed at its end is followed by an empty row** when it is printed. -/
theorem run_unfinished :
    run (echoDirectory.store [['g']] "y".toUTF8).read ["--expect", "g", "lib.xml", "F", "x"] =
        ⟨1, "", "-y\n\n+x\n\nError: Output of F differs from 'g'\n"⟩ ∧
      trimBlanksEnd "y" ≠ trimBlanksEnd "x" := by
  decide +kernel

end MediaScraper.CommandLine
