import MediaScraper.CommandLine
import MediaScraper.Proofs.Except
import MediaScraper.Proofs.Text.Charset

/-!
# Recorded output

What a command prints can be stored in a new file, and the same command can then be asked to compare
its output with that file. It accepts it, unless the output begins with the character that a byte
order mark stands for: the mark is dropped from the file when it is read (`run_recorded`). Then it
prints nothing. Only its log, which is no part of an `Outcome`, can have lines.

* Storing a new file takes nothing away: what could be read before can still be read
  (`Files.Within`, `within_store`), and what a routine makes with some files it makes with more of
  them (`Arguments.Makes.within`).
* An option that is put before words which do not give it changes their command by that option
  alone (`read?_expecting`).
-/

namespace MediaScraper.CommandLine

/-! ## More files -/

/-- What is read from the first files is read from the second ones, too. -/
def Files.Within (files more : Files) : Prop :=
  ∀ path bytes, files path = .ok bytes → more path = .ok bytes

namespace Files.Within

variable {files more : Files} (h : files.Within more)
include h

theorem read {path : String} {limit : Nat} {bytes : ByteArray}
    (hread : files.read path limit = .ok bytes) : more.read path limit = .ok bytes := by
  unfold Files.read at hread ⊢
  cases hfile : files path with
  | error fault =>
    rw [hfile] at hread
    cases hread
  | ok found =>
    rw [hfile] at hread
    rw [h path found hfile]
    exact hread

theorem document {path text : String} (hread : files.document path = .ok text) :
    more.document path = .ok text := by
  obtain ⟨bytes, hbytes, htext⟩ := bind_eq_ok_iff.1 hread
  exact bind_eq_ok_iff.2 ⟨bytes, h.read hbytes, htext⟩

theorem settings {path : Option String} {settings : Settings}
    (hread : files.settings path = .ok settings) : more.settings path = .ok settings := by
  cases path with
  | none => exact hread
  | some path =>
    obtain ⟨bytes, hbytes, hsettings⟩ := bind_eq_ok_iff.1 hread
    exact bind_eq_ok_iff.2 ⟨bytes, h.read hbytes, hsettings⟩

theorem input {input text : String} (hread : files.input input = .ok text) :
    more.input input = .ok text := by
  unfold Files.input at hread ⊢
  cases hpath : inputPath? input with
  | none => rwa [hpath] at hread
  | some path =>
    rw [hpath] at hread
    exact h.document hread

theorem scraper {a : Arguments} {scraper : Scraper} (hread : a.scraper files = .ok scraper) :
    a.scraper more = .ok scraper := by
  obtain ⟨library, hlibrary, hread⟩ := bind_eq_ok_iff.1 hread
  obtain ⟨shared, hshared, hread⟩ := bind_eq_ok_iff.1 hread
  refine bind_eq_ok_iff.2 ⟨library, h.read hlibrary, bind_eq_ok_iff.2 ⟨shared, ?_, hread⟩⟩
  refine mapM_eq_ok_iff.2 ((mapM_eq_ok_iff.1 hshared).imp fun path part hpart => ?_)
  obtain ⟨bytes, hbytes, hpart⟩ := bind_eq_ok_iff.1 hpart
  exact bind_eq_ok_iff.2 ⟨bytes, h.read hbytes, hpart⟩

end Files.Within

/-! ## Storing a file -/

namespace Directory

/-- Store a file under new names. -/
def store (d : Directory) (names : List (List Char)) (bytes : ByteArray) : Directory :=
  ⟨d.files ++ [(names, bytes)]⟩

variable {d : Directory} {names : List (List Char)} {bytes : ByteArray}

/-- What names lead to is not changed, if it is no directory that makes room for the file. -/
theorem find_store (hfree : ∀ f ∈ d.files, ¬ names <+: f.1) {path : List (List Char)}
    {place : Place} (h : d.find path = .ok place) : (d.store names bytes).find path = .ok place := by
  unfold find at h ⊢
  rw [store, List.find?_append]
  cases hfile : d.files.find? (·.1 = path) with
  | some f =>
    rw [hfile] at h
    exact h
  | none =>
    rw [hfile] at h
    -- a directory: some file stands below it, so the new file does not take its place
    split_ifs at h with hfolder
    obtain ⟨f, hf, hbelow⟩ := List.any_eq_true.1 hfolder
    have hne : names ≠ path := by
      rintro rfl
      exact hfree f hf (List.isPrefixOf_iff_prefix.1 hbelow)
    rw [Option.none_or, List.find?_singleton, if_neg (by simpa using hne), if_pos]
    · exact h
    · rw [List.any_append, hfolder, Bool.true_or]

theorem enter_store (hfree : ∀ f ∈ d.files, ¬ names <+: f.1) {place next : Place}
    {name : List Char} (h : d.enter place name = .ok next) :
    (d.store names bytes).enter place name = .ok next := by
  cases place with
  | file bytes => cases h
  | outside => exact h
  | folder path =>
    simp only [enter] at h ⊢
    split_ifs at h ⊢
    iterate 3 exact h
    exact find_store hfree h

theorem foldlM_store (hfree : ∀ f ∈ d.files, ¬ names <+: f.1) {path : List (List Char)}
    {place next : Place} (h : path.foldlM d.enter place = .ok next) :
    path.foldlM (d.store names bytes).enter place = .ok next := by
  induction path generalizing place with
  | nil => exact h
  | cons name path ih =>
    obtain ⟨inner, hinner, h⟩ := bind_eq_ok_iff.1 h
    exact bind_eq_ok_iff.2 ⟨inner, enter_store hfree hinner, ih h⟩

/-- **A new file takes no other file away.** -/
theorem within_store (hfree : ∀ f ∈ d.files, ¬ names <+: f.1) :
    d.read.Within (d.store names bytes).read := by
  intro path bytes h
  obtain ⟨place, hplace, h⟩ := bind_eq_ok_iff.1 h
  refine bind_eq_ok_iff.2 ⟨place, ?_, h⟩
  unfold follow at hplace ⊢
  split_ifs at hplace ⊢
  all_goals exact foldlM_store hfree hplace

end Directory

/-! ## One option more -/

/-- Expect the output that a file holds. -/
def Options.expecting (o : Options) (path : String) : Options := { o with expected := path }

def Arguments.expecting (a : Arguments) (path : String) : Arguments :=
  { a with options := a.options.expecting path }

section

variable {o o' : Options} (path : String)

theorem set?_expecting {option : Valued} {value : String} (h : o.set? option value = some o')
    (hnone : o'.expected = none) :
    o.expected = none ∧ (o.expecting path).set? option value = some (o'.expecting path) := by
  cases option with
  | shared | imports =>
    cases h
    exact ⟨hnone, rfl⟩
  | settings =>
    simp only [Options.set?] at h ⊢
    split_ifs at h with hset
    cases h
    exact ⟨hnone, if_pos hset⟩
  | timeout | callDepth =>
    simp only [Options.set?] at h
    split at h
    · cases h
      refine ⟨hnone, ?_⟩
      simp only [Options.set?, Options.expecting, *]
    · cases h
  | expected =>
    simp only [Options.set?] at h
    split_ifs at h
    cases h
    cases hnone

theorem raise?_expecting {flag : Flag} (h : o.raise? flag = some (.options o')) :
    o'.expected = o.expected ∧
      (o.expecting path).raise? flag = some (.options (o'.expecting path)) := by
  cases flag with
  | list =>
    simp only [Options.raise?] at h ⊢
    split_ifs at h with hlists
    cases h
    exact ⟨rfl, if_neg hlists⟩
  | verbose =>
    cases h
    exact ⟨rfl, rfl⟩
  | help | version => cases h

theorem raiseLetters?_expecting {letters : List Char}
    (h : o.raiseLetters? letters = some (.options o')) :
    o'.expected = o.expected ∧
      (o.expecting path).raiseLetters? letters = some (.options (o'.expecting path)) := by
  induction letters generalizing o with
  | nil =>
    cases h
    exact ⟨rfl, rfl⟩
  | cons letter letters ih =>
    rw [Options.raiseLetters?] at h ⊢
    cases hflag : Flag.ofLetter? letter with
    | none =>
      rw [hflag] at h
      cases h
    | some flag =>
      rw [hflag] at h
      rw [Option.bind_some] at h ⊢
      cases hraise : o.raise? flag with
      | none =>
        rw [hraise] at h
        cases h
      | some effect =>
        cases effect with
        | command c =>
          rw [hraise] at h
          cases h
        | options inner =>
          rw [hraise] at h
          obtain ⟨hinner, hraise'⟩ := raise?_expecting path hraise
          rw [hraise']
          obtain ⟨hlast, hrest⟩ := ih h
          exact ⟨hlast.trans hinner, hrest⟩

theorem raise?_ne_work {flag : Flag} {a : Arguments} :
    o.raise? flag ≠ some (.command (.work a)) := by
  cases flag with
  | list =>
    simp only [Options.raise?]
    split_ifs <;> nofun
  | verbose | help | version => nofun

theorem raiseLetters?_ne_work {letters : List Char} {a : Arguments} :
    o.raiseLetters? letters ≠ some (.command (.work a)) := by
  induction letters generalizing o with
  | nil => nofun
  | cons letter letters ih =>
    rw [Options.raiseLetters?]
    cases Flag.ofLetter? letter with
    | none => nofun
    | some flag =>
      rw [Option.bind_some]
      split
      · exact ih
      · exact raise?_ne_work

theorem ofWords?_expecting {words : List String} {a : Arguments}
    (h : Command.ofWords? o words = some (.work a)) :
    a.options = o ∧
      Command.ofWords? (o.expecting path) words = some (.work (a.expecting path)) := by
  unfold Command.ofWords? at h ⊢
  cases hwords : words.reverse with
  | nil =>
    rw [hwords] at h
    cases h
  | cons library words =>
    rw [hwords] at h
    cases words with
    | nil =>
      cases h
      exact ⟨rfl, rfl⟩
    | cons routine inputs =>
      cases h
      exact ⟨rfl, rfl⟩

/-- Words that ask for a run without an expected output ask for the same one with it, if it is
among the options from the beginning. -/
theorem readFrom?_expecting {words rest : List String} {a : Arguments}
    (h : Command.readFrom? o words rest = some (.work a)) (hnone : a.options.expected = none) :
    o.expected = none ∧
      Command.readFrom? (o.expecting path) words rest = some (.work (a.expecting path)) := by
  fun_induction Command.readFrom? o words rest with
  | case1 o words =>
    obtain ⟨rfl, hlast⟩ := ofWords?_expecting path h
    exact ⟨hnone, hlast⟩
  | case2 o words word rest hword ih =>
    rw [Command.readFrom?, hword]
    exact ih h
  | case3 o words word rest hword =>
    obtain ⟨rfl, hlast⟩ := ofWords?_expecting path h
    rw [Command.readFrom?, hword]
    exact ⟨hnone, hlast⟩
  | case4 o words word rest letters hword o' hletters ih =>
    obtain ⟨hexpected, hletters'⟩ := raiseLetters?_expecting path hletters
    obtain ⟨hnone', hrest⟩ := ih h
    rw [Command.readFrom?, hword]
    simp only [hletters']
    exact ⟨hexpected ▸ hnone', hrest⟩
  | case5 o words word rest letters hword c hletters =>
    cases h
    exact absurd hletters raiseLetters?_ne_work
  | case7 o words word rest name flag hname o' hflag hword ih =>
    obtain ⟨hexpected, hflag'⟩ := raise?_expecting path hflag
    obtain ⟨hnone', hrest⟩ := ih h
    rw [Command.readFrom?, hword]
    simp only [hname, hflag']
    exact ⟨hexpected ▸ hnone', hrest⟩
  | case8 o words word rest name flag hname c hflag hword =>
    cases h
    exact absurd hflag raise?_ne_work
  | case10 o words word rest name option value hname o' hset hword ih =>
    obtain ⟨hnone', hrest⟩ := ih h
    obtain ⟨hexpected, hset'⟩ := set?_expecting path hset hnone'
    rw [Command.readFrom?, hword]
    simp only [hname, hset']
    exact ⟨hexpected, hrest⟩
  | case13 o words word name option hname value rest hvalue o' hset hword ih =>
    obtain ⟨hnone', hrest⟩ := ih h
    obtain ⟨hexpected, hset'⟩ := set?_expecting path hset hnone'
    rw [Command.readFrom?, hword]
    simp only [hname, hvalue, if_true, hset']
    exact ⟨hexpected, hrest⟩
  | _ => cases h

end

theorem read?_expecting {words : List String} {a : Arguments} {path : String}
    (h : Command.read? words = some (.work a)) (hnone : a.options.expected = none)
    (hpath : Word.read path = .plain) :
    Command.read? ("--expect" :: path :: words) = some (.work (a.expecting path)) := by
  obtain ⟨-, hread⟩ := readFrom?_expecting path h hnone
  have hname : Word.read "--expect" = .long "expect" none := by decide
  have hoption : OptionName.all.lookup "expect" = some (.valued .expected) := by decide
  rw [Command.read?, Command.readFrom?, hname]
  simp only [hoption, hpath, if_true]
  exact hread

/-! ## The output in a file -/

theorem trimBlanksEnd_append_newline (text : String) :
    trimBlanksEnd (text ++ "\n") = trimBlanksEnd text := by
  have hblank : isBlank '\n' = true := by decide
  have hline : (text ++ "\n").toList.reverse = '\n' :: text.toList.reverse := by
    rw [String.toList_append, List.reverse_append]
    rfl
  rw [trimBlanksEnd, trimBlanksEnd, Blank.trimEnd, Blank.trimEnd, hline,
    List.dropWhile_cons_of_pos hblank]

theorem document_of_stored {files : Files} {path text : String}
    (h : files path = .ok text.toUTF8) (hsize : text.toUTF8.size ≤ documentLimit)
    (hmark : text.toList.head? ≠ some Charset.byteOrderMark) : files.document path = .ok text := by
  have hread : files.read path documentLimit = .ok text.toUTF8 := by
    rw [Files.read, h]
    exact if_neg (by omega)
  refine bind_eq_ok_iff.2 ⟨_, hread, ?_⟩
  rw [Document.decode_toUTF8 hmark]
  rfl

/-- A command's routine makes a text of its inputs. -/
def Arguments.Makes (a : Arguments) (files : Files) (routine made : String) : Prop :=
  a.routine = some routine ∧ ∃ scraper settings inputs, a.scraper files = .ok scraper ∧
    files.settings a.options.settings = .ok settings ∧ a.inputs.mapM files.input = .ok inputs ∧
    (⟨scraper, settings, a.options.limits⟩ : Interpreter).result? routine ("" :: inputs) =
      some (.ok made)

/-- A run prints what its routine makes, with a line end. -/
theorem exists_makes {files : Files} {a : Arguments} (hlists : a.options.lists = false)
    (hnone : a.options.expected = none) {text : String} (h : a.output files = .ok text) :
    ∃ routine made, text = made ++ "\n" ∧ a.Makes files routine made := by
  obtain ⟨scraper, hscraper, h⟩ := bind_eq_ok_iff.1 h
  rw [hlists] at h
  cases hroutine : a.routine with
  | none =>
    rw [hroutine] at h
    cases h
  | some routine =>
    rw [hroutine] at h
    obtain ⟨settings, hsettings, h⟩ := bind_eq_ok_iff.1 h
    obtain ⟨inputs, hinputs, h⟩ := bind_eq_ok_iff.1 h
    split at h
    · cases h
    · cases h
    · next made hresult =>
      rw [hnone] at h
      cases h
      exact ⟨routine, made, rfl, hroutine, scraper, settings, inputs, hscraper, hsettings, hinputs,
        hresult⟩

namespace Arguments.Makes

variable {files : Files} {a : Arguments} {routine made : String} (h : a.Makes files routine made)
include h

theorem within {more : Files} (hmore : files.Within more) : a.Makes more routine made := by
  obtain ⟨hroutine, scraper, settings, inputs, hscraper, hsettings, hinputs, hresult⟩ := h
  exact ⟨hroutine, scraper, settings, inputs, hmore.scraper hscraper, hmore.settings hsettings,
    mapM_eq_ok_iff.2 ((mapM_eq_ok_iff.1 hinputs).imp fun _ _ => hmore.input), hresult⟩

theorem output_eq (hlists : a.options.lists = false) {path : String}
    (hexpected : a.options.expected = some path) :
    a.output files = (do compare routine path (← files.document path) made) := by
  obtain ⟨hroutine, scraper, settings, inputs, hscraper, hsettings, hinputs, hresult⟩ := h
  simp only [Arguments.output, hscraper, hlists, hroutine, hsettings, hinputs, hresult, hexpected,
    bind, Except.bind]
  rfl

end Arguments.Makes

theorem output_of_run {files : Files} {words : List String} {a : Arguments} {text : String}
    (h : Command.read? words = some (.work a)) (hrun : run files words = ⟨0, text, ""⟩) :
    a.output files = .ok text := by
  rw [run, h] at hrun
  simp only at hrun
  split at hrun
  · next output houtput =>
    cases hrun
    exact houtput
  · cases hrun

theorem output_expecting {files more : Files} (hmore : files.Within more) {a : Arguments}
    (hlists : a.options.lists = false) (hnone : a.options.expected = none) (path : String)
    {text : String} (h : a.output files = .ok text) :
    ∃ routine made, text = made ++ "\n" ∧ (a.expecting path).output more =
      (do compare routine path (← more.document path) made) := by
  obtain ⟨routine, made, htext, hmakes⟩ := exists_makes hlists hnone h
  -- the other command differs in nothing but what it expects
  have hmakes' : (a.expecting path).Makes more routine made := hmakes.within hmore
  exact ⟨routine, made, htext, hmakes'.output_eq hlists rfl⟩

/-! ## Recorded runs -/

/-- The words of a command that runs a routine and prints the output, with no time set for it. -/
structure Records (words : List String) (a : Arguments) : Prop where
  read : Command.read? words = some (.work a)
  timeless : a.options.timeout = none
  runs : a.options.lists = false
  prints : a.options.expected = none

/-- **Recorded output is accepted.** Let a run end well and its output be stored in a new file. If
the output does not begin with the character of a byte order mark, then the same command, asked to
compare its output with the file, ends well. It prints no output, and nothing but its log as
errors. -/
theorem run_recorded {files more : Files} {words : List String} {a : Arguments}
    {text path : String} (hwords : Records words a) (hrun : run files words = ⟨0, text, ""⟩)
    (hmark : text.toList.head? ≠ some Charset.byteOrderMark) (hmore : files.Within more)
    (hstored : more path = .ok text.toUTF8) (hsize : text.toUTF8.size ≤ documentLimit)
    (hpath : Word.read path = .plain) :
    run more ("--expect" :: path :: words) = ⟨0, "", ""⟩ := by
  have houtput : a.output files = .ok text := output_of_run hwords.read hrun
  obtain ⟨routine, made, rfl, hcompare⟩ :=
    output_expecting hmore hwords.runs hwords.prints path houtput
  have hsame : compare routine path (made ++ "\n") made = .ok "" :=
    if_pos (trimBlanksEnd_append_newline made)
  have hagain : (a.expecting path).output more = .ok "" := by
    rw [hcompare]
    exact bind_eq_ok_iff.2 ⟨made ++ "\n", document_of_stored hstored hsize hmark, hsame⟩
  rw [run, read?_expecting hwords.read hwords.prints hpath]
  simp only [hagain]

/-- A directory with a library whose routine `F` gives back its input. -/
def echoDirectory : Directory :=
  let rule := "<RegExp input=\"$$1\" output=\"\\1\" dest=\"3\"/>"
  .ofList [("lib.xml", ("<scraper><F dest=\"3\">" ++ rule ++ "</F></scraper>").toUTF8)]

/-- The recorded output of a routine that has been given a blank behind its input. -/
theorem run_recorded_echo :
    Records ["lib.xml", "F", "x "] ⟨"lib.xml", "F", ["x "], .none⟩ ∧
      run echoDirectory.read ["lib.xml", "F", "x "] = ⟨0, "x \n", ""⟩ ∧
      run (echoDirectory.store [['o', 'u', 't']] "x \n".toUTF8).read
        ["--expect", "out", "lib.xml", "F", "x "] = ⟨0, "", ""⟩ := by
  have hwords : Records ["lib.xml", "F", "x "] ⟨"lib.xml", "F", ["x "], .none⟩ :=
    ⟨by decide, rfl, rfl, rfl⟩
  have hrun : run echoDirectory.read ["lib.xml", "F", "x "] = ⟨0, "x \n", ""⟩ := by
    decide +kernel
  have hmore : echoDirectory.read.Within
      (echoDirectory.store [['o', 'u', 't']] "x \n".toUTF8).read :=
    Directory.within_store (by decide)
  exact ⟨hwords, hrun, run_recorded hwords hrun (by decide) hmore rfl (by decide)
    (by decide)⟩

/-- An output that begins with a byte order mark differs from the file that it is recorded in, and
a path that begins with a hyphen is not taken for the path of a file. -/
theorem run_unrecorded :
    run echoDirectory.read ["lib.xml", "F", "\uFEFFx"] = ⟨0, "\uFEFFx\n", ""⟩ ∧
      (run (echoDirectory.store [['g']] "\uFEFFx\n".toUTF8).read
        ["--expect", "g", "lib.xml", "F", "\uFEFFx"]).code = 1 ∧
      run echoDirectory.read ["lib.xml", "F", "x"] = ⟨0, "x\n", ""⟩ ∧
      (run (echoDirectory.store [['-', 'g']] "x\n".toUTF8).read
        ["--expect", "-g", "lib.xml", "F", "x"]).code = 2 := by
  decide +kernel

end MediaScraper.CommandLine
