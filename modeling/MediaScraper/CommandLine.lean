import MediaScraper.CommandLine.Arguments
import MediaScraper.CommandLine.Files
import MediaScraper.Diff
import MediaScraper.Document
import MediaScraper.Interpreter
import MediaScraper.Scraper.Listing
import MediaScraper.Scraper.Reader
import MediaScraper.Settings.Document

/-!
# The command line

A command line names a library and one of its routines, which is run on the inputs that follow. Its
result is printed, or compared with a file if one is named.

The log is left out. Its lines go to the same stream as errors, and what an `Outcome` calls errors
is what stands in that stream beside them. How many of its lines the log keeps is all that the
option `-v` changes, so nothing is kept of it (`Options.raise?`).
-/

namespace MediaScraper.CommandLine

/-! ## Failures -/

/-- Why a command fails. -/
inductive Complaint where
  | noFile (path : String) (fault : FileFault)
  | fileTooLarge (path : String) (limit : Nat)
  | library (path : String) (failure : Failure)
  | noRoutine
  | settings (path : String) (fault : Json.Fault)
  | failed (failure : Failure)
  /-- Calls are nested without an end. -/
  | endless
  /-- The output is not what a file holds. -/
  | differs (routine path changes : String)

/-- What is printed behind `Error:`. -/
def Complaint.message : Complaint → String
  | .noFile path fault => "Failed to read file '" ++ path ++ "': " ++ fault.message
  | .fileTooLarge path limit =>
    "File '" ++ path ++ "' exceeds maximum size of " ++ toString limit ++ " bytes"
  | .library path failure =>
    "Failed to load scraper library '" ++ path ++ "'\n\nCaused by:\n    " ++
      ("\n    ").intercalate ((Text.splitAt '\n' failure.message.toList).map .ofList)
  | .noRoutine => "No function given; available functions are listed by --dump"
  | .settings path fault => "Invalid settings JSON in '" ++ path ++ "': " ++ fault.message
  | .failed failure => failure.message
  | .endless => "Calls are nested without an end"
  | .differs routine path _ => "Output of " ++ routine ++ " differs from '" ++ path ++ "'"

/-- What is printed before the message. -/
def Complaint.details : Complaint → String
  | .differs _ _ changes => changes
  | _ => ""

/-! ## Reading files -/

def libraryLimit : Nat := 16777216

def documentLimit : Nat := 100000000

def settingsLimit : Nat := 1048576

/-- Read a file of at most so many bytes. -/
def Files.read (files : Files) (path : String) (limit : Nat) : Except Complaint ByteArray :=
  match files path with
  | .error fault => .error (.noFile path fault)
  | .ok bytes => if limit < bytes.size then .error (.fileTooLarge path limit) else .ok bytes

def Files.document (files : Files) (path : String) : Except Complaint String := do
  (Document.decode (← files.read path documentLimit)).mapError .failed

def Files.settings (files : Files) : Option String → Except Complaint Settings
  | none => .ok .empty
  | some path => do (Settings.ofJson (← files.read path settingsLimit)).mapError (.settings path)

/-- The path of an input that is read from a file. -/
def inputPath? (input : String) : Option String :=
  match input.toList with
  | '@' :: path => some (.ofList path)
  | _ => none

/-- The text of an input. -/
def Files.input (files : Files) (input : String) : Except Complaint String :=
  match inputPath? input with
  | some path => files.document path
  | none => .ok input

/-- All files that a command may read. -/
def Arguments.paths (a : Arguments) : List String :=
  a.library :: a.options.shared ++ a.options.settings.toList ++ a.inputs.filterMap inputPath? ++
    a.options.expected.toList

/-! ## Running -/

/-- The scraper that a command is about. Without imported ids, all shared libraries are imported. -/
def Arguments.scraper (a : Arguments) (files : Files) : Except Complaint Scraper := do
  let library ← files.read a.library libraryLimit
  let shared ← a.options.shared.mapM fun path => do
    return (⟨path, ← files.read path libraryLimit⟩ : Scraper.SharedLibrary)
  let imports := if a.options.imports.isEmpty then a.options.shared else a.options.imports
  (Scraper.read (stemOf a.library) library imports shared).mapError (.library a.library)

/-- The limits of a run. Time is over at the start if none is given to the run, and never else. -/
def Options.limits (o : Options) : Limits := ⟨o.callDepth, false, o.timeout = some 0, 0⟩

/-- Compare an output with what is expected, but for blanks at the end. -/
def compare (routine path expected output : String) : Except Complaint String :=
  if trimBlanksEnd expected = trimBlanksEnd output then .ok ""
  else .error (.differs routine path (Diff.report expected output))

/-- What a command prints. -/
def Arguments.output (a : Arguments) (files : Files) : Except Complaint String := do
  let scraper ← a.scraper files
  if a.options.lists then return scraper.listing ++ "\n"
  match a.routine with
  | none => throw .noRoutine
  | some routine =>
    let settings ← files.settings a.options.settings
    let inputs ← a.inputs.mapM files.input
    match (⟨scraper, settings, a.options.limits⟩ : Interpreter).result? routine ("" :: inputs) with
    | none => throw .endless
    | some (.error reason) => throw (.failed (.interrupted reason))
    | some (.ok output) =>
      match a.options.expected with
      | none => return output ++ "\n"
      | some path => compare routine path (← files.document path) output

/-- What a program leaves: its exit code, what it has printed, and what it has printed as errors. -/
structure Outcome where
  code : Nat
  output : String
  /-- What the stream of errors holds beside the lines of the log. -/
  errors : String
deriving DecidableEq

def versionText : String := "scrapekit 0.1.0\n"

def helpText : String :=
  "scrapekit - Run a function of a scraper addon library\n\n" ++
  "Usage: scrapekit [OPTIONS] <LIBRARY> [FUNCTION] [INPUTS]...\n\n" ++
  "Arguments:\n" ++
  "  <LIBRARY>    Path to the scraper library XML\n" ++
  "  [FUNCTION]   Function to run, e.g. GetDetails\n" ++
  "  [INPUTS]...  Register inputs starting at $$1; " ++
  "\x60@path\x60 reads the register from a file\n\n" ++
  "Options:\n" ++
  "      --import <FILE>                    Shared function library to merge (repeatable)\n" ++
  "      --imports <IMPORTS>                Comma-separated addon ids the library imports; " ++
  "defaults to every --import\n" ++
  "      --settings <FILE>                  JSON object of scraper settings\n" ++
  "      --timeout-ms <MS>                  \n" ++
  "      --max-call-depth <MAX_CALL_DEPTH>  \n" ++
  "      --expect <FILE>                    Compare the output with a file " ++
  "and print a diff on mismatch\n" ++
  "      --dump                             Print the parsed definition as JSON " ++
  "instead of running it\n" ++
  "  -v, --verbose...                       \n" ++
  "  -h, --help                             Print help\n" ++
  "  -V, --version                          Print version\n"

def usageText : String :=
  "Usage: scrapekit [OPTIONS] <LIBRARY> [FUNCTION] [INPUTS]...\n\n" ++
  "For more information, try '--help'.\n"

/-- Obey a command line, without keeping a log. -/
def run (files : Files) (words : List String) : Outcome :=
  match Command.read? words with
  | none => ⟨2, "", usageText⟩
  | some .help => ⟨0, helpText, ""⟩
  | some .version => ⟨0, versionText, ""⟩
  | some (.work a) =>
    match a.output files with
    | .ok output => ⟨0, output, ""⟩
    | .error complaint => ⟨1, "", complaint.details ++ "Error: " ++ complaint.message ++ "\n"⟩

/-- The files that a command line may read. -/
def pathsOf (words : List String) : List String :=
  match Command.read? words with
  | some (.work a) => a.paths
  | _ => []

end MediaScraper.CommandLine
