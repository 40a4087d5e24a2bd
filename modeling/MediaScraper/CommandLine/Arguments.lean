import MediaScraper.Text.Numeral
import MediaScraper.Text.Search

/-!
# Arguments

A command line is a list of words. The words that are no options are, in order, the library, the
routine and its inputs; options may stand anywhere among them. A word `--` ends the options.

Words are read from the first to the last. What asks for help or for the version is obeyed as soon
as it is met, and so is what cannot be understood refused (`Command.read?` gives nothing).
-/

namespace MediaScraper.CommandLine

/-- What the options of a command line say. -/
structure Options where
  /-- The paths of shared libraries. -/
  shared : List String
  /-- The ids that the library imports. -/
  imports : List String
  /-- The path of the settings. -/
  settings : Option String
  /-- The time for the run, in milliseconds. -/
  timeout : Option Nat
  callDepth : Option Nat
  /-- The path of the output that is expected. -/
  expected : Option String
  /-- Is the scraper listed instead of run? -/
  lists : Bool
deriving DecidableEq

def Options.none : Options := ⟨[], [], .none, .none, .none, .none, false⟩

/-- A command line that asks for a run or for a listing. -/
structure Arguments where
  /-- The path of the library. -/
  library : String
  routine : Option String
  inputs : List String
  options : Options
deriving DecidableEq

/-- What a command line asks for. -/
inductive Command where
  | work (a : Arguments)
  | help
  | version
deriving DecidableEq

/-! ## Options -/

/-- An option that is followed by a value. -/
inductive Valued where
  | shared
  | imports
  | settings
  | timeout
  | callDepth
  | expected
deriving DecidableEq

/-- An option that stands alone. -/
inductive Flag where
  | list
  /-- More lines in the log, which is left out. -/
  | verbose
  | help
  | version
deriving DecidableEq

inductive OptionName where
  | valued (option : Valued)
  | flag (option : Flag)
deriving DecidableEq

/-- The options by their names. -/
def OptionName.all : List (String × OptionName) :=
  [("import", .valued .shared), ("imports", .valued .imports), ("settings", .valued .settings),
    ("timeout-ms", .valued .timeout), ("max-call-depth", .valued .callDepth),
    ("expect", .valued .expected), ("dump", .flag .list), ("verbose", .flag .verbose),
    ("help", .flag .help), ("version", .flag .version)]

/-- The options that have a letter. -/
def Flag.ofLetter? : Char → Option Flag
  | 'v' => some .verbose
  | 'h' => some .help
  | 'V' => some .version
  | _ => none

/-- Give an option a value. Shared libraries and imported ids add up; any other option is given
once. -/
def Options.set? (o : Options) (option : Valued) (value : String) : Option Options :=
  match option with
  | .shared => some { o with shared := o.shared ++ [value] }
  | .imports => some { o with imports := o.imports ++ (Text.splitAt ',' value.toList).map .ofList }
  | .settings => if o.settings.isNone then some { o with settings := value } else .none
  | .timeout =>
    match o.timeout, Numeral.word? value.toList with
    | .none, some n => some { o with timeout := n }
    | _, _ => .none
  | .callDepth =>
    match o.callDepth, Numeral.word? value.toList with
    | .none, some n => some { o with callDepth := n }
    | _, _ => .none
  | .expected => if o.expected.isNone then some { o with expected := value } else .none

/-- What follows from options that stand alone. -/
inductive Effect where
  | options (o : Options)
  | command (c : Command)

def Options.raise? (o : Options) : Flag → Option Effect
  | .list => if o.lists then .none else some (.options { o with lists := true })
  | .verbose => some (.options o)
  | .help => some (.command .help)
  | .version => some (.command .version)

def Options.raiseLetters? (o : Options) : List Char → Option Effect
  | [] => some (.options o)
  | letter :: letters =>
    match (Flag.ofLetter? letter).bind o.raise? with
    | some (.options o) => o.raiseLetters? letters
    | effect => effect

/-! ## Words -/

/-- How a word is read that is not behind the end of the options. -/
inductive Word where
  | plain
  | endOfOptions
  /-- The name of an option, and the value that stands behind an equals sign. -/
  | long (name : String) (value : Option String)
  | letters (letters : List Char)
deriving DecidableEq

def Word.read (word : String) : Word :=
  match word.toList with
  | '-' :: '-' :: [] => .endOfOptions
  | '-' :: '-' :: cs =>
    match Text.breakAt? ['='] cs with
    | some (name, value) => .long (.ofList name) (some (.ofList value))
    | none => .long (.ofList cs) none
  | '-' :: c :: cs => .letters (c :: cs)
  | _ => .plain

/-- The command of words, listed from the last one. -/
def Command.ofWords? (options : Options) (words : List String) : Option Command :=
  match words.reverse with
  | [] => none
  | library :: [] => some (.work ⟨library, none, [], options⟩)
  | library :: routine :: inputs => some (.work ⟨library, routine, inputs, options⟩)

/-- Read on. `words` are the words so far that are no options, listed from the last one. -/
def Command.readFrom? (options : Options) (words : List String) : List String → Option Command
  | [] => ofWords? options words
  | word :: rest =>
    match Word.read word with
    | .plain => readFrom? options (word :: words) rest
    | .endOfOptions => ofWords? options (rest.reverse ++ words)
    | .letters letters =>
      match options.raiseLetters? letters with
      | some (.options options) => readFrom? options words rest
      | some (.command c) => some c
      | none => none
    | .long name value =>
      match OptionName.all.lookup name, value with
      | some (.flag flag), none =>
        match options.raise? flag with
        | some (.options options) => readFrom? options words rest
        | some (.command c) => some c
        | none => none
      | some (.valued option), some value =>
        match options.set? option value with
        | some options => readFrom? options words rest
        | none => none
      | some (.valued option), none =>
        match rest with
        | [] => none
        | value :: rest =>
          if Word.read value = .plain then
            match options.set? option value with
            | some options => readFrom? options words rest
            | none => none
          else none
      | _, _ => none

/-- What a command line asks for, if it can be understood. -/
def Command.read? (words : List String) : Option Command := readFrom? .none [] words

end MediaScraper.CommandLine
