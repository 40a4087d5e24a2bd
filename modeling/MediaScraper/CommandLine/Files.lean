import MediaScraper.Text.Search

/-!
# Files

A command line names files by paths; `Files` says what each path leads to. A `Directory` holds files
whose paths are relative to it. Nothing is known of what lies outside of a directory, but that it is
a directory itself.
-/

namespace MediaScraper.CommandLine

/-- Why a path does not lead to a file. -/
inductive FileFault where
  | missing
  /-- A file stands where the path goes on. -/
  | notDirectory
  | isDirectory
  | nameTooLong
  | other (reason : String)
deriving DecidableEq

def FileFault.message : FileFault → String
  | .missing => "No such file or directory (os error 2)"
  | .notDirectory => "Not a directory (os error 20)"
  | .isDirectory => "Is a directory (os error 21)"
  | .nameTooLong => "File name too long (os error 36)"
  | .other reason => reason

/-- What each path leads to. -/
abbrev Files := String → Except FileFault ByteArray

/-! ## Paths -/

/-- The greatest number of bytes in a path. -/
def maxPath : Nat := 4095

/-- The greatest number of bytes in a name. -/
def maxName : Nat := 255

/-- The names that a path goes through. -/
def namesOf (path : String) : List (List Char) := Text.splitAt '/' path.toList

/-- A name that leads nowhere else. -/
def staysThere (name : List Char) : Bool := name.isEmpty || name = ['.']

/-- A name without its extension, which begins at the last dot; a dot at the beginning
begins none. -/
def withoutExtension (name : List Char) : List Char :=
  match name.reverse.dropWhile (· ≠ '.') with
  | [] | ['.'] => name
  | _ :: rest => rest.reverse

/-- The last name of a path, without its extension. -/
def stemOf (path : String) : String :=
  match (namesOf path).getLast? with
  | some name => .ofList (withoutExtension name)
  | none => path

/-! ## Directories -/

/-- A directory with all files in it and below it, each with the names that lead to it. -/
structure Directory where
  files : List (List (List Char) × ByteArray)

namespace Directory

def ofList (files : List (String × ByteArray)) : Directory :=
  ⟨files.map fun f => ((namesOf f.1).filter fun name => !staysThere name, f.2)⟩

/-- Where a path may lead. -/
inductive Place where
  | file (bytes : ByteArray)
  /-- The directory or one below it, with the names that lead to it. -/
  | folder (names : List (List Char))
  | outside

/-- What has these names. -/
def find (d : Directory) (names : List (List Char)) : Except FileFault Place :=
  match d.files.find? (·.1 = names) with
  | some file => .ok (.file file.2)
  | none =>
    if d.files.any fun f => names.isPrefixOf f.1 then .ok (.folder names) else .error .missing

/-- Go on by a name. -/
def enter (d : Directory) (place : Place) (name : List Char) : Except FileFault Place :=
  match place with
  | .file _ => .error .notDirectory
  | .folder names =>
    if staysThere name then .ok place
    else if name = ['.', '.'] then .ok (if names.isEmpty then .outside else .folder names.dropLast)
    else if maxName < Text.byteLength name then .error .nameTooLong
    else d.find (names ++ [name])
  | .outside =>
    if staysThere name ∨ name = ['.', '.'] then .ok place
    else if maxName < Text.byteLength name then .error .nameTooLong
    else .error .missing

/-- Follow a path, which begins outside if it begins with a slash. -/
def follow (d : Directory) (path : String) : Except FileFault Place :=
  if path.isEmpty then .error .missing
  else if maxPath < path.utf8ByteSize then .error .nameTooLong
  else
    let start := if path.toList.head? = some '/' then .outside else .folder []
    (namesOf path).foldlM d.enter start

/-- Read the file of a path. -/
def read (d : Directory) : Files := fun path => do
  match ← d.follow path with
  | .file bytes => return bytes
  | .folder _ | .outside => throw .isDirectory

end Directory
end MediaScraper.CommandLine
