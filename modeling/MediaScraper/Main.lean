import MediaScraper.CommandLine

/-!
# The program

The files that the command line names are read, and the command line is obeyed on them.
-/

namespace MediaScraper.CommandLine

/-- Why the system could not read a file. -/
def FileFault.ofSystem : IO.Error → FileFault
  | .noFileOrDirectory _ _ _ => .missing
  | .inappropriateType _ 20 _ => .notDirectory
  | .inappropriateType _ 21 _ => .isDirectory
  | e => .other (toString e)

/-- Read the file of a path. -/
def readFile (path : String) : IO (Except FileFault ByteArray) := do
  try return .ok (← IO.FS.readBinFile path)
  catch e => return .error (.ofSystem e)

end MediaScraper.CommandLine

open MediaScraper

def main (words : List String) : IO UInt32 := do
  let files ← (CommandLine.pathsOf words).mapM fun path => do
    return (path, ← CommandLine.readFile path)
  let outcome := CommandLine.run (fun path => (files.lookup path).getD (.error .missing)) words
  IO.print outcome.output
  IO.eprint outcome.errors
  return outcome.code.toUInt32
