import Homophone.Program.Run
import Homophone.Program.Wanted

/-! The command line: reading the files that a run looks at, and printing what comes of it. -/

set_option autoImplicit false

namespace Homophone.Program

def observe (path : String) : IO (Option FileContent) := do
  try
    return some (.bytes (← IO.FS.readBinFile path))
  catch _ =>
    try
      return if ← (← IO.FS.realPath path).isDir then some .directory else none
    catch _ =>
      return none

/-- Read what a command wants until it wants nothing new. -/
partial def gather (command : Command) (start : Place) (tried : List String)
    (found : List (String × FileContent)) : IO FileTree := do
  let files := FileTree.ofPaths start found
  let fresh := (command.wanted files).filter (!tried.contains ·)
  if fresh.isEmpty then
    return files
  let more ← fresh.filterMapM fun path => do
    return (← observe path).map fun content => (path, content)
  gather command start (tried ++ fresh) (found ++ more)

/-- The files that a request looks at, and the standard input if it takes names from it. -/
def prepare (request : Option Request) (start : Place) : IO (FileTree × String) := do
  let nothing := [(".", FileContent.directory)]
  match request with
  | some (.run command) =>
    let files ← gather command start [] nothing
    let input ← if command.readsInput then (← IO.getStdin).readToEnd else pure ""
    return (files, input)
  | _ => return (.ofPaths start nothing, "")

def start (arguments : List String) : IO UInt32 := do
  let environment ← IO.getEnv "BMPM_RULES_DIR"
  let place := Place.root.reach (← IO.currentDir).toString
  let (files, input) ← prepare (Arguments.parse environment arguments) place
  let outcome := run files environment input arguments
  IO.print outcome.output
  IO.eprint outcome.errors
  return outcome.code.toUInt32

end Homophone.Program

def main (arguments : List String) : IO UInt32 := Homophone.Program.start arguments
