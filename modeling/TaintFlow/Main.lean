import TaintFlow.Command.Analysis

namespace TaintFlow

def readInput (path : String) : IO (String × Except String String) := do
  try return (path, .ok (← IO.FS.readFile path))
  catch e => return (path, .error (toString e))

def Command.inputs : Command → List String
  | .analyze o => o.inputs
  | .rules | .help => []

def deliver (r : Response) : IO UInt32 := do
  IO.print r.output
  IO.eprint r.complaint
  match r.file with
  | none => return r.status
  | some (path, text) =>
    try
      IO.FS.writeFile path text
      return r.status
    catch e =>
      IO.eprintln s!"Error: {e}"
      return 1

end TaintFlow

open TaintFlow

def main (args : List String) : IO UInt32 := do
  let paths := ((Command.ofArguments? args).map Command.inputs).getD []
  let texts ← paths.mapM readInput
  let files path := (texts.lookup path).getD (.error "not read")
  deliver (Command.respondTo files args)
