import Tollgate.Cli.Startup

/-!
# The program

Reads the files that a start may need, and reports what the start comes to. Opening the listeners is
left to the system that runs the gateway.
-/

open Tollgate

def readText (path : String) : IO (Option String) := do
  try
    return some (← IO.FS.readFile path)
  catch _ => return none

def isDirectory (path : String) : IO Bool := do
  try
    let _ ← IO.FS.realPath path
    return (← readText path).isNone
  catch _ => return false

def pathsOf (config : Config) : List String :=
  config.server.certPath.toList ++ config.server.keyPath.toList
    ++ config.resolver.blocklistPath.toList ++ [config.ledger.dbPath]

def filesAt (paths : List String) : IO Cli.Files := do
  let texts ← paths.mapM fun path => return (path, ← readText path)
  let directories ← (paths ++ paths.map Cli.directoryOf).filterM isDirectory
  return {
    content? := fun path => (texts.lookup path).bind id
    isDirectory := directories.contains }

def pathsFor (arguments : List String) : IO (List String) := do
  match Cli.Call.ofArguments arguments with
  | .run given =>
    let configPath := (given.value? .config).toList
    let files ← filesAt configPath
    match Cli.configure files given with
    | .ok config => return configPath ++ pathsOf config
    | .error _ => return configPath
  | _ => return []

/-- Starts the gateway, as far as a start can be judged. -/
def main (arguments : List String) : IO UInt32 := do
  let files ← filesAt (← pathsFor arguments)
  match Cli.start files arguments with
  | .ended status printed =>
    IO.print printed
    return status.toUInt32
  | .failed error =>
    IO.eprintln s!"Error: {error.message}"
    return 1
  | .ready _ =>
    IO.println "ready"
    return 0
