import Webprint.Cli.Run

set_option autoImplicit false

/-!
# The command line

Reads the files that a command names, runs the command, writes the files that it has changed, and
prints.
-/

namespace Webprint.Main

def probe (path : String) : IO (Option Entry) := do
  try
    return some (.file (← IO.FS.readBinFile path).toList)
  catch
    | .inappropriateType _ 21 _ => return some .directory
    | _ => return none

def pathOf (loc : Location) : String :=
  match loc with
  | "/" :: names => "/" ++ "/".intercalate names
  | names => "/".intercalate names

def readAlong (s : Store) (path : String) : IO Store :=
  let names := Store.names path
  (List.range names.length).foldlM (fun s n => do
    let loc := Store.start path ++ names.take (n + 1)
    match ← probe (pathOf loc) with
    | some e => return s.put loc e
    | none => return s) s

/-- Writes what has changed. What cannot be written is left. -/
def flush (before after : Store) : IO Unit :=
  (after.changes before).forM fun (loc, content) => do
    try
      let directory := pathOf loc.dropLast
      if directory ≠ "" then IO.FS.createDirAll directory
      IO.FS.writeBinFile (pathOf loc) ⟨content.toArray⟩
    catch _ => return ()

end Webprint.Main

open Webprint in
def main (arguments : List String) : IO UInt32 := do
  let e : Environment := ⟨← IO.getEnv "HOME", ← IO.getEnv "USERPROFILE"⟩
  let paths := match Cli.Command.ofArguments arguments with
    | .ok command => command.paths e
    | .error _ => []
  let before ← paths.foldlM Main.readAlong Store.empty
  let (outcome, after) := Cli.run e arguments before
  Main.flush before after
  IO.print outcome.output
  IO.eprint outcome.errors
  return outcome.exitCode
