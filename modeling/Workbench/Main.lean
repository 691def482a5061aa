import Workbench.CommandLine.Run

/-!
# The program

Reads the files that a command line names, runs the command line on them, prints what it prints and
writes the files that it changes.
-/

namespace Workbench

open CommandLine (Request)

/-- the bytes of a file, if it can be read -/
def readBytes? (path : Text) : IO (Option Text.Bytes) := do
  try return some (← IO.FS.readBinFile (String.ofList path)).toList
  catch _ => return none

/-- a file system with those of some files that can be read -/
def gather (fs : Files) (paths : List Text) : IO Files := do
  let mut fs := fs
  for path in paths do
    if let some bytes := ← readBytes? path then fs := fs.put path bytes
  return fs

/-- the file that a command works on -/
def sourcePath : CommandLine.Command → Text
  | .tokens file _ _ _ => file
  | .run file _ => file

/-- the files that a request may read: settings, source and log, and the scripts that the settings
name -/
def gatherFor (o : CommandLine.Options) (c : CommandLine.Command) : IO Files := do
  let fs ← gather {} ([CommandLine.configPath o, sourcePath c] ++ o.logFile.toList)
  match Settings.loadOrDefault fs (CommandLine.configPath o) with
  | .error _ => return fs
  | .ok s =>
    let i := s.interpreter
    gather fs ([i.evalFlag, i.disassembleFlag, i.versionFlag].map String.toList)

/-- writes the log file back, if there is one, and the files in the working directory that a program
has changed -/
def save (o : CommandLine.Options) (before fs : Files) : IO Unit := do
  let log := o.logFile.toList.filterMap fun path =>
    (fs.read path).toOption.map fun bytes => (String.ofList path, bytes)
  let changed := fs.toList.filter fun f => before.toList.lookup f.1 ≠ some f.2
  for (path, bytes) in log ++ changed do
    IO.FS.writeBinFile path ⟨bytes.toArray⟩

def runProgram (args : List Text) : IO CommandLine.Completed := do
  match CommandLine.read args with
  | .ok (Request.command o c) =>
    let fs ← gatherFor o c
    let done := CommandLine.run fs args
    save o fs done.files
    return done
  | _ => return CommandLine.run {} args

end Workbench

def main (args : List String) : IO UInt32 := do
  let done ← Workbench.runProgram (args.map String.toList)
  IO.print (String.ofList done.out)
  IO.eprint (String.ofList done.err)
  return (done.code % 256).toNat.toUInt32
