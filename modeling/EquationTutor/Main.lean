import EquationTutor.CommandLine.Run

open EquationTutor

def lookUpFile (path : String) : IO FileState := do
  try
    return .text (← IO.FS.readFile path)
  catch
    | .noFileOrDirectory .. => return .absent
    | _ => return .directory

def main (args : List String) : IO UInt32 := do
  let path :=
    match (CommandLine.Arguments.ofList? args : Option (CommandLine.Arguments Float)) with
    | some a => a.settings.getD CommandLine.defaultPath
    | none => CommandLine.defaultPath
  let state ← lookUpFile path
  let outcome := CommandLine.run (fun _ => state) args
  IO.print outcome.output.toString
  IO.eprint outcome.errors
  return outcome.exit.toUInt32
