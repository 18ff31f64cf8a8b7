import Lc3Lint.Cli.Run
/-! The checker's entry point: the arguments, the settings variables and the input file in, the
two streams and the exit status out. -/
open Lc3Lint

def probe (path : String) : IO Cli.Entry := do
  if Cli.refusesPath path then return .refused
  try
    let bytes ← IO.FS.readBinFile path
    return .file bytes.toList
  catch
    | .noFileOrDirectory .. => return .missing
    | _ => return .directory

def main (args : List String) : IO UInt32 := do
  let names := [Config.duplicateLabelsVariable, Config.warningsVariable, Config.maxErrorsVariable]
  let values ← names.mapM fun n => do return (n, ← IO.getEnv n)
  let entry ← match Cli.inputPath? args with
    | some path => probe path
    | none => pure .missing
  let outcome := Cli.run Cli.readCommandLine args (fun n => (values.lookup n).join) (fun _ => entry)
  IO.print outcome.stdout
  IO.eprint outcome.stderr
  return outcome.exitCode.toUInt32
