import VectorCalc.CommandLine

/-!
The command. Everything it says and does is decided elsewhere; here text is read and
written.
-/
namespace VectorCalc.Main

set_option autoImplicit false

def write (emission : Emission) : IO Unit := do
  match emission with
  | .out text => (← IO.getStdout).putStr text
  | .log text => (← IO.getStderr).putStr text

def writeAll (emissions : List Emission) : IO Unit := do
  emissions.forM write
  (← IO.getStdout).flush

def faultOf (error : IO.Error) : FileFault :=
  match error with
  | .inappropriateType _ code _ => if code = 21 then .isFolder else .notFolder
  | _ => .missing

/-- Looks a file up once, so that the rest can be decided without it. -/
def accessTo (path : String) : IO FileAccess := do
  try
    let bytes ← IO.FS.readBinFile path
    return fun _ => .ok bytes.toList
  catch error => return fun _ => .error (faultOf error)

def breakDown (breakdown : Breakdown) : IO UInt32 := do
  IO.eprintln breakdown.message
  return 1

/-- One prompt after another until the user leaves. -/
partial def converse (shell : Shell) : IO UInt32 := do
  writeAll [Shell.prompt]
  let line ← (← IO.getStdin).getLine
  if line.isEmpty then
    writeAll [Shell.abandoned]
    return 0
  match shell.react callLimit (String.ofList (Text.trim line.toList)) with
  | .leave =>
      writeAll [Shell.farewell]
      return 0
  | .goOn after report =>
      writeAll report.emissions
      match report.result with
      | .ok () => converse after
      | .error breakdown => breakDown breakdown

def finish (report : Report CommandLine.Ending) : IO UInt32 := do
  writeAll report.emissions
  match report.result with
  | .ok (.finished code) => return code.toUInt32
  | .ok (.exited code) => return code.toUInt32
  | .error breakdown => breakDown breakdown

def start (arguments : List String) : IO UInt32 := do
  match CommandLine.settings arguments with
  | .error usage => finish (CommandLine.usageReport usage)
  | .ok settings =>
      match CommandLine.task settings with
      | .converse =>
          writeAll [Shell.banner]
          converse { modes := CommandLine.modes settings }
      | .evaluateText _ =>
          finish (CommandLine.carryOut callLimit settings (fun _ => .error .missing) [])
      | .evaluateFile path =>
          finish (CommandLine.carryOut callLimit settings (← accessTo path) [])

end VectorCalc.Main

def main (arguments : List String) : IO UInt32 :=
  VectorCalc.Main.start arguments
