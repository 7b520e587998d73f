import VectorCalc.CommandLine.Settings
import VectorCalc.Folder
import VectorCalc.Shell

/-!
The command line as a whole: what it prints about its own use, and what it carries out.
-/
namespace VectorCalc

set_option autoImplicit false

namespace CommandLine

def usageLine : String :=
  "usage: vecta [-h] [-s] [--ast] [--repl] [--verbose] [source]"

def helpText : String :=
  "\n".intercalate
    [usageLine, "", "positional arguments:",
      "  source        Filename or raw source (with -s)", "", "options:",
      "  -h, --help    show this help message and exit",
      "  -s, --string  Interpret source as literal string",
      "  --ast         Print the parsed tree before evaluating",
      "  --repl        Launch interactive REPL",
      "  --verbose     Log pipeline internals", ""]

def problemText : Usage → String
  | .help => ""
  | .ambiguous argument options =>
      "ambiguous option: " ++ argument ++ " could match " ++ ", ".intercalate options
  | .unusedValue flag value =>
      "argument " ++ flag.title ++ ": ignored explicit argument " ++ Text.quoted value
  | .unrecognized arguments => "unrecognized arguments: " ++ " ".intercalate arguments

/-- How the program ends: with a result code, or at once with an exit code. -/
inductive Ending where
  | finished (code : Nat)
  | exited (code : Nat)
  deriving Repr, DecidableEq

def usageReport : Usage → Report Ending
  | .help => ⟨.ok (.exited 0), [.out helpText]⟩
  | usage =>
      ⟨.ok (.exited 2),
        [.log (usageLine ++ "\n"), .log ("vecta: error: " ++ problemText usage ++ "\n")]⟩

def valueReport (report : Report (Option Value)) : Report Ending :=
  match report.result with
  | .error breakdown => ⟨.error breakdown, report.emissions⟩
  | .ok none => ⟨.ok (.finished 1), report.emissions⟩
  | .ok (some value) =>
      match value.text with
      | .error breakdown => ⟨.error breakdown, report.emissions⟩
      | .ok shown => ⟨.ok (.finished 0), report.emissions ++ [.line shown]⟩

def stringLabel : String := "<string>"

inductive Task where
  | converse
  | evaluateText (source : String)
  | evaluateFile (path : String)
  deriving Repr, DecidableEq

/-- Without a source, or on request, the interactive session starts. -/
def task (settings : Settings) : Task :=
  match settings.source with
  | some source =>
      if settings.shell then .converse
      else if settings.string then .evaluateText source
      else .evaluateFile source
  | none => .converse

def modes (settings : Settings) : Modes :=
  ⟨settings.verbose, settings.tree⟩

def carryOut (depth : Nat) (settings : Settings) (access : FileAccess) (entries : List Entry) :
    Report Ending :=
  match task settings with
  | .converse =>
      let report := Shell.session depth (modes settings) entries
      ⟨report.result.map fun _ => .finished 0, report.emissions⟩
  | .evaluateText source =>
      valueReport ((runText depth .empty source).report (modes settings) stringLabel)
  | .evaluateFile path => valueReport (reportFile depth (modes settings) access path)

def run (depth : Nat) (arguments : List String) (access : FileAccess) (entries : List Entry) :
    Report Ending :=
  match settings arguments with
  | .error usage => usageReport usage
  | .ok settings => carryOut depth settings access entries

end CommandLine

end VectorCalc
