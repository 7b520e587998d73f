import VectorCalc.Report
import VectorCalc.Text.Blank

/-!
The interactive session. Every line is trimmed; a blank line does nothing, a command
acts on the session, anything else is evaluated in bindings that last for the whole
session. A line that fails prints its diagnostic and the session goes on.
-/
namespace VectorCalc

set_option autoImplicit false

inductive Entry where
  | typed (text : String)
  | interrupt
  deriving Repr, DecidableEq

structure Shell where
  bindings : Bindings := {}
  modes : Modes := {}

namespace Shell

def label : String := "<shell>"

def switchText (state : Bool) : String :=
  if state then "ON" else "OFF"

/-- Names are set flush right in a column of this width. -/
def nameWidth : Nat := 12

def aligned (name : Name) : Except Breakdown String :=
  match name with
  | .none => .error (.mismatch (.notAligned name))
  | name =>
      let shown := name.plain
      .ok (String.ofList (List.replicate (nameWidth - shown.length) ' ') ++ shown)

def bindingLine (name : Name) (value : Value) : Except Breakdown Emission := do
  let shownName ← aligned name
  let shownValue ← value.text
  return .line (shownName ++ " = " ++ shownValue)

/-- A line for each binding, up to the first name or value that cannot be printed. -/
def listEntries : List (Name × Value) → Report Unit
  | [] => ⟨.ok (), []⟩
  | (name, value) :: entries =>
      match bindingLine name value with
      | .error breakdown => ⟨.error breakdown, []⟩
      | .ok line =>
          let others := listEntries entries
          ⟨others.result, line :: others.emissions⟩

def listing (bindings : Bindings) : Report Unit :=
  if bindings.entries.isEmpty then ⟨.ok (), [.line "[vars] >>> (none)"]⟩
  else listEntries bindings.entries

def said (text : String) : Report Unit :=
  ⟨.ok (), [.line text]⟩

def command? (shell : Shell) (text : String) : Option (Shell × Report Unit) :=
  if text = "vars" then some (shell, listing shell.bindings)
  else if text = "reset" then
    some ({ shell with bindings := .empty }, said "[ok] >>> Context cleared.")
  else if text = "verbose-mode" then
    let verbose := !shell.modes.verbose
    some ({ shell with modes := { shell.modes with verbose := verbose } },
      said ("[mode] >>> Verbose mode " ++ switchText verbose))
  else if text = "ast-mode" then
    let tree := !shell.modes.tree
    some ({ shell with modes := { shell.modes with tree := tree } },
      said ("[mode] >>> AST mode " ++ switchText tree))
  else none

def evaluate (depth : Nat) (shell : Shell) (text : String) : Shell × Report Unit :=
  let run := runText depth shell.bindings text
  let report := run.report shell.modes label
  let after := { shell with bindings := run.bindings }
  match report.result with
  | .error breakdown => (after, ⟨.error breakdown, report.emissions⟩)
  | .ok none => (after, ⟨.ok (), report.emissions⟩)
  | .ok (some value) =>
      match value.text with
      | .error breakdown => (after, ⟨.error breakdown, report.emissions⟩)
      | .ok shown => (after, ⟨.ok (), report.emissions ++ [.line shown]⟩)

inductive Reaction where
  | leave
  | goOn (shell : Shell) (report : Report Unit)

def react (depth : Nat) (shell : Shell) (text : String) : Reaction :=
  if text = "" then .goOn shell ⟨.ok (), []⟩
  else if text = "exit" ∨ text = "quit" then .leave
  else
    match shell.command? text with
    | some (after, report) => .goOn after report
    | none =>
        let (after, report) := shell.evaluate depth text
        .goOn after report

def prompt : Emission := .out "> "

def banner : Emission := .line "Vecta REPL. Type 'exit' or 'quit' to leave."

def farewell : Emission := .line "Exiting Vecta REPL."

/-- Ending without a command leaves the prompt's line first. -/
def abandoned : Emission := .line "\nExiting Vecta REPL."

/-- The session from one prompt on. It ends by a command, an interrupt, the end of the entries
or a breakdown. -/
def proceed (depth : Nat) (shell : Shell) : List Entry → Report Unit
  | [] => ⟨.ok (), [prompt, abandoned]⟩
  | .interrupt :: _ => ⟨.ok (), [prompt, abandoned]⟩
  | .typed text :: entries =>
      match react depth shell (String.ofList (Text.trim text.toList)) with
      | .leave => ⟨.ok (), [prompt, farewell]⟩
      | .goOn after report =>
          match report.result with
          | .error breakdown => ⟨.error breakdown, prompt :: report.emissions⟩
          | .ok () =>
              let others := proceed depth after entries
              ⟨others.result, prompt :: (report.emissions ++ others.emissions)⟩

def session (depth : Nat) (modes : Modes) (entries : List Entry) : Report Unit :=
  let report := proceed depth { modes := modes } entries
  ⟨report.result, banner :: report.emissions⟩

end Shell

end VectorCalc
