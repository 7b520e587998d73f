import VectorCalc.Evaluation
import VectorCalc.Grammar

/-!
Running an input and telling what happened. A run reads and evaluates one text and
remembers what it did on the way. A report is what a user sees of it: the value or the
diagnostic on the output, on request the tree before its evaluation, and on request a log
of what was done.
-/
namespace VectorCalc

set_option autoImplicit false

inductive Event where
  | lexed (count : Nat)
  | parsed (tree : Node)
  | called (call : Call)
  deriving Repr

/-- The events of a run are kept in two parts, before and after its tree can be shown. -/
structure Run where
  result : Except Stop Value
  bindings : Bindings
  tree : Option Node
  reading : List Event
  calls : List Event

def runText (depth : Nat) (bindings : Bindings) (text : String) : Run :=
  match tokenize text with
  | .error stop => ⟨.error stop, bindings, none, [], []⟩
  | .ok tokens =>
      match parseTokens tokens with
      | .error stop => ⟨.error stop, bindings, none, [.lexed tokens.length], []⟩
      | .ok tree =>
          let outcome := Evaluation.evaluate depth tree tree.span bindings
          ⟨outcome.result, outcome.bindings, some tree, [.lexed tokens.length, .parsed tree],
            outcome.calls.map .called⟩

inductive Emission where
  | out (text : String)
  | log (text : String)
  deriving Repr, DecidableEq

namespace Emission

def outText : Emission → String
  | .out text => text
  | .log _ => ""

def logText : Emission → String
  | .out _ => ""
  | .log text => text

def output (emissions : List Emission) : String :=
  String.join (emissions.map outText)

def logged (emissions : List Emission) : String :=
  String.join (emissions.map logText)

def line (text : String) : Emission :=
  .out (text ++ "\n")

def logLine (component message : String) : Emission :=
  .log ("[DEBUG] vecta." ++ component ++ " >>> " ++ message ++ "\n")

end Emission

/-- The log line of an event; what cannot be printed leaves none. -/
def Event.emission? (label : String) : Event → Option Emission
  | .lexed count =>
      some (.logLine "vecta_lexer" ("lexed " ++ Text.integerText count ++ " tokens from " ++ label))
  | .parsed tree =>
      tree.text.toOption.map fun shown => .logLine "vecta_parser" ("parsed " ++ shown)
  | .called call =>
      match call.callee.text, call.argument.text with
      | .ok callee, .ok argument =>
          some (.logLine "vecta_interpreter"
            ("call " ++ callee ++ "(" ++ call.parameter.plain ++ " = " ++ argument ++ ")"))
      | _, _ => none

structure Modes where
  verbose : Bool := false
  tree : Bool := false
  deriving Repr, DecidableEq

/-- A diagnostic that could not be worded, or any other breakdown, escapes the report. -/
structure Report (α : Type) where
  result : Except Breakdown α
  emissions : List Emission

def eventEmissions (modes : Modes) (label : String) (events : List Event) : List Emission :=
  if modes.verbose then events.filterMap (Event.emission? label) else []

def treeEmissions (modes : Modes) (tree : Option Node) : List Emission :=
  if modes.tree then
    match tree.bind fun node => node.text.toOption with
    | some shown => [.line ("[ast] >>> " ++ shown)]
    | none => []
  else []

def failureEmissions (modes : Modes) (label message description : String) : List Emission :=
  let entry :=
    if modes.verbose then [.logLine "vecta_runner" (label ++ " failed: " ++ description)] else []
  entry ++ [.line message]

def resultReport (modes : Modes) (label : String) (result : Except Stop Value) :
    Report (Option Value) :=
  match result with
  | .ok value => ⟨.ok (some value), []⟩
  | .error (.broken breakdown) => ⟨.error breakdown, []⟩
  | .error (.issue issue) =>
      let diagnostic := issue.labelled label
      match diagnostic.message, diagnostic.description with
      | .ok message, .ok description =>
          ⟨.ok none, failureEmissions modes label message description⟩
      | .error breakdown, _ => ⟨.error breakdown, []⟩
      | _, .error breakdown => ⟨.error breakdown, []⟩

def Run.report (run : Run) (modes : Modes) (label : String) : Report (Option Value) :=
  let final := resultReport modes label run.result
  ⟨final.result,
    eventEmissions modes label run.reading ++ treeEmissions modes run.tree
      ++ eventEmissions modes label run.calls ++ final.emissions⟩

end VectorCalc
