import VectorCalc.CommandLine.Argument

/-!
From arguments to settings. Every argument is classed before any takes effect; one that
could be short for several options ends the matter at once. After the mark of two minus
signs all arguments are plain. The arguments then take effect from left to right, the first
plain one as the source, and those that nothing takes are reported together at the end.
-/
namespace VectorCalc

set_option autoImplicit false

structure Settings where
  string : Bool := false
  tree : Bool := false
  shell : Bool := false
  verbose : Bool := false
  source : Option String := none
  deriving Repr, DecidableEq

inductive Usage where
  | help
  | ambiguous (argument : String) (options : List String)
  | unusedValue (flag : Flag) (value : String)
  | unrecognized (arguments : List String)
  deriving Repr, DecidableEq

/-- What the arguments so far have set, whether the place of the source is taken, and the
arguments that nothing took. -/
structure Intake where
  settings : Settings := {}
  sourceTaken : Bool := false
  extras : List String := []
  deriving Repr, DecidableEq

namespace CommandLine

/-- All arguments with their classes. After the mark every argument is plain. -/
def classify : List String → List (String × ArgumentClass)
  | [] => []
  | text :: arguments =>
      if text = "--" then (text, .plain) :: arguments.map fun later => (later, .plain)
      else (text, Argument.classOf text) :: classify arguments

def firstAmbiguity : List (String × ArgumentClass) → Option Usage
  | [] => none
  | (text, .ambiguous options) :: _ => some (.ambiguous text options)
  | _ :: arguments => firstAmbiguity arguments

/-- The flags of one argument. Letters joined to a flag of one letter are flags themselves; any
other value is one that no flag takes. -/
def joinedFlags (flag : Flag) : List Char → Except Usage (List Flag)
  | [] => .ok [flag]
  | letter :: letters =>
      match Flag.spellings.lookup (String.ofList ['-', letter]) with
      | none => .error (.unusedValue flag (String.ofList (letter :: letters)))
      | some next =>
          match joinedFlags next letters with
          | .ok flags => .ok (flag :: flags)
          | .error usage => .error usage

def optionFlags (spelling : String) (flag : Flag) (value : Option String) :
    Except Usage (List Flag) :=
  match value with
  | none => .ok [flag]
  | some text =>
      if text = "" ∨ spelling.startsWith "--" = true then .error (.unusedValue flag text)
      else joinedFlags flag text.toList

def setFlag (settings : Settings) : Flag → Except Usage Settings
  | .help => .error .help
  | .string => .ok { settings with string := true }
  | .tree => .ok { settings with tree := true }
  | .shell => .ok { settings with shell := true }
  | .verbose => .ok { settings with verbose := true }

def setFlags (settings : Settings) : List Flag → Except Usage Settings
  | [] => .ok settings
  | flag :: flags =>
      match setFlag settings flag with
      | .ok after => setFlags after flags
      | .error usage => .error usage

/-- Takes plain arguments. The first is the source; a mark right before it or right after it goes
with it, and everything else is left over. -/
def takePlain (intake : Intake) (arguments : List String) : Intake :=
  if intake.sourceTaken || arguments.isEmpty then
    { intake with extras := intake.extras ++ arguments }
  else
    let (leading, others) :=
      match arguments with
      | "--" :: others => (true, others)
      | others => (false, others)
    match others with
    | [] => { intake with sourceTaken := true }
    | source :: later =>
        let rest :=
          match later with
          | "--" :: after => if leading then later else after
          | after => after
        { settings := { intake.settings with source := some source }
          sourceTaken := true
          extras := intake.extras ++ rest }

/-- Carries out the arguments from left to right. Plain arguments in a row, kept latest first,
are taken together. -/
def consume (intake : Intake) : List String → List (String × ArgumentClass) → Except Usage Intake
  | row, [] => .ok (takePlain intake row.reverse)
  | row, (text, .plain) :: arguments => consume intake (text :: row) arguments
  | row, (_, .option spelling flag value) :: arguments =>
      let before := takePlain intake row.reverse
      match optionFlags spelling flag value with
      | .error usage => .error usage
      | .ok flags =>
          match setFlags before.settings flags with
          | .error usage => .error usage
          | .ok settings => consume { before with settings := settings } [] arguments
  | row, (text, _) :: arguments =>
      let before := takePlain intake row.reverse
      consume { before with extras := before.extras ++ [text] } [] arguments

def settings (arguments : List String) : Except Usage Settings :=
  let classes := classify arguments
  match firstAmbiguity classes with
  | some usage => .error usage
  | none =>
      match consume {} [] classes with
      | .error usage => .error usage
      | .ok intake =>
          if intake.extras.isEmpty then .ok intake.settings
          else .error (.unrecognized intake.extras)

end CommandLine

end VectorCalc
