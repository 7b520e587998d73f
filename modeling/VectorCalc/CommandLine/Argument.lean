import VectorCalc.Text.Digit

/-!
Single arguments of the command line. By its spelling alone an argument is an option, known
or not, or a plain argument. Options may be shortened as long as they are unambiguous, and
flags of one letter may be joined.
-/
namespace VectorCalc

set_option autoImplicit false

inductive Flag where
  | help
  | string
  | tree
  | shell
  | verbose
  deriving Repr, DecidableEq

namespace Flag

def spellings : List (String × Flag) :=
  [("-h", .help), ("--help", .help), ("-s", .string), ("--string", .string), ("--ast", .tree),
    ("--repl", .shell), ("--verbose", .verbose)]

def title (flag : Flag) : String :=
  "/".intercalate ((spellings.filter fun entry => entry.2 == flag).map Prod.fst)

end Flag

/-- What an argument is, by its spelling alone. An option may come with a value in the same
argument, though no flag takes one. -/
inductive ArgumentClass where
  | plain
  | unknown
  | option (spelling : String) (flag : Flag) (value : Option String)
  | ambiguous (options : List String)
  deriving Repr, DecidableEq

namespace Argument

def splitValue (text : String) : String × Option String :=
  let characters := text.toList
  let before := characters.takeWhile (· != '=')
  match characters.drop before.length with
  | [] => (text, none)
  | _ :: after => (String.ofList before, some (String.ofList after))

def isNegativeNumber (text : String) : Bool :=
  match text.toList with
  | '-' :: characters =>
      let body :=
        match characters.reverse with
        | '\n' :: others => others.reverse
        | _ => characters
      let whole := body.takeWhile Text.isDecimalDigit
      match body.drop whole.length with
      | [] => !whole.isEmpty
      | '.' :: fraction => !fraction.isEmpty && fraction.all Text.isDecimalDigit
      | _ => false
  | _ => false

/-- The options that an argument may be short for. Two minus signs start a long spelling, which
may be cut short; one starts a letter, which may have more letters joined to it. -/
def candidates (text : String) : List (String × Flag × Option String) :=
  if text.startsWith "--" then
    let (spelling, value) := splitValue text
    (Flag.spellings.filter fun entry => entry.1.startsWith spelling).map fun entry =>
      (entry.1, entry.2, value)
  else
    let letter := String.ofList (text.toList.take 2)
    (Flag.spellings.filter fun entry => entry.1 == letter).map fun entry =>
      (entry.1, entry.2, some (String.ofList (text.toList.drop 2)))

/-- An argument that no option claims is plain if it is a negative number or has a space. -/
def classOfUnclaimed (text : String) : ArgumentClass :=
  if isNegativeNumber text || text.contains ' ' then .plain else .unknown

def classOfShortened (text : String) : ArgumentClass :=
  match candidates text with
  | [] => classOfUnclaimed text
  | [(spelling, flag, value)] => .option spelling flag value
  | many => .ambiguous (many.map Prod.fst)

def classOf (text : String) : ArgumentClass :=
  if !text.startsWith "-" then .plain
  else
    match Flag.spellings.lookup text with
    | some flag => .option text flag none
    | none =>
        if text.length = 1 then .plain
        else
          match splitValue text with
          | (spelling, some value) =>
              match Flag.spellings.lookup spelling with
              | some flag => .option spelling flag (some value)
              | none => classOfShortened text
          | (_, none) => classOfShortened text

end Argument

end VectorCalc
