import VectorCalc.Decimal.Read
import VectorCalc.Diagnostic
import VectorCalc.Lexeme
import VectorCalc.Source
import VectorCalc.Word

/-!
Reading tokens. One step skips spaces, cuts a lexeme and makes a token of it; the end of
the text gives the end-of-file token. Text that is no token, and an integer beyond the
64-bit range, give a bad token, which is one column wide whatever its length. Reading a
whole input stops at its first bad token.
-/
namespace VectorCalc

set_option autoImplicit false

namespace Lexeme

def badToken (text : List Char) (first last : Place) : Token :=
  ⟨.bad, .text (String.ofList text),
    ⟨first.offset, last.offset, first.line, first.line + 1, first.column, first.column + 1⟩⟩

def integerToken (digits : List Char) (first last : Place) : Except Breakdown Token :=
  if digitLimit < digits.length then .error (.literalTooLong digits.length)
  else
    let value := Text.digitsValue 0 digits
    if Word.largest < value then .ok (badToken digits first last)
    else .ok ⟨.int, .int value, first.spanTo last⟩

def floatValue (text : List Char) : Float :=
  let whole := text.takeWhile Char.isDigit
  Decimal.ofDigits whole (text.drop (whole.length + 1))

/-- A run of line feeds ends as many lines and as many columns further on as it is long. -/
def lineEndToken (text : List Char) (first last : Place) : Token :=
  ⟨.lineEnd, .text (String.ofList text),
    ⟨first.offset, last.offset, first.line, first.line + text.length, first.column,
      first.column + text.length⟩⟩

def token (lexeme : Lexeme) (first last : Place) : Except Breakdown Token :=
  match lexeme.kind with
  | .lineBreaks => .ok (lineEndToken lexeme.text first last)
  | .word =>
      .ok ⟨TokenKind.ofWord lexeme.text, .text (String.ofList lexeme.text), first.spanTo last⟩
  | .whole => integerToken lexeme.text first last
  | .fraction => .ok ⟨.float, .float (floatValue lexeme.text), first.spanTo last⟩
  | .symbol kind => .ok ⟨kind, .text (String.ofList lexeme.text), first.spanTo last⟩
  | .stray => .ok (badToken lexeme.text first last)

end Lexeme

namespace Source

def skipSpaces (source : Source) : Source :=
  source.advance (source.rest.takeWhile isSpace).length

def nextToken (source : Source) : Except Breakdown (Token × Source) :=
  let start := source.skipSpaces
  match Lexeme.cut? start.rest with
  | none => .ok (⟨.fileEnd, .none, start.place.spanTo start.place⟩, start)
  | some lexeme =>
      let after := start.advance lexeme.text.length
      match lexeme.token start.place after.place with
      | .ok token => .ok (token, after)
      | .error breakdown => .error breakdown

/-- The tokens up to the end of the text, bad ones included, each with the source after it. A
literal that cannot be converted ends the list early. -/
structure Scan where
  steps : List (Token × Source)
  broken : Option Breakdown

def Scan.tokens (scan : Scan) : List Token :=
  scan.steps.map Prod.fst

def scanWithin : Nat → Source → Scan
  | 0, _ => ⟨[], none⟩
  | bound + 1, source =>
      match source.nextToken with
      | .error breakdown => ⟨[], some breakdown⟩
      | .ok (token, after) =>
          if token.kind = .fileEnd then ⟨[(token, after)], none⟩
          else
            let others := scanWithin bound after
            ⟨(token, after) :: others.steps, others.broken⟩

/-- Every token but the last takes a character, so this bound is never the reason to stop. -/
def scan (source : Source) : Scan :=
  scanWithin (source.rest.length + 1) source

end Source

def Token.badCharacter (token : Token) : Issue :=
  ⟨.lexical ("bad character '" ++ token.payload.plain ++ "'"), token.span⟩

def tokenize (text : String) : Except Stop (List Token) :=
  let scan := (Source.ofText text).scan
  match scan.tokens.find? fun token => token.kind = .bad with
  | some token => .error (.issue token.badCharacter)
  | none =>
      match scan.broken with
      | some breakdown => .error (.broken breakdown)
      | none => .ok scan.tokens

end VectorCalc
