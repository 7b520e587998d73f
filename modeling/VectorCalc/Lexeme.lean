import VectorCalc.Token.Kind

/-!
Lexemes. Whatever stands at the head of a text that does not start with a space is cut off as
one lexeme: a run of line feeds, a word, a numeral, a symbol, or else a single stray
character. Each is as long as it can be. A point belongs to a numeral only between digits.
-/
namespace VectorCalc

set_option autoImplicit false

def isSpace (character : Char) : Bool :=
  character == ' ' || character == '\t' || character == '\r' || character == '\x0c'

def isWordPart (character : Char) : Bool :=
  character.isAlpha || character.isDigit || character == '_'

inductive LexemeKind where
  | lineBreaks
  | word
  | whole
  | fraction
  | symbol (kind : TokenKind)
  | stray
  deriving Repr, DecidableEq

structure Lexeme where
  kind : LexemeKind
  text : List Char
  deriving Repr, DecidableEq

namespace Lexeme

/-- The digits after the whole part of a numeral, if a point and a digit follow. -/
def fractionAfter? : List Char → Option (List Char)
  | '.' :: digit :: others =>
      if digit.isDigit then some (digit :: others.takeWhile Char.isDigit) else none
  | _ => none

def numeral (first : Char) (others : List Char) : Lexeme :=
  let whole := first :: others.takeWhile Char.isDigit
  match fractionAfter? (others.dropWhile Char.isDigit) with
  | some fraction => ⟨.fraction, whole ++ '.' :: fraction⟩
  | none => ⟨.whole, whole⟩

/-- A symbol of two characters goes before a symbol of one. -/
def symbol (first : Char) (others : List Char) : Lexeme :=
  let single :=
    match TokenKind.ofSymbol? first with
    | some kind => ⟨.symbol kind, [first]⟩
    | none => ⟨.stray, [first]⟩
  match others with
  | second :: _ =>
      match TokenKind.ofSymbolPair? first second with
      | some kind => ⟨.symbol kind, [first, second]⟩
      | none => single
  | [] => single

def cut? : List Char → Option Lexeme
  | [] => none
  | first :: others =>
      if first = '\n' then some ⟨.lineBreaks, first :: others.takeWhile (· == '\n')⟩
      else if first.isAlpha then some ⟨.word, first :: others.takeWhile isWordPart⟩
      else if first.isDigit then some (numeral first others)
      else some (symbol first others)

end Lexeme

end VectorCalc
