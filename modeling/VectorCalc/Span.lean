import VectorCalc.Text.Digit

/-!
Ranges of source text. A span gives byte offsets, lines and columns, all counted from
zero, with ends that lie one past the last character. A construct covers its parts by
widening the span of its first part over the others; widening moves the ends only, each
on its own, and never back.
-/
namespace VectorCalc

set_option autoImplicit false

structure Span where
  start : Int := 0
  stop : Int := 0
  lineStart : Int := 0
  lineStop : Int := 0
  columnStart : Int := 0
  columnStop : Int := 0
  deriving Repr, DecidableEq

namespace Span

def extend (span other : Span) : Span :=
  { span with
    stop := max span.stop other.stop
    lineStop := max span.lineStop other.lineStop
    columnStop := max span.columnStop other.columnStop }

def after (span : Span) : Span :=
  ⟨span.stop, span.stop, span.lineStop, span.lineStop, span.columnStop, span.columnStop⟩

/-- Where the span starts, as diagnostics give it. -/
def text (span : Span) : String :=
  "<ln: " ++ Text.integerText span.lineStart ++ ", column: " ++ Text.integerText span.columnStart
    ++ ">"

def fields (span : Span) : List Int :=
  [span.start, span.stop, span.lineStart, span.lineStop, span.columnStart, span.columnStop]

def description (span : Span) : String :=
  "Position(" ++ ", ".intercalate (span.fields.map Text.integerText) ++ ")"

end Span

end VectorCalc
