import VectorCalc.Payload

/-!
What can go wrong when a rule meets content of the wrong type: a text or nothing where a
number is needed, or a double where only an integer will do. Trees that were read from
text never lead here.
-/
namespace VectorCalc

set_option autoImplicit false

inductive Mismatch where
  /-- An operator has no rule for these contents. -/
  | operands (symbol : String) (left right : Payload)
  /-- These contents have no order. -/
  | unordered (symbol : String) (left right : Payload)
  /-- Only a text can be joined to a text. -/
  | notJoined (right : Payload)
  /-- Only an integer can say how often a text is repeated. -/
  | notRepeated (count : Payload)
  /-- A template without a slot was given content. -/
  | notFilled
  /-- A template asks for content a second time. -/
  | usedUp
  /-- A slot asks for its content by name. -/
  | slotName
  /-- Only an integer can be the width or the precision of a slot. -/
  | slotSize
  /-- A slot shows the digits of a number. -/
  | slotNumber (letter : Char) (content : Payload)
  /-- A slot shows the digits of an integer. -/
  | slotInteger (letter : Char) (content : Payload)
  /-- A slot shows one character, by itself or by its code. -/
  | slotCharacter
  | notNegated (content : Payload)
  /-- A double was needed, and the content cannot be read as one. -/
  | notConverted (content : Payload)
  /-- A number was needed to print a double. -/
  | notReal (content : Payload)
  /-- Nothing at all cannot be set in a column. -/
  | notAligned (content : Payload)
  | notPosition (content : Payload)
  /-- Raising to a whole power modulo a number takes integers. -/
  | notWholePower
  | notPowerBase (base : Payload)
  deriving Repr

def Mismatch.message : Mismatch → String
  | .operands symbol left right =>
      "unsupported operand type(s) for " ++ symbol ++ ": '" ++ left.typeName ++ "' and '"
        ++ right.typeName ++ "'"
  | .unordered symbol left right =>
      "'" ++ symbol ++ "' not supported between instances of '" ++ left.typeName ++ "' and '"
        ++ right.typeName ++ "'"
  | .notJoined right => "can only concatenate str (not \"" ++ right.typeName ++ "\") to str"
  | .notRepeated count =>
      "can't multiply sequence by non-int of type '" ++ count.typeName ++ "'"
  | .notFilled => "not all arguments converted during string formatting"
  | .usedUp => "not enough arguments for format string"
  | .slotName => "format requires a mapping"
  | .slotSize => "* wants int"
  | .slotNumber letter content =>
      "%" ++ String.ofList [letter] ++ " format: a real number is required, not "
        ++ content.typeName
  | .slotInteger letter content =>
      "%" ++ String.ofList [letter] ++ " format: an integer is required, not "
        ++ content.typeName
  | .slotCharacter => "%c requires int or char"
  | .notNegated content => "bad operand type for unary -: '" ++ content.typeName ++ "'"
  | .notConverted content =>
      "float() argument must be a string or a real number, not '" ++ content.typeName ++ "'"
  | .notReal content => "must be real number, not " ++ content.typeName
  | .notAligned content =>
      "unsupported format string passed to " ++ content.typeName ++ ".__format__"
  | .notPosition content => "list indices must be integers or slices, not " ++ content.typeName
  | .notWholePower => "pow() 3rd argument not allowed unless all arguments are integers"
  | .notPowerBase base =>
      "unsupported operand type(s) for ** or pow(): '" ++ base.typeName ++ "', 'int', 'int'"

end VectorCalc
