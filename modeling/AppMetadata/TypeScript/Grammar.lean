import AppMetadata.TypeScript.Parser

/-!
# `AppMetadata.TypeScript.Grammar`: the rules that refer to one another

Types, expressions, patterns and statements contain one another. The rules
for each are written against a `Grammar`, which holds the rules that may
occur again inside, so that each is an ordinary function. The grammar of
nesting zero refuses everything, and one level more of nesting is one more
application of the rules; no text is nested more deeply than it is long.

Of an expression no more is kept than other files can see (`Expression`).
-/

set_option autoImplicit false

namespace AppMetadata.TypeScript

/-- What an expression is, as far as it matters outside of it. -/
inductive ExpressionForm
  | identifier (name : String)
  /-- The property of an object; the object if it is an identifier. -/
  | member (object : Option String) (property : String)
  | call (call : InitialCall)
  | string (value : String)
  /-- Another literal, with the name that it gives to a property. -/
  | literal (name : String)
  /-- An object or array literal, which may turn out to be a pattern. -/
  | pattern
  /-- Anything else, and whether a value can be assigned to it. -/
  | other (assignable : Bool)

namespace ExpressionForm

/-- Whether a value can be assigned, by `=` if `plain` or by another
operator. -/
def isTarget (plain : Bool) : ExpressionForm → Bool
  | identifier _ | member _ _ => true
  | pattern => plain
  | other assignable => assignable
  | _ => false

end ExpressionForm

/-- An expression and the offset of its first byte. -/
structure Expression where
  form : ExpressionForm
  start : Nat

/-- The rules that occur inside others. -/
structure Grammar where
  /-- A type. -/
  type : Parser TypeNode
  /-- A type after its first operator. -/
  operandType : Parser TypeNode
  /-- An expression without commas. -/
  assignment : Parser Expression
  /-- The operand of a prefix operator. -/
  unary : Parser Expression
  /-- The operand of `new`. -/
  newTarget : Parser Unit
  /-- An element in angle brackets, up to its last mark, which is left. -/
  element : Parser Unit
  /-- A class as a value. -/
  classValue : Parser Unit
  /-- What a variable or parameter binds. -/
  pattern : Parser Binding
  /-- A statement in a block. -/
  statement : Parser Unit

namespace Grammar

/-- The grammar without any texts. -/
def empty : Grammar where
  type := failure
  operandType := failure
  assignment := failure
  unary := failure
  newTarget := failure
  element := failure
  classValue := failure
  pattern := failure
  statement := failure

end Grammar

end AppMetadata.TypeScript
