import AppMetadata.TypeScript.Element
import AppMetadata.TypeScript.Statement

/-!
# `AppMetadata.TypeScript`: the statements of a source text

`TypeScript.statements?` reads a source text by the rules for the language of
its file, which the extension tells: TypeScript unless it is that of a
script.
-/

set_option autoImplicit false

namespace AppMetadata.TypeScript

/-- The grammar with one more level of nesting. -/
def Grammar.nest (g : Grammar) : Grammar where
  type := anyType g
  operandType := operatorType g
  assignment := assignmentExpression g
  unary := Prod.fst <$> signed g
  newTarget := newOperand g
  element := markedElement g
  classValue := classExpression g
  pattern := binding g
  statement := innerStatement g

/-- The grammar of texts that are nested at most `depth` deep. -/
def Grammar.upTo : (depth : Nat) → Grammar
  | 0 => .empty
  | depth + 1 => (Grammar.upTo depth).nest

/-- The language of the files with an extension. -/
def Dialect.ofExtension : Option String → Dialect
  | some "tsx" => ⟨true, true⟩
  | some "js" | some "mjs" | some "cjs" | some "jsx" => ⟨false, true⟩
  | _ => ⟨true, false⟩

/-- The statements up to the end of the text. -/
def wholeText (g : Grammar) : Parser (List Statement) :=
  Parser.many do
    if ← Parser.atEnd then
      return none
    some <$> topStatement g

/-- The statements of `source`, the text of the file at `path`, which is module
`scope`; none if it is not well-formed. Each level of nesting takes at least
one character. -/
def statements? (path : Path) (scope : ModuleId) (source : String) : Option (List Statement) := do
  let scan ← firstToken? source.toList
  let setting : Setting := {
    dialect := .ofExtension path.extension?
    source
    size := source.utf8ByteSize
    lines := .ofText source
    scope }
  let start : Cursor := { scan, previousStop := 0 }
  let (statements, _) ← (wholeText (Grammar.upTo (source.length + 1))).run setting |>.run start
  return statements

end AppMetadata.TypeScript
