import AppMetadata.TypeScript.Expression

/-!
# `AppMetadata.TypeScript.Class`: classes

The rules of classes. Kept of a class are its fields: not what is static,
private by name, an accessor, a method or named by a computation.
-/

set_option autoImplicit false

namespace AppMetadata.TypeScript

open AppMetadata.TypeScript.Parser

variable (g : Grammar)

/-- A class as far as it is kept. -/
structure ClassParts where
  name : Option String
  isGeneric : Bool
  heritage : Option TypeNode
  members : List Member

/-- What an expression in a heritage clause refers to: a name, or a property
of a name. -/
def heritageName? : ExpressionForm → Option EntityName
  | .identifier name => some (.identifier name)
  | .member (some object) property => some (.qualified [object, property])
  | _ => none

/-- A heritage clause as a type. -/
def heritageType (expression : Expression) (text : String) (args : List TypeNode) :
    Parser TypeNode := do
  match heritageName? expression.form with
  | some name => typeAt expression.start (.reference ⟨name, args, (← read).scope⟩)
  | none =>
    typeAt expression.start (.unsupported ("heritage clause `" ++ text ++ "`"))

/-- An expression in a heritage clause, with its source text and type
arguments. -/
def heritageExpression : Parser (Expression × String × List TypeNode) := do
  let first ← operand g
  let expression ← iterate (fun expression => do
    if ← atMark "\x7b" then return none
    if (← atMark "<") || (← atMark "<<") then
      -- type arguments are those of the clause, unless a call follows
      if ← ahead (do discard (typeArguments g); atMark "(") then
        return (← chainStep g true ⟨expression, false⟩).map (·.expression)
      else return none
    return (← chainStep g true ⟨expression, false⟩).map (·.expression)) first
  let text ← textFrom expression.start
  let args ←
    if (← atMark "<") || (← atMark "<<") then
      requireTypes
      typeArguments g
    else pure []
  return (expression, text, args)

/-- The class that a class extends; its type arguments are dropped. -/
def classHeritage : Parser (Option TypeNode) := do
  if ← eatWord "extends" then
    let (expression, text, _) ← heritageExpression g
    some <$> heritageType expression text []
  else return none

/-- The interfaces that a class implements. -/
def implemented : Parser Unit := do
  if ← eatWord "implements" then
    requireTypes
    let one : Parser Unit := discard (referenceType g)
    one
    discard <| many do
      if ← eatMark "," then
        some <$> one
      else return none

/-- The words that may stand before a member of a class. -/
def classModifiers : List String :=
  ["public", "private", "protected", "readonly", "static", "abstract", "override", "declare",
    "accessor", "async"]

/-- The modifiers that belong to the language of types. -/
def typedModifiers : List String :=
  ["public", "private", "protected", "readonly", "abstract", "override", "declare"]

/-- The name of a member of a class; none is kept of a private one. -/
def memberName : Parser (Option String) := do
  match ← kind with
  | .privateName name =>
    require (name != "constructor")
    advance
    return none
  | _ => return (← propertyName g).1

/-- Whether a class may have something other than a plain method with the name
at the present place: its constructor is one. -/
def atSpecialName (isStatic : Bool) : Parser Bool := do
  match ← kind with
  | .word name | .string name =>
    return if isStatic then name == "prototype" else name == "constructor"
  | _ => return false

/-- Whether each of the modifiers occurs once, and at most one says who sees
the member. -/
def areConsistent (words : List String) : Bool :=
  words.Nodup && (words.filter ["public", "private", "protected"].contains).length ≤ 1

/-- The rest of a method: its body may be elsewhere. -/
def methodTail : Parser Unit := do
  discard (typeParameters g)
  discard (parameters g)
  discard (declaredReturn g)
  if ← atMark "\x7b" then functionBody g
  else
    requireTypes
    statementEnd

/-- The rest of an accessor: its body may be elsewhere. -/
def accessorTail (setter : Bool) : Parser Unit := do
  discard (accessorSignature g setter)
  if ← atMark "\x7b" then functionBody g
  else
    requireTypes
    statementEnd

/-- The rest of a field after its name: its type and value. Answers whether it
may be absent, and its type. -/
def fieldTail : Parser (Bool × Option TypeNode) := do
  let isOptional ← eatMark "?"
  if isOptional then requireTypes
  else if ← atMark "!" then
    requireTypes
    mark "!"
  let type ← declaredType g
  if ← eatMark "=" then
    discard (under ({ · with inOperator := true }) g.assignment)
  statementEnd
  return (isOptional, type)

/-- A member of a class, if it is kept. -/
def classMember : Parser (Option Member) := do
  let location ← here
  let doc ← doc
  discard (decorators g)
  if (← atWord "static") && (← nextToken (·.kind == .mark "\x7b")) then
    advance
    mark "\x7b"
    discard <| under ({ · with inFunction := false }) <| many do
      if ← eatMark "\x7d" then
        return none
      some <$> g.statement
    return none
  let words ← modifiers classModifiers
  require (areConsistent words)
  if words.any typedModifiers.contains then requireTypes
  let isStatic := words.contains "static"
  if (← atAccessor "get") || (← atAccessor "set") then
    let setter ← atWord "set"
    advance
    require !(← atSpecialName isStatic)
    discard (memberName g)
    accessorTail g setter
    return none
  if ← eatMark "*" then
    require !(← atSpecialName isStatic)
    discard (memberName g)
    methodTail g
    return none
  if ← atIndexSignature then
    requireTypes
    indexSignature g
    memberEnd
    return none
  let special ← atSpecialName isStatic
  let name ← memberName g
  let optionalMethod ← ahead do
    mark "?"
    return (← atMark "(") || (← atMark "<")
  if optionalMethod || (← atMark "(") || (← atMark "<") then
    require !(special && (isStatic || words.contains "async"))
    discard (eatMark "?")
    methodTail g
    return none
  require !(special || name == some "constructor" || words.contains "async")
  let (isOptional, type) ← fieldTail g
  match name with
  | some name =>
    if isStatic || words.contains "accessor" then return none
    return some ⟨name, .field type, isOptional, doc, location⟩
  | none => return none

/-- The members of a class, in braces. -/
def classBody : Parser (List Member) := do
  mark "\x7b"
  let members ← many do
    if ← eatMark "\x7d" then
      return none
    if ← eatMark ";" then
      return some none
    some <$> classMember g
  return members.filterMap id

/-- Whether the present word is the name of a class and not the start of a
clause after it. -/
def atClassName : Parser Bool := do
  if ← atWord "implements" then
    return !(← nextToken (·.kind.identifier?.isSome))
  atIdentifier

/-- A class, from its keyword on. -/
def classParts : Parser ClassParts := do
  word "class"
  let name ← if ← atClassName then some <$> identifier else pure none
  let isGeneric ← typeParameters g
  let heritage ← classHeritage g
  implemented g
  let members ← classBody g
  return { name, isGeneric, heritage, members }

/-- A class as a value. -/
def classExpression : Parser Unit := do
  discard (eatWord "abstract")
  discard (classParts g)

end AppMetadata.TypeScript
