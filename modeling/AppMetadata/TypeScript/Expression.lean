import AppMetadata.TypeScript.Pattern

/-!
# `AppMetadata.TypeScript.Expression`: expressions

The rules of expressions. Most are read only to find where they end; kept is
whether an expression is a name, a property, a call or a literal.
-/

set_option autoImplicit false

namespace AppMetadata.TypeScript

open AppMetadata.TypeScript.Parser

variable (g : Grammar)

/-- An expression of `form` that starts at `start`. -/
def expressionAt (start : Nat) (form : ExpressionForm) : Parser Expression :=
  pure ⟨form, start⟩

/-- An expression of which nothing is kept. -/
def plainAt (start : Nat) : Parser Expression :=
  expressionAt start (.other false)

/-- Expressions joined by commas. -/
def sequence : Parser Expression := do
  let first ← g.assignment
  let others ← many do
    if ← eatMark "," then
      some <$> g.assignment
    else return none
  if others.isEmpty then return first else plainAt first.start

/-- An expression with commas, in which `in` is an operator. -/
def enclosed : Parser Expression :=
  under ({ · with inOperator := true }) (sequence g)

/-- A value, or all values of another one. -/
def spreadable : Parser Unit := do
  discard (eatMark "...")
  discard (under ({ · with inOperator := true }) g.assignment)

/-- The arguments of a call. -/
def arguments : Parser Unit := do
  mark "("
  discard (separated (spreadable g) ")")

/-! ### Functions -/

/-- The statements of a function, in braces. -/
def functionBody : Parser Unit := do
  mark "\x7b"
  discard <| under ({ · with inFunction := true, inOperator := true, ambient := false }) <| many do
    if ← eatMark "\x7d" then
      return none
    some <$> g.statement

/-- The parameters, return type and body of a function. -/
def functionTail : Parser Unit := do
  discard (typeParameters g)
  discard (parameters g)
  discard (declaredReturn g)
  functionBody g

/-- A function as a value. -/
def functionExpression : Parser Unit := do
  discard (eatWord "async")
  word "function"
  discard (eatMark "*")
  discard (optionally identifier)
  functionTail g

/-- What follows the arrow of a function. -/
def arrowBody : Parser Unit := do
  if ← atMark "\x7b" then functionBody g
  else discard (under ({ · with inFunction := true }) g.assignment)

/-- The arrow of a function, on the line on which its parameters end. -/
def arrow : Parser Unit := do
  require !(← token).newlineBefore
  mark "=>"

/-- Whether a function with an arrow may start here. -/
def atArrowStart : Parser Bool := do
  match ← kind with
  | .mark "(" | .mark "<" => return true
  | .word "async" =>
    nextToken fun next => next.kind == .mark "=>" || !next.newlineBefore &&
      (next.kind == .mark "(" || next.kind == .mark "<" || next.kind.identifier?.isSome)
  | kind => return kind.identifier?.isSome && (← nextToken (·.kind == .mark "=>"))

/-- Whether the type parameters at which the text stands belong to a function
where elements may be written too: there is a comma or a bound. -/
def genericArrow : Parser Unit := do
  if (← read).dialect.elements && (← atMark "<") then
    require <| ← ahead do
      mark "<"
      discard (eatWord "const")
      discard identifier
      return (← atMark ",") || (← atWord "extends")

/-- A function with an arrow. -/
def arrowFunction : Parser Expression := do
  let start := (← token).start
  if (← atWord "async") && !(← nextToken (·.kind == .mark "=>")) then
    advance
  if (← atMark "(") || (← atMark "<") then
    genericArrow
    discard (typeParameters g)
    discard (parameters g)
    if (← read).arrowReturns then
      discard (declaredReturn g)
  else discard identifier
  arrow
  arrowBody g
  plainAt start

/-! ### Literals -/

/-- A getter or setter of an object. -/
def objectAccessor : Parser Unit := do
  let setter ← atWord "set"
  advance
  discard (propertyName g)
  discard (accessorSignature g setter)
  functionBody g

/-- A property or method of an object. -/
def objectProperty : Parser Unit := do
  let words ← modifiers ["async"]
  let generator ← eatMark "*"
  let shorthand ← atIdentifier
  discard (propertyName g)
  if (← atMark "(") || (← atMark "<") then functionTail g
  else
    require (words.isEmpty && !generator)
    if ← eatMark ":" then discard (under ({ · with inOperator := true }) g.assignment)
    else
      require shorthand
      defaultValue g

/-- A member of an object literal. -/
def objectMember : Parser Unit := do
  if ← eatMark "..." then
    discard (under ({ · with inOperator := true }) g.assignment)
  else if (← atAccessor "get") || (← atAccessor "set") then objectAccessor g
  else objectProperty g

/-- An object literal. -/
def objectLiteral : Parser Unit := do
  mark "\x7b"
  discard (separated (objectMember g) "\x7d")

/-- An array literal, in which places may be left out. -/
def arrayLiteral : Parser Unit := do
  mark "["
  discard <| many do
    if ← eatMark "]" then
      return none
    if ← eatMark "," then
      return some ()
    spreadable g
    if !(← atMark "]") then mark ","
    return some ()

/-- A template, which is a literal if it has no expressions. -/
def template : Parser ExpressionForm := do
  match ← kind with
  | .template (some value) true =>
    advance
    return .literal value
  | .template none true => failure
  | _ =>
    templateRest (discard (enclosed g))
    return .other false

/-! ### Operands -/

/-- An expression in parentheses: what can be assigned to inside, can be
outside. -/
def parenthesized : Parser ExpressionForm := do
  mark "("
  let inner ← under ({ · with arrowReturns := true }) (enclosed g)
  mark ")"
  return .other (inner.form.isTarget false)

/-- `import` as a function, or what is known about the module. -/
def importExpression : Parser ExpressionForm := do
  word "import"
  if ← eatMark "." then
    if !(← eatWord "meta") then
      require (← atAnyWord ["source", "defer"])
      advance
      arguments g
  else arguments g
  return .other false

/-- A new object. -/
def newExpression : Parser Unit := do
  word "new"
  if ← eatMark "." then
    word "target"
  else
    require !(← atWord "import")
    g.newTarget
    discard (optionally (typeArguments g))
    if ← atMark "(" then arguments g

/-- A regular expression, which gives its text to a property. -/
def regularExpression : Parser ExpressionForm := do
  let start := (← token).start
  replaceToken Scan.regexToken?
  advance
  return .literal (← textFrom start)

/-- An operand that starts with a word. -/
def wordOperand (name : String) : Parser ExpressionForm := do
  match name with
  | "function" =>
    functionExpression g
    return .other false
  | "class" =>
    g.classValue
    return .other false
  | "this" | "true" | "false" =>
    advance
    return .other false
  | "super" =>
    advance
    require ((← atMark "(") || (← atMark ".") || (← atMark "["))
    return .other false
  | "null" =>
    advance
    return .literal "null"
  | "new" =>
    newExpression g
    return .other false
  | "import" => importExpression g
  | "async" =>
    if ← nextToken fun next => next.kind == .word "function" && !next.newlineBefore then
      functionExpression g
      return .other false
    else .identifier <$> identifier
  | _ => .identifier <$> identifier

/-- An operand without anything after it. -/
def operand : Parser Expression := do
  let start := (← token).start
  let form ← do
    match ← kind with
    | .word name => wordOperand g name
    | .escapedWord _ => .identifier <$> identifier
    | .string value =>
      advance
      pure (.string value)
    | .number lexeme =>
      advance
      pure (.literal (numberName lexeme))
    | .bigint lexeme =>
      advance
      pure (.literal (bigintName lexeme))
    | .template _ _ => template g
    | .privateName _ =>
      advance
      require (← atWord "in")
      pure (.other false)
    | .mark "(" => parenthesized g
    | .mark "[" => (arrayLiteral g *> pure .pattern)
    | .mark "\x7b" => (objectLiteral g *> pure .pattern)
    | .mark "/" | .mark "/=" => regularExpression
    | .mark "@" =>
      discard (decorators g)
      g.classValue
      pure (.other false)
    | .mark "<" =>
      require (← read).dialect.elements
      g.element
      mark ">"
      pure (.other false)
    | _ => failure
  expressionAt start form

/-! ### What follows an operand -/

/-- The form of a property of `object`. -/
def memberForm (object : ExpressionForm) (property : String) : ExpressionForm :=
  match object with
  | .identifier name => .member (some name) property
  | _ => .member none property

/-- The text by which a call names its function. -/
def calleeText (function : Expression) : Parser String := do
  match function.form with
  | .identifier name => return name
  | .member _ property => return property
  | _ => textFrom function.start

/-- Whether type arguments may end before the present token, so that they are
none of a comparison. -/
def endsTypeArguments : Parser Bool := do
  let token ← token
  match token.kind with
  | .mark text =>
    if ["<", ">", "+", "-"].contains text then return false
    if ["(", ")", "]", ":", ";", ",", ".", "?.", "?", "==", "===", "!=", "!==", "&&", "||", "??",
        "^", "&", "|", "*", "/", "%", "**", "=", "<=", "\x7d"].contains text then return true
    return token.newlineBefore
  | .template _ _ | .endOfText => return true
  | .word name =>
    return token.newlineBefore || ["as", "satisfies", "in", "instanceof"].contains name
  | _ => return token.newlineBefore

/-- Type arguments in an expression. -/
def expressionTypeArguments : Parser (List TypeNode) := do
  requireTypes
  let args ← typeArguments g
  require (← endsTypeArguments)
  return args

/-- What one step after an operand makes of it, and whether the operand is
part of an optional chain from then on. -/
structure Chain where
  expression : Expression
  isOptional : Bool

/-- The step after `?.`: a call, a property, or a property in brackets. -/
def optionalStep : Parser Unit := do
  match ← kind with
  | .mark "(" => arguments g
  | .mark "[" =>
    advance
    discard (enclosed g)
    mark "]"
  | .mark "<" =>
    discard (typeArguments g)
    arguments g
  | .template _ _ => failure
  | .privateName _ => advance
  | _ => discard anyName

/-- One step after an operand; `calls` says whether calls belong to it. -/
def chainStep (calls : Bool) (chain : Chain) : Parser (Option Chain) := do
  let expression := chain.expression
  let start := expression.start
  let becomes (form : ExpressionForm) : Parser (Option Chain) := do
    let form := if chain.isOptional then .other false else form
    return some ⟨⟨form, start⟩, chain.isOptional⟩
  let call (callee : String) (args : List TypeNode) : Parser (Option Chain) := do
    arguments g
    becomes (.call ⟨callee, args, ← locate start⟩)
  let token ← token
  match token.kind with
  | .mark "." =>
    advance
    match ← kind with
    | .privateName _ =>
      advance
      becomes (.other true)
    | _ =>
      let name ← anyName
      becomes (memberForm expression.form name)
  | .mark "?." =>
    if !calls then failure
    advance
    optionalStep g
    return some ⟨⟨.other false, start⟩, true⟩
  | .mark "[" =>
    advance
    discard (enclosed g)
    mark "]"
    becomes (.other true)
  | .mark "!" =>
    if token.newlineBefore || !(← read).dialect.types then return none
    advance
    becomes (.other (expression.form.isTarget false))
  | .template _ _ =>
    require !chain.isOptional
    templateRest (discard (enclosed g))
    becomes (.other false)
  | .mark "(" =>
    if calls then call (← calleeText expression) [] else return none
  | .mark "<" | .mark "<<" =>
    if !calls then return none
    let callee ← calleeText expression
    match ← optionally (expressionTypeArguments g) with
    | none => return none
    | some args => if ← atMark "(" then call callee args else becomes (.other false)
  | _ => return none

/-- An operand with calls and properties after it. -/
def chained : Parser Expression := do
  let first ← operand g
  let chain ← iterate (chainStep g true) ⟨first, false⟩
  return chain.expression

/-- The function of which an object is new: calls do not belong to it. -/
def newOperand : Parser Unit := do
  let first ← operand g
  discard (iterate (chainStep g false) ⟨first, false⟩)

/-! ### Operators -/

/-- The operators before an operand. -/
def atPrefixOperator : Parser Bool := do
  match ← kind with
  | .mark text => return ["!", "~", "+", "-"].contains text
  | .word name => return ["typeof", "void", "delete"].contains name
  | _ => return false

/-- Whether `await` is an operator here: an operand follows. -/
def atAwait : Parser Bool := do
  return (← atWord "await") && (← nextToken fun next =>
    match next.kind with
    | .mark text => ["(", "[", "\x7b", "/", "+", "-", "!", "~", "<"].contains text
    | .word name => !(["in", "instanceof", "as", "satisfies", "of"].contains name)
    | .endOfText => false
    | _ => true)

/-- The operand of a binary operator, and whether it starts with an operator
other than a step. -/
def signed : Parser (Expression × Bool) := do
  let start := (← token).start
  if (← atPrefixOperator) || (← atAwait) then
    let awaits ← atWord "await"
    advance
    discard g.unary
    return (⟨.other false, start⟩, !awaits)
  else if (← atMark "++") || (← atMark "--") then
    advance
    let target ← g.unary
    require (target.form.isTarget false)
    return (⟨.other false, start⟩, false)
  else if (← atMark "<") && (← read).dialect.types && !(← read).dialect.elements then
    advance
    if ← atWord "const" then advance else discard g.type
    mark ">"
    discard g.unary
    return (⟨.other false, start⟩, true)
  else
    let expression ← chained g
    let token ← token
    let step := token.kind == .mark "++" || token.kind == .mark "--"
    if step && !token.newlineBefore then
      require (expression.form.isTarget false)
      advance
      return (⟨.other false, start⟩, false)
    else return (expression, false)

/-- The binary operators that are marks. -/
def binaryMarks : List String :=
  ["*", "/", "%", "+", "-", "<<", "<", "<=", ">", ">=", ">>", ">>>", "==", "!=", "===", "!==",
    "&", "^", "|", "&&", "||", "??", "**"]

/-- The binary operator at the present place, which is passed. -/
def binaryOperator? : Parser (Option String) := do
  if ← atMark ">" then
    replaceToken fun scan => some scan.greaterToken
  match ← kind with
  | .mark text =>
    if binaryMarks.contains text then
      advance
      return some text
    else return none
  | .word "instanceof" =>
    advance
    return some "instanceof"
  | .word "in" =>
    if (← read).inOperator then
      advance
      return some "in"
    else return none
  | _ => return none

/-- Whether the operators of one chain may stand together: `??` needs
parentheses beside `&&` and `||`. -/
def mayMix (operators : List String) : Bool :=
  !(operators.contains "??" && (operators.contains "&&" || operators.contains "||"))

/-- What a step of a chain of operators adds: an operator, or a statement of
the type. -/
def operatorStep (powerAllowed : Bool) :
    Parser (Option (String × Bool)) := do
  let token ← token
  if (← atAnyWord ["as", "satisfies"]) && !token.newlineBefore then
    requireTypes
    advance
    if ← atWord "const" then advance else discard g.type
    return some ("as", true)
  match ← binaryOperator? with
  | none => return none
  | some operator =>
    require (operator != "**" || powerAllowed)
    let (_, isSigned) ← signed g
    return some (operator, !isSigned)

/-- Operands joined by binary operators. -/
def binary : Parser Expression := do
  let (first, isSigned) ← signed g
  let (operators, _) ← iterate (fun (operators, powerAllowed) => do
    match ← operatorStep g powerAllowed with
    | none => return none
    | some (operator, powerAllowed) => return some (operator :: operators, powerAllowed))
    (([] : List String), !isSigned)
  require (mayMix operators)
  match operators with
  | [] => return first
  | ["as"] => return ⟨.other (first.form.isTarget false), first.start⟩
  | _ => plainAt first.start

/-- The rest of a choice between two values. -/
def choice : Parser Unit := do
  let first (returns : Bool) : Parser Unit := do
    discard (under ({ · with inOperator := true, arrowReturns := returns }) g.assignment)
    mark ":"
  first true <|> first false
  discard g.assignment

/-- The operators that assign, other than `=`. -/
def assigningMarks : List String :=
  ["+=", "-=", "*=", "/=", "%=", "**=", "<<=", ">>=", ">>>=", "&=", "^=", "|=", "&&=", "||=",
    "??="]

/-- A value that a generator hands out. -/
def yieldExpression : Parser Expression := do
  let start := (← token).start
  word "yield"
  if !(← token).newlineBefore then
    if ← eatMark "*" then
      discard g.assignment
    else discard (optionally g.assignment)
  plainAt start

/-- Whether `yield` is an operator here. -/
def atYield : Parser Bool := do
  return (← atWord "yield") && (← nextToken fun next =>
    match next.kind with
    | .mark text => !(["=", "=>", ".", ":"].contains text)
    | _ => true)

/-- An expression without commas. -/
def assignmentExpression : Parser Expression := do
  if ← atYield then
    return ← yieldExpression g
  let function ← if ← atArrowStart then optionally (arrowFunction g) else pure none
  match function with
  | some function => return function
  | none =>
    let left ← binary g
    if ← atMark ">" then
      replaceToken fun scan => some scan.greaterToken
    match ← kind with
    | .mark "=" =>
      require (left.form.isTarget true)
      advance
      discard g.assignment
      plainAt left.start
    | .mark "?" =>
      advance
      choice g
      plainAt left.start
    | .mark text =>
      if assigningMarks.contains text then
        require (left.form.isTarget false)
        advance
        discard g.assignment
        plainAt left.start
      else return left
    | _ => return left

end AppMetadata.TypeScript
