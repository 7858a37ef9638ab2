import AppMetadata.TypeScript.Class

/-!
# `AppMetadata.TypeScript.Statement`: statements and declarations

The rules of statements. A statement at the top of a file is kept as far as
other files can see it (`topStatement`); one inside another is only read to
find its end (`innerStatement`).
-/

set_option autoImplicit false

namespace AppMetadata.TypeScript

open AppMetadata.TypeScript.Parser

variable (g : Grammar)

/-! ### Variables -/

/-- The call that an initial value is. -/
def initialCall? (value : Expression) : Option InitialCall :=
  match value.form with
  | .call call => some call
  | _ => none

/-- One variable: what it binds, its type and its value. A constant, and a
pattern, needs a value where it is declared, unless `loose`. -/
def declarator (constant loose : Bool) : Parser Declarator := do
  let location ← here
  let binding ← g.pattern
  if ← atMark "!" then
    requireTypes
    mark "!"
  discard (declaredType g)
  if ← eatMark "=" then
    let value ← g.assignment
    return ⟨binding, initialCall? value, location⟩
  let needsValue :=
    match binding with
    | .pattern _ => true
    | .name _ => constant
  require (loose || (← read).ambient || !needsValue)
  return ⟨binding, none, location⟩

/-- Variables after the word that declares them. -/
def declarators (constant loose : Bool) : Parser (List Declarator) := do
  let first ← declarator g constant loose
  let others ← many do
    if ← eatMark "," then
      some <$> declarator g constant loose
    else return none
  return first :: others

/-- Whether the present word is `using` before the name of a variable. -/
def atUsing : Parser Bool := do
  return (← atWord "using") && (← nextToken fun next =>
    !next.newlineBefore && next.kind.identifier?.isSome && next.kind != .word "in" &&
      next.kind != .word "of")

/-- Whether the present word declares variables: `let` and `using` are names
too. -/
def atVariables : Parser Bool := do
  match ← kind with
  | .word "var" => return true
  | .word "const" => return !(← nextToken (·.kind == .word "enum"))
  | .word "let" =>
    nextToken fun next =>
      next.kind == .mark "[" || next.kind == .mark "\x7b" ||
        next.kind.identifier?.isSome && next.kind != .word "in" && next.kind != .word "of"
  | .word "using" => atUsing
  | .word "await" =>
    ahead do
      advance
      require !(← token).newlineBefore
      atUsing
  | _ => return false

/-- The word that declares variables, and whether they are constants. -/
def variableWord : Parser Bool := do
  discard (eatWord "await")
  let constant ← atAnyWord ["const", "using"]
  advance
  return constant

/-- A statement that declares variables. -/
def variableStatement : Parser (List Declarator) := do
  let constant ← variableWord
  let items ← declarators g constant false
  statementEnd
  return items

/-! ### Declarations -/

/-- A declaration that starts at `start`. -/
def declarationAt (name : String) (form : DeclarationForm) (doc : Doc) (start : Nat)
    (isGeneric : Bool) : Parser Declaration := do
  return ⟨name, form, doc, (← read).scope, ← locate start, isGeneric⟩

/-- The name of a type by another type. -/
def aliasDeclaration (doc : Doc) (start : Nat) : Parser Declaration := do
  word "type"
  let name ← identifier
  let isGeneric ← typeParameters g
  mark "="
  let target ←
    if (← atWord "intrinsic") && !(← nextToken (·.kind == .mark ".")) then
      let first := (← token).start
      advance
      unsupportedAt first
    else g.type
  statementEnd
  declarationAt name (.typeAlias target) doc start isGeneric

/-- An interface. -/
def interfaceDeclaration (doc : Doc) (start : Nat) : Parser Declaration := do
  word "interface"
  let name ← identifier
  let isGeneric ← typeParameters g
  let heritage ←
    if ← eatWord "extends" then
      let clause : Parser TypeNode := do
        let (expression, text, args) ← heritageExpression g
        heritageType expression text args
      let first ← clause
      let others ← many do
        if ← eatMark "," then
          some <$> clause
        else return none
      pure (first :: others)
    else pure []
  let members ← typeMembers g
  declarationAt name (.interface heritage members) doc start isGeneric

/-- A class, unless it has no name. -/
def classDeclaration (doc : Doc) (start : Nat) : Parser (Option Declaration) := do
  discard (eatWord "abstract")
  let parts ← classParts g
  match parts.name with
  | some name =>
    some <$> declarationAt name (.classType parts.heritage parts.members) doc start parts.isGeneric
  | none => return none

/-- The name of an enum member; one in brackets is known by the text of the
whole member. -/
def enumName : Parser (Option String) := do
  match ← kind with
  | .word name | .escapedWord name | .string name =>
    advance
    return some name
  | .mark "[" =>
    advance
    match ← kind with
    | .string _ => advance
    | .template _ true => advance
    | _ => failure
    mark "]"
    return none
  | _ => failure

/-- One member of an enum. -/
def enumMember : Parser Member := do
  let start := (← token).start
  let location ← here
  let doc ← doc
  let name ← enumName
  let value ←
    if ← eatMark "=" then
      let value ← under ({ · with inOperator := true }) g.assignment
      match value.form with
      | .string text => pure (some (EnumValue.string text))
      | _ => pure (some (EnumValue.other (← textFrom value.start)))
    else pure none
  let text ← textFrom start
  return ⟨name.getD text, .enumMember value, false, doc, location⟩

/-- An enum. -/
def enumDeclaration (doc : Doc) (start : Nat) : Parser Declaration := do
  discard (eatWord "const")
  word "enum"
  let name ← identifier
  mark "\x7b"
  let members ← separated (enumMember g) "\x7d"
  declarationAt name (.enum members) doc start false

/-- A function, of which the name is kept. Where types may be written, its
body may be elsewhere. -/
def functionDeclaration : Parser (Option String) := do
  discard (eatWord "async")
  word "function"
  discard (eatMark "*")
  let name ← if ← atMark "(" then pure none else some <$> identifier
  methodTail g
  return name

/-- Statements in braces. -/
def block : Parser Unit := do
  mark "\x7b"
  discard <| many do
    if ← eatMark "\x7d" then
      return none
    some <$> g.statement

/-- A namespace, or a module by its name. -/
def namespaceDeclaration : Parser Unit := do
  if ← eatWord "global" then block g
  else
    advance
    match ← kind with
    | .string _ =>
      advance
      if ← atMark "\x7b" then block g else statementEnd
    | _ =>
      discard identifier
      discard <| many do
        if ← eatMark "." then
          some <$> anyName
        else return none
      block g

/-- What a declaration declares. -/
inductive Declared
  | type (declaration : Declaration)
  | function (name : String)
  | values (items : List Declarator)
  /-- A class without a name. -/
  | anonymous
  | other

/-- Whether a name follows on the same line. -/
def nameFollows : Parser Bool :=
  nextToken fun next => !next.newlineBefore && next.kind.identifier?.isSome

/-- Whether a declaration starts here, before any word `declare`. -/
def atPlainDeclaration : Parser Bool := do
  match ← kind with
  | .mark "@" | .word "class" | .word "function" | .word "enum" => return true
  | .word "const" => return true
  | .word "interface" | .word "type" => return (← read).dialect.types && (← nameFollows)
  | .word "abstract" =>
    return (← read).dialect.types && (← nextToken fun next =>
      !next.newlineBefore && next.kind == .word "class")
  | .word "async" =>
    nextToken fun next => !next.newlineBefore && next.kind == .word "function"
  | .word "namespace" | .word "module" =>
    return (← read).dialect.types && (← nextToken fun next => !next.newlineBefore &&
      match next.kind with
      | .string _ => true
      | kind => kind.identifier?.isSome)
  | .word "global" =>
    return (← read).dialect.types && (← nextToken (·.kind == .mark "\x7b"))
  | _ => atVariables

/-- Whether a declaration starts here. -/
def atDeclaration : Parser Bool := do
  if ← atPlainDeclaration then return true
  if (← atWord "declare") && (← read).dialect.types then
    ahead do
      advance
      require !(← token).newlineBefore
      atPlainDeclaration
  else return false

/-- A declaration without a word `declare`, whose first token is at
`start`. -/
def plainDeclaration (doc : Doc) (start : Nat) : Parser Declared := do
  discard (decorators g)
  match ← kind with
  | .word "class" | .word "abstract" =>
    match ← classDeclaration g doc start with
    | some declaration => return .type declaration
    | none => return .anonymous
  | .word "function" | .word "async" =>
    match ← functionDeclaration g with
    | some name => return .function name
    | none => failure
  | .word "interface" => .type <$> interfaceDeclaration g doc start
  | .word "type" => .type <$> aliasDeclaration g doc start
  | .word "enum" =>
    requireTypes
    .type <$> enumDeclaration g doc start
  | .word "namespace" | .word "module" | .word "global" =>
    namespaceDeclaration g
    return .other
  | _ =>
    if (← atWord "const") && (← nextToken (·.kind == .word "enum")) then
      requireTypes
      .type <$> enumDeclaration g doc start
    else .values <$> variableStatement g

/-- A declaration. It starts at its first token, decorators included. -/
def declaration : Parser Declared := do
  let start := (← token).start
  let doc ← doc
  if ← eatWord "declare" then under ({ · with ambient := true }) (plainDeclaration g doc start)
  else plainDeclaration g doc start

/-! ### Statements inside others -/

/-- A condition in parentheses. -/
def condition : Parser Unit := do
  mark "("
  discard (enclosed g)
  mark ")"

/-- What a loop runs through: values as its clauses say, the values of a
collection, or the names of an object's properties. -/
inductive LoopRange
  | clauses
  | values
  | names
deriving DecidableEq, Repr

/-- The rest of a loop's head if it says what the loop runs through. -/
def loopRange : Parser LoopRange := do
  if ← eatWord "of" then
    discard g.assignment
    return .values
  if ← eatWord "in" then
    discard (sequence g)
    return .names
  return .clauses

/-- The head of a loop that declares variables: one that takes each value, or
those of its first clause. -/
def loopVariables : Parser LoopRange := do
  let constant ← variableWord
  let each : Parser LoopRange := do
    discard (under ({ · with inOperator := false }) (declarator g constant true))
    let range ← loopRange g
    require (range != .clauses)
    return range
  let clauses : Parser LoopRange := do
    discard (under ({ · with inOperator := false }) (declarators g constant false))
    return .clauses
  each <|> clauses

/-- The head of a loop. -/
def loopHead : Parser LoopRange := do
  mark "("
  let range ← do
    if ← atMark ";" then pure .clauses
    else if ← atVariables then loopVariables g
    else
      let target ← under ({ · with inOperator := false }) (sequence g)
      let range ← loopRange g
      require (range == .clauses || target.form.isTarget true)
      pure range
  if range == .clauses then
    mark ";"
    if !(← atMark ";") then discard (sequence g)
    mark ";"
    if !(← atMark ")") then discard (sequence g)
  mark ")"
  return range

/-- The word for a loop's end, and the label that it names. -/
def jump : Parser Unit := do
  advance
  if !(← atStatementEnd) then discard identifier
  statementEnd

/-- Whether a case starts here; its label is passed. -/
def eatCase : Parser Bool := do
  if ← eatWord "case" then
    discard (enclosed g)
    mark ":"
    return true
  if ← eatWord "default" then
    mark ":"
    return true
  return false

/-- The cases of a choice, each a label and statements. -/
def cases : Parser Unit := do
  mark "\x7b"
  if !(← eatMark "\x7d") then
    require (← eatCase g)
    discard <| many do
      if ← eatMark "\x7d" then
        return none
      if !(← eatCase g) then g.statement
      return some ()

/-- Whether a declaration starts here that needs a block around it. -/
def atBlockDeclaration : Parser Bool := do
  match ← kind with
  | .word "class" => return true
  | .word "async" =>
    nextToken fun next => next.kind == .word "function" && !next.newlineBefore
  | .word "function" => nextToken (·.kind == .mark "*")
  | .word "var" => return false
  | _ => atVariables

/-- The statement that a condition, a loop or a label is for. -/
def governed : Parser Unit := do
  require !(← atBlockDeclaration)
  g.statement

/-- A statement that may be interrupted, with what follows then. -/
def tryStatement : Parser Unit := do
  word "try"
  block g
  let caught ← eatWord "catch"
  if caught then
    if ← eatMark "(" then
      discard g.pattern
      discard (declaredType g)
      mark ")"
    block g
  let finished ← eatWord "finally"
  if finished then block g
  require (caught || finished)

/-- A statement that is an expression, or has a label. -/
def expressionStatement : Parser Unit := do
  if (← atIdentifier) && (← nextToken (·.kind == .mark ":")) then
    advance
    advance
    governed g
  else
    discard (enclosed g)
    statementEnd

/-- A statement that starts with a keyword, of which nothing is kept. -/
def keywordStatement (name : String) : Parser Unit := do
  match name with
  | "if" =>
    advance
    condition g
    governed g
    if ← eatWord "else" then governed g
  | "for" =>
    advance
    let awaits ← eatWord "await"
    let range ← loopHead g
    require (!awaits || range == .values)
    governed g
  | "while" | "with" =>
    advance
    condition g
    governed g
  | "do" =>
    advance
    governed g
    word "while"
    condition g
    discard (eatMark ";")
  | "switch" =>
    advance
    condition g
    cases g
  | "try" => tryStatement g
  | "throw" =>
    advance
    require !(← token).newlineBefore
    discard (enclosed g)
    statementEnd
  | "return" =>
    require (← read).inFunction
    advance
    if !(← atStatementEnd) then discard (enclosed g)
    statementEnd
  | "break" | "continue" => jump
  | "debugger" =>
    advance
    statementEnd
  | _ => expressionStatement g

/-- A statement that declares nothing, imports nothing and exports
nothing. -/
def plainStatement : Parser Unit := do
  match ← kind with
  | .mark ";" => advance
  | .mark "\x7b" => block g
  | .word name => keywordStatement g name
  | _ => expressionStatement g

/-! ### Imports and exports -/

/-- The name of something that a module exports. -/
def exportedName : Parser String :=
  string <|> anyName

/-- The file that an import or export names, with its attributes. -/
def sourceFile : Parser String := do
  let specifier ← string
  if (← atWord "with") || (← atWord "assert") && !(← token).newlineBefore then
    advance
    mark "\x7b"
    discard <| separated (do
      discard exportedName
      mark ":"
      discard string) "\x7d"
  statementEnd
  return specifier

/-- One item of an import or export clause: whether only a type is meant, the
name before `as`, whether it is a string, and the name after `as`. -/
structure ClauseItem where
  typeOnly : Bool
  name : String
  isReserved : Bool
  newName : Option String

/-- Whether the token at the present place can name an item. -/
def atItemName : Parser Bool := do
  match ← kind with
  | .string _ => return true
  | kind => return kind.name?.isSome

/-- A name, and whether it can be no variable's. -/
def itemName : Parser (String × Bool) := do
  let reserved := (← kind).identifier?.isNone
  return (← exportedName, reserved)

/-- Whether the word `type` at the present place is a mark of the item and not
its name. -/
def atTypeMark : Parser Bool := do
  if !(← atWord "type") then return false
  ahead do
    advance
    if ← atWord "as" then
      advance
      if ← atWord "as" then
        -- `type as as x` renames `as`, `type as as` renames `type`
        advance
        atItemName
      else return !(← atItemName)
    else atItemName

/-- One item of an import or export clause. -/
def clauseItem : Parser ClauseItem := do
  let typeOnly ← atTypeMark
  if typeOnly then
    requireTypes
    advance
  let (name, isReserved) ← itemName
  let newName ← if ← eatWord "as" then some <$> exportedName else pure none
  return { typeOnly, name, isReserved, newName }

/-- The items of a clause in braces. -/
def clause {α : Type} (item : Parser α) : Parser (List α) := do
  mark "\x7b"
  separated item "\x7d"

/-- One named import: a reserved name needs another one. -/
def importItem : Parser (String × ImportedName) := do
  let item ← clauseItem
  match item.newName with
  | some localName =>
    require !(reservedWords.contains localName)
    return (localName, .named item.name)
  | none =>
    require !item.isReserved
    return (item.name, .named item.name)

/-- A namespace import. -/
def namespaceImport : Parser (String × ImportedName) := do
  mark "*"
  word "as"
  return (← identifier, .namespace)

/-- The names that an import binds. -/
def importedNames : Parser (List (String × ImportedName)) := do
  if ← atMark "\x7b" then clause importItem
  else if ← atMark "*" then return [← namespaceImport]
  else
    let default : String × ImportedName := (← identifier, .default)
    if ← eatMark "," then
      if ← atMark "\x7b" then return default :: (← clause importItem)
      else return [default, ← namespaceImport]
    else return [default]

/-- An import by the name of another thing, after its own name. -/
def importAlias : Parser Unit := do
  mark "="
  if (← atWord "require") && (← nextToken (·.kind == .mark "(")) then
    advance
    mark "("
    discard string
    mark ")"
  else discard entityName
  statementEnd

/-- Passes the word `type` of an import that binds types only: a clause or
another name follows. -/
def eatImportType : Parser Unit := do
  if (← atWord "type") && (← read).dialect.types then
    let marked ← ahead do
      advance
      match ← kind with
      | .mark "\x7b" | .mark "*" => return true
      | .word "from" =>
        -- `import type from "x"` binds `type`, `import type from from "x"` does not
        nextToken fun next => next.kind == .word "from" || next.kind == .mark "="
      | kind => return kind.identifier?.isSome
    if marked then advance

/-- An import. -/
def importStatement : Parser Statement := do
  word "import"
  match ← kind with
  | .string _ =>
    discard sourceFile
    return .imports []
  | _ =>
    eatImportType
    if (← atIdentifier) && (← nextToken (·.kind == .mark "=")) then
      requireTypes
      advance
      importAlias
      return .other
    let names ← importedNames
    word "from"
    let specifier ← sourceFile
    return .imports (names.map fun (name, imported) => (name, ⟨specifier, imported⟩))

/-- One item of an export clause. -/
def exportItem (typeOnly : Bool) : Parser (ExportSpecifier × Bool) := do
  let location ← here
  let item ← clauseItem
  let exported := item.newName.getD item.name
  return (⟨item.name, exported, typeOnly || item.typeOnly, location⟩, item.isReserved)

/-- Names of this file or another that are exported; of this file, only names
of variables can be. -/
def exportClause (typeOnly : Bool) : Parser Statement := do
  let items ← clause (exportItem typeOnly)
  if ← eatWord "from" then
    return .exportClause (items.map (·.1)) (some (← sourceFile))
  else
    require (items.all (!·.2))
    statementEnd
    return .exportClause (items.map (·.1)) none

/-- All names of another file, or its namespace. -/
def exportAll (typeOnly : Bool) : Parser Statement := do
  mark "*"
  let name ← if ← eatWord "as" then some <$> exportedName else pure none
  word "from"
  let specifier ← sourceFile
  match name with
  | some name => return .exportNamespace name specifier typeOnly
  | none => return .exportAll specifier

/-- The value that a file exports without a name. -/
def exportDefault : Parser Unit := do
  word "default"
  match ← kind with
  | .mark "@" | .word "class" => discard (plainDeclaration g {} 0)
  | .word "function" => discard (functionDeclaration g)
  | _ =>
    if (← atWord "async") &&
        (← nextToken fun next => !next.newlineBefore && next.kind == .word "function") then
      discard (functionDeclaration g)
    else if (← atPlainDeclaration) && (← atAnyWord ["abstract", "interface"]) then
      discard (plainDeclaration g {} 0)
    else
      discard g.assignment
      statementEnd

/-- The statement that exports a declaration; the documentation of the export
counts if there is any. -/
def exportedDeclaration (exportDoc : Doc) (exportStart : Nat) : Parser Statement := do
  let start := (← token).start
  let location ← locate exportStart
  match ← declaration g with
  | .type declaration =>
    let doc := if exportDoc.isEmpty then declaration.doc else exportDoc
    return .exportDeclaration { declaration with doc } location
  | .function name => return .exportFunction name location
  | .values items => return .exportVariables items
  | .anonymous => return .other
  | .other => return .exportOther (← textFrom start) location

/-- An export. -/
def exportStatement : Parser Statement := do
  let start := (← token).start
  let doc ← doc
  word "export"
  match ← kind with
  | .mark "\x7b" => exportClause false
  | .mark "*" => exportAll false
  | .mark "=" =>
    requireTypes
    advance
    discard (enclosed g)
    statementEnd
    return .exportDefault (← locate start)
  | .word "default" =>
    exportDefault g
    return .exportDefault (← locate start)
  | .word "as" =>
    requireTypes
    advance
    word "namespace"
    discard identifier
    statementEnd
    return .other
  | .word "import" =>
    requireTypes
    let first := (← token).start
    advance
    eatImportType
    discard identifier
    importAlias
    return .exportOther (← textFrom first) (← locate start)
  | _ =>
    if (← atWord "type") && (← nextToken fun next =>
        next.kind == .mark "\x7b" || next.kind == .mark "*") then
      requireTypes
      advance
      if ← atMark "*" then exportAll true else exportClause true
    else
      require (← atDeclaration)
      exportedDeclaration g doc start

/-- Whether an import starts here, and not an expression. -/
def atImport : Parser Bool := do
  return (← atWord "import") &&
    !(← nextToken fun next => next.kind == .mark "(" || next.kind == .mark ".")

/-- Whether decorators stand before an export. -/
def atDecoratedExport : Parser Bool := do
  if ← atMark "@" then
    ahead do
      discard (decorators g)
      atWord "export"
  else return false

/-- A statement at the top of a file. -/
def topStatement : Parser Statement := do
  if ← atImport then importStatement
  else if ← atWord "export" then exportStatement g
  else if ← atDecoratedExport g then
    discard (decorators g)
    exportStatement g
  else if ← atDeclaration then
    match ← declaration g with
    | .type declaration => return .declare declaration
    | _ => return .other
  else
    plainStatement g
    return .other

/-- A statement inside another. In a namespace, even imports and exports may
stand there. -/
def innerStatement : Parser Unit :=
  discard (topStatement g)

end AppMetadata.TypeScript
