import AppMetadata.TypeScript.Grammar
import AppMetadata.TypeScript.Number

/-!
# `AppMetadata.TypeScript.Type`: types, signatures and their members

The rules of types. Types that the tree has no form for are read all the
same, and kept as their source text.
-/

set_option autoImplicit false

namespace AppMetadata.TypeScript

open AppMetadata.TypeScript.Parser

variable (g : Grammar)

/-- A type of `form` that starts at `start`. -/
def typeAt (start : Nat) (form : TypeForm) : Parser TypeNode := do
  return ⟨form, ← locate start⟩

/-- A type that the tree has no form for. -/
def unsupportedAt (start : Nat) : Parser TypeNode := do
  typeAt start (.unsupported (← textFrom start))

/-- The first character alone of the present mark, if that starts with
`<`. -/
def splitLess : Parser Unit := do
  match ← kind with
  | .mark "<<" | .mark "<<=" | .mark "<=" => replaceToken fun scan => some scan.firstMark
  | _ => pure ()

/-- The arguments of a generic type: at least one. -/
def typeArguments : Parser (List TypeNode) := do
  splitLess
  mark "<"
  let args ← separated g.type ">" false
  require !args.isEmpty
  return args

/-- The arguments of a generic type, if there are any on this line. -/
def typeArgumentsHere : Parser (List TypeNode) := do
  let token ← token
  if !token.newlineBefore && (token.kind == .mark "<" || token.kind == .mark "<<") then
    typeArguments g
  else return []

/-- The name of a type, with dots. -/
def entityName : Parser EntityName := do
  let first ← identifier
  iterate (fun name => do
    if ← eatMark "." then
      return some (name.member (← anyName))
    else return none) (.identifier first)

/-- A reference, or an array in the notation of a reference. -/
def referenceForm (name : EntityName) (args : List TypeNode) : Parser TypeForm := do
  match name, args with
  | .identifier "Array", [element] | .identifier "ReadonlyArray", [element] =>
    return .array element
  | _, _ => return .reference ⟨name, args, (← read).scope⟩

/-- A reference by name. -/
def referenceType : Parser TypeNode := do
  let start := (← token).start
  let name ← entityName
  let args ← typeArgumentsHere g
  typeAt start (← referenceForm name args)

/-- The words for built-in types. -/
def keywordOf? : String → Option Keyword
  | "number" => some .number
  | "string" => some .string
  | "boolean" => some .boolean
  | "bigint" => some .bigint
  | "undefined" => some .undefined
  | "any" => some (.other "any")
  | "unknown" => some (.other "unknown")
  | "never" => some (.other "never")
  | "object" => some (.other "object")
  | "symbol" => some (.other "symbol")
  | _ => none

/-- A built-in type; its word before a dot is the start of a name. -/
def keywordType (keyword : Keyword) : Parser TypeNode := do
  let start := (← token).start
  if ← nextToken (·.kind == .mark ".") then
    referenceType g
  else
    advance
    typeAt start (.keyword keyword)

/-- A literal type: a string, number, truth value or template without
expressions. -/
def literalType : Parser TypeNode := do
  let start := (← token).start
  match ← kind with
  | .string value =>
    advance
    typeAt start (.stringLiteral value)
  | .mark "-" =>
    advance
    match ← kind with
    | .number _ | .bigint _ =>
      advance
      typeAt start (.literal (← textFrom start))
    | _ => failure
  | _ =>
    advance
    typeAt start (.literal (← textFrom start))

/-- The parts of a template after its first, where `inner` reads what stands
between them. -/
def templateRest (inner : Parser Unit) : Parser Unit := do
  discard <| many do
    match ← kind with
    | .template _ true =>
      advance
      return none
    | .template _ false =>
      advance
      inner
      replaceToken Scan.templateToken?
      return some ()
    | _ => failure

/-- A template: a literal type if it has no expressions. -/
def templateType : Parser TypeNode := do
  match ← kind with
  | .template _ true => literalType
  | _ =>
    let start := (← token).start
    templateRest (discard g.type)
    unsupportedAt start

/-- A type in another file. -/
def importType : Parser TypeNode := do
  let start := (← token).start
  word "import"
  mark "("
  let specifier ← string
  if ← eatMark "," then
    discard g.assignment
    discard (eatMark ",")
  mark ")"
  let name ← do
    if ← eatMark "." then
      let first ← anyName
      some <$> iterate (fun name => do
        if ← eatMark "." then
          return some (name.member (← anyName))
        else return none) (EntityName.identifier first)
    else pure none
  let args ← typeArgumentsHere g
  typeAt start (.imported ⟨specifier, name, args, (← read).scope⟩)

/-- The type of a value. -/
def typeofType : Parser TypeNode := do
  let start := (← token).start
  word "typeof"
  if ← atWord "import" then
    discard (importType g)
  else
    if !(← eatWord "this") then
      discard identifier
    discard <| many do
      if ← eatMark "." then
        match ← kind with
        | .privateName _ => advance
        | _ => discard anyName
        return some ()
      else return none
    discard (typeArgumentsHere g)
  unsupportedAt start

/-- A type in parentheses, which is the type alone. -/
def parenthesizedType : Parser TypeNode := do
  mark "("
  let type ← g.type
  mark ")"
  return type

/-- One element of a tuple. -/
def tupleElement : Parser Unit := do
  let named : Parser Unit := do
    discard (eatMark "...")
    discard anyName
    discard (eatMark "?")
    mark ":"
    discard g.type
  let plain : Parser Unit := do
    discard (eatMark "...")
    discard g.type
  named <|> plain

/-- A tuple. -/
def tupleType : Parser TypeNode := do
  let start := (← token).start
  mark "["
  discard (separated (tupleElement g) "]")
  unsupportedAt start

/-- A sign of a mapped type. -/
def eatSign : Parser Bool := do
  if ← eatMark "+" then return true
  eatMark "-"

/-- Whether a mapped type starts at the present brace. -/
def atMappedType : Parser Bool :=
  ahead do
    mark "\x7b"
    if ← eatSign then
      atWord "readonly"
    else
      discard (eatWord "readonly")
      mark "["
      discard identifier
      atWord "in"

/-- A mapped type. -/
def mappedType : Parser TypeNode := do
  let start := (← token).start
  mark "\x7b"
  if ← eatSign then word "readonly" else discard (eatWord "readonly")
  mark "["
  discard identifier
  word "in"
  discard g.type
  if ← eatWord "as" then discard g.type
  mark "]"
  if ← eatSign then mark "?" else discard (eatMark "?")
  if ← eatMark ":" then discard g.type
  if !(← eatMark ";") then discard (eatMark ",")
  mark "\x7d"
  unsupportedAt start

/-- One parameter of a generic declaration. -/
def typeParameter : Parser Unit := do
  discard <| many do
    match ← kind with
    | .word name =>
      if ["const", "in", "out"].contains name then
        if name == "out" && !(← nextToken (·.kind.identifier?.isSome)) then
          return none
        advance
        return some ()
      else return none
    | _ => return none
  discard identifier
  if ← eatWord "extends" then discard g.type
  if ← eatMark "=" then discard g.type

/-- The parameters of a generic declaration: at least one. Answers whether
there are any. -/
def typeParameters : Parser Bool := do
  if ← atMark "<" then
    requireTypes
    mark "<"
    let params ← separated (typeParameter g) ">"
    require !params.isEmpty
    return true
  else return false

/-- The type after a colon, if there is one. -/
def declaredType : Parser (Option TypeNode) := do
  if ← atMark ":" then
    requireTypes
    mark ":"
    some <$> g.type
  else return none

/-- The words that may stand before the name of a parameter or member. -/
def modifierWords : List String :=
  ["public", "private", "protected", "readonly", "static", "abstract", "override", "declare",
    "accessor", "async", "const", "in", "out", "export", "default"]

/-- Whether a token can be the name that a modifier belongs to, or start
it. -/
def followsModifier (kind : TokenKind) : Bool :=
  match kind with
  | .word _ | .escapedWord _ | .privateName _ | .string _ | .number _ | .bigint _ => true
  | .mark text => ["[", "\x7b", "*", "..."].contains text
  | _ => false

/-- The modifiers `words` before a name, as far as each is one. -/
def modifiers (words : List String) : Parser (List String) :=
  many do
    match ← kind with
    | .word name =>
      if words.contains name &&
          (← nextToken fun next =>
            (name == "static" || !next.newlineBefore) && followsModifier next.kind) then
        advance
        return some name
      else return none
    | _ => return none

/-- A decorator. -/
def decorator : Parser Unit := do
  mark "@"
  discard g.unary

/-- Decorators. -/
def decorators : Parser (List Unit) :=
  many do
    if ← atMark "@" then
      some <$> decorator g
    else return none

/-- One parameter. A pattern has no name, nor has a parameter with a default
value. -/
def parameter : Parser Parameter := do
  discard (decorators g)
  let words ← modifiers ["public", "private", "protected", "readonly", "override"]
  if !words.isEmpty then requireTypes
  let binding ← g.pattern
  let isOptional ← eatMark "?"
  if isOptional then requireTypes
  let type ← declaredType g
  if ← eatMark "=" then
    require !isOptional
    discard (under ({ · with inOperator := true }) g.assignment)
    return ⟨"args", false, none⟩
  match binding with
  | .name name => return ⟨name, isOptional, type⟩
  | .pattern _ => return ⟨"args", isOptional, type⟩

/-- The last parameter, which takes all that are left. -/
def restParameter : Parser Unit := do
  discard (decorators g)
  mark "..."
  discard g.pattern
  discard (declaredType g)

/-- The receiver as the first parameter, which is none. -/
def receiver : Parser Unit := do
  word "this"
  discard (declaredType g)
  if !(← atMark ")") then mark ","

/-- Whether the last parameter takes all that are left. -/
def atRest : Parser Bool :=
  ahead do
    discard (decorators g)
    atMark "..."

/-- Parameters in parentheses. -/
def parameters : Parser (List Parameter) := do
  mark "("
  if ← atWord "this" then receiver g
  let params ← many do
    if (← atMark ")") || (← atRest g) then
      return none
    let param ← parameter g
    if !(← atMark ")") then mark ","
    return some param
  let rest ← do
    if ← atMark ")" then pure []
    else
      restParameter g
      pure [⟨"rest", true, none⟩]
  mark ")"
  return params ++ rest

/-- A return type, which may say what it tells about a parameter. -/
def returnType : Parser TypeNode := do
  let start := (← token).start
  let predicate : Parser TypeNode := do
    discard identifier
    require !(← token).newlineBefore
    word "is"
    discard g.type
    unsupportedAt start
  predicate <|> g.type

/-- The return type after a colon, if there is one. -/
def declaredReturn : Parser (Option TypeNode) := do
  if ← atMark ":" then
    requireTypes
    mark ":"
    some <$> returnType g
  else return none

/-- Whether a function type starts at the present parenthesis and not a type
in parentheses. -/
def atFunctionType : Parser Bool :=
  ahead do
    mark "("
    if (← atMark ")") || (← atMark "...") then
      return true
    discard (modifiers ["public", "private", "protected", "readonly", "override"])
    if !(← eatWord "this") then discard g.pattern
    match ← kind with
    | .mark ":" | .mark "," | .mark "?" | .mark "=" => return true
    | .mark ")" =>
      advance
      atMark "=>"
    | _ => return false

/-- A function type. -/
def functionType : Parser TypeNode := do
  let start := (← token).start
  discard (typeParameters g)
  let params ← parameters g
  mark "=>"
  let returns ← returnType g
  typeAt start (.function ⟨params, some returns⟩)

/-- The type of a constructor. -/
def constructorType : Parser TypeNode := do
  let start := (← token).start
  discard (eatWord "abstract")
  word "new"
  discard (functionType g)
  unsupportedAt start

/-! ### Members -/

/-- A name in brackets, with its source text: the name that it gives if it is
a literal. -/
def bracketName : Parser (Option String × String) := do
  mark "["
  let start := (← token).start
  let key ← under ({ · with inOperator := true }) g.assignment
  let text ← textFrom start
  mark "]"
  match key.form with
  | .string name | .literal name => return (some name, text)
  | _ => return (none, text)

/-- The name of a member, with its source text; computed names have no
value. -/
def propertyName : Parser (Option String × String) := do
  let start := (← token).start
  match ← kind with
  | .word name | .escapedWord name | .string name =>
    advance
    return (some name, ← textFrom start)
  | .number lexeme =>
    advance
    return (some (numberName lexeme), ← textFrom start)
  | .bigint lexeme =>
    advance
    return (some (bigintName lexeme), ← textFrom start)
  | .mark "[" => bracketName g
  | _ => failure

/-- The end of a member of a type. -/
def memberEnd : Parser Unit := do
  if !(← eatMark ",") then statementEnd

/-- A member with a known or a computed name. -/
def namedMember (key : Option String × String) (what : String) (form : MemberForm)
    (isOptional : Bool) (doc : Doc) (location : Location) : Member :=
  match key with
  | (some name, _) => ⟨name, form, isOptional, doc, location⟩
  | (none, text) => ⟨text, .unsupported (what ++ " `" ++ text ++ "`") form.mentions, false, doc,
      location⟩

/-- A member without a name. -/
def namelessMember (what : String) (start : Nat) (doc : Doc) (location : Location) :
    Parser Member := do
  let text ← textFrom start
  return ⟨"", .unsupported (what ++ " `" ++ text ++ "`") [], false, doc, location⟩

/-- A call or construct signature. -/
def callMember (doc : Doc) : Parser Member := do
  let start := (← token).start
  let location ← here
  discard (eatWord "new")
  discard (typeParameters g)
  discard (parameters g)
  discard (declaredReturn g)
  memberEnd
  namelessMember "call or construct signature" start doc location

/-- Whether an index signature starts at the present bracket. -/
def atIndexSignature : Parser Bool :=
  ahead do
    mark "["
    if (← atMark "...") || (← atMark "]") then
      return true
    discard (modifiers ["public", "private", "protected", "readonly", "static"])
    discard identifier
    if (← atMark ":") || (← atMark ",") then
      return true
    mark "?"
    match ← kind with
    | .mark ":" | .mark "," | .mark "]" => return true
    | _ => return false

/-- The parameter and type of an index signature: one name with a type, and
a type. -/
def indexSignature : Parser Unit := do
  mark "["
  discard identifier
  mark ":"
  discard g.type
  mark "]"
  mark ":"
  discard g.type

/-- Whether the word `name` is an accessor of the member that follows. -/
def atAccessor (name : String) : Parser Bool := do
  return (← atWord name) && (← nextToken fun next => followsModifier next.kind)

/-- The parameters and return type of an accessor: a getter takes nothing, a
setter takes one value and returns nothing. -/
def accessorSignature (setter : Bool) : Parser Signature := do
  let params ← parameters g
  let returns ← declaredReturn g
  require (params.length == if setter then 1 else 0)
  require !(setter && returns.isSome)
  return ⟨params, returns⟩

/-- A getter or setter, as a method. -/
def accessorMember (doc : Doc) (location : Location) : Parser Member := do
  let setter ← atWord "set"
  advance
  let key ← propertyName g
  discard (typeParameters g)
  let signature ← accessorSignature g setter
  memberEnd
  return namedMember key "computed method key" (.method signature) false doc location

/-- A property or method. -/
def plainMember (readOnly : Bool) (doc : Doc) (location : Location) : Parser Member := do
  let key ← propertyName g
  let isOptional ← eatMark "?"
  if (← atMark "(") || (← atMark "<") then
    require !readOnly
    discard (typeParameters g)
    let params ← parameters g
    let returns ← declaredReturn g
    memberEnd
    return namedMember key "computed method key" (.method ⟨params, returns⟩) isOptional doc
      location
  else
    let type ← declaredType g
    memberEnd
    return namedMember key "computed property key" (.signature type) isOptional doc location

/-- A member of an object type or interface. The only modifier is
`readonly`. -/
def typeMember : Parser Member := do
  let start := (← token).start
  let location ← here
  let doc ← doc
  let atSignature := fun (kind : TokenKind) => kind == .mark "(" || kind == .mark "<"
  if atSignature (← kind) || (← atWord "new") && (← nextToken (atSignature ·.kind)) then
    callMember g doc
  else
    let words ← modifiers modifierWords
    require (words.all (· == "readonly") && words.length ≤ 1)
    if (← atAccessor "get") || (← atAccessor "set") then
      require words.isEmpty
      accessorMember g doc location
    else if ← atIndexSignature then
      indexSignature g
      memberEnd
      namelessMember "index signature" start doc location
    else plainMember g (!words.isEmpty) doc location

/-- The members of an object type or interface, in braces. -/
def typeMembers : Parser (List Member) := do
  mark "\x7b"
  many do
    if ← eatMark "\x7d" then
      return none
    some <$> typeMember g

/-- An object type. -/
def objectType : Parser TypeNode := do
  let start := (← token).start
  let members ← typeMembers g
  typeAt start (.object members)

/-! ### Types by the strength of their operators -/

/-- `this`, or what a method tells about its receiver. -/
def receiverType : Parser TypeNode := do
  let start := (← token).start
  word "this"
  if (← atWord "is") && !(← token).newlineBefore then
    word "is"
    discard g.type
  unsupportedAt start

/-- What a function asserts, if a name follows on this line. -/
def assertionType : Parser TypeNode := do
  let start := (← token).start
  let asserts ← nextToken fun next =>
    !next.newlineBefore && (next.kind.identifier?.isSome || next.kind == .word "this")
  if asserts then
    word "asserts"
    if !(← eatWord "this") then discard identifier
    if ← eatWord "is" then discard g.type
    unsupportedAt start
  else referenceType g

/-- A type in the notation of doc comments: a mark and perhaps a type. -/
def markedType : Parser TypeNode := do
  let start := (← token).start
  advance
  discard (optionally g.operandType)
  unsupportedAt start

/-- A type without operators around it. -/
def simpleType : Parser TypeNode := do
  match ← kind with
  | .word name =>
    match name with
    | "void" => keywordType g (.other "void")
    | "null" => keywordType g .null
    | "true" | "false" => literalType
    | "this" => receiverType g
    | "typeof" => typeofType g
    | "import" => importType g
    | "asserts" => assertionType g
    | name =>
      match keywordOf? name with
      | some keyword => keywordType g keyword
      | none => referenceType g
  | .string _ | .number _ | .bigint _ | .mark "-" => literalType
  | .template _ _ => templateType g
  | .mark "\x7b" => if ← atMappedType then mappedType g else objectType g
  | .mark "[" => tupleType g
  | .mark "(" => parenthesizedType g
  | .mark "?" | .mark "!" => markedType g
  | _ => referenceType g

/-- Whether a type may start at the present token. -/
def atTypeStart : Parser Bool := do
  match ← kind with
  | .word name =>
    return !reservedWords.contains name ||
      ["void", "null", "true", "false", "this", "typeof", "import", "new", "function"].contains name
  | .escapedWord _ | .string _ | .number _ | .bigint _ | .template _ _ => return true
  | .mark text =>
    if text == "-" then
      nextToken fun next =>
        match next.kind with
        | .number _ | .bigint _ => true
        | _ => false
    else
      return ["\x7b", "[", "(", "<", "<<", "|", "&", "?", "!", "*", "..."].contains text
  | _ => return false

/-- A type with brackets after it: an array or the type of a property. -/
def postfixType : Parser TypeNode := do
  let start := (← token).start
  let first ← simpleType g
  iterate (fun type => do
    if (← token).newlineBefore then
      return none
    match ← kind with
    | .mark "!" =>
      advance
      some <$> unsupportedAt start
    | .mark "?" =>
      if ← ahead (do advance; atTypeStart) then
        return none
      advance
      some <$> unsupportedAt start
    | .mark "[" =>
      advance
      if ← eatMark "]" then
        some <$> typeAt start (.array type)
      else
        discard g.type
        mark "]"
        some <$> unsupportedAt start
    | _ => return none) first

/-- A type that is inferred, with its bound. -/
def inferredType : Parser TypeNode := do
  let start := (← token).start
  word "infer"
  discard identifier
  let bound : Parser Unit := do
    word "extends"
    discard (under ({ · with conditionalTypes := false }) g.type)
    if (← read).conditionalTypes then require !(← atMark "?")
  discard (optionally bound)
  unsupportedAt start

/-- A type after its operators. -/
def operatorType : Parser TypeNode := do
  let start := (← token).start
  match ← kind with
  | .word "keyof" | .word "unique" =>
    advance
    discard g.operandType
    unsupportedAt start
  | .word "readonly" =>
    advance
    let tuple ← atMark "["
    let operandStart := (← token).start
    let operand ← g.operandType
    let array :=
      match operand.form with
      | .array _ => true
      | _ => false
    require ((tuple || array) && (← textFrom operandStart).endsWith "]")
    unsupportedAt start
  | .word "infer" => inferredType g
  | _ => under ({ · with conditionalTypes := true }) (postfixType g)

/-- Types joined by the mark `operator`, which may also stand first. -/
def joinedTypes (operator : String) (join : List TypeNode → TypeForm)
    (part : Parser TypeNode) : Parser TypeNode := do
  let start := (← token).start
  let leading ← eatMark operator
  let first ← part
  let others ← many do
    if ← eatMark operator then
      some <$> part
    else return none
  if leading || !others.isEmpty then typeAt start (join (first :: others)) else return first

/-- A union of intersections. -/
def unionType : Parser TypeNode :=
  joinedTypes "|" .union (joinedTypes "&" .intersection (operatorType g))

/-- Whether the type of a function or constructor starts here. -/
def atCallableType : Parser Bool := do
  match ← kind with
  | .mark "<" | .word "new" => return true
  | .mark "(" => atFunctionType g
  | .word "abstract" => nextToken (·.kind == .word "new")
  | _ => return false

/-- Any type: of a function, of a constructor, conditional, or a union. -/
def anyType : Parser TypeNode := do
  if ← atCallableType g then
    match ← kind with
    | .word _ => constructorType g
    | _ => functionType g
  else
    let start := (← token).start
    let type ← unionType g
    let condition := (← read).conditionalTypes && (← atWord "extends") && !(← token).newlineBefore
    if condition then
      word "extends"
      discard (under ({ · with conditionalTypes := false }) g.type)
      mark "?"
      discard (under ({ · with conditionalTypes := true }) g.type)
      mark ":"
      discard (under ({ · with conditionalTypes := true }) g.type)
      unsupportedAt start
    else return type

end AppMetadata.TypeScript
