import AppMetadata.Module
import AppMetadata.TypeScript.Scanner

/-!
# `AppMetadata.TypeScript.Parser`: reading tokens by the rules of a grammar

A parser reads some tokens from the place of a `Cursor` and answers, or
refuses. Refusing leaves no trace, so a second parser may be tried at the
same place. What a rule depends on besides the tokens, such as whether a
`return` is allowed, is in the `Setting`.
-/

set_option autoImplicit false

namespace AppMetadata.TypeScript

/-- The language of a file. -/
structure Dialect where
  /-- Whether types may be written. -/
  types : Bool
  /-- Whether elements may be written in angle brackets. -/
  elements : Bool
deriving DecidableEq, Repr

/-- What the rules depend on. -/
structure Setting where
  dialect : Dialect
  source : String
  /-- The number of bytes of the source. -/
  size : Nat
  lines : LineIndex
  /-- The module that is read. -/
  scope : ModuleId
  /-- Whether a `return` belongs to a function. -/
  inFunction : Bool := false
  /-- Whether `in` is an operator. -/
  inOperator : Bool := true
  /-- Whether a conditional type may be written. -/
  conditionalTypes : Bool := true
  /-- Whether the declarations have their values elsewhere. -/
  ambient : Bool := false
  /-- Whether an arrow function may say what it returns. -/
  arrowReturns : Bool := true

/-- The place of a parser. -/
structure Cursor where
  scan : Scan
  /-- The end of the token before. -/
  previousStop : Nat

/-- A parser. -/
abbrev Parser := ReaderT Setting (StateT Cursor Option)

namespace Parser

/-- The token at the present place. -/
def token : Parser Token := do
  return (← get).scan.token

/-- The kind of the present token. -/
def kind : Parser TokenKind := do
  return (← token).kind

/-- Moves to the next token. -/
def advance : Parser Unit := do
  let cursor ← get
  match cursor.scan.next? with
  | some scan => set { scan, previousStop := cursor.scan.token.stop : Cursor }
  | none => failure

/-- Puts another token at the present place. -/
def replaceToken (change : Scan → Option Scan) : Parser Unit := do
  let cursor ← get
  match change cursor.scan with
  | some scan => set { cursor with scan }
  | none => failure

/-- Refuses unless `condition`. -/
def require (condition : Bool) : Parser Unit :=
  if condition then pure () else failure

/-- Whether the present token is the mark `text`. -/
def atMark (text : String) : Parser Bool := do
  return (← kind) == .mark text

/-- Whether the present token is the word `name`, written without escapes. -/
def atWord (name : String) : Parser Bool := do
  return (← kind) == .word name

/-- Whether the present token is one of the words `names`. -/
def atAnyWord (names : List String) : Parser Bool := do
  match ← kind with
  | .word name => return names.contains name
  | _ => return false

/-- Whether the text has ended. -/
def atEnd : Parser Bool := do
  return (← kind) == .endOfText

/-- Moves past the present token if `here` holds. -/
def eatIf (here : Parser Bool) : Parser Bool := do
  if ← here then
    advance
    return true
  else return false

/-- Moves past the mark `text` if it is there. -/
def eatMark (text : String) : Parser Bool := eatIf (atMark text)

/-- Moves past the word `name` if it is there. -/
def eatWord (name : String) : Parser Bool := eatIf (atWord name)

/-- Moves past the mark `text`. -/
def mark (text : String) : Parser Unit := do
  require (← eatMark text)

/-- Moves past the word `name`. -/
def word (name : String) : Parser Unit := do
  require (← eatWord name)

/-- Tries `parser` and answers what it answers, without moving. -/
def ahead (parser : Parser Bool) : Parser Bool := do
  let cursor ← get
  let answer ← parser <|> pure false
  set cursor
  return answer

/-- Whether the token after the present one satisfies `test`. -/
def nextToken (test : Token → Bool) : Parser Bool :=
  ahead do
    advance
    return test (← token)

/-- The answer of `parser` if it does not refuse. -/
def optionally {α : Type} (parser : Parser α) : Parser (Option α) :=
  (some <$> parser) <|> pure none

/-- Repeats `step` as long as it answers something; at most `count` times. -/
def repeatUpTo {α : Type} (step : Parser (Option α)) : (count : Nat) → Parser (List α)
  | 0 => failure
  | count + 1 => do
    match ← step with
    | none => return []
    | some answer => return answer :: (← repeatUpTo step count)

/-- Repeats `step`, each time from the answer before, as long as it answers
something; at most `count` times. -/
def iterateUpTo {α : Type} (step : α → Parser (Option α)) : (count : Nat) → α → Parser α
  | 0, _ => failure
  | count + 1, value => do
    match ← step value with
    | none => return value
    | some value => iterateUpTo step count value

/-- A bound on the number of tokens that are left. -/
def tokensLeft : Parser Nat := do
  return (← read).size - (← token).start + 2

/-- Repeats `step` as long as it answers something. -/
def many {α : Type} (step : Parser (Option α)) : Parser (List α) := do
  repeatUpTo step (← tokensLeft)

/-- Repeats `step` from `value` as long as it answers something. -/
def iterate {α : Type} (step : α → Parser (Option α)) (value : α) : Parser α := do
  iterateUpTo step (← tokensLeft) value

/-- Items separated by commas up to the mark `close`, which is passed. A comma
may stand after the last item if `trailing`. -/
def separated {α : Type} (item : Parser α) (close : String) (trailing : Bool := true) :
    Parser (List α) := do
  if ← eatMark close then
    return []
  let first ← item
  let others ← many do
    if ← eatMark close then
      return none
    mark ","
    if trailing then
      if ← eatMark close then
        return none
    some <$> item
  return first :: others

/-- The place of the byte at `offset`. -/
def locate (offset : Nat) : Parser Location := do
  return (← read).lines.location offset.toUInt32

/-- The place of the present token. -/
def here : Parser Location := do
  locate (← token).start

/-- The source text from `start` to the end of the token before. -/
def textFrom (start : Nat) : Parser String := do
  let stop := (← get).previousStop
  return String.Pos.Raw.extract (← read).source ⟨start⟩ ⟨stop⟩

/-- The documentation that the present token carries. -/
def doc : Parser Doc := do
  match (← token).doc with
  | some text => return (DocComment.read text).toDoc
  | none => return {}

/-- Whether a statement or member may end here: at its mark, at a closing
brace, at the end of the text, or after the end of a line. -/
def atStatementEnd : Parser Bool := do
  let token ← token
  return token.kind == .mark ";" || token.kind == .mark "\x7d" || token.kind == .endOfText ||
    token.newlineBefore

/-- The end of a statement. -/
def statementEnd : Parser Unit := do
  require (← atStatementEnd)
  discard (eatMark ";")

/-- The name of a variable or type. -/
def identifier : Parser String := do
  match (← kind).identifier? with
  | some name =>
    advance
    return name
  | none => failure

/-- Any word. -/
def anyName : Parser String := do
  match (← kind).name? with
  | some name =>
    advance
    return name
  | none => failure

/-- Whether the present token may name a variable or type. -/
def atIdentifier : Parser Bool := do
  return (← kind).identifier?.isSome

/-- A string. -/
def string : Parser String := do
  match ← kind with
  | .string value =>
    advance
    return value
  | _ => failure

/-- Refuses in files without types. -/
def requireTypes : Parser Unit := do
  require (← read).dialect.types

/-- Runs `parser` under a changed setting. -/
def under {α : Type} (change : Setting → Setting) (parser : Parser α) : Parser α :=
  withReader change parser

end Parser

end AppMetadata.TypeScript
