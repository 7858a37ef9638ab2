import AppMetadata.TypeScript.Expression

/-!
# `AppMetadata.TypeScript.Element`: elements in angle brackets

An element has a name, attributes and children, and ends with its own name;
an element without a name only holds children. The text between tags is not
made of tokens.
-/

set_option autoImplicit false

namespace AppMetadata.TypeScript

open AppMetadata.TypeScript.Parser

variable (g : Grammar)

/-- Whether `c` may go on a name in a tag. -/
def isTagPart (c : Char) : Bool :=
  isIdentifierPart c || c == '-'

/-- The name at which a scan stands, which may go on with dashes. -/
def tagName? (scan : Scan) : Option Scan :=
  match hkind : scan.token.kind with
  | .word name =>
    let more := scan.rest.takeWhile isTagPart
    have hname : name ≠ "" := fun hempty => scan.token.named (by rw [hkind, hempty]; rfl)
    some (scan.reread ⟨.word (name ++ String.ofList more), name.toList ++ more,
      scan.rest.dropWhile isTagPart, by simp [TokenKind.name?, hname]⟩)
  | _ => none

/-- A name with dashes. -/
def dashedName : Parser String := do
  replaceToken tagName?
  anyName

/-- The name of an element: words joined by dots or a colon. -/
def elementName : Parser (List String) := do
  let first ← dashedName
  let others ← many do
    if (← eatMark ".") || (← eatMark ":") then
      some <$> dashedName
    else return none
  return first :: others

/-- The string at which a scan stands, up to the same quote; escapes mean
nothing in it. -/
def attributeString? (scan : Scan) : Option Scan :=
  match scan.here with
  | quote :: cs =>
    if quote = '"' ∨ quote = '\'' then
      let body := cs.takeWhile (· != quote)
      match cs.dropWhile (· != quote) with
      | _ :: rest => some (scan.reread
          ⟨.string (String.ofList body), quote :: body ++ [quote], rest, TokenKind.unnamed rfl⟩)
      | [] => none
    else none
  | [] => none

/-- Moves past `=` to a string in which escapes mean nothing, or to another
value. -/
def attributeStart (cursor : Cursor) : Option Cursor :=
  let skip (cs : List Char) : List Char := cs.dropWhile isSpaceOrLineEnd
  match skip cursor.scan.rest with
  | quote :: cs =>
    if quote = '"' ∨ quote = '\'' then
      let blanks := cursor.scan.rest.takeWhile isSpaceOrLineEnd
      let start := cursor.scan.token.stop + byteLength blanks
      let token : Token := { cursor.scan.token with start := start, stop := start }
      (attributeString? ⟨token, quote :: cs, []⟩).map fun scan =>
        { scan, previousStop := cursor.scan.token.stop }
    else none
  | [] => none
where
  /-- Whether `c` stands between tokens. -/
  isSpaceOrLineEnd (c : Char) : Bool := isSpace c || isLineEnd c

/-- The value of an attribute after its equals sign, at which the text
stands. -/
def attributeValue : Parser Unit := do
  match attributeStart (← get) with
  | some cursor =>
    set cursor
    advance
  | none =>
    advance
    if ← eatMark "\x7b" then
      discard (enclosed g)
      mark "\x7d"
    else
      g.element
      mark ">"

/-- One attribute, or all properties of an object. -/
def elementAttribute : Parser Unit := do
  if ← eatMark "\x7b" then
    mark "..."
    discard g.assignment
    mark "\x7d"
  else
    discard elementName
    if ← atMark "=" then attributeValue g

/-- Text between tags, which holds no closing marks of them. -/
def childText (scan : Scan) : Option Scan :=
  let stops (c : Char) : Bool := ['<', '\x7b', '>', '\x7d'].contains c
  let body := scan.rest.takeWhile (!stops ·)
  match scan.rest.dropWhile (!stops ·) with
  | c :: rest =>
    if c = '<' ∨ c = '\x7b' then
      some (Scan.firstMark { scan with
        token := { scan.token with start := scan.token.stop + byteLength body }
        here := c :: rest })
    else none
  | [] => none

/-- Moves over the text after the present token to the next tag or brace. -/
def skipChildText : Parser Unit := do
  let cursor ← get
  match childText cursor.scan with
  | some scan => set { scan, previousStop := cursor.scan.token.stop : Cursor }
  | none => failure

/-- Children up to the closing tag, whose `<` is left. The present token is
the mark after which they start. -/
def children : Parser Unit := do
  skipChildText
  discard <| many do
    if ← atMark "\x7b" then
      advance
      if !(← atMark "\x7d") then
        discard (eatMark "...")
        discard (enclosed g)
      require (← atMark "\x7d")
      skipChildText
      return some ()
    else if ← nextToken (·.kind == .mark "/") then
      return none
    else
      g.element
      skipChildText
      return some ()

/-- An element, up to its last mark, which is left. -/
def markedElement : Parser Unit := do
  mark "<"
  let name ← if ← atMark ">" then pure [] else elementName
  if !name.isEmpty then
    discard (optionally (typeArguments g))
    discard <| many do
      if (← atMark ">") || (← atMark "/") then
        return none
      some <$> elementAttribute g
  if ← eatMark "/" then
    require (!name.isEmpty && (← atMark ">"))
  else
    require (← atMark ">")
    children g
    mark "<"
    mark "/"
    let closing ← if ← atMark ">" then pure [] else elementName
    require (closing == name && (← atMark ">"))

end AppMetadata.TypeScript
