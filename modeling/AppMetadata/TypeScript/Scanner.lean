import AppMetadata.Text.Blank
import AppMetadata.TypeScript.Literal

/-!
# `AppMetadata.TypeScript.Scanner`: from characters to tokens

`nextToken?` skips blanks and comments and reads one token. Tokens are read
one at a time, since what a character starts depends on the grammar: a slash
may start a regular expression (`regexToken?`), a closing brace may end an
expression inside a template (`templateToken?`).

A doc comment documents the token that follows it, if it is still pending
there (`Trivia.pending`). It no longer is once its own line goes on to end
and nothing on that line came after the token before it.
-/

set_option autoImplicit false

namespace AppMetadata.TypeScript

open AppMetadata.Text

/-- Where the reader of blanks and comments is. -/
inductive TriviaMode
  | blank
  /-- After a slash that may start a comment. -/
  | slash
  /-- In a comment that ends with its line. -/
  | line
  /-- In a comment in stars, whose text so far is kept in reverse. -/
  | block (content : List Char)
  /-- In a comment in stars, after a star that may end it. -/
  | star (content : List Char)

/-- What was seen between two tokens. -/
structure Trivia where
  offset : Nat
  mode : TriviaMode := .blank
  /-- Whether a line ended outside comments in stars. -/
  sawNewline : Bool
  /-- Whether a line ended anywhere. -/
  newlineBefore : Bool := false
  /-- Whether the token before is one that a comment at the end of its line
  does not belong to: an equals sign or an opening parenthesis. -/
  opensLine : Bool
  /-- The doc comment that will document the next token. -/
  pending : Option String := none

/-- Whether `c` ends a line outside comments in stars. -/
def isLineFeed (c : Char) : Bool :=
  c == '\n' || c == '\r'

/-- Whether `c` ends a line in any sense. -/
def isLineEnd (c : Char) : Bool :=
  isLineFeed c || c == '\u2028' || c == '\u2029'

/-- Whether `c` is skipped between tokens: a blank, a space of no width, or a
byte order mark. -/
def isSpace (c : Char) : Bool :=
  isBlank c || c == '\u200B' || c == '\uFEFF'

/-- The text of a comment in stars as documentation: it starts with a star
and is not all stars. -/
def docText? (content : List Char) : Option String :=
  match content with
  | '*' :: _ => if content.all (· == '*') then none else some (String.ofList content)
  | _ => none

namespace Trivia

/-- Moves over `c`. -/
def past (trivia : Trivia) (c : Char) : Trivia :=
  { trivia with offset := trivia.offset + c.utf8Size }

/-- Notes the end of a line, which drops what is pending on it. -/
def newline (trivia : Trivia) (c : Char) : Trivia :=
  if isLineFeed c then
    { trivia with
      mode := .blank
      pending := if trivia.sawNewline then trivia.pending else none
      sawNewline := true
      newlineBefore := true }
  else { trivia with mode := .blank, newlineBefore := true }

/-- Notes a comment that ends with its line; unless it has a line of its own,
what is pending is dropped with it. -/
def lineComment (trivia : Trivia) : Trivia :=
  { trivia with
    mode := .line
    pending :=
      if !trivia.sawNewline && !trivia.opensLine then none else trivia.pending
    sawNewline := true }

/-- Notes a comment in stars; `content` is its text in reverse. -/
def blockComment (trivia : Trivia) (content : List Char) : Trivia :=
  { trivia with mode := .blank, pending := docText? content.reverse <|> trivia.pending }

/-- Notes a character inside a comment in stars. -/
def inBlock (trivia : Trivia) (c : Char) (mode : TriviaMode) : Trivia :=
  { trivia with mode, newlineBefore := trivia.newlineBefore || isLineEnd c }.past c

/-- Skips blanks and comments; none if a comment in stars does not end. A
slash counts as passed once it is known to start a comment. -/
def skip (trivia : Trivia) : List Char → Option (Trivia × List Char)
  | [] =>
    match trivia.mode with
    | .blank | .line => some (trivia, [])
    | .slash => some (trivia, ['/'])
    | .block _ | .star _ => none
  | c :: cs =>
    match trivia.mode with
    | .blank =>
      if c = '/' then skip { trivia with mode := .slash } cs
      else if isLineEnd c then skip ((trivia.newline c).past c) cs
      else if isSpace c then skip (trivia.past c) cs
      else some (trivia, c :: cs)
    | .slash =>
      if c = '/' then skip (trivia.lineComment.past '/' |>.past c) cs
      else if c = '*' then skip ({ trivia with mode := .block [] }.past '/' |>.past c) cs
      else some (trivia, '/' :: c :: cs)
    | .line =>
      if isLineEnd c then skip ((trivia.newline c).past c) cs else skip (trivia.past c) cs
    | .block content =>
      if c = '*' then skip (trivia.inBlock c (.star content)) cs
      else skip (trivia.inBlock c (.block (c :: content))) cs
    | .star content =>
      if c = '/' then skip ((trivia.blockComment content).past c) cs
      else if c = '*' then skip (trivia.inBlock c (.star (c :: content))) cs
      else skip (trivia.inBlock c (.block (c :: '*' :: content))) cs

end Trivia

/-- A token's kind, its characters, and the text after it. -/
structure Lexeme where
  kind : TokenKind
  taken : List Char
  rest : List Char
  /-- No word is empty. -/
  named : kind.name? ≠ some ""

/-- The number of bytes of `cs`. -/
def byteLength (cs : List Char) : Nat :=
  cs.foldl (fun total c => total + c.utf8Size) 0

/-- The characters of an identifier with escapes, and the text after it.
`steps` bounds the number of characters. -/
def escapedName (steps : Nat) (cs : List Char) : Option (List Char × List Char) :=
  match steps, cs with
  | steps + 1, '\\' :: 'u' :: cs => do
    let (value, rest) ← codePoint? cs
    let c := Char.ofNat value
    if isIdentifierPart c then
      let (name, rest) ← escapedName steps rest
      return (c :: name, rest)
    else none
  | _, '\\' :: _ => none
  | steps + 1, c :: cs =>
    if isIdentifierPart c then do
      let (name, rest) ← escapedName steps cs
      return (c :: name, rest)
    else some ([], c :: cs)
  | _, cs => some ([], cs)

/-- A word at the start of `cs`. -/
def wordLexeme? (cs : List Char) : Option Lexeme :=
  let plain := cs.takeWhile isIdentifierPart
  let rest := cs.dropWhile isIdentifierPart
  match rest, plain with
  | '\\' :: _, _ => do
    let (name, rest) ← escapedName cs.length cs
    match name with
    | [] => none
    | first :: others =>
      if isIdentifierStart first then
        some ⟨.escapedWord (String.ofList (first :: others)),
          cs.take (cs.length - rest.length), rest, by simp [TokenKind.name?]⟩
      else none
  | _, [] => none
  | _, first :: others =>
    some ⟨.word (String.ofList (first :: others)), plain, rest, by simp [TokenKind.name?]⟩

/-- A private name after its `#`. -/
def privateLexeme? (cs : List Char) : Option Lexeme := do
  let lexeme ← if cs.head?.any fun c => isIdentifierStart c || c == '\\' then wordLexeme? cs else none
  some ⟨.privateName (lexeme.kind.name?.getD ""), '#' :: lexeme.taken, lexeme.rest,
    TokenKind.unnamed rfl⟩

/-- The text up to the closing quote of a string, and the text after it. -/
def stringBody (quote : Char) : List Char → Option (List Char × List Char)
  | [] => none
  | '\\' :: '\r' :: '\n' :: cs =>
    (stringBody quote cs).map fun (body, rest) => ('\\' :: '\r' :: '\n' :: body, rest)
  | '\\' :: c :: cs => (stringBody quote cs).map fun (body, rest) => ('\\' :: c :: body, rest)
  | c :: cs =>
    if c = quote then some ([], cs)
    else if isLineFeed c then none
    else (stringBody quote cs).map fun (body, rest) => (c :: body, rest)

/-- A string at the start of `cs`, after its opening quote. -/
def stringLexeme? (quote : Char) (cs : List Char) : Option Lexeme := do
  let (body, rest) ← stringBody quote cs
  let value ← stringValue? body
  some ⟨.string value, quote :: body ++ [quote], rest, TokenKind.unnamed rfl⟩

/-- The text of a part of a template, the mark that ends it, and the text
after it. -/
def templateBody : List Char → Option (List Char × List Char × List Char)
  | [] => none
  | '\\' :: c :: cs => (templateBody cs).map fun (body, rest) => ('\\' :: c :: body, rest)
  | '$' :: '\x7b' :: cs => some ([], ['$', '\x7b'], cs)
  | '`' :: cs => some ([], ['`'], cs)
  | c :: cs => (templateBody cs).map fun (body, rest) => (c :: body, rest)

/-- A part of a template, after the mark that starts it. -/
def templateLexeme? (start : Char) (cs : List Char) : Option Lexeme := do
  let (body, finish, rest) ← templateBody cs
  some ⟨.template (templateValue? body) (finish == ['`']), start :: body ++ finish, rest,
    TokenKind.unnamed rfl⟩

/-- Whether `c` is a digit or a separator of digits. -/
def isDigitPart (c : Char) : Bool :=
  c.isDigit || c == '_'

/-- The power of ten of a number: `e`, a sign, digits. -/
def powerPart (cs : List Char) : Option (List Char × List Char) :=
  match cs with
  | e :: cs =>
    if e = 'e' ∨ e = 'E' then
      let (sign, digits) : List Char × List Char :=
        match cs with
        | '+' :: ds => (['+'], ds)
        | '-' :: ds => (['-'], ds)
        | ds => ([], ds)
      if digits.head?.any Char.isDigit then
        some (e :: sign ++ digits.takeWhile isDigitPart, digits.dropWhile isDigitPart)
      else none
    else some ([], e :: cs)
  | [] => some ([], [])

/-- The letter that tells the base of a number. -/
def isRadixLetter (c : Char) : Bool :=
  ['x', 'X', 'o', 'O', 'b', 'B'].contains c

/-- Whether what follows a number can follow one. -/
def endsNumber (rest : List Char) : Bool :=
  rest.head?.all fun c => !isIdentifierStart c && !c.isDigit && c != '\\'

/-- A number at the start of `cs`. -/
def numberLexeme? (cs : List Char) : Option Lexeme :=
  let close (taken rest : List Char) (whole : Bool) : Option Lexeme :=
    match rest with
    | 'n' :: rest =>
      if whole && endsNumber rest then
        some ⟨.bigint (String.ofList taken), taken ++ ['n'], rest, TokenKind.unnamed rfl⟩
      else none
    | _ =>
      if endsNumber rest then
        some ⟨.number (String.ofList taken), taken, rest, TokenKind.unnamed rfl⟩
      else none
  match cs with
  | '0' :: c :: digits =>
    if isRadixLetter c then
      let taken := digits.takeWhile fun d => d.isDigit || d.isAlpha && d != 'n' || d == '_'
      let rest := digits.dropWhile fun d => d.isDigit || d.isAlpha && d != 'n' || d == '_'
      let all := '0' :: c :: taken
      if taken.isEmpty ∨ (radixDigits? all).isNone then none else close all rest true
    else decimal cs close
  | _ => decimal cs close
where
  /-- The digits of a number in base 16, 8 or 2, if they are ones. -/
  radixDigits? (all : List Char) : Option Nat :=
    match all.filter (· != '_') with
    | _ :: c :: digits =>
      Text.digitsValue? (if c = 'x' ∨ c = 'X' then 16 else if c = 'o' ∨ c = 'O' then 8 else 2) digits
    | _ => none
  /-- A decimal number: digits, a fraction, a power of ten. -/
  decimal (cs : List Char) (close : List Char → List Char → Bool → Option Lexeme) :
      Option Lexeme := do
    let whole := cs.takeWhile isDigitPart
    let rest := cs.dropWhile isDigitPart
    let (fraction, rest) : List Char × List Char :=
      match rest with
      | '.' :: ds => ('.' :: ds.takeWhile isDigitPart, ds.dropWhile isDigitPart)
      | rest => ([], rest)
    let (power, rest) ← powerPart rest
    close (whole ++ fraction ++ power) rest (fraction.isEmpty && power.isEmpty)

/-- A mark at the start of `cs`. A question mark before a number stands
alone. -/
def markLexeme? (cs : List Char) : Option Lexeme := do
  let mark ← marks.find? fun mark => mark.toList.isPrefixOf cs
  let taken := mark.toList
  let rest := cs.drop taken.length
  if mark = "?." ∧ rest.head?.any Char.isDigit = true then
    some ⟨.mark "?", ['?'], cs.drop 1, TokenKind.unnamed rfl⟩
  else some ⟨.mark mark, taken, rest, TokenKind.unnamed rfl⟩

/-- The lexeme at the start of `cs`. -/
def lexeme? (cs : List Char) : Option Lexeme :=
  match cs with
  | [] => some ⟨.endOfText, [], [], TokenKind.unnamed rfl⟩
  | c :: rest =>
    if isIdentifierStart c || c == '\\' then wordLexeme? cs
    else if c.isDigit then numberLexeme? cs
    else if c == '.' && rest.head?.any Char.isDigit then numberLexeme? cs
    else if c == '"' || c == '\'' then stringLexeme? c rest
    else if c == '`' then templateLexeme? c rest
    else if c == '#' then privateLexeme? rest
    else markLexeme? cs

/-- The text after the first line of a script that names its interpreter. -/
def afterInterpreterLine (cs : List Char) : List Char × List Char :=
  match cs with
  | '#' :: '!' :: _ => (cs.takeWhile (!isLineEnd ·), cs.dropWhile (!isLineEnd ·))
  | _ => ([], cs)

/-- A token, the text from its first character, and the text after it. -/
structure Scan where
  token : Token
  here : List Char
  rest : List Char

/-- Reads the next token of `cs` after what `trivia` tells. -/
def nextToken? (trivia : Trivia) (cs : List Char) : Option Scan := do
  let (trivia, here) ← trivia.skip cs
  let lexeme ← lexeme? here
  let token : Token := {
    kind := lexeme.kind
    start := trivia.offset
    stop := trivia.offset + byteLength lexeme.taken
    newlineBefore := trivia.newlineBefore
    doc := trivia.pending
    named := lexeme.named }
  some ⟨token, here, lexeme.rest⟩

/-- Reads the first token of a source text. The start of the text counts as
the start of a line. -/
def firstToken? (cs : List Char) : Option Scan :=
  let (line, rest) := afterInterpreterLine cs
  nextToken? { offset := byteLength line, sawNewline := true, opensLine := false } rest

/-- Reads the token after `scan`. -/
def Scan.next? (scan : Scan) : Option Scan :=
  let opensLine := scan.token.kind == .mark "=" || scan.token.kind == .mark "("
  nextToken? { offset := scan.token.stop, sawNewline := false, opensLine } scan.rest

/-- Replaces the present token by another lexeme at the same place. -/
def Scan.reread (scan : Scan) (lexeme : Lexeme) : Scan :=
  { scan with
    token := { scan.token with
      kind := lexeme.kind
      stop := scan.token.start + byteLength lexeme.taken
      named := lexeme.named }
    rest := lexeme.rest }

/-- The part of a template that goes on after the closing brace at which the
scan stands. -/
def Scan.templateToken? (scan : Scan) : Option Scan :=
  match scan.here with
  | '\x7d' :: cs => (templateLexeme? '\x7d' cs).map scan.reread
  | _ => none

/-- The body of a regular expression and the text after it. A slash inside
brackets does not end it. -/
def regexBody (inClass : Bool) : List Char → Option (List Char × List Char)
  | [] => none
  | '\\' :: c :: cs =>
    if isLineEnd c then none
    else (regexBody inClass cs).map fun (body, rest) => ('\\' :: c :: body, rest)
  | c :: cs =>
    if isLineEnd c then none
    else if c = '/' ∧ inClass = false then some ([], cs)
    else
      let inClass := if c = '[' then true else if c = ']' then false else inClass
      (regexBody inClass cs).map fun (body, rest) => (c :: body, rest)

/-- The regular expression that starts at the slash at which the scan
stands. Each flag counts once. -/
def Scan.regexToken? (scan : Scan) : Option Scan :=
  match scan.here with
  | '/' :: cs => do
    let (body, rest) ← regexBody false cs
    let flags := rest.takeWhile isIdentifierPart
    if body.isEmpty ∨ (flags.all "dgimsuvy".toList.contains && flags.eraseDups == flags) = false then
      none
    else
      some (scan.reread
        ⟨.regex, '/' :: body ++ '/' :: flags, rest.dropWhile isIdentifierPart,
          TokenKind.unnamed rfl⟩)
  | _ => none

/-- The longest mark that starts with the `>` at which the scan stands. -/
def Scan.greaterToken (scan : Scan) : Scan :=
  match greaterMarks.find? fun mark => mark.toList.isPrefixOf scan.here with
  | some mark =>
    scan.reread
      ⟨.mark mark, mark.toList, scan.here.drop mark.toList.length, TokenKind.unnamed rfl⟩
  | none => scan

/-- The first character alone of the mark at which the scan stands. -/
def Scan.firstMark (scan : Scan) : Scan :=
  match scan.here with
  | c :: rest => scan.reread ⟨.mark (String.singleton c), [c], rest, TokenKind.unnamed rfl⟩
  | [] => scan

end AppMetadata.TypeScript
