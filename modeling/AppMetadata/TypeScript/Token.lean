import AppMetadata.TypeScript.Identifier

/-!
# `AppMetadata.TypeScript.Token`: the tokens of a source text

A token is a word, a literal, or a mark. Words are identifiers and keywords
alike, since most keywords are reserved only in some places. A token knows
where it stands, whether a line ended before it, and the doc comment that it
follows.
-/

set_option autoImplicit false

namespace AppMetadata.TypeScript

/-- The kinds of tokens. -/
inductive TokenKind
  | word (name : String)
  /-- An identifier written with escapes, which is never a keyword. -/
  | escapedWord (name : String)
  /-- A name that starts with `#`. -/
  | privateName (name : String)
  | string (value : String)
  /-- A number, as it is written. -/
  | number (lexeme : String)
  /-- A big integer, as it is written, without its `n`. -/
  | bigint (lexeme : String)
  /-- A part of a template: the text up to an expression, or the last text.
  The value is absent where an escape has none. -/
  | template (value : Option String) (isLast : Bool)
  | regex
  | mark (text : String)
  | endOfText
deriving DecidableEq, Repr

/-- The words that are keywords everywhere. -/
def reservedWords : List String :=
  ["break", "case", "catch", "class", "const", "continue", "debugger", "default", "delete",
    "do", "else", "enum", "export", "extends", "false", "finally", "for", "function", "if",
    "import", "in", "instanceof", "new", "null", "return", "super", "switch", "this", "throw",
    "true", "try", "typeof", "var", "void", "while", "with"]

namespace TokenKind

/-- The name of a word of either kind. -/
def name? : TokenKind → Option String
  | word name | escapedWord name => some name
  | _ => none

/-- The name of a word that may name a variable or type. -/
def identifier? : TokenKind → Option String
  | word name => if reservedWords.contains name then none else some name
  | escapedWord name => some name
  | _ => none

/-- What is no word is no empty word. -/
theorem unnamed {kind : TokenKind} (h : kind.name? = none) : kind.name? ≠ some "" := by
  simp [h]

end TokenKind

/-- One token. -/
structure Token where
  kind : TokenKind
  /-- The offset of its first byte. -/
  start : Nat
  /-- The offset after its last byte. -/
  stop : Nat
  /-- Whether a line ended between this token and the one before. -/
  newlineBefore : Bool
  /-- The text of the doc comment that documents what starts here. -/
  doc : Option String
  /-- No word is empty. -/
  named : kind.name? ≠ some ""
deriving Repr

/-- The marks, longer ones before those that they start with. A mark that
starts with `>` is read as `>` alone, since two type argument lists may end
together. -/
def marks : List String :=
  ["...", "===", "!==", "**=", "<<=", "&&=", "||=", "??=", "=>", "==", "!=", "<=", "++", "--",
    "<<", "&&", "||", "??", "?.", "+=", "-=", "*=", "%=", "&=", "|=", "^=", "**", "/=", "\x7b",
    "\x7d", "(", ")", "[", "]", ";", ",", "~", "?", ":", ".", "@", "<", ">", "+", "-", "*",
    "/", "%", "&", "|", "^", "!", "="]

/-- The longer marks that start with `>`. -/
def greaterMarks : List String :=
  [">>>=", ">>>", ">>=", ">>", ">="]

end AppMetadata.TypeScript
