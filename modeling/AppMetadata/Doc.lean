import AppMetadata.Text.Blank
import AppMetadata.Text.Split

/-!
# `AppMetadata.Doc`: documentation of declarations and members

A doc comment has a summary, which ends at the first line that starts with
`@`, and may carry a `@deprecated` tag with or without a reason. Other tags
say nothing about types. Each line is read without its indentation and one
leading star (`DocComment.line`), so the layout of a comment has no meaning.
-/

set_option autoImplicit false

namespace AppMetadata

/-- Whether a thing is out of use: a plain mark, or the reason. -/
inductive Deprecation
  | flag (marked : Bool)
  | reason (text : String)
deriving DecidableEq, Repr, Inhabited

namespace Deprecation

/-- Not out of use. -/
def no : Deprecation := .flag false

/-- A reason, even an empty one, marks a thing as out of use. -/
def isDeprecated : Deprecation → Bool
  | .flag marked => marked
  | .reason _ => true

/-- The reason, if one is given. -/
def reason? : Deprecation → Option String
  | .flag _ => none
  | .reason text => some text

end Deprecation

/-- What is said about a declaration or member. -/
structure Doc where
  description : String := ""
  deprecated : Deprecation := .no
deriving DecidableEq, Repr, Inhabited

/-- Nothing is said. -/
def Doc.isEmpty (doc : Doc) : Bool :=
  doc.description.isEmpty && !doc.deprecated.isDeprecated

/-- The parts of a doc comment that matter. -/
structure DocComment where
  /-- The text before the first tag; never empty. -/
  summary : Option String := none
  /-- The text after the last `@deprecated`; empty for a bare tag. -/
  deprecated : Option String := none
deriving DecidableEq, Repr

namespace DocComment

open Text

/-- One line of a comment without blanks around it and without its first
star. -/
def line (cs : List Char) : List Char :=
  match trim cs with
  | '*' :: rest => trim rest
  | rest => trim rest

/-- The text after `@deprecated`, if `cs` is a line with exactly this tag. -/
def deprecation? : List Char → Option (List Char)
  | '@' :: rest =>
    if rest.takeWhile (!isBlank ·) = "deprecated".toList then
      some (trim (rest.dropWhile (!isBlank ·)))
    else none
  | _ => none

/-- Whether a line starts a tag. -/
def isTag : List Char → Bool
  | '@' :: _ => true
  | _ => false

/-- The lines before the first tag, joined by spaces; none if they are
blank. -/
def summaryOf (lines : List (List Char)) : Option String :=
  let summary := trim (join [' '] ((lines.takeWhile (!isTag ·)).dropWhile List.isEmpty))
  if summary.isEmpty then none else some (String.ofList summary)

/-- The lines of a comment. A carriage return before a line feed is a blank
at the end of its line, so `line` drops it. -/
def lines (text : String) : List (List Char) :=
  (splitWhere (· == '\n') text.toList).map line

/-- Reads the text between the comment marks. -/
def read (text : String) : DocComment :=
  let lines := lines text
  { summary := summaryOf lines
    deprecated := (lines.filterMap deprecation?).getLast?.map String.ofList }

/-- A bare `@deprecated` is a mark, one with text a reason. -/
def toDoc (comment : DocComment) : Doc where
  description := comment.summary.getD ""
  deprecated :=
    match comment.deprecated with
    | some reason => if reason.isEmpty then .flag true else .reason reason
    | none => .no

end DocComment

end AppMetadata
