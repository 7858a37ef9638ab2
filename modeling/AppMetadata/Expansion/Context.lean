import AppMetadata.Naming

/-!
# `AppMetadata.Expansion.Context`: where a node is described

The context of a node decides whether a named type is described in full or
only linked, and at which path its parts stand.
-/

set_option autoImplicit false

namespace AppMetadata

/-- Where a node is described. -/
structure Context where
  /-- The path of the enclosing property; empty at a root. -/
  parentPath : String := ""
  /-- Whether the node is a part of an intersection or a heritage clause, so
  that its properties become those of another type. -/
  flattens : Bool := false
  /-- The name under which paths start where the parent path is empty. -/
  owner : Option String := none
deriving DecidableEq, Repr, Inhabited

namespace Context

/-- The context of a root called `owner`. -/
def root (owner : String) : Context where
  owner := some owner

/-- Whether named types are described in full here. -/
def expands (ctx : Context) : Bool :=
  ctx.parentPath.isEmpty || ctx.flattens

/-- The path below which the parts of a node stand. -/
def basePath (ctx : Context) : String :=
  if ctx.parentPath.isEmpty then ctx.owner.getD "" else ctx.parentPath

/-- The context of a part whose properties become those of the whole. -/
def flattening (ctx : Context) : Context :=
  { ctx with flattens := true }

/-- The context of a part that stands at a path of its own. -/
def below (ctx : Context) (path : String) : Context where
  parentPath := path
  owner := ctx.owner

/-- The context of what a declaration called `name` declares. Its parts stand
below the name, unless they become parts of another type. -/
def within (ctx : Context) (name : String) : Context :=
  { ctx with owner := if ctx.flattens then ctx.owner <|> some name else some name }

/-- The context with `name` as the owner, if there is none. -/
def ownedBy (ctx : Context) (name : String) : Context :=
  { ctx with owner := ctx.owner <|> some name }

/-- The name of a type without a declaration: the owner at a root, elsewhere
a name made from the path by `ofPath`. -/
def anonymousName? (ctx : Context) (ofPath : String → Option String) : Option String :=
  if ctx.parentPath.isEmpty then ctx.owner.filter (!·.isEmpty) else ofPath ctx.parentPath

end Context

end AppMetadata
