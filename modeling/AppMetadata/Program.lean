import AppMetadata.Module

/-!
# `AppMetadata.Program`: modules that refer to one another

A program is a list of modules, the root first, in which each specifier that
stands for a module of the program is linked to it.
-/

set_option autoImplicit false

namespace AppMetadata

/-- A module and the modules that its specifiers stand for. -/
structure LinkedModule extends Module where
  links : Table ModuleId := []

/-- The modules of a compilation unit; a module's position is its
identity. -/
structure Program where
  modules : Array LinkedModule

namespace Program

/-- The position of the root module. -/
def rootId : ModuleId := 0

/-- The module at a position. -/
def module? (program : Program) (id : ModuleId) : Option LinkedModule :=
  program.modules[id]?

/-- The module that `specifier` stands for in `scope`. -/
def linked? (program : Program) (scope : LinkedModule) (specifier : String) :
    Option LinkedModule :=
  (scope.links.lookup specifier).bind program.module?

end Program

end AppMetadata
