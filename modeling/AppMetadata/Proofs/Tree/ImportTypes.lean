import AppMetadata.Tree

/-!
# `AppMetadata.Proofs.Tree.ImportTypes`: the import types in a tree

Which import types a type, a member or a declaration contains, at any depth.
The lemmas say that a part contains no other import types than the whole. The
parts of a union are those of its alternatives, where nested unions are open.
-/

set_option autoImplicit false

namespace AppMetadata

mutual

/-- The import types in a type. -/
def TypeNode.importTypes : TypeNode → List ImportType
  | ⟨form, _⟩ => form.importTypes

/-- The import types in a form. -/
def TypeForm.importTypes : TypeForm → List ImportType
  | .array element => element.importTypes
  | .union types | .intersection types => importTypesOf types
  | .object members => importTypesOfMembers members
  | .reference reference => reference.importTypes
  | .imported link => link :: link.importTypes
  | .function signature => signature.importTypes
  | _ => []

/-- The import types in the type arguments of a reference. -/
def Reference.importTypes : Reference → List ImportType
  | ⟨_, args, _⟩ => importTypesOf args

/-- The import types in the type arguments of an import type. -/
def ImportType.importTypes : ImportType → List ImportType
  | ⟨_, _, args, _⟩ => importTypesOf args

/-- The import types in a signature. -/
def Signature.importTypes : Signature → List ImportType
  | ⟨params, returns⟩ => importTypesOfParams params ++ importTypesOfOption returns

/-- The import types in a parameter. -/
def Parameter.importTypes : Parameter → List ImportType
  | ⟨_, _, type⟩ => importTypesOfOption type

/-- The import types in a member. -/
def Member.importTypes : Member → List ImportType
  | ⟨_, form, _, _, _⟩ => form.importTypes

/-- The import types in a member's form. -/
def MemberForm.importTypes : MemberForm → List ImportType
  | .signature type | .field type => importTypesOfOption type
  | .method signature => signature.importTypes
  | .enumMember _ | .unsupported _ _ => []

/-- The import types in a list of types. -/
def importTypesOf : List TypeNode → List ImportType
  | [] => []
  | type :: types => type.importTypes ++ importTypesOf types

/-- The import types in a list of members. -/
def importTypesOfMembers : List Member → List ImportType
  | [] => []
  | member :: members => member.importTypes ++ importTypesOfMembers members

/-- The import types in a list of parameters. -/
def importTypesOfParams : List Parameter → List ImportType
  | [] => []
  | param :: params => param.importTypes ++ importTypesOfParams params

/-- The import types in a type, if there is one. -/
def importTypesOfOption : Option TypeNode → List ImportType
  | none => []
  | some type => type.importTypes

end

/-- The import types in a declaration. -/
def Declaration.importTypes (declaration : Declaration) : List ImportType :=
  match declaration.form with
  | .typeAlias target => target.importTypes
  | .interface heritage members => importTypesOf heritage ++ importTypesOfMembers members
  | .classType heritage members => importTypesOfOption heritage ++ importTypesOfMembers members
  | .enum members => importTypesOfMembers members

/-- The import types in a node. -/
def Node.importTypes : Node → List ImportType
  | type node => node.importTypes
  | declaration node => node.importTypes
  | member node => node.importTypes

/-! ### Parts of a whole -/

/-- The import types of a type are those of its form. -/
theorem TypeNode.importTypes_eq (type : TypeNode) : type.importTypes = type.form.importTypes := by
  cases type
  rfl

/-- The import types of a member are those of its form. -/
theorem Member.importTypes_eq (member : Member) :
    member.importTypes = member.form.importTypes := by
  cases member
  rfl

/-- A reference has import types in its type arguments only. -/
theorem Reference.importTypes_eq (reference : Reference) :
    reference.importTypes = importTypesOf reference.args := by
  cases reference
  rfl

/-- Those below an import type are in its type arguments; the import type
itself is counted with the form. -/
theorem ImportType.importTypes_eq (link : ImportType) :
    link.importTypes = importTypesOf link.args := by
  cases link
  rfl

/-- The parameters of a signature come before its return type. -/
theorem Signature.importTypes_eq (signature : Signature) :
    signature.importTypes =
      importTypesOfParams signature.params ++ importTypesOfOption signature.returns := by
  cases signature
  rfl

/-- A parameter has those of its type, if it has one. -/
theorem Parameter.importTypes_eq (param : Parameter) :
    param.importTypes = importTypesOfOption param.type := by
  cases param
  rfl

/-- The type of a property is a part of it. -/
theorem Member.importTypes_type?_subset {member : Member} {type : TypeNode}
    (h : member.type? = some type) : type.importTypes ⊆ member.importTypes := by
  rw [Member.importTypes_eq]
  unfold Member.type? at h
  split at h
  · next hform => simp [hform, h, MemberForm.importTypes, importTypesOfOption]
  · next hform => simp [hform, h, MemberForm.importTypes, importTypesOfOption]
  · cases h

/-- The lists of types, members and parameters are all collected in this
way, each by a function of its own. -/
theorem subset_of_mem_of_collects {α β : Type} {part : α → List β} {collect : List α → List β}
    (hcons : ∀ first rest, collect (first :: rest) = part first ++ collect rest) {a : α}
    {whole : List α} (h : a ∈ whole) : part a ⊆ collect whole := by
  induction whole with
  | nil => cases h
  | cons first rest ih =>
    rw [hcons]
    cases h with
    | head => exact List.subset_append_left _ _
    | tail _ h => exact List.Subset.trans (ih h) (List.subset_append_right _ _)

/-- A type is a part of a list of types. -/
theorem importTypes_subset_of_mem {type : TypeNode} {types : List TypeNode} (h : type ∈ types) :
    type.importTypes ⊆ importTypesOf types :=
  subset_of_mem_of_collects (fun _ _ => by rw [importTypesOf]) h

/-- A member is a part of a list of members. -/
theorem Member.importTypes_subset_of_mem {member : Member} {members : List Member}
    (h : member ∈ members) : member.importTypes ⊆ importTypesOfMembers members :=
  subset_of_mem_of_collects (fun _ _ => by rw [importTypesOfMembers]) h

/-- A parameter is a part of a list of parameters. -/
theorem Parameter.importTypes_subset_of_mem {param : Parameter} {params : List Parameter}
    (h : param ∈ params) : param.importTypes ⊆ importTypesOfParams params :=
  subset_of_mem_of_collects (fun _ _ => by rw [importTypesOfParams]) h

mutual

/-- An alternative is a part of its type, at any depth of nested unions. -/
theorem importTypes_alternative_subset :
    ∀ (type : TypeNode) {alternative : TypeNode}, alternative ∈ type.alternatives →
      alternative.importTypes ⊆ type.importTypes
  | ⟨.union types, _⟩, _, h => importTypes_alternativeOf_subset types h
  | ⟨.keyword _, _⟩, _, h | ⟨.stringLiteral _, _⟩, _, h | ⟨.literal _, _⟩, _, h
  | ⟨.array _, _⟩, _, h | ⟨.intersection _, _⟩, _, h | ⟨.object _, _⟩, _, h
  | ⟨.reference _, _⟩, _, h | ⟨.imported _, _⟩, _, h | ⟨.function _, _⟩, _, h
  | ⟨.unsupported _, _⟩, _, h => by
    -- Only a union has other alternatives than itself.
    obtain rfl := List.mem_singleton.mp h
    exact List.Subset.refl _

/-- An alternative of a list of types is a part of the list. -/
theorem importTypes_alternativeOf_subset :
    ∀ (types : List TypeNode) {alternative : TypeNode}, alternative ∈ alternativesOf types →
      alternative.importTypes ⊆ importTypesOf types
  | [], _, h => nomatch h
  | type :: types, _, h => by
    rw [importTypesOf]
    rw [alternativesOf, List.mem_append] at h
    cases h with
    | inl h =>
      exact List.Subset.trans (importTypes_alternative_subset type h) (List.subset_append_left _ _)
    | inr h =>
      exact List.Subset.trans (importTypes_alternativeOf_subset types h)
        (List.subset_append_right _ _)

end

/-- So are the alternatives that are values. -/
theorem importTypes_present_subset {types : List TypeNode} {alternative : TypeNode}
    (h : alternative ∈ presentOf types) : alternative.importTypes ⊆ importTypesOf types :=
  importTypes_alternativeOf_subset types (List.mem_filter.mp h).1

end AppMetadata
