import AppMetadata.Group
import AppMetadata.Proofs.Expansion.Inversion

/-!
# `AppMetadata.Proofs.Group`: the members of a group, one by one

The members of a group share a walker, but each is described as by a walker
of its own (`Extractor.namedTypeAlone`). So a group of types is the list of
these, where repeated names are left out.

* `models_eq_ok`: when the models are extracted, and which they are.
-/

set_option autoImplicit false

namespace AppMetadata.Extractor

open Expansion

/-- The type of one member of a group, described by a walker of its own. -/
def namedTypeAlone (extractor : Extractor) (group : Group) (member : Member) :
    Attempt Shape :=
  match member.type? with
  | none => throw (ExtractionError.unsupported member.location
      s!"`{group.key}.{member.name}` must be a property with a type annotation")
  | some type => do
    let shape ← Expansion.describe extractor.program extractor.settings (.type type)
      (.root member.name)
    return { shape with
      typeName := shape.typeName <|> some member.name
      description :=
        if shape.description.isEmpty then member.doc.description else shape.description }

/-- The types of a group, each described by a walker of its own. -/
def namedTypesAlone (extractor : Extractor) (group : Group) (members : List Member) :
    Attempt (List Shape) :=
  members.foldlM
    (fun types member => do return Group.addUnique types (← extractor.namedTypeAlone group member))
    []

variable (extractor : Extractor) (group : Group)

/-- A root is described by the shared walker as by one of its own. -/
theorem describeRoot_related (type : TypeNode) (owner : String) :
    (counting 0).Related (extractor.describeRoot type owner)
      (Expansion.describe extractor.program extractor.settings (.type type) (.root owner)) := by
  rw [describe_eq_describeWithin]
  exact (walker_similar extractor.program extractor.settings).describe (.type type) (.root owner)

/-- So is the type of one member. -/
theorem namedType_related (member : Member) :
    (counting 0).Related (extractor.namedType group member)
      (extractor.namedTypeAlone group member) := by
  unfold namedType namedTypeAlone
  cases member.type? with
  | some type =>
    exact (counting 0).bind (describeRoot_related extractor type member.name) fun _ =>
      (counting 0).pure _
  | none => exact (counting 0).throw _

/-- Notes are not kept here, so noting what is left out changes nothing. -/
theorem noteNovelty_related (type : Shape) (novelty : Group.Novelty) :
    (counting 0).Related (noteNovelty group type novelty) (pure ()) := by
  cases novelty with
  | new => exact (counting 0).pure ()
  | repeated => exact (counting 0).note _
  | conflicting => exact (counting 0).note _

/-- And so are the types of a group, one after another. -/
theorem namedTypes_related (members : List Member) :
    (counting 0).Related (extractor.namedTypes group members)
      (extractor.namedTypesAlone group members) := by
  let S := counting 0
  have hstep (types : List Shape) (type : Shape) :
      S.Related (do noteNovelty group type (Group.novelty types type)
                    return Group.addUnique types type)
        (pure (Group.addUnique types type)) :=
    S.bind (noteNovelty_related group type _) fun _ => S.pure _
  have hloop := S.foldlM members ([] : List Shape) fun types member _ =>
    S.bind (namedType_related extractor group member) (hstep types)
  -- The number of types is noted in the end, which says nothing here.
  have hnoted (types : List Shape) :
      S.Related (do note (.groupExtracted group.key types.length)
                    return types) (pure types) :=
    S.bind (S.note _) fun _ => S.pure types
  have hwhole := S.bind hloop hnoted
  rw [bind_pure] at hwhole
  exact hwhole

/-! ### The models -/

/-- The models are extracted if the group is there and all of its members are
described. -/
theorem models_eq_ok {extractor : Extractor} {models : List Shape} :
    (extractor.models : Attempt _) = .ok models ↔
      ∃ type members, Group.models.find extractor.options = .ok (some (type, members)) ∧
        extractor.namedTypesAlone .models members = .ok models := by
  unfold Extractor.models Extractor.group
  cases Group.models.find extractor.options with
  | error e => simp [MonadExcept.ofExcept, Attempt.bind_eq_ok]
  | ok found =>
    cases found with
    | none => simp [MonadExcept.ofExcept]
    | some found =>
      obtain ⟨type, members⟩ := found
      have hfresh : fresh (extractor.namedTypes .models members) =
          extractor.namedTypesAlone .models members :=
        fresh_eq (namedTypes_related extractor .models members)
      simp [MonadExcept.ofExcept, hfresh]

/-- One model: the type that it is called by is that of its description, or
else the key. -/
theorem namedTypesAlone_single {extractor : Extractor} {group : Group} {member : Member}
    {types : List Shape} (h : extractor.namedTypesAlone group [member] = .ok types) :
    ∃ type s entry, member.type? = some type ∧
      (Expansion.describe extractor.program extractor.settings (.type type) (.root member.name) :
        Attempt Shape) = .ok s ∧
      types = [entry] ∧ entry.typeName = some (s.typeName.getD member.name) ∧
      entry.modelName = s.modelName := by
  simp only [namedTypesAlone, List.foldlM_cons, List.foldlM_nil, Attempt.bind_eq_ok,
    Attempt.pure_eq_ok] at h
  obtain ⟨collected, ⟨entry, hentry, rfl⟩, rfl⟩ := h
  unfold namedTypeAlone at hentry
  cases htype : member.type? with
  | none => simp [htype] at hentry
  | some type =>
    rw [htype] at hentry
    obtain ⟨s, hs, hentry⟩ := Attempt.bind_eq_ok.mp hentry
    rw [Attempt.pure_eq_ok] at hentry
    refine ⟨type, s, entry, rfl, hs, by simp [Group.addUnique, Group.novelty], ?_, ?_⟩
    · rw [hentry]
      cases s.typeName <;> rfl
    · rw [hentry]

end AppMetadata.Extractor
