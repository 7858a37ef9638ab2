import AppMetadata.Text.Words

/-!
# `AppMetadata.Naming`: property paths and the names made from them

A property path is a dotted text such as `User.posts`. Types written in
place have no name of their own; theirs is a function of the path at which
they stand, so the same source always gives the same names.

The main statements are the laws of `joinPath`: the empty path is neutral on
both sides (`joinPath_empty_left`, `joinPath_empty_right`) and joining is
associative (`joinPath_assoc`).
-/

set_option autoImplicit false

namespace AppMetadata

/-- The path of `segment` below `parent`. The empty path is neutral. -/
def joinPath (parent segment : String) : String :=
  if parent.isEmpty then segment
  else if segment.isEmpty then parent
  else parent ++ "." ++ segment

/-- Below the empty path a segment is the path. -/
theorem joinPath_empty_left (path : String) : joinPath "" path = path := by
  rw [joinPath, if_pos (by decide)]

/-- The empty segment leaves a path as it is. -/
theorem joinPath_empty_right (path : String) : joinPath path "" = path := by
  unfold joinPath
  split
  · next h => exact (String.isEmpty_iff.mp h).symm
  · rfl

/-- Otherwise there is a dot between the two. -/
theorem joinPath_of_ne_empty {parent segment : String} (hparent : parent ≠ "")
    (hsegment : segment ≠ "") : joinPath parent segment = parent ++ "." ++ segment := by
  rw [joinPath, if_neg (by simp [String.isEmpty_iff, hparent]),
    if_neg (by simp [String.isEmpty_iff, hsegment])]

/-- What is below a path is no empty path. -/
theorem joinPath_ne_empty {parent : String} (h : parent ≠ "") (segment : String) :
    joinPath parent segment ≠ "" := by
  unfold joinPath
  split
  · next hempty => exact absurd (String.isEmpty_iff.mp hempty) h
  · split
    · exact h
    · -- A joined path is longer than the dot in it.
      intro hjoined
      have hlength := congrArg String.length hjoined
      simp [String.length_append] at hlength

/-- Joining is associative. -/
theorem joinPath_assoc (a b c : String) :
    joinPath (joinPath a b) c = joinPath a (joinPath b c) := by
  by_cases ha : a = ""
  · rw [ha, joinPath_empty_left, joinPath_empty_left]
  by_cases hc : c = ""
  · rw [hc, joinPath_empty_right, joinPath_empty_right]
  by_cases hb : b = ""
  · rw [hb, joinPath_empty_right, joinPath_empty_left]
  rw [joinPath_of_ne_empty (joinPath_ne_empty ha b) hc, joinPath_of_ne_empty ha hb,
    joinPath_of_ne_empty ha (joinPath_ne_empty hb c), joinPath_of_ne_empty hb hc]
  simp only [String.append_assoc]

/-- The segments of a path in upper camel case, joined (`User.status`
becomes `UserStatus`). -/
def baseName (path : String) : String :=
  String.ofList ((Text.splitWhere (· == '.') path.toList).flatMap Text.upperCamel)

/-- The base name of `path` followed by `suffix`; none if the base name is
empty. -/
def syntheticName? (suffix path : String) : Option String :=
  if (baseName path).isEmpty then none else some (baseName path ++ suffix)

/-- The name of an enum made from string literals (`User.status` gives
`UserStatusEnum`). -/
def enumName? (path : String) : Option String :=
  syntheticName? "Enum" path

/-- The name of a union of other types (`Post.attachment` gives
`PostAttachmentUnion`). -/
def unionName? (path : String) : Option String :=
  syntheticName? "Union" path

end AppMetadata
