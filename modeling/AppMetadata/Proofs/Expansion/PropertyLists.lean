import AppMetadata.Proofs.Expansion.Inversion

/-!
# `AppMetadata.Proofs.Expansion.PropertyLists`: what becomes of a list of properties

Two loops change a list of properties one entry at a time. The members of an
interface or class take the place of inherited properties (`override`), and
the arguments of a model are put to its properties (`spliceArg`). Names may
be repeated on both sides, so an entry can meet what an earlier one has left.
Here each loop is brought to a form without steps.

* `foldl_override_eq`: inherited properties of other names, and then the last
  member of each name.
* `foldlM_spliceArg_eq`: the first property of a name gets the last argument
  of the name, and the first argument without a property is an error.
-/

set_option autoImplicit false

namespace AppMetadata.Expansion

/-- The last of `shapes` called `name`. -/
def lastNamed? (name : String) (shapes : List Shape) : Option Shape :=
  (shapes.filter (·.propertyName == name)).getLast?

/-- From the front: a later shape of that name counts first. -/
theorem lastNamed?_cons (name : String) (shape : Shape) (later : List Shape) :
    lastNamed? name (shape :: later) =
      (lastNamed? name later).or (if shape.propertyName = name then some shape else none) := by
  unfold lastNamed?
  rw [List.filter_cons]
  by_cases hname : shape.propertyName = name
  · simp [hname, List.getLast?_cons, Option.or_some]
  · simp [hname]

/-- There is a last shape of a name exactly if there is one at all. -/
theorem lastNamed?_ne_none {name : String} {shapes : List Shape} :
    lastNamed? name shapes ≠ none ↔ name ∈ shapes.map (·.propertyName) := by
  simp [lastNamed?]

/-- From the end: the shape that is put there is the last of its name. -/
theorem lastNamed?_concat (name : String) (shapes : List Shape) (shape : Shape) :
    lastNamed? name (shapes ++ [shape]) =
      if shape.propertyName = name then some shape else lastNamed? name shapes := by
  unfold lastNamed?
  rw [List.filter_append]
  split <;> simp [*]

/-! ### Own properties and inherited ones -/

/-- The last of `shapes` of each name, in order. -/
def lastOfEach : List Shape → List Shape
  | [] => []
  | shape :: later =>
    if shape.propertyName ∈ later.map (·.propertyName) then lastOfEach later
    else shape :: lastOfEach later

/-- What is left keeps its order. -/
theorem lastOfEach_sublist (shapes : List Shape) : (lastOfEach shapes).Sublist shapes := by
  induction shapes with
  | nil => exact .slnil
  | cons shape later ih =>
    unfold lastOfEach
    split
    · exact ih.cons shape
    · exact ih.cons_cons shape

/-- What is kept of a name is the last of it. -/
theorem filter_lastOfEach (shapes : List Shape) (name : String) :
    (lastOfEach shapes).filter (·.propertyName == name) = (lastNamed? name shapes).toList := by
  induction shapes with
  | nil => rfl
  | cons shape later ih =>
    rw [lastOfEach, lastNamed?_cons]
    by_cases hname : shape.propertyName = name
    · subst hname
      split
      · next hlater =>
        -- There is a later one of the name, so the last one is among these.
        obtain ⟨last, hlast⟩ := Option.ne_none_iff_exists'.mp (lastNamed?_ne_none.mpr hlater)
        rw [ih, hlast, Option.some_or]
      · next hlater =>
        have hnone := not_ne_iff.mp (mt lastNamed?_ne_none.mp hlater)
        rw [List.filter_cons, if_pos (beq_self_eq_true _), ih, hnone, if_pos rfl]
        rfl
    · rw [if_neg hname, Option.or_none, ← ih]
      split
      · rfl
      · rw [List.filter_cons, if_neg (by simpa using hname)]

/-- Different names are all kept. -/
theorem lastOfEach_of_nodup {shapes : List Shape}
    (hdistinct : (shapes.map (·.propertyName)).Nodup) : lastOfEach shapes = shapes := by
  induction shapes with
  | nil => rfl
  | cons shape later ih =>
    obtain ⟨hshape, hlater⟩ := List.nodup_cons.mp hdistinct
    rw [lastOfEach, if_neg hshape, ih hlater]

/-- The properties that have none of the names of `own`. -/
def without (own properties : List Shape) : List Shape :=
  properties.filter fun property => decide (property.propertyName ∉ own.map (·.propertyName))

/-- A property that is overridden goes, and of the own ones of a name each but
the last goes again. -/
theorem foldl_override_eq (own inherited : List Shape) :
    own.foldl override inherited = without own inherited ++ lastOfEach own := by
  -- The state of the loop takes the place of `inherited`, so that the own properties
  -- that are already in it are overridden as inherited ones are.
  induction own generalizing inherited with
  | nil => simp [without, lastOfEach]
  | cons shape later ih =>
    have hrest : without later (override inherited shape) =
        without (shape :: later) inherited ++ without later [shape] := by
      unfold without override
      rw [List.filter_append, List.filter_filter]
      congr 2
      funext property
      by_cases hname : property.propertyName = shape.propertyName <;> simp [hname]
    -- The first own property stays exactly if no later one has its name.
    have hlast : without later [shape] ++ lastOfEach later = lastOfEach (shape :: later) := by
      rw [lastOfEach, without]
      split <;> simp_all
    rw [List.foldl_cons, ih, hrest, List.append_assoc, hlast]

/-- Nothing is put in the place of a property that has another name. -/
theorem foldl_override_eq_append {own properties : List Shape}
    (hdistinct : (own.map (·.propertyName)).Nodup)
    (hnew : ∀ property ∈ properties, property.propertyName ∉ own.map (·.propertyName)) :
    own.foldl override properties = properties ++ own := by
  have hkept : without own properties = properties :=
    List.filter_eq_self.mpr fun property hproperty => decide_eq_true (hnew property hproperty)
  rw [foldl_override_eq, hkept, lastOfEach_of_nodup hdistinct]

/-- Own properties have the names of the members. -/
theorem names_of_describeMembers {w : Walker Attempt} {members : List Member} {ctx : Context}
    {shapes : List Shape} (h : w.describeMembers members ctx = .ok shapes) :
    shapes.map (·.propertyName) = members.map (·.name) := by
  have hall := Walker.describeMembers_eq_ok.mp h
  clear h
  induction hall with
  | nil => rfl
  | cons hmember _ ih =>
    obtain ⟨type, -, rfl⟩ := Walker.describeMember_eq_ok.mp hmember
    rw [List.map_cons, List.map_cons, ih]
    rfl

/-! ### Arguments for the properties of a model -/

/-- Whether the property at `index` is the first of its name. -/
def IsFirst (properties : List Shape) (index : Nat) (property : Shape) : Prop :=
  property.propertyName ∉ (properties.take index).map (·.propertyName)

instance (properties : List Shape) (index : Nat) (property : Shape) :
    Decidable (IsFirst properties index property) :=
  inferInstanceAs (Decidable (_ ∉ _))

/-- Nothing stands before the first position. -/
@[simp] theorem isFirst_zero {properties : List Shape} {property : Shape} :
    IsFirst properties 0 property :=
  List.not_mem_nil

/-- At a later position, the property in front has to have another name. -/
theorem isFirst_cons_succ {first property : Shape} {rest : List Shape} {index : Nat} :
    IsFirst (first :: rest) (index + 1) property ↔
      property.propertyName ≠ first.propertyName ∧ IsFirst rest index property := by
  rw [IsFirst, List.take_succ_cons, List.map_cons, List.mem_cons, not_or, IsFirst]

/-- A property with the last of `arguments` that has its name, in place of the
arguments that it has. -/
def give (arguments : List Shape) (property : Shape) : Shape :=
  match lastNamed? property.propertyName arguments with
  | some argument => { property with args := [argument] }
  | none => property

/-- `properties`, of which the first of each name is given its argument. -/
def giveEach (arguments properties : List Shape) : List Shape :=
  properties.mapIdx fun index property =>
    if IsFirst properties index property then give arguments property else property

/-- A property keeps its name whatever it is given. -/
theorem propertyName_give (arguments : List Shape) (property : Shape) :
    (give arguments property).propertyName = property.propertyName := by
  unfold give
  split <;> rfl

/-- One argument more is given to the properties of its name. -/
theorem give_concat (arguments : List Shape) (argument property : Shape) :
    give (arguments ++ [argument]) property =
      if property.propertyName = argument.propertyName then
        { give arguments property with args := [argument] }
      else give arguments property := by
  by_cases hname : property.propertyName = argument.propertyName
  · rw [give, lastNamed?_concat, if_pos hname.symm, if_pos hname, give]
    -- An argument that was given before is replaced.
    cases lastNamed? property.propertyName arguments <;> rfl
  · rw [give, lastNamed?_concat, if_neg (Ne.symm hname), if_neg hname, give]

/-- So the list of names stays the same. -/
theorem names_giveEach (arguments properties : List Shape) :
    (giveEach arguments properties).map (·.propertyName) = properties.map (·.propertyName) := by
  refine List.ext_getElem? fun index => ?_
  simp only [giveEach, List.getElem?_map, List.getElem?_mapIdx, Option.map_map]
  refine congrFun (congrArg _ (funext fun property => ?_)) _
  show (if IsFirst properties index property then _ else _ : Shape).propertyName = _
  split
  · exact propertyName_give arguments property
  · rfl

/-- Only names say what is the first of a name. -/
theorem isFirst_congr {properties others : List Shape} {property other : Shape}
    (hnames : properties.map (·.propertyName) = others.map (·.propertyName))
    (hname : property.propertyName = other.propertyName) (index : Nat) :
    IsFirst properties index property ↔ IsFirst others index other := by
  unfold IsFirst
  rw [List.map_take, List.map_take, hnames, hname]

/-- The last shape of a name is one of the shapes, and has the name. -/
theorem lastNamed?_eq_some {name : String} {shapes : List Shape} {last : Shape}
    (h : lastNamed? name shapes = some last) : last ∈ shapes ∧ last.propertyName = name := by
  obtain ⟨hmem, hname⟩ := List.mem_filter.mp (List.mem_of_getLast? h)
  exact ⟨hmem, eq_of_beq hname⟩

/-- Each property is as it was, or has one of the arguments in place of those
that it had. -/
theorem forall₂_giveEach (arguments properties : List Shape) :
    List.Forall₂ (fun property given => given = property ∨
        ∃ argument ∈ arguments, argument.propertyName = property.propertyName ∧
          given = { property with args := [argument] })
      properties (giveEach arguments properties) := by
  refine List.forall₂_iff_get.mpr ⟨List.length_mapIdx.symm, fun index hindex _ => ?_⟩
  simp only [giveEach, List.get_eq_getElem, List.getElem_mapIdx]
  split
  · unfold give
    split
    · next argument hlast =>
      obtain ⟨hargument, hname⟩ := lastNamed?_eq_some hlast
      exact .inr ⟨argument, hargument, hname, rfl⟩
    · exact .inl rfl
  · exact .inl rfl

/-- Without arguments nothing is given. -/
theorem giveEach_nil (properties : List Shape) : giveEach [] properties = properties := by
  refine List.ext_getElem? fun index => ?_
  simp [giveEach, give, lastNamed?]

/-- The first property of a name is changed, if there is one. -/
theorem changeFirst?_eq (name : String) (change : Shape → Shape) (properties : List Shape) :
    changeFirst? name change properties =
      if name ∈ properties.map (·.propertyName) then
        some (properties.mapIdx fun index property =>
          if property.propertyName = name ∧ IsFirst properties index property then change property
          else property)
      else none := by
  induction properties with
  | nil => rfl
  | cons first rest ih =>
    rw [changeFirst?, List.mapIdx_cons]
    by_cases hname : first.propertyName = name
    · subst hname
      -- No later property is the first of the name.
      have hrest (index : Nat) (property : Shape) :
          ¬(property.propertyName = first.propertyName ∧
            IsFirst (first :: rest) (index + 1) property) :=
        fun h => (isFirst_cons_succ.mp h.2).1 h.1
      have hsame : rest.mapIdx (fun _ property => property) = rest :=
        List.ext_getElem? fun index => by simp
      simp [hrest, hsame]
    · -- The first property is another one, so it does not decide which is the first.
      have hrest (index : Nat) (property : Shape) :
          (property.propertyName = name ∧ IsFirst (first :: rest) (index + 1) property) ↔
            property.propertyName = name ∧ IsFirst rest index property := by
        rw [isFirst_cons_succ]
        exact ⟨fun h => ⟨h.1, h.2.2⟩, fun h => ⟨h.1, h.1 ▸ Ne.symm hname, h.2⟩⟩
      rw [if_neg hname, ih]
      simp only [hrest, List.map_cons, List.mem_cons, Ne.symm hname, hname, false_or, false_and,
        if_false]
      split <;> rfl

/-- One argument more changes the first property of its name. -/
theorem giveEach_concat (arguments properties : List Shape) (argument : Shape) :
    giveEach (arguments ++ [argument]) properties =
      (giveEach arguments properties).mapIdx fun index property =>
        if property.propertyName = argument.propertyName ∧
            IsFirst (giveEach arguments properties) index property then
          { property with args := [argument] }
        else property := by
  refine List.ext_getElem? fun index => ?_
  -- No name has changed so far, so what is first of its name is so still.
  have hfirst {property other : Shape} (hname : property.propertyName = other.propertyName) :
      IsFirst (giveEach arguments properties) index property ↔ IsFirst properties index other :=
    isFirst_congr (names_giveEach arguments properties) hname index
  rw [giveEach, List.getElem?_mapIdx, List.getElem?_mapIdx]
  conv_rhs => enter [2]; rw [giveEach, List.getElem?_mapIdx]
  rw [Option.map_map]
  refine congrFun (congrArg _ (funext fun property => ?_)) _
  by_cases hindex : IsFirst properties index property
  · simp [hindex, hfirst (propertyName_give arguments property), give_concat, propertyName_give]
  · simp [hindex, hfirst rfl]

/-- All arguments have a property: the first of a name gets the last argument
of the name. Else the first argument without one is the error. -/
theorem foldlM_spliceArg_eq (label : String) (arguments properties : List Shape) :
    (arguments.foldlM (spliceArg label) properties : Attempt (List Shape)) =
      match arguments.find? (·.propertyName ∉ properties.map (·.propertyName)) with
      | none => .ok (giveEach arguments properties)
      | some argument => .error (.unknownArgument label argument.propertyName) := by
  -- The loop, from the state in which the arguments `done` have been given.
  suffices h : ∀ done, (arguments.foldlM (spliceArg label) (giveEach done properties) :
      Attempt (List Shape)) =
        match arguments.find? (·.propertyName ∉ properties.map (·.propertyName)) with
        | none => .ok (giveEach (done ++ arguments) properties)
        | some argument => .error (.unknownArgument label argument.propertyName) by
    simpa only [giveEach_nil, List.nil_append] using h []
  induction arguments with
  | nil => intro done; rw [List.append_nil]; rfl
  | cons argument later ih =>
    intro done
    rw [List.foldlM_cons, spliceArg, changeFirst?_eq, names_giveEach, List.find?_cons]
    by_cases hname : argument.propertyName ∈ properties.map (·.propertyName)
    · have hlater := ih (done ++ [argument])
      rw [List.append_assoc, List.singleton_append] at hlater
      rw [if_pos hname, ← giveEach_concat, decide_eq_false (not_not.mpr hname)]
      exact hlater
    · rw [if_neg hname, decide_eq_true hname]
      rfl

/-- Arguments are put to properties exactly if each has one of its name. -/
theorem foldlM_spliceArg_eq_ok {label : String} {arguments properties spliced : List Shape} :
    (arguments.foldlM (spliceArg label) properties : Attempt (List Shape)) = .ok spliced ↔
      (∀ argument ∈ arguments, argument.propertyName ∈ properties.map (·.propertyName)) ∧
        spliced = giveEach arguments properties := by
  rw [foldlM_spliceArg_eq]
  split
  · next hnone =>
    have hnamed (argument : Shape) (hargument : argument ∈ arguments) :
        argument.propertyName ∈ properties.map (·.propertyName) := by
      simpa using List.find?_eq_none.mp hnone argument hargument
    exact ⟨fun h => ⟨hnamed, (Except.ok.inj h).symm⟩, fun h => congrArg Except.ok h.2.symm⟩
  · next argument hargument =>
    have hunknown : argument.propertyName ∉ properties.map (·.propertyName) := by
      simpa using List.find?_some hargument
    exact ⟨nofun, fun h => absurd (h.1 argument (List.mem_of_find?_eq_some hargument)) hunknown⟩

end AppMetadata.Expansion
