import AppMetadata.Proofs.Merging
import AppMetadata.Proofs.Program.Declared
import AppMetadata.TypeScript

/-!
# `AppMetadata.Proofs.TypeScript.Answers`: what the readers of statements answer

`Parser.Ensures` states that whatever a parser reads, its answer has some
property. A sequence of parsers ensures what its last part ensures, so a
statement about one kind of node needs only the parsers that make such nodes.

* `Parser.Ensures.bind` to `Parser.Ensures.separated`: the rules.
* `identifier_ne_empty`: no name is empty, since no token is an empty word.
* `statements?_written`: what a source declares has a name, and an enum in it
  has members of an enum and no others.
-/

set_option autoImplicit false

namespace AppMetadata

/-- A declaration as it can be written: it has a name, and its enums are
pure. -/
structure Declaration.Written (declaration : Declaration) : Prop where
  named : declaration.name ≠ ""
  enumPure : declaration.EnumPure

/-- What a statement declares can be written so. -/
def Statement.Written (statement : Statement) : Prop :=
  ∀ declaration ∈ statement.declaration?, declaration.Written

namespace TypeScript.Parser

variable {α β : Type} {P : α → Prop} {Q : β → Prop}

/-- Every answer of the parser has the property. -/
def Ensures (parser : Parser α) (P : α → Prop) : Prop :=
  ∀ setting cursor answer rest, (parser.run setting).run cursor = some (answer, rest) → P answer

namespace Ensures

/-- What is returned at once is ensured if it holds. -/
theorem pure {a : α} (h : P a) : Ensures (Pure.pure a) P := by
  intro setting cursor answer rest hrun
  cases hrun
  exact h

/-- A parser that fails answers nothing, so it ensures anything. -/
theorem failure : Ensures (Alternative.failure : Parser α) P :=
  fun _ _ _ _ hrun => nomatch hrun

/-- What follows from an ensured property is ensured. -/
theorem mono {parser : Parser α} {R : α → Prop} (h : Ensures parser R) (hmono : ∀ a, R a → P a) :
    Ensures parser P :=
  fun setting cursor answer rest hrun => hmono answer (h setting cursor answer rest hrun)

/-- Every parser ensures what holds of all answers. -/
theorem any {parser : Parser α} : Ensures parser fun _ => True :=
  fun _ _ _ _ _ => trivial

/-- The second parser may rely on what the first one ensures. -/
theorem bind {parser : Parser β} {next : β → Parser α} (hparser : Ensures parser Q)
    (hnext : ∀ b, Q b → Ensures (next b) P) : Ensures (parser >>= next) P := by
  intro setting cursor answer rest hrun
  obtain ⟨⟨b, middle⟩, hb, hrun⟩ := Option.bind_eq_some_iff.mp hrun
  exact hnext b (hparser setting cursor b middle hb) setting middle answer rest hrun

/-- What comes first need not matter. -/
theorem andThen {parser : Parser β} {next : β → Parser α} (hnext : ∀ b, Ensures (next b) P) :
    Ensures (parser >>= next) P :=
  bind any fun b _ => hnext b

/-- An answer that is changed keeps what its image has. -/
theorem map {parser : Parser β} {f : β → α} (hparser : Ensures parser Q)
    (hf : ∀ b, Q b → P (f b)) : Ensures (f <$> parser) P := by
  rw [map_eq_pure_bind]
  exact hparser.bind fun b hb => pure (hf b hb)

/-- Other settings change which answers a parser gives, but not what holds of
each. -/
theorem under {parser : Parser α} (change : Setting → Setting) (h : Ensures parser P) :
    Ensures (Parser.under change parser) P :=
  fun setting => h (change setting)

/-- A step that is repeated answers a list, and each entry is the answer of one
step. -/
theorem repeatUpTo {step : Parser (Option α)} (h : Ensures step fun answer => ∀ a ∈ answer, P a)
    (count : Nat) : Ensures (Parser.repeatUpTo step count) fun answers => ∀ a ∈ answers, P a := by
  induction count with
  | zero => exact failure
  | succ count ih =>
    refine h.bind fun answer hanswer => ?_
    cases answer with
    | none => exact pure (by simp)
    | some a =>
      refine ih.bind fun others hothers => ?_
      exact pure (List.forall_mem_cons.mpr ⟨hanswer a rfl, hothers⟩)

/-- The same without a bound of its own. -/
theorem many {step : Parser (Option α)} (h : Ensures step fun answer => ∀ a ∈ answer, P a) :
    Ensures (Parser.many step) fun answers => ∀ a ∈ answers, P a :=
  andThen fun count => repeatUpTo h count

/-- Items with commas between them are answers for one item each. -/
theorem separated {item : Parser α} (h : Ensures item P) (close : String) (trailing : Bool) :
    Ensures (Parser.separated item close trailing) fun answers => ∀ a ∈ answers, P a := by
  have hsome : Ensures (some <$> item) fun answer => ∀ a ∈ answer, P a :=
    h.map fun b hb a ha => Option.some.inj ha ▸ hb
  have hnone : Ensures (Pure.pure none : Parser (Option α)) fun answer => ∀ a ∈ answer, P a :=
    pure (by simp)
  refine andThen fun closed => ?_
  split
  · exact pure (by simp)
  · refine h.bind fun first hfirst => (many (P := P) ?_).bind fun others hothers => ?_
    · -- Another item is read last, wherever the list may be closed before it.
      refine andThen fun closed => ?_
      split
      · exact hnone
      · refine andThen fun _ => ?_
        split
        · refine andThen fun closed => ?_
          split
          · exact hnone
          · exact hsome
        · exact hsome
    · exact pure (List.forall_mem_cons.mpr ⟨hfirst, hothers⟩)

end Ensures

end TypeScript.Parser

namespace TypeScript

open TypeScript.Parser (Ensures statementEnd)

variable (g : Grammar)

/-! ### Names -/

/-- No token is a name without letters. -/
theorem kind_named : Ensures Parser.kind fun kind => kind.name? ≠ some "" := by
  intro setting cursor answer rest hrun
  cases hrun
  exact cursor.scan.token.named

/-- An identifier is among the names, of which some words are reserved. -/
theorem name?_of_identifier? {kind : TokenKind} {name : String}
    (h : kind.identifier? = some name) : kind.name? = some name := by
  unfold TokenKind.identifier? at h
  split at h
  · next written =>
    split at h
    · simp at h
    · exact h
  · exact h
  · simp at h

/-- So an identifier that was read is not empty. -/
theorem identifier_ne_empty : Ensures Parser.identifier (· ≠ "") := by
  refine kind_named.bind fun kind hkind => ?_
  split
  · next name hname =>
    refine .andThen fun _ => .pure ?_
    rintro rfl
    exact hkind (name?_of_identifier? hname)
  · exact .failure

/-! ### Declarations -/

/-- A declaration is made of the name and the form that were read before. -/
theorem declarationAt_eq (name : String) (form : DeclarationForm) (doc : Doc) (start : Nat)
    (isGeneric : Bool) :
    Ensures (declarationAt name form doc start isGeneric) fun declaration =>
      declaration.name = name ∧ declaration.form = form :=
  .andThen fun _ => .andThen fun _ => .pure ⟨rfl, rfl⟩

/-- Whatever else is declared has no members of an enum. -/
theorem declarationAt_written {name : String} {form : DeclarationForm} (doc : Doc) (start : Nat)
    (isGeneric : Bool) (hname : name ≠ "") (hform : ∀ members, form ≠ .enum members) :
    Ensures (declarationAt name form doc start isGeneric) Declaration.Written :=
  (declarationAt_eq name form doc start isGeneric).mono fun _ ⟨hdeclared, hdeclaration⟩ =>
    { named := hdeclared ▸ hname
      enumPure := fun members hmembers =>
        absurd (hdeclaration.symm.trans hmembers) (hform members) }

/-- A member in the braces of an enum is an enum member, with or without a
value. -/
theorem enumMember_form :
    Ensures (enumMember g) fun member => ∃ value, member.form = .enumMember value := by
  unfold enumMember
  refine .andThen fun _ => .andThen fun _ => .andThen fun _ => .andThen fun _ => ?_
  refine .andThen fun _ => ?_
  dsimp only
  split
  · refine .andThen fun value => ?_
    split
    · refine .andThen fun _ => .andThen fun _ => ?_
      exact .pure ⟨_, rfl⟩
    · refine .andThen fun _ => .andThen fun _ => .andThen fun _ => ?_
      exact .pure ⟨_, rfl⟩
  · refine .andThen fun _ => .andThen fun _ => ?_
    exact .pure ⟨_, rfl⟩

/-- An enum has a name, and none but enum members. -/
theorem enumDeclaration_written (doc : Doc) (start : Nat) :
    Ensures (enumDeclaration g doc start) Declaration.Written := by
  unfold enumDeclaration
  refine .andThen fun _ => .andThen fun _ => identifier_ne_empty.bind fun name hname => ?_
  refine .andThen fun _ => ?_
  refine (Ensures.separated (enumMember_form g) _ _).bind fun members hmembers => ?_
  refine (declarationAt_eq name (.enum members) doc start false).mono ?_
  intro declaration ⟨hdeclared, hdeclaration⟩
  refine ⟨hdeclared ▸ hname, fun others hothers => ?_⟩
  cases hdeclaration.symm.trans hothers
  exact hmembers

/-- An alias has a name. It is no enum, so nothing is asked of its target. -/
theorem aliasDeclaration_written (doc : Doc) (start : Nat) :
    Ensures (aliasDeclaration g doc start) Declaration.Written := by
  have hlast {name : String} (hname : name ≠ "") (isGeneric : Bool) (target : TypeNode) :
      Ensures (do statementEnd; declarationAt name (.typeAlias target) doc start isGeneric)
        Declaration.Written :=
    .andThen fun _ => declarationAt_written doc start isGeneric hname nofun
  unfold aliasDeclaration
  refine .andThen fun _ => identifier_ne_empty.bind fun name hname => ?_
  refine .andThen fun isGeneric => .andThen fun _ => .andThen fun _ => .andThen fun _ => ?_
  dsimp only
  split
  · exact .andThen fun _ => .andThen fun _ => .andThen fun target => hlast hname isGeneric target
  · exact .andThen fun target => hlast hname isGeneric target

/-- An interface has a name. -/
theorem interfaceDeclaration_written (doc : Doc) (start : Nat) :
    Ensures (interfaceDeclaration g doc start) Declaration.Written := by
  have hlast {name : String} (hname : name ≠ "") (isGeneric : Bool) (heritage : List TypeNode) :
      Ensures (do
        let members ← typeMembers g
        declarationAt name (.interface heritage members) doc start isGeneric)
        Declaration.Written :=
    .andThen fun _ => declarationAt_written doc start isGeneric hname nofun
  unfold interfaceDeclaration
  refine .andThen fun _ => identifier_ne_empty.bind fun name hname => ?_
  refine .andThen fun isGeneric => .andThen fun _ => ?_
  dsimp only
  split
  · exact .andThen fun _ => .andThen fun _ => .andThen fun heritage => hlast hname isGeneric heritage
  · exact .andThen fun heritage => hlast hname isGeneric heritage

/-- A class that has a name has one with letters. -/
theorem classParts_named :
    Ensures (classParts g) fun parts => ∀ name ∈ parts.name, name ≠ "" := by
  have hlast {name : Option String} (hname : ∀ n ∈ name, n ≠ "") :
      Ensures (do
        let isGeneric ← typeParameters g
        let heritage ← classHeritage g
        implemented g
        let members ← classBody g
        return ({ name, isGeneric, heritage, members } : ClassParts))
        fun parts => ∀ name ∈ parts.name, name ≠ "" :=
    .andThen fun _ => .andThen fun _ => .andThen fun _ => .andThen fun _ => .pure hname
  unfold classParts
  refine .andThen fun _ => .andThen fun named => ?_
  dsimp only
  split
  · have hsome : Ensures (some <$> Parser.identifier) fun name => ∀ n ∈ name, n ≠ "" :=
      identifier_ne_empty.map fun name hname other hother => Option.some.inj hother ▸ hname
    exact hsome.bind fun name hname => hlast hname
  · exact hlast nofun

/-- A class without a name is no declaration. -/
theorem classDeclaration_written (doc : Doc) (start : Nat) :
    Ensures (classDeclaration g doc start) fun answer =>
      ∀ declaration ∈ answer, declaration.Written := by
  unfold classDeclaration
  refine .andThen fun _ => (classParts_named g).bind fun parts hparts => ?_
  split
  · next name hname =>
    have hclass : Ensures (declarationAt name (.classType parts.heritage parts.members) doc start
        parts.isGeneric) Declaration.Written :=
      declarationAt_written doc start parts.isGeneric (hparts name hname) nofun
    exact hclass.map fun declaration hdeclaration other hother =>
      Option.some.inj hother ▸ hdeclaration
  · exact .pure (by simp)

/-- What is declared, if it is a type. -/
def Declared.Written : Declared → Prop
  | .type declaration => declaration.Written
  | _ => True

/-- The declarations that may stand after `export`, in the order in which they
are tried. -/
theorem plainDeclaration_written (doc : Doc) (start : Nat) :
    Ensures (plainDeclaration g doc start) Declared.Written := by
  have htype {parser : Parser Declaration} (h : Ensures parser Declaration.Written) :
      Ensures (.type <$> parser) Declared.Written :=
    h.map fun _ hdeclaration => hdeclaration
  unfold plainDeclaration
  -- By the word that comes first: a class, a function, an interface, an alias, an
  -- enum, a namespace, and last what starts with `const` or declares variables.
  refine .andThen fun _ => .andThen fun kind => ?_
  split
  case h_1 | h_2 =>
    refine (classDeclaration_written g doc start).bind fun answer hanswer => ?_
    split
    · next declaration => exact .pure (hanswer declaration rfl)
    · exact .pure trivial
  case h_3 | h_4 =>
    refine .andThen fun answer => ?_
    split
    · exact .pure trivial
    · exact .failure
  case h_5 => exact htype (interfaceDeclaration_written g doc start)
  case h_6 => exact htype (aliasDeclaration_written g doc start)
  case h_7 => exact .andThen fun _ => htype (enumDeclaration_written g doc start)
  case h_8 | h_9 | h_10 => exact .andThen fun _ => .pure trivial
  case h_11 =>
    refine .andThen fun _ => .andThen fun _ => ?_
    split
    · exact .andThen fun _ => htype (enumDeclaration_written g doc start)
    · exact Ensures.map .any fun _ _ => trivial

/-- The same where `declare` may stand in front. -/
theorem declaration_written : Ensures (declaration g) Declared.Written := by
  unfold declaration
  refine .andThen fun token => .andThen fun doc => .andThen fun declared => ?_
  split
  · exact (plainDeclaration_written g doc token.start).under _
  · exact plainDeclaration_written g doc token.start

/-! ### Statements -/

/-- What is exported where it is declared. -/
theorem exportedDeclaration_written (exportDoc : Doc) (exportStart : Nat) :
    Ensures (exportedDeclaration g exportDoc exportStart) Statement.Written := by
  unfold exportedDeclaration
  refine .andThen fun _ => .andThen fun _ => (declaration_written g).bind fun answer hanswer => ?_
  split
  · next declaration =>
    refine .pure ?_
    rintro exported ⟨⟩
    exact ⟨hanswer.named, hanswer.enumPure⟩
  · exact .pure nofun
  · exact .pure nofun
  · exact .pure nofun
  · exact .andThen fun _ => .pure nofun

/-- An import declares nothing. -/
theorem importStatement_written : Ensures importStatement Statement.Written := by
  unfold importStatement
  refine .andThen fun _ => .andThen fun _ => ?_
  split
  · exact .andThen fun _ => .pure nofun
  · refine .andThen fun _ => .andThen fun _ => .andThen fun _ => ?_
    dsimp only
    split
    · exact .andThen fun _ => .andThen fun _ => .andThen fun _ => .pure nofun
    · exact .andThen fun _ => .andThen fun _ => .andThen fun _ => .pure nofun

/-- Neither does a list of exported names. -/
theorem exportClause_written (typeOnly : Bool) :
    Ensures (exportClause typeOnly) Statement.Written := by
  unfold exportClause
  refine .andThen fun _ => .andThen fun _ => ?_
  split
  · exact .andThen fun _ => .pure nofun
  · exact .andThen fun _ => .andThen fun _ => .pure nofun

/-- Nor does `export *`. -/
theorem exportAll_written (typeOnly : Bool) : Ensures (exportAll typeOnly) Statement.Written := by
  unfold exportAll
  refine .andThen fun _ => .andThen fun _ => ?_
  dsimp only
  -- With or without a name, the rest is the same.
  split
  all_goals
    refine .andThen fun name => .andThen fun _ => .andThen fun _ => ?_
    split <;> exact .pure nofun

/-- All forms of exports. -/
theorem exportStatement_written : Ensures (exportStatement g) Statement.Written := by
  unfold exportStatement
  refine .andThen fun token => .andThen fun doc => .andThen fun _ => .andThen fun _ => ?_
  split
  · exact exportClause_written false
  · exact exportAll_written false
  · -- `export =`
    refine .andThen fun _ => .andThen fun _ => .andThen fun _ => .andThen fun _ => ?_
    exact .andThen fun _ => .pure nofun
  · -- `export default`
    exact .andThen fun _ => .andThen fun _ => .pure nofun
  · -- `export as namespace`
    refine .andThen fun _ => .andThen fun _ => .andThen fun _ => .andThen fun _ => ?_
    exact .andThen fun _ => .pure nofun
  · -- `export import`
    refine .andThen fun _ => .andThen fun _ => .andThen fun _ => .andThen fun _ => ?_
    refine .andThen fun _ => .andThen fun _ => .andThen fun _ => ?_
    exact .andThen fun _ => .pure nofun
  · refine .andThen fun _ => .andThen fun _ => ?_
    split
    · refine .andThen fun _ => .andThen fun _ => .andThen fun _ => ?_
      split
      · exact exportAll_written true
      · exact exportClause_written true
    · exact .andThen fun _ => .andThen fun _ => exportedDeclaration_written g doc token.start

/-- Each statement of a file: an import, an export, a declaration, or one of
the others, which declare nothing. -/
theorem topStatement_written : Ensures (topStatement g) Statement.Written := by
  unfold topStatement
  refine .andThen fun _ => ?_
  split
  · exact importStatement_written
  · refine .andThen fun _ => ?_
    split
    · exact exportStatement_written g
    · refine .andThen fun _ => ?_
      split
      · exact .andThen fun _ => exportStatement_written g
      · refine .andThen fun _ => ?_
        split
        · refine (declaration_written g).bind fun answer hanswer => ?_
          split
          · refine .pure ?_
            rintro declared ⟨⟩
            exact hanswer
          · exact .pure nofun
        · exact .andThen fun _ => .pure nofun

/-- So it holds of all statements of a text. -/
theorem wholeText_written :
    Ensures (wholeText g) fun statements => ∀ statement ∈ statements, statement.Written := by
  refine Ensures.many (.andThen fun ended => ?_)
  split
  · exact .pure (by simp)
  · exact (topStatement_written g).map fun statement hstatement answer hanswer =>
      Option.some.inj hanswer ▸ hstatement

/-- What a source text declares has a name, and its enums have members of an
enum and no others. -/
theorem statements?_written {path : Path} {scope : ModuleId} {source : String}
    {statements : List Statement} (h : statements? path scope source = some statements) :
    ∀ statement ∈ statements, statement.Written := by
  obtain ⟨scan, -, h⟩ := Option.bind_eq_some_iff.mp h
  obtain ⟨⟨answer, rest⟩, hrun, h⟩ := Option.bind_eq_some_iff.mp h
  cases h
  exact wholeText_written _ _ _ _ _ hrun

end TypeScript

end AppMetadata
