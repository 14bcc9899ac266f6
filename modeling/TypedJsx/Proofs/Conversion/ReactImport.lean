import TypedJsx.Proofs.Conversion.Prologue
import TypedJsx.Proofs.Extraction.Exact
import TypedJsx.Proofs.Scope.Annotation
/-!
The import of the framework that a conversion puts before a module. It is put there unless a statement of the
program imports from the framework, whatever the program declares under the name of the import. A value is
declared at the top of a program by a statement itself, exported or not, or by a `var` inside of a statement.
Extraction takes no such declaration out of the statements that it leaves, and annotation neither takes one
out nor adds one (`Node.topNames_withoutDeclarations`, `Node.topNames_annotate`).

Main statement: the import declares a name for the second time just if nothing is imported from the framework
and a statement that is left declares the name.
-/
namespace TypedJsx

/-! ## Names at the top of a program -/

/-- The names that are values. -/
def valuesOf (names : List Denoted) : List String := (names.filter fun d => d.1 == .value).map Prod.snd

/-- The values that a node declares by itself where it stands, from what its parts declare. -/
def Kind.ownValues (k : Kind) (parts : List Declared) : List String :=
  match k with
  | .variableDeclaration _ _ => parts.flatMap Declared.bound
  | .exportNamed _ | .exportDefault | .switchCase => []
  | k => valuesOf (k.listed parts)

/-- The names that a node declares as a `var`, from what its parts declare. -/
def Kind.ownVars (k : Kind) (parts : List Declared) : List String :=
  match k with
  | .variableDeclaration .varWord _ => parts.flatMap Declared.bound
  | _ => []

/-- Statements, and parts of them, that have statements inside. -/
def Kind.isCompound : Kind → Bool
  | .block | .ifStatement | .forStatement | .forIn | .forOf _ | .whileStatement | .doWhileStatement
  | .switchStatement | .switchCase | .labeled | .tryStatement | .catchClause | .withStatement
  | .exportNamed _ => true
  | _ => false

/-- Statements that export their first part, if that is a declaration. -/
def Kind.isExport : Kind → Bool
  | .exportNamed _ | .exportDefault => true
  | _ => false

mutual

/-- The names that are declared as a `var` in a statement. Expressions are not looked into, so the statements
that extraction takes out have none. -/
def Node.varNames : Node → List String
  | .mk k _ cs => k.ownVars (declaredList cs) ++ if k.isCompound then varNamesOfList cs else []

def varNamesOfList : List Node → List String
  | [] => []
  | c :: cs => c.varNames ++ varNamesOfList cs

end

/-- The declaration that a statement exports, or the statement itself. -/
def Node.declaration : Node → Node
  | .mk k s cs => if k.isExport then cs.headD .absent else .mk k s cs

/-- The values that a node declares by itself where it stands. -/
def Node.ownValues : Node → List String
  | .mk k _ cs => k.ownValues (declaredList cs)

/-- The values that a statement declares at the top of a program. -/
def Node.topNames (s : Node) : List String := s.declaration.ownValues ++ s.varNames

/-- A statement of a program declares a value at its top. -/
def Node.DeclaresAtTop (program : Node) (name : String) : Prop :=
  ∃ s ∈ program.children, name ∈ s.topNames

instance (program : Node) (name : String) : Decidable (program.DeclaresAtTop name) :=
  inferInstanceAs (Decidable (∃ s ∈ program.children, name ∈ s.topNames))

theorem varNamesOfList_eq_flatMap (cs : List Node) : varNamesOfList cs = cs.flatMap Node.varNames := by
  induction cs with
  | nil => rfl
  | cons c cs ih => rw [varNamesOfList, ih, List.flatMap_cons]

theorem Node.varNames_mk (k : Kind) (s : Span) (cs : List Node) : (Node.mk k s cs).varNames
    = k.ownVars (cs.map Node.declared) ++ if k.isCompound then cs.flatMap Node.varNames else [] := by
  rw [Node.varNames, declaredList_eq_map, varNamesOfList_eq_flatMap]

theorem Node.ownValues_mk (k : Kind) (s : Span) (cs : List Node) :
    (Node.mk k s cs).ownValues = k.ownValues (cs.map Node.declared) := by
  rw [Node.ownValues, declaredList_eq_map]

/-! ## What the names depend on -/

/-- Parts that bind the same names and have the same plain keys. -/
structure SameNames (parts parts' : List Declared) : Prop where
  bound : parts.map Declared.bound = parts'.map Declared.bound
  key : parts.map Declared.key = parts'.map Declared.key

theorem partAt_congr {f : Declared → List String} (none : f {} = []) {parts parts' : List Declared}
    (same : parts.map f = parts'.map f) (i : Nat) : f (partAt parts i) = f (partAt parts' i) := by
  have at_ : ∀ parts : List Declared, f (partAt parts i) = (parts.map f).getD i [] := by
    intro parts
    rw [partAt, List.getD_eq_getElem?_getD, List.getD_eq_getElem?_getD, List.getElem?_map]
    cases parts[i]? with
    | none => exact none
    | some d => rfl
  rw [at_, at_, same]

section
variable {parts parts' : List Declared} (h : SameNames parts parts')
include h

theorem SameNames.flatMap : parts.flatMap Declared.bound = parts'.flatMap Declared.bound := by
  rw [List.flatMap_def, h.bound, List.flatMap_def]

theorem SameNames.drop (i : Nat) : SameNames (parts.drop i) (parts'.drop i) := by
  refine ⟨?_, ?_⟩
  · rw [List.map_drop, h.bound, List.map_drop]
  · rw [List.map_drop, h.key, List.map_drop]

theorem SameNames.bound_at (i : Nat) : (partAt parts i).bound = (partAt parts' i).bound :=
  partAt_congr rfl h.bound i

theorem SameNames.key_at (i : Nat) : (partAt parts i).key = (partAt parts' i).key :=
  partAt_congr rfl h.key i

theorem SameNames.bound_eq (k : Kind) : k.bound parts = k.bound parts' := by
  unfold Kind.bound
  split <;> simp only [h.flatMap, h.bound_at, h.key_at]

theorem SameNames.ownVars_eq (k : Kind) : k.ownVars parts = k.ownVars parts' := by
  unfold Kind.ownVars
  split <;> simp only [h.flatMap]

theorem SameNames.ownValues_eq (k : Kind) : k.ownValues parts = k.ownValues parts' := by
  unfold Kind.ownValues
  split
  · exact h.flatMap
  · rfl
  · rfl
  · rfl
  · unfold Kind.listed
    split <;> simp_all [h.bound_at, (h.drop 2).flatMap]

end

/-! ## Extraction -/

theorem Kind.declares_nothing {k : Kind} (h : k.isStatementList = true) (parts : List Declared) :
    k.bound parts = [] ∧ k.ownValues parts = [] ∧ k.ownVars parts = [] := by
  cases k <;> simp_all [Kind.isStatementList, Kind.bound, Kind.ownValues, Kind.ownVars, Kind.listed, valuesOf]

theorem Kind.partsWithout_of_not_isStatementList {k : Kind} (h : k.isStatementList = false)
    (test : Node → Bool) (cs : List Node) : k.partsWithout test cs = cs := by
  rw [Kind.partsWithout, h, if_neg Bool.false_ne_true]

theorem sameNames_map {f : Node → Node} {cs : List Node}
    (h : ∀ c ∈ cs, (f c).declared.bound = c.declared.bound ∧ (f c).declared.key = c.declared.key) :
    SameNames ((cs.map f).map Node.declared) (cs.map Node.declared) := by
  refine ⟨?_, ?_⟩
  · simpa [List.map_map] using fun c hc => (h c hc).1
  · simpa [List.map_map] using fun c hc => (h c hc).2

theorem Node.declared_withoutDeclarations (n : Node) :
    n.withoutDeclarations.declared.bound = n.declared.bound
      ∧ n.withoutDeclarations.declared.key = n.declared.key := by
  induction n using Node.induction with
  | step k s cs ih =>
    rw [Node.withoutDeclarations_eq_map, Node.declared_mk, Node.declared_mk]
    refine ⟨?_, rfl⟩
    cases hk : k.isStatementList with
    | true => exact (Kind.declares_nothing hk _).1.trans (Kind.declares_nothing hk _).1.symm
    | false =>
      rw [Kind.partsWithout_of_not_isStatementList hk]
      exact (sameNames_map ih).bound_eq k

theorem Node.ownValues_withoutDeclarations (n : Node) :
    n.withoutDeclarations.ownValues = n.ownValues := by
  obtain ⟨k, s, cs⟩ := n
  rw [Node.withoutDeclarations_eq_map, Node.ownValues_mk, Node.ownValues_mk]
  cases hk : k.isStatementList with
  | true => exact (Kind.declares_nothing hk _).2.1.trans (Kind.declares_nothing hk _).2.1.symm
  | false =>
    rw [Kind.partsWithout_of_not_isStatementList hk]
    exact (sameNames_map fun c _ => c.declared_withoutDeclarations).ownValues_eq k

theorem Node.topNames_of_isPropAssignment {s : Node} (h : s.isPropAssignment = true) :
    s.topNames = [] ∧ s.varNames = [] := by
  obtain ⟨component, value, s, t, isOptional, u, v, ps, w, qs, rfl⟩ := Node.isPropAssignment_iff.mp h
  exact ⟨rfl, rfl⟩

theorem Kind.flatMap_partsWithout (k : Kind) {test : Node → Bool} {f : Node → List String}
    (none : ∀ c, test c = true → f c = []) (cs : List Node) :
    (k.partsWithout test cs).flatMap f = cs.flatMap f := by
  rw [Kind.partsWithout]
  split
  · induction cs with
    | nil => rfl
    | cons c cs ih =>
      rw [List.filter_cons, List.flatMap_cons, ← ih]
      cases ht : test c with
      | true => rw [none c ht]; rfl
      | false => rfl
  · rfl

theorem Node.varNames_withoutDeclarations (n : Node) : n.withoutDeclarations.varNames = n.varNames := by
  induction n using Node.induction with
  | step k s cs ih =>
    have own : k.ownVars (((k.partsWithout Node.isPropAssignment cs).map Node.withoutDeclarations).map
        Node.declared) = k.ownVars (cs.map Node.declared) := by
      cases hk : k.isStatementList with
      | true => exact (Kind.declares_nothing hk _).2.2.trans (Kind.declares_nothing hk _).2.2.symm
      | false =>
        rw [Kind.partsWithout_of_not_isStatementList hk]
        exact (sameNames_map fun c _ => c.declared_withoutDeclarations).ownVars_eq k
    have inner : ((k.partsWithout Node.isPropAssignment cs).map Node.withoutDeclarations).flatMap
        Node.varNames = cs.flatMap Node.varNames := by
      rw [List.flatMap_map, ← k.flatMap_partsWithout (fun c h => (c.topNames_of_isPropAssignment h).2) cs]
      exact List.flatMap_congr fun c hc => ih c (Kind.mem_partsWithout.mp hc).1
    rw [Node.withoutDeclarations_eq_map, Node.varNames_mk, Node.varNames_mk, own, inner]

theorem Node.declaration_withoutDeclarations (n : Node) :
    n.withoutDeclarations.declaration = n.declaration.withoutDeclarations := by
  obtain ⟨k, s, cs⟩ := n
  rw [Node.withoutDeclarations_eq_map, Node.declaration, Node.declaration]
  cases he : k.isExport with
  | true =>
    have plain : k.isStatementList = false := by
      cases k <;> simp_all [Kind.isExport, Kind.isStatementList]
    rw [Kind.partsWithout_of_not_isStatementList plain]
    cases cs <;> rfl
  | false => exact (Node.withoutDeclarations_eq_map k s cs).symm

/-- What is left of a statement declares the same values. -/
theorem Node.topNames_withoutDeclarations (s : Node) : s.withoutDeclarations.topNames = s.topNames := by
  rw [Node.topNames, Node.declaration_withoutDeclarations, Node.ownValues_withoutDeclarations,
    Node.varNames_withoutDeclarations, Node.topNames]

/-- The values that extraction leaves at the top of a program are those of the statements that do not load
the module of validators. -/
theorem Node.declaresAtTop_withoutProps {program : Node} {hashbang : Option String}
    (h : program.kind = .program hashbang) (name : String) : program.withoutProps.DeclaresAtTop name
      ↔ ∃ s ∈ program.children, s.isPropTypesBinding = false ∧ name ∈ s.topNames := by
  -- what extraction takes out of the program declares nothing, so a statement that does is left
  have declares : ∀ s : Node, name ∈ s.topNames → s.isPropAssignment = false := by
    intro s mem
    cases hs : s.isPropAssignment with
    | false => rfl
    | true =>
      rw [(s.topNames_of_isPropAssignment hs).1] at mem
      cases mem
  rw [Node.DeclaresAtTop, Node.children_withoutProps h]
  constructor
  · rintro ⟨_, mem, declared⟩
    obtain ⟨s, hs, rfl⟩ := List.mem_map.mp mem
    rw [Node.topNames_withoutDeclarations] at declared
    obtain ⟨left, -⟩ := List.mem_filter.mp hs
    obtain ⟨mem, kept⟩ := List.mem_filter.mp left
    exact ⟨s, mem, by simpa using kept, declared⟩
  · rintro ⟨s, mem, kept, declared⟩
    refine ⟨s.withoutDeclarations, List.mem_map_of_mem ?_, by rwa [Node.topNames_withoutDeclarations]⟩
    simp [List.mem_filter, mem, kept, declares s declared]

/-! ## Annotation -/

theorem Node.ownValues_of_plannable {n : Node} (h : n.kind.isPlannable = true) :
    n.ownValues = valuesOf n.declared.listed ∧ n.varNames = [] ∧ n.declaration = n := by
  obtain ⟨k, s, cs⟩ := n
  rw [Node.ownValues_mk, Node.varNames_mk, Node.declared_mk, Node.declaration]
  rw [Node.kind_mk] at h
  cases k <;> simp_all [Kind.isPlannable, Kind.ownValues, Kind.ownVars, Kind.isCompound, Kind.isExport,
    Kind.declared]

theorem Node.ownValues_annotate (plans : List Plan) (n : Node) :
    (n.annotate plans).ownValues = n.ownValues := by
  cases h : n.kind.isPlannable with
  | true =>
    have after : (n.annotate plans).kind.isPlannable = true := by simpa using h
    rw [(Node.ownValues_of_plannable h).1, (Node.ownValues_of_plannable after).1, Node.declared_annotate]
  | false =>
    obtain ⟨k, s, cs⟩ := n
    rw [Node.kind_mk] at h
    rw [Node.annotate_of_not_plannable h, Node.ownValues_mk, Node.ownValues_mk, map_declared_annotate]

theorem Node.varNames_annotate (plans : List Plan) (n : Node) : (n.annotate plans).varNames = n.varNames := by
  induction n using Node.induction with
  | step k s cs ih =>
    cases h : k.isPlannable with
    | true =>
      have after : ((Node.mk k s cs).annotate plans).kind.isPlannable = true := by simpa using h
      rw [(Node.ownValues_of_plannable after).2.1, (Node.ownValues_of_plannable (n := .mk k s cs) h).2.1]
    | false =>
      have inner : (cs.map (Node.annotate plans)).flatMap Node.varNames = cs.flatMap Node.varNames := by
        rw [List.flatMap_map]
        exact List.flatMap_congr ih
      rw [Node.annotate_of_not_plannable h, Node.varNames_mk, Node.varNames_mk, map_declared_annotate, inner]

theorem Node.declaration_annotate (plans : List Plan) (n : Node) :
    (n.annotate plans).declaration = n.declaration.annotate plans := by
  cases h : n.kind.isPlannable with
  | true =>
    have after : (n.annotate plans).kind.isPlannable = true := by simpa using h
    rw [(Node.ownValues_of_plannable h).2.2, (Node.ownValues_of_plannable after).2.2]
  | false =>
    obtain ⟨k, s, cs⟩ := n
    rw [Node.kind_mk] at h
    rw [Node.annotate_of_not_plannable h, Node.declaration, Node.declaration]
    cases k.isExport with
    | true => cases cs <;> rfl
    | false => exact (Node.annotate_of_not_plannable h plans s cs).symm

/-- Annotation changes nothing that a statement declares. -/
theorem Node.topNames_annotate (plans : List Plan) (s : Node) : (s.annotate plans).topNames = s.topNames := by
  rw [Node.topNames, Node.declaration_annotate, Node.ownValues_annotate, Node.varNames_annotate,
    Node.topNames]

theorem Node.declaresAtTop_annotate (plans : List Plan) {program : Node}
    (plain : program.kind.isPlannable = false) (name : String) :
    (program.annotate plans).DeclaresAtTop name ↔ program.DeclaresAtTop name := by
  obtain ⟨k, s, cs⟩ := program
  rw [Node.kind_mk] at plain
  rw [Node.annotate_of_not_plannable plain]
  simp [Node.DeclaresAtTop, Node.topNames_annotate]

/-! ## The import -/

/-- The name that the import declares. -/
def reactName : String := "React"

/-- The import is put before a program in which the name is declared just if no statement imports from the
framework, and one that does not load the module of validators declares the name. Annotation does not matter
to this. -/
theorem react_redeclared_iff {m : Module} {hashbang : Option String}
    (program : m.tree.kind = .program hashbang) (config : Config) :
    ((m.convertParts config).hasReactImport = false ∧ (m.annotated config).DeclaresAtTop reactName
        ↔ m.extraction.hasReactImport = false ∧ m.tree.withoutProps.DeclaresAtTop reactName)
      ∧ (m.extraction.hasReactImport = false ∧ m.tree.withoutProps.DeclaresAtTop reactName
        ↔ (∀ s ∈ m.tree.statements, s.importSource? ≠ some "react")
          ∧ ∃ s ∈ m.tree.children, s.isPropTypesBinding = false ∧ reactName ∈ s.topNames) := by
  have plain : m.tree.withoutProps.kind.isPlannable = false := by
    rw [Node.kind_withoutProps, program]
    rfl
  have imported : m.extraction.hasReactImport = false
      ↔ ∀ s ∈ m.tree.statements, s.importSource? ≠ some "react" := by
    rw [← Bool.not_eq_true, m.hasReactImport_iff]
    simp
  constructor
  · exact and_congr_right fun _ => Node.declaresAtTop_annotate (m.plans config) plain reactName
  · rw [imported, Node.declaresAtTop_withoutProps program]

/-- A program that loads the framework without an import. -/
def requiredSource : List Char := "const React = require('react');\n".toList

/-- The import comes before a program that declares its name, and the typed module declares it twice. -/
theorem required_react_declared_twice : ∃ m, Module.parse requiredSource = .ok m
    ∧ m.extraction.hasReactImport = false ∧ m.tree.withoutProps.DeclaresAtTop reactName
    ∧ (convert requiredSource {}).code
      = "import React from 'react';\n\nconst React = require(\"react\");\n"
    ∧ ∃ out, Module.parse (convert requiredSource {}).code.toList = .ok out
      ∧ (out.tree.children.map Node.topNames) = [[reactName], [reactName]] := by
  have run : ∃ m, Module.parse requiredSource = .ok m ∧ m.tree.kind = .program none
      ∧ (∀ s ∈ m.tree.statements, s.importSource? ≠ some "react")
      ∧ (∃ s ∈ m.tree.children, s.isPropTypesBinding = false ∧ reactName ∈ s.topNames)
      ∧ (convert requiredSource {}).code
        = "import React from 'react';\n\nconst React = require(\"react\");\n"
      ∧ ∃ out, Module.parse (convert requiredSource {}).code.toList = .ok out
        ∧ (out.tree.children.map Node.topNames) = [[reactName], [reactName]] := by
    decide +kernel
  obtain ⟨m, parsed, program, imports, declares, code, out⟩ := run
  obtain ⟨absent, twice⟩ := (react_redeclared_iff program {}).2.mpr ⟨imports, declares⟩
  exact ⟨m, parsed, absent, twice, code, out⟩

end TypedJsx
