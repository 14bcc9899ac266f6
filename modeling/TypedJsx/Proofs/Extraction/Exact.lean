import Mathlib.Data.List.Perm.Basic
import TypedJsx.Proofs.Extraction.Deletion
/-!
Extraction takes out exactly the statements that speak about props.

Main statement: what is left is the program with those statements deleted, the list of removed spans names
each of them once, and a second extraction finds nothing.
-/
namespace TypedJsx

/-! ## Declarations and their statements -/

theorem PropContext.span_of_declaration? {ctx : PropContext} {n : Node} {d : PropDeclaration}
    (h : ctx.declaration? n = some d) : d.span = n.span := by
  obtain ⟨p, -, rfl⟩ := Option.map_eq_some_iff.mp h
  rfl

theorem PropContext.isSome_declaration? (ctx : PropContext) (n : Node) :
    (ctx.declaration? n).isSome = n.isPropAssignment := by
  rw [PropContext.declaration?, Option.isSome_map]
  rfl

theorem PropContext.map_span_filterMap (ctx : PropContext) (statements : List Node) :
    (statements.filterMap ctx.declaration?).map PropDeclaration.span
      = (statements.filter Node.isPropAssignment).map Node.span := by
  induction statements with
  | nil => rfl
  | cons c statements ih =>
    have some := ctx.isSome_declaration? c
    cases h : ctx.declaration? c with
    | none =>
      rw [h, Option.isSome_none] at some
      rw [List.filterMap_cons_none h, List.filter_cons_of_neg (by simp [← some]), ih]
    | some d =>
      rw [h, Option.isSome_some] at some
      rw [List.filterMap_cons_some h, List.filter_cons_of_pos some.symm, List.map_cons, List.map_cons, ih,
        PropContext.span_of_declaration? h]

/-- The declarations of a tree are found once for every statement that is one. -/
theorem PropContext.map_span_declarations_perm (ctx : PropContext) (tree : Node) :
    ((ctx.declarations tree).map PropDeclaration.span).Perm
      ((tree.statementsPassing Node.isPropAssignment).map Node.span) := by
  induction tree using Node.induction with
  | step k s cs ih =>
    have own : (if k.isStatementList then cs.filterMap ctx.declaration? else []).map PropDeclaration.span
        = (if k.isStatementList then cs.filter Node.isPropAssignment else []).map Node.span := by
      split
      · exact ctx.map_span_filterMap cs
      · rfl
    have inner : ((cs.flatMap ctx.declarations).map PropDeclaration.span).Perm
        ((cs.flatMap (Node.statementsPassing Node.isPropAssignment)).map Node.span) := by
      rw [List.map_flatMap, List.map_flatMap]
      exact List.Perm.flatMap_left _ ih
    rw [PropContext.declarations, PropContext.declarationsInList_eq_flatMap, Node.statementsPassing_mk,
      List.map_append, List.map_append, own]
    exact List.perm_append_comm.trans (inner.append_left _)

theorem PropContext.declarations_of_none (ctx : PropContext) {tree : Node}
    (h : tree.statementsPassing Node.isPropAssignment = []) : ctx.declarations tree = [] := by
  have spans := ctx.map_span_declarations_perm tree
  rw [h, List.map_nil, List.perm_nil, List.map_eq_nil_iff] at spans
  exact spans

/-! ## Programs -/

/-- A module with everything about props taken out of its program. -/
def Module.stripped (m : Module) : Module := { m with tree := m.tree.withoutProps }

section
variable {program : Node} {hashbang : Option String} (h : program.kind = .program hashbang)
include h

theorem Node.children_withoutProps : program.withoutProps.children
    = ((program.children.filter fun s => !s.isPropTypesBinding).filter fun s => !s.isPropAssignment).map
      Node.withoutDeclarations := by
  obtain ⟨k, s, cs⟩ := program
  obtain rfl : k = .program hashbang := h
  rw [Node.withoutProps, Node.withoutBindings, Node.withChildren_mk, Node.withoutDeclarations_eq_map]
  rfl

theorem Node.any_importSource? (source : String) :
    (program.statements.any fun s => s.importSource? == some source)
      = program.children.any fun s => s.importSource? == some source := by
  have statements : program.statements = program.children.filter fun c => !c.isDirective := by
    rw [Node.statements, h]
  have directive : ∀ c : Node, c.isDirective = true → c.importSource? = none := by
    intro c hc
    unfold Node.isDirective at hc
    split at hc
    · rfl
    · cases hc
  rw [statements, List.any_filter]
  congr 1
  funext c
  cases hc : c.isDirective with
  | false => rfl
  | true => simp [directive c hc]

end

theorem Node.kept_of_importSource? {n : Node} {source : String} (h : n.importSource? = some source)
    (other : source ≠ propTypesModule) : n.isPropTypesBinding = false ∧ n.isPropAssignment = false := by
  obtain ⟨isType, phase, hasSpecifiers, s, hasLone, t, ps, rest, rfl⟩ :=
    Node.importSource?_eq_some_iff.mp h
  refine ⟨?_, rfl⟩
  rw [← Bool.not_eq_true, Node.isPropTypesBinding_iff, h]
  simpa using other

theorem Node.any_importSource?_withoutProps {program : Node} {hashbang : Option String}
    (h : program.kind = .program hashbang) {source : String} (other : source ≠ propTypesModule) :
    (program.withoutProps.children.any fun s => s.importSource? == some source)
      = program.children.any fun s => s.importSource? == some source := by
  rw [Node.children_withoutProps h, List.any_map, List.any_filter, List.any_filter]
  congr 1
  funext c
  rw [Function.comp_apply, Node.importSource?_withoutDeclarations]
  by_cases hc : c.importSource? = some source
  · obtain ⟨binding, assignment⟩ := Node.kept_of_importSource? hc other
    rw [binding, assignment]
    rfl
  · have no : (c.importSource? == some source) = false := beq_eq_false_iff_ne.mpr hc
    rw [no, Bool.and_false, Bool.and_false]

theorem Node.not_isPropTypesBinding_of_mem {program : Node} {hashbang : Option String}
    (h : program.kind = .program hashbang) {c : Node} (hc : c ∈ program.withoutProps.children) :
    c.isPropTypesBinding = false := by
  rw [Node.children_withoutProps h] at hc
  obtain ⟨s, hs, rfl⟩ := List.mem_map.mp hc
  simpa using (List.mem_filter.mp (List.mem_of_mem_filter hs)).2

theorem Node.withoutBindings_withoutProps {program : Node} {hashbang : Option String}
    (h : program.kind = .program hashbang) : program.withoutProps.withoutBindings = program.withoutProps := by
  have all : (program.withoutProps.children.filter fun s => !s.isPropTypesBinding)
      = program.withoutProps.children := by
    rw [List.filter_eq_self]
    intro c hc
    rw [Node.not_isPropTypesBinding_of_mem h hc]
    rfl
  rw [Node.withoutBindings, all, Node.withChildren_children]

theorem Node.kind_withoutProps (program : Node) : program.withoutProps.kind = program.kind := by
  obtain ⟨k, s, cs⟩ := program
  rw [Node.withoutProps, Node.kind_withoutDeclarations]
  rfl

/-! ## The whole extraction -/

theorem Module.pairwise_map_span (m : Module) :
    (m.extraction.declarations.map PropDeclaration.span).Pairwise fun a b => a.start ≤ b.start :=
  List.pairwise_map.mpr m.pairwise_extraction

/-- There is one declaration for every statement that is one, besides those that load validators. -/
theorem Module.map_span_perm (m : Module) : (m.extraction.declarations.map PropDeclaration.span).Perm
    ((m.tree.withoutBindings.statementsPassing Node.isPropAssignment).map Node.span) := by
  have sorted : m.extraction.declarations.Perm (m.propContext.declarations m.tree.withoutBindings) :=
    List.mergeSort_perm _ _
  exact (sorted.map _).trans (m.propContext.map_span_declarations_perm _)

theorem Module.extraction_stripped {m : Module} {hashbang : Option String}
    (h : m.tree.kind = .program hashbang) :
    m.stripped.extraction
      = { declarations := [], hasReactImport := m.extraction.hasReactImport, bindings := [],
          absorbed := [] } := by
  have left : m.stripped.tree.withoutBindings = m.tree.withoutProps := Node.withoutBindings_withoutProps h
  have none : m.stripped.propContext.declarations m.stripped.tree.withoutBindings = [] := by
    rw [left]
    exact PropContext.declarations_of_none _ (Node.statementsPassing_withoutDeclarations _)
  have react : (m.stripped.tree.statements.any fun s => s.importSource? == some "react")
      = m.tree.statements.any fun s => s.importSource? == some "react" := by
    rw [Node.any_importSource? h, Node.any_importSource? (show m.stripped.tree.kind = .program hashbang
      from (Node.kind_withoutProps _).trans h)]
    exact Node.any_importSource?_withoutProps h (by decide)
  have bindings : m.stripped.tree.children.filter Node.isPropTypesBinding = [] := by
    rw [List.filter_eq_nil_iff]
    intro c hc
    simpa using Node.not_isPropTypesBinding_of_mem h hc
  simp only [Module.extraction, none, react, bindings, List.mergeSort_nil, List.map_nil, List.flatMap_nil]

/-- Extraction leaves the program with the statements deleted that load validators, and from all statement
lists those that declare props. The spans of these statements are listed, each once: first those that load
validators, then the declarations in the order of their starts, also those in the value of another one.
Extracting again finds nothing more, the same import of the framework, and leaves the program as it is. -/
theorem extraction_removes_exactly {m : Module} {hashbang : Option String}
    (h : m.tree.kind = .program hashbang) :
    (∀ after, Deleted Node.isPropAssignment
        (m.tree.withChildren (m.tree.children.filter fun s => !s.isPropTypesBinding)) after ↔
          after = m.tree.withoutProps)
      ∧ (∃ declared, m.extraction.removed
            = (m.tree.children.filter Node.isPropTypesBinding).map Node.span ++ declared
          ∧ declared.Perm (((m.tree.withChildren
              (m.tree.children.filter fun s => !s.isPropTypesBinding)).statementsPassing
                Node.isPropAssignment).map Node.span)
          ∧ declared.Pairwise fun a b => a.start ≤ b.start)
      ∧ m.extraction.removed.length = m.extraction.bindings.length + m.extraction.declarations.length
      ∧ m.stripped.extraction
        = { declarations := [], hasReactImport := m.extraction.hasReactImport, bindings := [],
            absorbed := [] }
      ∧ m.stripped.extraction.removed = []
      ∧ m.stripped.tree.withoutProps = m.stripped.tree := by
  have again := Module.extraction_stripped h
  refine ⟨fun after => deleted_iff _ after, ⟨_, rfl, m.map_span_perm, m.pairwise_map_span⟩, ?_, again, ?_,
    ?_⟩
  · rw [Extraction.removed, List.length_append, List.length_map]
  · rw [again]
    rfl
  · show m.tree.withoutProps.withoutBindings.withoutDeclarations = m.tree.withoutProps
    -- nothing is taken out twice: neither statements that load validators are left, nor declarations
    rw [Node.withoutBindings_withoutProps h]
    exact Node.withoutDeclarations_of_none (Node.statementsPassing_withoutDeclarations _)

/-- A declaration inside a statement that loads validators, and one in the value of another. -/
def nestedDeclarations : List Char :=
  ("const \x7b a = () => \x7b A.propTypes = 1; \x7d \x7d = require('prop-types');\n"
    ++ "if (dev) \x7b B.propTypes = () => \x7b C.propTypes = 1; \x7d; \x7d\n").toList

/-- Of nested declarations, all are taken out but the one that goes with the statement around it. -/
theorem nested_declarations_removed : ∃ m, Module.parse nestedDeclarations = .ok m
    ∧ m.tree.kind = .program none
    ∧ m.extraction.bindings.length = 1
    ∧ m.extraction.removed.length = 3
    ∧ m.stripped.extraction.removed = []
    ∧ m.stripped.tree.withoutProps = m.stripped.tree := by
  have run : ∃ m, Module.parse nestedDeclarations = .ok m ∧ m.tree.kind = .program none
      ∧ (m.tree.children.filter Node.isPropTypesBinding).length = 1
      ∧ (m.propContext.declarations m.tree.withoutBindings).length = 2 := by decide +kernel
  obtain ⟨m, hm, program, one, two⟩ := run
  obtain ⟨-, -, count, -, none, same⟩ := extraction_removes_exactly program
  have bindings : m.extraction.bindings.length = 1 := (List.length_map _).trans one
  have declarations : m.extraction.declarations.length = 2 := (List.length_mergeSort _).trans two
  refine ⟨m, hm, program, bindings, ?_, none, same⟩
  rw [count, bindings, declarations]

end TypedJsx
