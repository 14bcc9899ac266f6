import Mathlib.Data.List.Forall2
import TypedJsx.Proofs.PropTypes
/-!
What taking declarations out of a tree does to it. Inner statement lists are emptied before outer ones
are looked at, but nothing that is read off a statement stands in a statement list of its own: whether it
is a declaration, loads the module of validators, or imports something is the same before and after
(`Node.isPropAssignment_withoutDeclarations` and its companions). So the pass is the plain deletion of all
declarations from all statement lists (`deleted_iff`), and has nothing left to do a second time.
-/
namespace TypedJsx

theorem Node.withoutDeclarations_mk (k : Kind) (s : Span) (cs : List Node) :
    (Node.mk k s cs).withoutDeclarations = .mk k s
      (if k.isStatementList then (cs.map Node.withoutDeclarations).filter fun c => !c.isPropAssignment
        else cs.map Node.withoutDeclarations) := by
  rw [Node.withoutDeclarations, withoutDeclarationsList_eq_map]

@[simp] theorem Node.kind_withoutDeclarations (n : Node) : n.withoutDeclarations.kind = n.kind := by
  obtain ⟨k, s, cs⟩ := n
  rw [Node.withoutDeclarations_mk]
  rfl

theorem Node.withoutDeclarations_eq_mk_iff {n : Node} {k : Kind} {s : Span} {ds : List Node} :
    n.withoutDeclarations = .mk k s ds ↔ ∃ cs, n = .mk k s cs
      ∧ (if k.isStatementList then (cs.map Node.withoutDeclarations).filter fun c => !c.isPropAssignment
        else cs.map Node.withoutDeclarations) = ds := by
  constructor
  · intro e
    obtain ⟨k', s', cs⟩ := n
    rw [Node.withoutDeclarations_mk] at e
    cases e
    exact ⟨cs, rfl, rfl⟩
  · rintro ⟨cs, rfl, rfl⟩
    exact Node.withoutDeclarations_mk k s cs

/-! ## What is read off a statement -/

theorem Node.isPropAssignment_iff {n : Node} : n.isPropAssignment = true ↔
    ∃ component value s t isOptional u v ps w qs, n = .mk .expressionStatement s
      [.mk (.assignment .assign) t [.mk (.member isOptional) u
        [.mk (.reference component) v ps, .mk (.name "propTypes") w qs], value]] := by
  constructor
  · intro h
    unfold Node.isPropAssignment Node.propAssignment? at h
    split at h
    · split at h
      · rename_i field
        obtain rfl := beq_iff_eq.mp field
        exact ⟨_, _, _, _, _, _, _, _, _, _, rfl⟩
      · cases h
    · cases h
  · rintro ⟨component, value, s, t, isOptional, u, v, ps, w, qs, rfl⟩
    rfl

@[simp] theorem Node.isPropAssignment_withoutDeclarations (n : Node) :
    n.withoutDeclarations.isPropAssignment = n.isPropAssignment := by
  rw [Bool.eq_iff_iff, Node.isPropAssignment_iff, Node.isPropAssignment_iff]
  constructor
  · rintro ⟨component, value, s, t, isOptional, u, v, ps, w, qs, e⟩
    simp only [Node.withoutDeclarations_eq_mk_iff, Kind.isStatementList, Bool.false_eq_true, if_false,
      List.map_eq_cons_iff, List.map_eq_nil_iff] at e
    obtain ⟨_, rfl, _, _, rfl, ⟨_, rfl, _, _, rfl, ⟨_, rfl, _, _, rfl, ⟨ps, rfl, -⟩, _, _, rfl,
      ⟨qs, rfl, -⟩, rfl⟩, value, _, rfl, -, rfl⟩, rfl⟩ := e
    exact ⟨component, value, s, t, isOptional, u, v, ps, w, qs, rfl⟩
  · rintro ⟨component, value, s, t, isOptional, u, v, ps, w, qs, rfl⟩
    simp only [Node.withoutDeclarations_mk, Kind.isStatementList, Bool.false_eq_true, if_false,
      List.map_cons, List.map_nil]
    exact ⟨component, _, s, t, isOptional, u, v, _, w, _, rfl⟩

theorem Node.importSource?_eq_some_iff {n : Node} {source : String} : n.importSource? = some source ↔
    ∃ isType phase hasSpecifiers s hasLone t ps rest, n = .mk (.importDeclaration isType phase hasSpecifiers)
      s (.mk (.stringLiteral source hasLone) t ps :: rest) := by
  constructor
  · intro h
    unfold Node.importSource? at h
    split at h
    · cases h
      exact ⟨_, _, _, _, _, _, _, _, rfl⟩
    · cases h
  · rintro ⟨isType, phase, hasSpecifiers, s, hasLone, t, ps, rest, rfl⟩
    rfl

@[simp] theorem Node.importSource?_withoutDeclarations (n : Node) :
    n.withoutDeclarations.importSource? = n.importSource? := by
  apply Option.ext
  intro source
  rw [Node.importSource?_eq_some_iff, Node.importSource?_eq_some_iff]
  constructor
  · rintro ⟨isType, phase, hasSpecifiers, s, hasLone, t, ps, rest, e⟩
    simp only [Node.withoutDeclarations_eq_mk_iff, Kind.isStatementList, Bool.false_eq_true, if_false,
      List.map_eq_cons_iff] at e
    obtain ⟨_, rfl, _, rest, rfl, ⟨ps, rfl, -⟩, -⟩ := e
    exact ⟨isType, phase, hasSpecifiers, s, hasLone, t, ps, rest, rfl⟩
  · rintro ⟨isType, phase, hasSpecifiers, s, hasLone, t, ps, rest, rfl⟩
    simp only [Node.withoutDeclarations_mk, Kind.isStatementList, Bool.false_eq_true, if_false,
      List.map_cons]
    exact ⟨isType, phase, hasSpecifiers, s, hasLone, t, _, _, rfl⟩

theorem Node.withoutParentheses_withoutDeclarations (n : Node) :
    n.withoutDeclarations.withoutParentheses = n.withoutParentheses.withoutDeclarations := by
  fun_induction Node.withoutParentheses n with
  | case1 s inner ih =>
    rw [← ih, Node.withoutDeclarations_mk]
    rfl
  | case2 n h =>
    unfold Node.withoutParentheses
    split
    · rename_i e
      simp only [Node.withoutDeclarations_eq_mk_iff, Kind.isStatementList, Bool.false_eq_true, if_false,
        List.map_eq_cons_iff, List.map_eq_nil_iff] at e
      obtain ⟨_, rfl, inner, _, rfl, -, rfl⟩ := e
      exact (h _ _ rfl).elim
    · rfl

theorem isPropTypesRequire_iff {e : Node} : isPropTypesRequire e = true ↔
    ∃ isOptional isPure s t ps types hasLone u qs, e.withoutParentheses = .mk (.call isOptional isPure) s
      [.mk (.reference "require") t ps, types, .mk (.stringLiteral propTypesModule hasLone) u qs] := by
  constructor
  · intro h
    unfold isPropTypesRequire at h
    split at h
    · rename_i e
      obtain rfl := beq_iff_eq.mp h
      exact ⟨_, _, _, _, _, _, _, _, _, e⟩
    · cases h
  · rintro ⟨isOptional, isPure, s, t, ps, types, hasLone, u, qs, e⟩
    simp [isPropTypesRequire, e]

theorem isPropTypesRequire_withoutDeclarations (e : Node) :
    isPropTypesRequire e.withoutDeclarations = isPropTypesRequire e := by
  rw [Bool.eq_iff_iff, isPropTypesRequire_iff, isPropTypesRequire_iff,
    Node.withoutParentheses_withoutDeclarations]
  constructor
  · rintro ⟨isOptional, isPure, s, t, ps, types, hasLone, u, qs, h⟩
    simp only [Node.withoutDeclarations_eq_mk_iff, Kind.isStatementList, Bool.false_eq_true, if_false,
      List.map_eq_cons_iff, List.map_eq_nil_iff] at h
    obtain ⟨_, h, _, _, rfl, ⟨ps, rfl, -⟩, types, _, rfl, -, _, _, rfl, ⟨qs, rfl, -⟩, rfl⟩ := h
    exact ⟨isOptional, isPure, s, t, ps, types, hasLone, u, qs, h⟩
  · rintro ⟨isOptional, isPure, s, t, ps, types, hasLone, u, qs, h⟩
    rw [h]
    simp only [Node.withoutDeclarations_mk, Kind.isStatementList, Bool.false_eq_true, if_false,
      List.map_cons, List.map_nil]
    exact ⟨isOptional, isPure, s, t, _, _, hasLone, u, _, rfl⟩

theorem Node.initialValue_withoutDeclarations (n : Node) :
    n.withoutDeclarations.initialValue = n.initialValue.withoutDeclarations := by
  fun_cases Node.initialValue n with
  | case1 isDefinite s pattern type value =>
    rw [Node.withoutDeclarations_mk]
    rfl
  | case2 n h =>
    unfold Node.initialValue
    split
    · rename_i e
      simp only [Node.withoutDeclarations_eq_mk_iff, Kind.isStatementList, Bool.false_eq_true, if_false,
        List.map_eq_cons_iff, List.map_eq_nil_iff] at e
      obtain ⟨_, rfl, _, _, rfl, -, _, _, rfl, -, _, _, rfl, -, rfl⟩ := e
      exact (h _ _ _ _ _ rfl).elim
    · rfl

theorem Node.isPropTypesBinding_iff {n : Node} : n.isPropTypesBinding = true ↔
    (∃ word isDeclare s ds, n = .mk (.variableDeclaration word isDeclare) s ds ∧ ds ≠ []
      ∧ ∀ d ∈ ds, isPropTypesRequire d.initialValue = true) ∨ n.importSource? = some propTypesModule := by
  fun_cases Node.isPropTypesBinding n with
  | case1 word isDeclare s ds =>
    have no : (Node.mk (.variableDeclaration word isDeclare) s ds).importSource? = none := rfl
    simp [no]
  | case2 n h =>
    have no : ¬∃ word isDeclare s ds, n = .mk (.variableDeclaration word isDeclare) s ds ∧ ds ≠ []
        ∧ ∀ d ∈ ds, isPropTypesRequire d.initialValue = true := by
      rintro ⟨word, isDeclare, s, ds, rfl, -⟩
      exact h _ _ _ _ rfl
    rw [or_iff_right no, beq_iff_eq]

@[simp] theorem Node.isPropTypesBinding_withoutDeclarations (n : Node) :
    n.withoutDeclarations.isPropTypesBinding = n.isPropTypesBinding := by
  rw [Bool.eq_iff_iff, Node.isPropTypesBinding_iff, Node.isPropTypesBinding_iff,
    Node.importSource?_withoutDeclarations]
  refine or_congr_left ?_
  constructor
  · rintro ⟨word, isDeclare, s, ds, e, some, all⟩
    simp only [Node.withoutDeclarations_eq_mk_iff, Kind.isStatementList, Bool.false_eq_true, if_false] at e
    obtain ⟨cs, rfl, rfl⟩ := e
    refine ⟨word, isDeclare, s, cs, rfl, by simpa using some, fun d hd => ?_⟩
    have loads := all _ (List.mem_map_of_mem hd)
    rwa [Node.initialValue_withoutDeclarations, isPropTypesRequire_withoutDeclarations] at loads
  · rintro ⟨word, isDeclare, s, ds, rfl, some, all⟩
    refine ⟨word, isDeclare, s, ds.map Node.withoutDeclarations, ?_, by simpa using some, ?_⟩
    · rw [Node.withoutDeclarations_mk]
      rfl
    · rw [List.forall_mem_map]
      intro d hd
      rw [Node.initialValue_withoutDeclarations, isPropTypesRequire_withoutDeclarations]
      exact all d hd

/-! ## Deletion from statement lists -/

/-- The parts of a node, without the statements that pass a test if it is a statement list. -/
def Kind.partsWithout (k : Kind) (test : Node → Bool) (cs : List Node) : List Node :=
  if k.isStatementList then cs.filter fun c => !test c else cs

theorem Kind.mem_partsWithout {k : Kind} {test : Node → Bool} {cs : List Node} {c : Node} :
    c ∈ k.partsWithout test cs ↔ c ∈ cs ∧ (k.isStatementList = true → test c = false) := by
  unfold Kind.partsWithout
  cases k.isStatementList <;> simp

/-- `after` is `before` without the statements that pass a test: from every statement list, those that
pass are deleted, and what is kept stays in order, with the same deletion made in it. -/
inductive Deleted (test : Node → Bool) : (before after : Node) → Prop
  | node {k : Kind} {s : Span} {cs ds : List Node}
      (parts : List.Forall₂ (Deleted test) (k.partsWithout test cs) ds) :
      Deleted test (.mk k s cs) (.mk k s ds)

/-- Declarations can be deleted before the parts that are kept are looked at. -/
theorem Node.withoutDeclarations_eq_map (k : Kind) (s : Span) (cs : List Node) :
    (Node.mk k s cs).withoutDeclarations
      = .mk k s ((k.partsWithout Node.isPropAssignment cs).map Node.withoutDeclarations) := by
  rw [Node.withoutDeclarations_mk, Kind.partsWithout]
  split
  · rw [List.filter_map]
    simp [Function.comp_def]
  · rfl

theorem forall₂_deleted_iff {kept ds : List Node}
    (h : ∀ c ∈ kept, ∀ d, Deleted Node.isPropAssignment c d ↔ d = c.withoutDeclarations) :
    List.Forall₂ (Deleted Node.isPropAssignment) kept ds ↔ ds = kept.map Node.withoutDeclarations := by
  induction kept generalizing ds with
  | nil => simp
  | cons c kept ih =>
    rw [List.forall_mem_cons] at h
    rw [List.forall₂_cons_left_iff, List.map_cons]
    constructor
    · rintro ⟨d, rest, hd, hrest, rfl⟩
      rw [(h.1 d).mp hd, (ih h.2).mp hrest]
    · rintro rfl
      exact ⟨_, _, (h.1 _).mpr rfl, (ih h.2).mpr rfl, rfl⟩

/-- What is left of a tree is the tree with all declarations deleted from its statement lists. -/
theorem deleted_iff (before after : Node) :
    Deleted Node.isPropAssignment before after ↔ after = before.withoutDeclarations := by
  induction before using Node.induction generalizing after with
  | step k s cs ih =>
    have parts : ∀ ds, List.Forall₂ (Deleted Node.isPropAssignment)
        (k.partsWithout Node.isPropAssignment cs) ds ↔
          ds = (k.partsWithout Node.isPropAssignment cs).map Node.withoutDeclarations := fun ds =>
      forall₂_deleted_iff fun c hc => ih c (Kind.mem_partsWithout.mp hc).1
    rw [Node.withoutDeclarations_eq_map]
    constructor
    · rintro ⟨h⟩
      rw [(parts _).mp h]
    · rintro rfl
      exact .node ((parts _).mpr rfl)

/-! ## The statements that are deleted -/

/-- The statements that pass a test, of all statement lists of a tree; outer lists first. -/
def Node.statementsPassing (test : Node → Bool) (n : Node) : List Node :=
  (n.nodes.filter fun list => list.kind.isStatementList).flatMap fun list => list.children.filter test

theorem Node.statementsPassing_mk (test : Node → Bool) (k : Kind) (s : Span) (cs : List Node) :
    (Node.mk k s cs).statementsPassing test
      = (if k.isStatementList then cs.filter test else []) ++ cs.flatMap (Node.statementsPassing test) := by
  have inner : cs.flatMap (Node.statementsPassing test)
      = ((cs.flatMap Node.nodes).filter fun list => list.kind.isStatementList).flatMap fun list =>
        list.children.filter test := by
    rw [List.filter_flatMap, List.flatMap_assoc]
    rfl
  rw [inner, Node.statementsPassing, Node.nodes_mk, List.filter_cons, Node.kind_mk]
  split
  · rw [List.flatMap_cons, Node.children_mk]
  · rfl

@[simp] theorem Node.statementsPassing_withoutDeclarations (n : Node) :
    n.withoutDeclarations.statementsPassing Node.isPropAssignment = [] := by
  induction n using Node.induction with
  | step k s cs ih =>
    rw [Node.withoutDeclarations_eq_map, Node.statementsPassing_mk, List.append_eq_nil_iff]
    constructor
    · split
      · rename_i hk
        rw [List.filter_eq_nil_iff, List.forall_mem_map]
        intro c hc
        simpa using (Kind.mem_partsWithout.mp hc).2 hk
      · rfl
    · rw [List.flatMap_map, List.flatMap_eq_nil_iff]
      intro c hc
      exact ih c (Kind.mem_partsWithout.mp hc).1

theorem Node.withoutDeclarations_of_none {n : Node} (h : n.statementsPassing Node.isPropAssignment = []) :
    n.withoutDeclarations = n := by
  induction n using Node.induction with
  | step k s cs ih =>
    rw [Node.statementsPassing_mk, List.append_eq_nil_iff, List.flatMap_eq_nil_iff] at h
    have all : k.partsWithout Node.isPropAssignment cs = cs := by
      unfold Kind.partsWithout
      split
      · rename_i hk
        have none := h.1
        rw [if_pos hk, List.filter_eq_nil_iff] at none
        rw [List.filter_eq_self]
        intro c hc
        simpa using none c hc
      · rfl
    have same : cs.map Node.withoutDeclarations = cs.map id :=
      List.map_congr_left fun c hc => ih c hc (h.2 c hc)
    rw [Node.withoutDeclarations_eq_map, all, same, List.map_id]

end TypedJsx
