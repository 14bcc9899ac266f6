import TypedJsx.Proofs.Extraction.Deletion
import TypedJsx.Proofs.Signature.Components
/-!
Arrows whose body is one expression. The expression is kept as the only statement of a function body, and
function bodies are statement lists: extraction empties the body if the expression declares props, and an
arrow without a body is left. Annotation turns such a body into a list of statements or does not touch it.

Main statement: after extraction, all arrows still have their bodies just if the expression of none that
is left declared props; annotation always keeps them.
-/
namespace TypedJsx

/-- A body that is one expression: besides directives, its one statement is an expression. -/
def Node.isValueBody : Node → Bool
  | .mk .functionBody _ parts =>
    match parts.filter fun c => !c.isDirective with
    | [.mk .expressionStatement _ [_]] => true
    | _ => false
  | _ => false

/-- An arrow that is said to be one expression has such a body. -/
def Node.holdsValue : Node → Bool
  | .mk (.arrow form) _ [_, _, _, body] => !form.isExpression || body.isValueBody
  | .mk (.arrow form) _ _ => !form.isExpression
  | _ => true

/-- All arrows of a tree that are said to be one expression have such a body. -/
def Node.HoldsValues (tree : Node) : Prop := ∀ n ∈ tree.nodes, n.holdsValue = true

instance (tree : Node) : Decidable tree.HoldsValues :=
  inferInstanceAs (Decidable (∀ n ∈ tree.nodes, n.holdsValue = true))

/-- The body of a function is a list of statements, if it is written, and so is the body of an arrow. -/
def Node.hasBody : Node → Bool
  | .mk (.function _) _ [_, _, _, _, _, body] => body.isAbsent || body.kind == .functionBody
  | .mk (.arrow _) _ [_, _, _, body] => body.kind == .functionBody
  | _ => true

/-- All functions and arrows of a tree have such bodies, which is how the parts of these kinds are laid out. -/
def Node.HasBodies (tree : Node) : Prop := ∀ n ∈ tree.nodes, n.hasBody = true

instance (tree : Node) : Decidable tree.HasBodies :=
  inferInstanceAs (Decidable (∀ n ∈ tree.nodes, n.hasBody = true))

/-! ## Bodies and arrows -/

theorem Node.isValueBody_iff {body : Node} : body.isValueBody = true ↔
    ∃ b parts t e, body = .mk .functionBody b parts
      ∧ (parts.filter fun c => !c.isDirective) = [.mk .expressionStatement t [e]] := by
  constructor
  · intro h
    unfold Node.isValueBody at h
    split at h
    · split at h
      · rename_i only
        exact ⟨_, _, _, _, rfl, only⟩
      · cases h
    · cases h
  · rintro ⟨b, parts, t, e, rfl, only⟩
    simp [Node.isValueBody, only]

theorem isSome_firstValue? {parts : List Node} {t : Span} {e : Node}
    (only : (parts.filter fun c => !c.isDirective) = [.mk .expressionStatement t [e]]) :
    (firstValue? parts).isSome = true := by
  fun_induction firstValue? parts with
  | case1 raw s cs rest ih => exact ih (by simpa [List.filter_cons, Node.isDirective] using only)
  | case2 => rfl
  | case3 parts directive statement =>
    -- the first part is neither, so the filter would keep it
    cases parts with
    | nil => cases only
    | cons part parts =>
      have plain : ¬part.isDirective = true := by
        rw [Node.isDirective_iff]
        rintro ⟨raw, hk⟩
        obtain ⟨k, s, cs⟩ := part
        obtain rfl : k = .directive raw := hk
        exact directive raw s cs parts rfl
      rw [List.filter_cons_of_pos (by simpa using plain)] at only
      obtain ⟨rfl, -⟩ := List.cons.inj only
      exact (statement t e parts rfl).elim

theorem Node.binds_of_functionBody {body : Node} {isExpression : Bool} (kind : body.kind = .functionBody)
    (value : isExpression = true → body.isValueBody = true) (pattern : Node) :
    (body.bindInBody? pattern isExpression).isSome = true := by
  obtain ⟨k, b, parts⟩ := body
  obtain rfl : k = .functionBody := kind
  cases isExpression with
  | false => rfl
  | true =>
    obtain ⟨_, _, t, e, eq, only⟩ := Node.isValueBody_iff.mp (value rfl)
    cases eq
    simpa [Node.bindInBody?] using isSome_firstValue? only

theorem Node.binds_of_arrow {form : ArrowForm} {s : Span} {types params result body : Node}
    (present : (Node.mk (.arrow form) s [types, params, result, body]).hasBody = true)
    (value : (Node.mk (.arrow form) s [types, params, result, body]).holdsValue = true) (pattern : Node) :
    (body.bindInBody? pattern form.isExpression).isSome = true :=
  Node.binds_of_functionBody (beq_iff_eq.mp present)
    (by simpa [Node.holdsValue, or_iff_not_imp_left] using value) pattern

theorem Node.hasBody_map {f : Node → Node} (absent : ∀ c, (f c).isAbsent = c.isAbsent)
    (kind : ∀ c, (f c).kind = .functionBody ↔ c.kind = .functionBody) {k : Kind} {s : Span} {cs : List Node}
    (h : (Node.mk k s cs).hasBody = true) : (Node.mk k s (cs.map f)).hasBody = true := by
  generalize e : Node.mk k s cs = n at h
  fun_cases Node.hasBody n with
  | case1 form s' name types this params result body =>
    cases e
    simpa [Node.hasBody, absent, kind] using h
  | case2 form s' types params result body =>
    cases e
    simpa [Node.hasBody, kind] using h
  | case3 n hf ha =>
    subst e
    unfold Node.hasBody
    -- the new parts have neither layout, since the parts have none
    split
    · rename_i e
      simp only [Node.mk.injEq, List.map_eq_cons_iff, List.map_eq_nil_iff] at e
      obtain ⟨rfl, rfl, _, _, rfl, -, _, _, rfl, -, _, _, rfl, -, _, _, rfl, -, _, _, rfl, -, _, _, rfl, -,
        rfl⟩ := e
      exact (hf _ _ _ _ _ _ _ _ rfl).elim
    · rename_i e
      simp only [Node.mk.injEq, List.map_eq_cons_iff, List.map_eq_nil_iff] at e
      obtain ⟨rfl, rfl, _, _, rfl, -, _, _, rfl, -, _, _, rfl, -, _, _, rfl, -, rfl⟩ := e
      exact (ha _ _ _ _ _ _ rfl).elim
    · rfl

theorem Node.holdsValue_arrow_iff {form : ArrowForm} {s : Span} {cs : List Node} :
    (Node.mk (.arrow form) s cs).holdsValue = true ↔ (form.isExpression = true →
      ∃ types params result body, cs = [types, params, result, body] ∧ body.isValueBody = true) := by
  constructor
  · intro h he
    unfold Node.holdsValue at h
    split at h
    · rename_i e
      cases e
      exact ⟨_, _, _, _, rfl, by simpa [he] using h⟩
    · rename_i e
      cases e
      simp [he] at h
    · rename_i no
      exact (no _ _ _ rfl).elim
  · intro h
    cases he : form.isExpression with
    | false => unfold Node.holdsValue; split <;> simp_all
    | true =>
      obtain ⟨types, params, result, body, rfl, hb⟩ := h he
      simp [Node.holdsValue, hb]

theorem Node.holdsValue_of_kind {k : Kind} (h : ∀ form, k ≠ .arrow form) (s : Span) (cs : List Node) :
    (Node.mk k s cs).holdsValue = true := by
  unfold Node.holdsValue
  split
  · rename_i e
    cases e
    exact absurd rfl (h _)
  · rename_i e
    cases e
    exact absurd rfl (h _)
  · rfl

theorem Node.holdsValues_mk (k : Kind) (s : Span) (cs : List Node) : (Node.mk k s cs).HoldsValues ↔
    (Node.mk k s cs).holdsValue = true ∧ ∀ c ∈ cs, c.HoldsValues := by
  rw [Node.HoldsValues, Node.nodes_mk, List.forall_mem_cons, List.forall_mem_flatMap]
  rfl

theorem Node.holdsValues_of_kind {k : Kind} (h : ∀ form, k ≠ .arrow form) (s : Span) (cs : List Node) :
    (Node.mk k s cs).HoldsValues ↔ ∀ c ∈ cs, c.HoldsValues := by
  rw [Node.holdsValues_mk, and_iff_right (Node.holdsValue_of_kind h s cs)]

/-! ## Extraction -/

/-- An arrow whose one expression declares props. -/
def Node.losesValue : Node → Bool
  | .mk (.arrow form) _ [_, _, _, body] => form.isExpression && body.children.any Node.isPropAssignment
  | _ => false

theorem Node.losesValue_eq_false {k : Kind} (h : ∀ form, k = .arrow form → form.isExpression = false)
    (s : Span) (cs : List Node) : (Node.mk k s cs).losesValue = false := by
  unfold Node.losesValue
  split
  · rename_i e
    cases e
    rw [h _ rfl]
    rfl
  · rfl

theorem Node.isDirective_withoutDeclarations (n : Node) :
    n.withoutDeclarations.isDirective = n.isDirective := by
  rw [Bool.eq_iff_iff, Node.isDirective_iff, Node.isDirective_iff, Node.kind_withoutDeclarations]

theorem Node.not_isDirective_of_isPropAssignment {n : Node} (h : n.isPropAssignment = true) :
    n.isDirective = false := by
  obtain ⟨component, value, s, t, isOptional, u, v, ps, w, qs, rfl⟩ := Node.isPropAssignment_iff.mp h
  rfl

theorem filter_statements_withoutDeclarations (parts : List Node) :
    (((parts.filter fun c => !c.isPropAssignment).map Node.withoutDeclarations).filter
        fun c => !c.isDirective)
      = ((parts.filter fun c => !c.isDirective).filter fun c => !c.isPropAssignment).map
        Node.withoutDeclarations := by
  have same : (fun c : Node => !c.isDirective) ∘ Node.withoutDeclarations = fun c => !c.isDirective := by
    funext c
    exact congrArg (!·) (Node.isDirective_withoutDeclarations c)
  rw [List.filter_map, same, List.filter_comm]

theorem any_isPropAssignment_statements (parts : List Node) :
    parts.any Node.isPropAssignment
      = (parts.filter fun c => !c.isDirective).any Node.isPropAssignment := by
  rw [List.any_filter]
  congr 1
  funext c
  cases h : c.isPropAssignment with
  | false => rw [Bool.and_false]
  | true => rw [Node.not_isDirective_of_isPropAssignment h]; rfl

/-- A body that is one expression stays one just if the expression declares nothing. -/
theorem Node.isValueBody_withoutDeclarations {body : Node} (h : body.isValueBody = true) :
    body.withoutDeclarations.isValueBody = !body.children.any Node.isPropAssignment := by
  obtain ⟨b, parts, t, e, rfl, only⟩ := Node.isValueBody_iff.mp h
  have left := filter_statements_withoutDeclarations parts
  have declares := any_isPropAssignment_statements parts
  rw [only] at left declares
  rw [Node.withoutDeclarations_eq_map, Node.children_mk, declares]
  cases hd : (Node.mk .expressionStatement t [e]).isPropAssignment with
  | true =>
    rw [List.filter_cons_of_neg (by simp [hd])] at left
    simp [Node.isValueBody, Kind.partsWithout, Kind.isStatementList, left, hd]
  | false =>
    rw [List.filter_cons_of_pos (by simp [hd])] at left
    have value : (Node.mk .expressionStatement t [e]).withoutDeclarations
        = .mk .expressionStatement t [e.withoutDeclarations] := Node.withoutDeclarations_mk _ _ _
    simp only [List.filter_nil, List.map_cons, List.map_nil, value] at left
    simp [Node.isValueBody, Kind.partsWithout, Kind.isStatementList, left, hd]

/-- A well-formed arrow stays one just if it does not lose its expression. -/
theorem Node.holdsValue_withoutDeclarations {n : Node} (h : n.holdsValue = true) :
    n.withoutDeclarations.holdsValue = !n.losesValue := by
  obtain ⟨k, s, cs⟩ := n
  by_cases hk : ∃ form, k = .arrow form
  · obtain ⟨form, rfl⟩ := hk
    have mapped : (Node.mk (.arrow form) s cs).withoutDeclarations
        = .mk (.arrow form) s (cs.map Node.withoutDeclarations) := Node.withoutDeclarations_mk _ _ _
    rw [mapped]
    cases he : form.isExpression with
    | false =>
      have none : (Node.mk (.arrow form) s cs).losesValue = false :=
        Node.losesValue_eq_false (by simp [he]) s cs
      rw [none, Bool.not_false, Node.holdsValue_arrow_iff, he]
      intro no
      cases no
    | true =>
      obtain ⟨types, params, result, body, rfl, hb⟩ := Node.holdsValue_arrow_iff.mp h he
      simp [Node.holdsValue, Node.losesValue, he, Node.isValueBody_withoutDeclarations hb]
  · rw [not_exists] at hk
    have none : (Node.mk k s cs).losesValue = false :=
      Node.losesValue_eq_false (fun form e => absurd e (hk form)) s cs
    rw [none, Node.withoutDeclarations_mk, Node.holdsValue_of_kind hk]
    rfl

/-- A node of a tree that stands in no declaration of a statement list, so that it is left when these are
taken out. -/
inductive Node.Survives : (tree n : Node) → Prop
  | root (n : Node) : Survives n n
  | part {k : Kind} {s : Span} {cs : List Node} {c n : Node} (mem : c ∈ cs)
      (kept : k.isStatementList = true → c.isPropAssignment = false) (inside : Survives c n) :
      Survives (.mk k s cs) n

theorem Node.Survives.mem_nodes {tree n : Node} (h : tree.Survives n) : n ∈ tree.nodes := by
  induction h with
  | root n => exact n.mem_nodes_self
  | part mem _ _ ih =>
    rw [Node.nodes_mk]
    exact List.mem_cons_of_mem _ (List.mem_flatMap.mpr ⟨_, mem, ih⟩)

theorem Node.survives_mk_iff {k : Kind} {s : Span} {cs : List Node} {n : Node} :
    (Node.mk k s cs).Survives n ↔
      n = .mk k s cs ∨ ∃ c ∈ k.partsWithout Node.isPropAssignment cs, c.Survives n := by
  constructor
  · rintro (_ | ⟨mem, kept, inside⟩)
    · exact .inl rfl
    · exact .inr ⟨_, Kind.mem_partsWithout.mpr ⟨mem, kept⟩, inside⟩
  · rintro (rfl | ⟨c, hc, inside⟩)
    · exact .root _
    · obtain ⟨mem, kept⟩ := Kind.mem_partsWithout.mp hc
      exact .part mem kept inside

theorem Node.mem_nodes_withoutDeclarations (tree x : Node) :
    x ∈ tree.withoutDeclarations.nodes ↔ ∃ n, tree.Survives n ∧ x = n.withoutDeclarations := by
  induction tree using Node.induction with
  | step k s cs ih =>
    have inner : (∃ c ∈ k.partsWithout Node.isPropAssignment cs, x ∈ c.withoutDeclarations.nodes) ↔
        ∃ c ∈ k.partsWithout Node.isPropAssignment cs, ∃ n, c.Survives n ∧ x = n.withoutDeclarations :=
      exists_congr fun c => and_congr_right fun hc => ih c (Kind.mem_partsWithout.mp hc).1
    rw [Node.withoutDeclarations_eq_map, Node.nodes_mk, ← Node.withoutDeclarations_eq_map, List.mem_cons,
      List.flatMap_map, List.mem_flatMap, inner]
    constructor
    · rintro (rfl | ⟨c, hc, n, inside, rfl⟩)
      · exact ⟨_, .root _, rfl⟩
      · exact ⟨n, Node.survives_mk_iff.mpr (.inr ⟨c, hc, inside⟩), rfl⟩
    · rintro ⟨n, survives, rfl⟩
      rcases Node.survives_mk_iff.mp survives with rfl | ⟨c, hc, inside⟩
      · exact .inl rfl
      · exact .inr ⟨c, hc, n, inside, rfl⟩

/-- After declarations are taken out, all arrows have their bodies just if none that survives loses its
expression. -/
theorem Node.HoldsValues.withoutDeclarations_iff {tree : Node} (h : tree.HoldsValues) :
    tree.withoutDeclarations.HoldsValues ↔ ∀ n, tree.Survives n → n.losesValue = false := by
  constructor
  · intro left n survives
    have value := left _ ((tree.mem_nodes_withoutDeclarations _).mpr ⟨n, survives, rfl⟩)
    rw [Node.holdsValue_withoutDeclarations (h n survives.mem_nodes)] at value
    simpa using value
  · intro keep x hx
    obtain ⟨n, survives, rfl⟩ := (tree.mem_nodes_withoutDeclarations x).mp hx
    rw [Node.holdsValue_withoutDeclarations (h n survives.mem_nodes), keep n survives]
    rfl

theorem Node.HoldsValues.withoutBindings {program : Node} {hashbang : Option String}
    (hp : program.kind = .program hashbang) (h : program.HoldsValues) :
    program.withoutBindings.HoldsValues := by
  obtain ⟨k, s, cs⟩ := program
  obtain rfl : k = .program hashbang := hp
  rw [Node.holdsValues_of_kind (by simp)] at h
  rw [Node.withoutBindings, Node.withChildren_mk, Node.holdsValues_of_kind (by simp)]
  intro c hc
  exact h c (List.mem_of_mem_filter hc)

theorem Node.isAbsent_withoutDeclarations (n : Node) : n.withoutDeclarations.isAbsent = n.isAbsent := by
  obtain ⟨k, s, cs⟩ := n
  rw [Node.withoutDeclarations_eq_map, Bool.eq_iff_iff, Node.isAbsent_iff, Node.isAbsent_iff]
  refine and_congr_right ?_
  rintro (rfl : k = .absent)
  simp [Kind.partsWithout, Kind.isStatementList]

theorem Node.hasBody_withoutDeclarations {n : Node} (h : n.hasBody = true) :
    n.withoutDeclarations.hasBody = true := by
  obtain ⟨k, s, cs⟩ := n
  rw [Node.withoutDeclarations_mk]
  split
  · rename_i list
    unfold Node.hasBody
    split
    · rename_i e
      obtain ⟨rfl, -⟩ := Node.mk.inj e
      cases list
    · rename_i e
      obtain ⟨rfl, -⟩ := Node.mk.inj e
      cases list
    · rfl
  · exact Node.hasBody_map Node.isAbsent_withoutDeclarations
      (fun c => by rw [Node.kind_withoutDeclarations]) h

theorem Node.HasBodies.withoutProps {program : Node} {hashbang : Option String}
    (hp : program.kind = .program hashbang) (h : program.HasBodies) : program.withoutProps.HasBodies := by
  obtain ⟨k, s, cs⟩ := program
  obtain rfl : k = .program hashbang := hp
  intro x hx
  obtain ⟨n, survives, rfl⟩ := (Node.mem_nodes_withoutDeclarations _ x).mp hx
  refine Node.hasBody_withoutDeclarations ?_
  have mem := survives.mem_nodes
  rw [Node.withoutBindings, Node.withChildren_mk, Node.nodes_mk, List.mem_cons, List.mem_flatMap] at mem
  rcases mem with rfl | ⟨c, hc, inside⟩
  · rfl
  · refine h n ?_
    rw [Node.nodes_mk]
    exact List.mem_cons_of_mem _ (List.mem_flatMap.mpr ⟨c, List.mem_of_mem_filter hc, inside⟩)

/-! ## Annotation -/

theorem Node.isValueBody_annotate (plans : List Plan) {body : Node} (h : body.isValueBody = true) :
    (body.annotate plans).isValueBody = true := by
  obtain ⟨b, parts, t, e, rfl, only⟩ := Node.isValueBody_iff.mp h
  have same : (fun c : Node => !c.isDirective) ∘ Node.annotate plans = fun c => !c.isDirective := by
    funext c
    exact congrArg (!·) (Node.isDirective_annotate plans c)
  rw [Node.annotate_of_not_plannable rfl, Node.isValueBody_iff]
  refine ⟨b, parts.map (Node.annotate plans), t, e.annotate plans, rfl, ?_⟩
  rw [List.filter_map, same, only, List.map_singleton, Node.annotate_of_not_plannable rfl]
  rfl

theorem Node.holdsValue_map_annotate (plans : List Plan) {k : Kind} {s : Span} {cs : List Node}
    (h : (Node.mk k s cs).holdsValue = true) :
    (Node.mk k s (cs.map (Node.annotate plans))).holdsValue = true := by
  by_cases hk : ∃ form, k = .arrow form
  · obtain ⟨form, rfl⟩ := hk
    rw [Node.holdsValue_arrow_iff] at h ⊢
    intro he
    obtain ⟨types, params, result, body, rfl, hb⟩ := h he
    exact ⟨_, _, _, _, rfl, Node.isValueBody_annotate plans hb⟩
  · rw [not_exists] at hk
    exact Node.holdsValue_of_kind hk s _

theorem Plan.apply_isExpression (p : Plan) (parts : SignatureParts)
    (h : (p.apply parts).1.isExpression = true) :
    parts.isExpression = true ∧ (p.apply parts).1.body = parts.body := by
  rcases p.apply_cases parts with e | ⟨result, -, e⟩ | ⟨bound, -, e⟩ <;> rw [e] at h ⊢
  · exact ⟨h, rfl⟩
  · exact ⟨h, rfl⟩
  · cases h

theorem Plan.holdsValue_applyTo (p : Plan) {n : Node} (h : n.holdsValue = true) :
    (p.applyTo n).1.holdsValue = true := by
  fun_cases Plan.applyTo p n with
  | case1 => exact h
  | case2 => exact Node.holdsValue_of_kind (by simp) _ _
  | case3 form s types ps params result body parts reason hparts =>
    have kept := p.apply_isExpression ⟨params, result, body, form.isExpression⟩
    rw [hparts] at kept
    rw [Node.holdsValue_arrow_iff] at h ⊢
    intro he
    obtain ⟨before, same⟩ := kept he
    obtain ⟨_, _, _, value, e, hv⟩ := h before
    cases e
    exact ⟨_, _, _, _, rfl, by rw [same]; exact hv⟩
  | case4 => exact Node.holdsValue_of_kind (by simp) _ _
  | case5 => exact h

theorem Node.holdsValues_iff_every {tree : Node} :
    tree.HoldsValues ↔ tree.Every fun n => n.holdsValue = true := by
  refine forall₂_congr fun n _ => ⟨fun h _ => h, fun h => ?_⟩
  obtain ⟨k, s, cs⟩ := n
  by_cases hk : k.isPlannable = true
  · exact h hk
  · refine Node.holdsValue_of_kind (fun form => ?_) s cs
    rintro rfl
    exact hk rfl

/-- Annotation keeps all arrows well formed. -/
theorem Node.HoldsValues.annotate (plans : List Plan) {tree : Node} (h : tree.HoldsValues) :
    (tree.annotate plans).HoldsValues := by
  rw [Node.holdsValues_iff_every] at h ⊢
  refine h.annotate fun n _ holds => ?_
  obtain ⟨k, s, cs⟩ := n
  have parts := Node.holdsValue_map_annotate plans holds
  rw [Node.annotate_mk, Node.annotateHere]
  split
  · exact Plan.holdsValue_applyTo _ parts
  · exact parts

/-! ## The whole conversion -/

/-- In a program whose arrows are well formed, extraction leaves them so just if no arrow outside of what
is taken out has a declaration of props as its one expression. Annotation leaves them well formed
always. -/
theorem arrows_keep_bodies_iff {program : Node} {hashbang : Option String}
    (hp : program.kind = .program hashbang) (h : program.HoldsValues) :
    (program.withoutProps.HoldsValues ↔
        ∀ n, program.withoutBindings.Survives n → n.losesValue = false)
      ∧ ∀ plans, program.withoutProps.HoldsValues → (program.withoutProps.annotate plans).HoldsValues :=
  ⟨(h.withoutBindings hp).withoutDeclarations_iff, fun plans left => left.annotate plans⟩

/-- An arrow whose one expression declares props. -/
def declaringArrow : List Char := "const f = () => Foo.propTypes = \x7b\x7d;".toList

/-- An arrow whose one expression declares props is left without a body: some arrow that survives loses
its expression. -/
theorem declaring_arrow_loses_body : ∃ m, Module.parse declaringArrow = .ok m
    ∧ m.tree.kind = .program none ∧ m.tree.HoldsValues ∧ ¬m.tree.withoutProps.HoldsValues
    ∧ ∃ n, m.tree.withoutBindings.Survives n ∧ n.losesValue = true := by
  have run : ∃ m, Module.parse declaringArrow = .ok m
      ∧ m.tree.kind = .program none ∧ m.tree.HoldsValues ∧ ¬m.tree.withoutProps.HoldsValues := by
    decide +kernel
  obtain ⟨m, hm, program, holds, loses⟩ := run
  refine ⟨m, hm, program, holds, loses, ?_⟩
  have some : ¬∀ n, m.tree.withoutBindings.Survives n → n.losesValue = false :=
    mt (arrows_keep_bodies_iff program holds).1.mpr loses
  simpa using some

end TypedJsx
