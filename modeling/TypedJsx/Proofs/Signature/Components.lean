import TypedJsx.Proofs.Signature.Basic
/-!
The functions, arrows and classes of an annotated tree. Annotation moves parts of a component, drops some
and adds new ones, but nothing that it adds holds a function, an arrow or a class. So what all of them have
in the parts of a node, they have in the node with its plan carried out (`Plan.every_children_applyTo`);
and each one of an annotated tree is what annotation makes of one of the tree (`Node.Every.annotate`,
`Node.exists_of_mem_nodes_annotate`).
-/
namespace TypedJsx

/-- Every function, arrow and class of a tree has a property. -/
def Node.Every (P : Node → Prop) (tree : Node) : Prop :=
  ∀ n ∈ tree.nodes, n.kind.isPlannable = true → P n

section
variable {P : Node → Prop}

theorem Node.every_mk {k : Kind} {s : Span} {cs : List Node} : (Node.mk k s cs).Every P ↔
    (k.isPlannable = true → P (.mk k s cs)) ∧ ∀ c ∈ cs, c.Every P := by
  rw [Node.Every, Node.nodes_mk, List.forall_mem_cons, List.forall_mem_flatMap]
  rfl

theorem Node.every_of_not_plannable {k : Kind} (h : k.isPlannable = false) {s : Span} {cs : List Node} :
    (Node.mk k s cs).Every P ↔ ∀ c ∈ cs, c.Every P := by
  rw [Node.every_mk, h]
  simp

theorem Node.Every.child {k : Kind} {s : Span} {cs : List Node} {c : Node}
    (h : (Node.mk k s cs).Every P) (mem : c ∈ cs) : c.Every P :=
  (Node.every_mk.mp h).2 c mem

/-! ## New parts -/

theorem Plan.every_interfaceType (p : Plan) : p.interfaceType.Every P := by
  simp [Plan.interfaceType, Node.fresh, Node.absent, Node.Every, Kind.isPlannable]

theorem Plan.every_propsParameter (p : Plan) : p.propsParameter.Every P := by
  have type : p.interfaceType.Every P := p.every_interfaceType
  simp [Plan.propsParameter, Node.fresh, Node.absent, Node.every_mk, Kind.isPlannable, type]

theorem every_elementType : elementType.Every P := by
  simp [elementType, Node.fresh, Node.absent, Node.Every, Kind.isPlannable]

theorem every_propsBinding {pattern : Node} (h : pattern.Every P) : (propsBinding pattern).Every P := by
  simp [propsBinding, Node.fresh, Node.absent, Node.every_mk, Kind.isPlannable, h]

/-! ## What a plan makes of the parts of a component -/

theorem Node.Every.parameterPattern {n : Node} (h : n.Every P) : n.parameterPattern.Every P := by
  unfold Node.parameterPattern
  split
  · exact h.child (by simp)
  · exact h

theorem Node.Every.withParameterType {n type : Node} (h : n.Every P) (ht : type.Every P) :
    (n.withParameterType type).Every P := by
  unfold Node.withParameterType
  split
  · rw [Node.every_of_not_plannable rfl] at h ⊢
    simp only [List.forall_mem_cons] at h ⊢
    exact ⟨h.1, h.2.1, ht, h.2.2.2⟩
  · exact h

theorem Plan.every_parameters (p : Plan) (change : ParameterChange) {params : List Node}
    (h : ∀ c ∈ params, c.Every P) : ∀ c ∈ p.parameters change params, c.Every P := by
  have props : p.propsParameter.Every P := p.every_propsParameter
  unfold Plan.parameters
  split
  · rw [List.forall_mem_append, List.forall_mem_singleton]
    exact ⟨h, props⟩
  · rw [List.forall_mem_cons] at h ⊢
    exact ⟨props, h.2⟩
  · rw [List.forall_mem_cons] at h ⊢
    exact ⟨props, h.2⟩
  · rw [List.forall_mem_cons] at h ⊢
    exact ⟨h.1.withParameterType p.every_interfaceType, h.2⟩
  · exact h

theorem every_bindInBody? {body pattern bound : Node} {isExpression : Bool} (h : body.Every P)
    (hp : pattern.Every P) (hb : body.bindInBody? pattern isExpression = some bound) : bound.Every P := by
  have binding := every_propsBinding hp
  unfold Node.bindInBody? at hb
  split at hb
  · rename_i s parts
    rw [Node.every_of_not_plannable rfl] at h
    split at hb
    · obtain ⟨e, he, rfl⟩ := Option.map_eq_some_iff.mp hb
      obtain ⟨t, mem⟩ := mem_of_firstValue? he
      have value : e.Every P := (h _ mem).child (by simp)
      simp [Node.every_mk, Node.fresh, Kind.isPlannable, binding, value]
    · cases hb
      rw [Node.every_of_not_plannable rfl, prependStatement, List.forall_mem_append, List.forall_mem_cons]
      refine ⟨fun c hc => h c (List.takeWhile_subset _ hc), binding, fun c hc => ?_⟩
      exact h c (List.dropWhile_subset _ hc)
  · cases hb

/-- Every function, arrow and class in the parts of a signature has a property. -/
structure SignatureParts.Every (P : Node → Prop) (parts : SignatureParts) : Prop where
  params : ∀ c ∈ parts.params, c.Every P
  result : parts.result.Every P
  body : parts.body.Every P

theorem SignatureParts.Every.apply {parts : SignatureParts} (h : parts.Every P) (p : Plan) :
    (p.apply parts).1.Every P := by
  have params := p.every_parameters (ParameterChange.of p.isDeclared parts.params) h.params
  have filled : (if parts.result.isPresent then parts.result else elementType).Every P := by
    split
    · exact h.result
    · exact every_elementType
  have first : (parts.params.headD .absent).Every P := by
    cases hp : parts.params with
    | nil => simp [Node.absent, Node.every_mk, Kind.isPlannable]
    | cons first rest => exact h.params first (by simp [hp])
  rcases p.apply_cases parts with e | ⟨result, rfl | rfl, e⟩ | ⟨bound, hb, e⟩ <;> rw [e]
  · exact h
  · exact ⟨params, h.result, h.body⟩
  · exact ⟨params, filled, h.body⟩
  · exact ⟨params, filled, every_bindInBody? h.body first.parameterPattern hb⟩

theorem Plan.every_children_applyTo (p : Plan) {n : Node} (h : ∀ c ∈ n.children, c.Every P) :
    ∀ c ∈ (p.applyTo n).1.children, c.Every P := by
  fun_cases Plan.applyTo p n with
  | case1 => exact h
  | case2 form s name types this ps params result body present parts reason hparts =>
    simp only [Node.children_mk, List.forall_mem_cons,
      Node.every_of_not_plannable (k := .parameters) rfl] at h ⊢
    obtain ⟨hn, ht, hthis, hp, hr, hb, -⟩ := h
    have before : SignatureParts.Every P ⟨params, result, body, false⟩ := ⟨hp, hr, hb⟩
    have after := before.apply p
    rw [hparts] at after
    exact ⟨hn, ht, hthis, after.params, after.result, after.body, by simp⟩
  | case3 form s types ps params result body parts reason hparts =>
    simp only [Node.children_mk, List.forall_mem_cons,
      Node.every_of_not_plannable (k := .parameters) rfl] at h ⊢
    obtain ⟨ht, hp, hr, hb, -⟩ := h
    have before : SignatureParts.Every P ⟨params, result, body, form.isExpression⟩ := ⟨hp, hr, hb⟩
    have after := before.apply p
    rw [hparts] at after
    exact ⟨ht, after.params, after.result, after.body, by simp⟩
  | case4 form s ds name types base baseTypes implemented body filled =>
    simp only [Node.children_mk, List.forall_mem_cons] at h ⊢
    obtain ⟨hd, hn, ht, hb, hbt, hi, hbody, -⟩ := h
    refine ⟨hd, hn, ht, hb, ?_, hi, hbody, by simp⟩
    simp only [filled]
    split
    · exact hbt
    · have type : p.interfaceType.Every P := p.every_interfaceType
      simp [Node.fresh, Node.every_mk, Kind.isPlannable, type]
  | case5 => exact h

end

/-! ## Annotated trees -/

/-- What annotation makes of every function, arrow and class of a tree, all of the annotated tree are. -/
theorem Node.Every.annotate {P Q : Node → Prop} {plans : List Plan} {tree : Node} (h : tree.Every P)
    (step : ∀ n, n.kind.isPlannable = true → P n → Q (n.annotate plans)) :
    (tree.annotate plans).Every Q := by
  induction tree using Node.induction with
  | step k s cs ih =>
    obtain ⟨own, inner⟩ := Node.every_mk.mp h
    have parts : ∀ c ∈ cs.map (Node.annotate plans), c.Every Q := by
      rw [List.forall_mem_map]
      exact fun c hc => ih c hc (inner c hc)
    have children : ∀ c ∈ ((Node.mk k s cs).annotate plans).children, c.Every Q := by
      rw [Node.annotate_mk, Node.annotateHere]
      split
      · exact Plan.every_children_applyTo _ parts
      · exact parts
    have plannable := Node.isPlannable_annotate plans (Node.mk k s cs)
    have done := step (.mk k s cs)
    revert children plannable done
    generalize (Node.mk k s cs).annotate plans = n
    obtain ⟨k', s', ds⟩ := n
    intro children plannable done
    refine Node.every_mk.mpr ⟨fun hk => ?_, children⟩
    have before : k.isPlannable = true := plannable.symm.trans hk
    exact done before (own before)

theorem Node.exists_of_mem_nodes_annotate {plans : List Plan} {tree x : Node}
    (mem : x ∈ (tree.annotate plans).nodes) (plannable : x.kind.isPlannable = true) :
    ∃ n ∈ tree.nodes, n.kind.isPlannable = true ∧ n.annotate plans = x := by
  have own : tree.Every fun n => n ∈ tree.nodes ∧ n.kind.isPlannable = true := fun n mem h => ⟨mem, h⟩
  have all : (tree.annotate plans).Every fun x => ∃ n ∈ tree.nodes,
      n.kind.isPlannable = true ∧ n.annotate plans = x :=
    own.annotate fun n _ h => ⟨n, h.1, h.2, rfl⟩
  exact all x mem plannable

end TypedJsx
