import TypedJsx.Conversion
import TypedJsx.Proofs.Scope.Annotation
import TypedJsx.Proofs.Signature.Components
import TypedJsx.Proofs.Signature.Composition
import TypedJsx.Proofs.Signature.Kept
/-!
Names that a component declares twice. No two parameters of a function may have the same name, and none may
have that of a `const`, a `let` or a class of its body. A plan that brings in the parameter `props` does not
look whether the name is taken: by another parameter, by the pattern that moves into the body, or by the body
(`Plan.otherNames`). All other names stay apart, wherever they move (`Plan.declaresOnce_apply`).

Main statement: if all components with plans declare their names once, they do so after annotation exactly if
no component that is left brings in `props` beside another `props`.
-/
namespace TypedJsx

/-! ## Names of a component -/

/-- The names that some parameters or patterns bind. -/
def boundNames (cs : List Node) : List String := cs.flatMap fun c => c.declared.bound

/-- The names that a statement declares with `const` or `let`, or as a class. -/
def Node.lexicalNames : Node → List String
  | .mk (.variableDeclaration .constWord _) _ ds | .mk (.variableDeclaration .letWord _) _ ds =>
    boundNames ds
  | .mk (.classNode form) _ [_, name, _, _, _, _, _] =>
    if form.isExpression then [] else name.declared.bound
  | _ => []

/-- The names that the statements of a function body declare with `const` or `let`, or as classes. -/
def Node.bodyNames : Node → List String
  | .mk .functionBody _ parts => parts.flatMap Node.lexicalNames
  | _ => []

/-- The parameters have different names, and none has that of a `const`, a `let` or a class of the body. -/
def DeclaresOnce (params : List Node) (body : Node) : Prop :=
  (boundNames params).Nodup ∧ ∀ x ∈ boundNames params, x ∉ body.bodyNames

instance (params : List Node) (body : Node) : Decidable (DeclaresOnce params body) :=
  inferInstanceAs (Decidable (_ ∧ _))

/-- The parameters and the body of a function or an arrow. -/
def Node.signature? : Node → Option (List Node × Node)
  | .mk (.function _) _ [_, _, _, .mk .parameters _ params, _, body] => some (params, body)
  | .mk (.arrow _) _ [_, .mk .parameters _ params, _, body] => some (params, body)
  | _ => none

/-- A function or arrow that declares no name twice. -/
def Node.DeclaresOnce (n : Node) : Prop := ∀ s ∈ n.signature?, TypedJsx.DeclaresOnce s.1 s.2

instance (n : Node) : Decidable n.DeclaresOnce :=
  inferInstanceAs (Decidable (∀ s ∈ n.signature?, TypedJsx.DeclaresOnce s.1 s.2))

/-! ## Components that declare `props` twice -/

/-- Whether a change brings in the parameter `props`. -/
def ParameterChange.bringsProps : ParameterChange → Bool
  | .add | .replace | .moveToBody => true
  | _ => false

/-- The names that are declared beside a parameter `props` that a plan brings in: those of what is left of
the parameters, where the pattern of the first one may now be bound in the body, and those of the body. -/
def Plan.otherNames (p : Plan) (isExpression : Bool) (params : List Node) (body : Node) : List String :=
  let left := p.remainder isExpression params body
  boundNames (left.parameters params)
    ++ if isExpression && left == .onlyPattern then [] else body.bodyNames

/-- Whether a plan brings in the parameter `props` beside another `props`. -/
def Plan.clashesIn (p : Plan) (isExpression : Bool) (params : List Node) (body : Node) : Bool :=
  (ParameterChange.of p.isDeclared params).bringsProps
    && (p.otherNames isExpression params body).contains propsName

/-- Whether a plan makes a function or an arrow declare `props` twice. -/
def Plan.clashes (p : Plan) : Node → Bool
  | .mk (.function _) _ [_, _, _, .mk .parameters _ params, _, body] =>
    !body.isAbsent && p.clashesIn false params body
  | .mk (.arrow form) _ [_, .mk .parameters _ params, _, body] => p.clashesIn form.isExpression params body
  | _ => false

/-- Whether the plan for a node, if there is one, makes it declare `props` twice. -/
def Node.clashes (plans : List Plan) (n : Node) : Bool := (n.plan? plans).any fun p => p.clashes n

/-! ## Names of parameters and bodies -/

@[simp] theorem boundNames_nil : boundNames [] = [] := rfl

@[simp] theorem boundNames_cons (c : Node) (cs : List Node) :
    boundNames (c :: cs) = c.declared.bound ++ boundNames cs := rfl

@[simp] theorem boundNames_append (cs ds : List Node) :
    boundNames (cs ++ ds) = boundNames cs ++ boundNames ds :=
  List.flatMap_append

@[simp] theorem declared_bound_parameter (m : Modifiers) (s : Span) (ds pattern type value : Node) :
    (Node.mk (.parameter m) s [ds, pattern, type, value]).declared.bound = pattern.declared.bound := rfl

@[simp] theorem Plan.declared_bound_propsParameter (p : Plan) :
    p.propsParameter.declared.bound = [propsName] := rfl

@[simp] theorem Node.lexicalNames_propsBinding (pattern : Node) :
    (propsBinding pattern).lexicalNames = pattern.declared.bound :=
  List.append_nil _

theorem mem_lexicalNames_prependStatement {statement : Node} {parts : List Node} {x : String} :
    x ∈ (prependStatement statement parts).flatMap Node.lexicalNames
      ↔ x ∈ statement.lexicalNames ∨ x ∈ parts.flatMap Node.lexicalNames := by
  have split : parts.flatMap Node.lexicalNames = (parts.takeWhile Node.isDirective).flatMap Node.lexicalNames
      ++ (parts.dropWhile Node.isDirective).flatMap Node.lexicalNames := by
    rw [← List.flatMap_append, List.takeWhile_append_dropWhile]
  rw [prependStatement, List.flatMap_append, List.flatMap_cons, split]
  simp only [List.mem_append]
  exact or_left_comm

theorem mem_bodyNames_bindInBody? {body pattern bound : Node} {isExpression : Bool} {x : String}
    (h : body.bindInBody? pattern isExpression = some bound) :
    x ∈ bound.bodyNames
      ↔ x ∈ pattern.declared.bound ∨ x ∈ if isExpression then [] else body.bodyNames := by
  unfold Node.bindInBody? at h
  split at h
  · cases isExpression with
    | true =>
      obtain ⟨e, -, rfl⟩ := Option.map_eq_some_iff.mp h
      have value : (Node.fresh .returnStatement [e]).lexicalNames = [] := rfl
      simp [Node.bodyNames, value]
    | false =>
      cases h
      rw [Node.bodyNames, mem_lexicalNames_prependStatement, Node.lexicalNames_propsBinding]
      rfl
  · cases h

/-! ## What a plan does to the names -/

/-- With `props` in front, parameters declare their names once exactly if they do without it, and no other
name is `props`. -/
theorem declaresOnce_propsParameter_cons (p : Plan) (rest : List Node) (body : Node) :
    DeclaresOnce (p.propsParameter :: rest) body
      ↔ DeclaresOnce rest body ∧ propsName ∉ boundNames rest ∧ propsName ∉ body.bodyNames := by
  simp only [DeclaresOnce, boundNames_cons, Plan.declared_bound_propsParameter, List.singleton_append,
    List.nodup_cons, List.forall_mem_cons]
  tauto

/-- A plan keeps the names of a signature apart exactly if it does not bring in `props` beside another
one. -/
theorem Plan.declaresOnce_apply (p : Plan) {params : List Node} {body : Node}
    (h : DeclaresOnce params body) (result : Node) (isExpression : Bool) :
    DeclaresOnce (p.apply ⟨params, result, body, isExpression⟩).1.params
        (p.apply ⟨params, result, body, isExpression⟩).1.body
      ↔ p.clashesIn isExpression params body = false := by
  rcases ParameterChange.of_cases p.isDeclared params with ⟨rfl, hc⟩ | ⟨-, hc | ⟨reason, hc⟩⟩ |
    ⟨m, s, ds, pattern, type, value, rest, rfl, -, ⟨-, hc⟩ | ⟨-, hc | hc⟩⟩
  · -- `props` is the only parameter
    have once : DeclaresOnce [] body := ⟨List.nodup_nil, by simp⟩
    have clash : p.clashesIn isExpression [] body = body.bodyNames.contains propsName := by
      simp [Plan.clashesIn, Plan.otherNames, Plan.remainder, hc, ParameterChange.bringsProps,
        Remainder.parameters]
    simp only [Plan.apply, hc, Plan.parameters, List.nil_append]
    rw [declaresOnce_propsParameter_cons, clash]
    simp [once]
  · simp [Plan.apply, hc, Plan.parameters, Plan.clashesIn, ParameterChange.bringsProps, h]
  · simp [Plan.apply, hc, Plan.clashesIn, ParameterChange.bringsProps, h]
  · -- a type does not change the names
    simp only [Plan.apply, hc, Plan.parameters, Node.withParameterType, Plan.clashesIn,
      ParameterChange.bringsProps, Bool.false_and, iff_true]
    exact h
  · -- `props` stands in the place of the first parameter
    have once : DeclaresOnce rest body :=
      ⟨(List.nodup_append.mp h.1).2.1, fun x hx => h.2 x (List.mem_append_right _ hx)⟩
    have clash : p.clashesIn isExpression (.mk (.parameter m) s [ds, pattern, type, value] :: rest) body
        = (boundNames rest ++ body.bodyNames).contains propsName := by
      simp [Plan.clashesIn, Plan.otherNames, Plan.remainder, hc, ParameterChange.bringsProps,
        Remainder.parameters]
    simp only [Plan.apply, hc, Plan.parameters]
    rw [declaresOnce_propsParameter_cons, clash]
    simp [once]
  · -- the pattern of the first parameter is bound in the body, if that can be done
    obtain ⟨nodup, apart⟩ := h
    rw [boundNames_cons, declared_bound_parameter, List.nodup_append] at nodup
    simp only [boundNames_cons, declared_bound_parameter, List.forall_mem_append] at apart
    have binds : ∀ pattern', (body.bindInBody? pattern' isExpression).isSome
        = (body.bindInBody? .absent isExpression).isSome := fun pattern' =>
      body.isSome_bindInBody? pattern' .absent isExpression
    simp only [Plan.apply, hc, Plan.parameters, List.headD_cons, Node.parameterPattern, Plan.clashesIn,
      Plan.otherNames, Plan.remainder, ParameterChange.bringsProps, Bool.true_and, ← binds pattern]
    cases hb : body.bindInBody? pattern isExpression with
    | none =>
      have once : DeclaresOnce rest body := ⟨nodup.2.1, apart.2⟩
      simp only
      rw [declaresOnce_propsParameter_cons]
      simp [once, Remainder.parameters]
    | some bound =>
      have names : ∀ x, x ∈ bound.bodyNames
          ↔ x ∈ pattern.declared.bound ∨ x ∈ if isExpression then [] else body.bodyNames :=
        fun x => mem_bodyNames_bindInBody? hb
      have once : DeclaresOnce rest bound := by
        refine ⟨nodup.2.1, fun x hx hb => ?_⟩
        -- what moved was kept apart from the other parameters before, when it was one of them
        rcases (names x).mp hb with moved | stayed
        · exact nodup.2.2 x moved x hx rfl
        · cases isExpression with
          | true => cases stayed
          | false => exact apart.2 x hx stayed
      simp only
      rw [declaresOnce_propsParameter_cons, names]
      cases isExpression <;> simp [once, Remainder.parameters]

theorem Plan.declaresOnce_applyTo (p : Plan) {n : Node} (h : n.DeclaresOnce) :
    (p.applyTo n).1.DeclaresOnce ↔ p.clashes n = false := by
  fun_cases Plan.applyTo p n with
  | case1 form s name types this ps params result body absent =>
    simp [Plan.clashes, absent, h]
  | case2 form s name types this ps params result body present parts reason hparts =>
    have once : TypedJsx.DeclaresOnce params body := h _ rfl
    have apply := p.declaresOnce_apply once result false
    rw [hparts] at apply
    simpa [Node.DeclaresOnce, Node.signature?, Plan.clashes, present] using apply
  | case3 form s types ps params result body parts reason hparts =>
    have once : TypedJsx.DeclaresOnce params body := h _ rfl
    have apply := p.declaresOnce_apply once result form.isExpression
    rw [hparts] at apply
    simpa [Node.DeclaresOnce, Node.signature?, Plan.clashes] using apply
  | case4 form s ds name types base baseTypes implemented body filled =>
    simp [Node.DeclaresOnce, Node.signature?, Plan.clashes]
  | case5 n hf ha hc =>
    have none : p.clashes n = false := by
      unfold Plan.clashes
      split
      · exact (hf _ _ _ _ _ _ _ _ _ rfl).elim
      · exact (ha _ _ _ _ _ _ _ rfl).elim
      · rfl
    simp [none, h]

/-! ## Annotated parts -/

section
variable (plans : List Plan)

@[simp] theorem boundNames_map_annotate (cs : List Node) :
    boundNames (cs.map (Node.annotate plans)) = boundNames cs := by
  simp [boundNames, List.flatMap_map]

theorem Plan.lexicalNames_applyTo (p : Plan) (n : Node) :
    (p.applyTo n).1.lexicalNames = n.lexicalNames := by
  fun_cases Plan.applyTo p n <;> rfl

@[simp] theorem Node.lexicalNames_annotate (n : Node) :
    (n.annotate plans).lexicalNames = n.lexicalNames := by
  obtain ⟨k, s, cs⟩ := n
  have parts : (Node.mk k s (cs.map (Node.annotate plans))).lexicalNames = (Node.mk k s cs).lexicalNames := by
    cases k with
    | variableDeclaration word isDeclare => cases word <;> simp [Node.lexicalNames]
    | classNode form =>
      rcases cs with _ | ⟨a, _ | ⟨b, _ | ⟨c, _ | ⟨d, _ | ⟨e, _ | ⟨f, _ | ⟨g, _ | ⟨h, cs⟩⟩⟩⟩⟩⟩⟩⟩ <;>
        simp [Node.lexicalNames]
    | _ => rfl
  rw [Node.annotate_mk, Node.annotateHere]
  split
  · exact (Plan.lexicalNames_applyTo _ _).trans parts
  · exact parts

@[simp] theorem Node.bodyNames_annotate (body : Node) :
    (body.annotate plans).bodyNames = body.bodyNames := by
  have none : ∀ {n : Node}, n.kind ≠ .functionBody → n.bodyNames = [] := by
    intro n h
    unfold Node.bodyNames
    split
    · exact absurd rfl h
    · rfl
  obtain ⟨k, s, parts⟩ := body
  by_cases hk : k = .functionBody
  · rw [hk, Node.annotate_of_not_plannable rfl]
    simp [Node.bodyNames, List.flatMap_map]
  · rw [none (n := .mk k s parts) hk, none]
    rwa [Ne, Node.kind_annotate_iff rfl]

theorem Node.signature?_annotateParts (n : Node) :
    (n.annotateParts plans).signature?
      = n.signature?.map fun s => (s.1.map (Node.annotate plans), s.2.annotate plans) := by
  have params : ∀ ps ds, (Node.mk .parameters ps ds).annotate plans
      = .mk .parameters ps (ds.map (Node.annotate plans)) :=
    Node.annotate_of_not_plannable rfl plans
  fun_cases Node.signature? n with
  | case1 => simp [Node.signature?, params]
  | case2 => simp [Node.signature?, params]
  | case3 n hf ha =>
    obtain ⟨k, s, cs⟩ := n
    rw [Node.annotateParts_mk, Option.map_none]
    unfold Node.signature?
    split
    · rename_i e
      obtain ⟨rfl, -, e⟩ := Node.mk.inj e
      obtain ⟨_, _, _, _, _, _, rfl⟩ := function_parts_of_annotate e
      exact (hf _ _ _ _ _ _ _ _ _ rfl).elim
    · rename_i e
      obtain ⟨rfl, -, e⟩ := Node.mk.inj e
      obtain ⟨_, _, _, _, rfl⟩ := arrow_parts_of_annotate e
      exact (ha _ _ _ _ _ _ _ rfl).elim
    · rfl

theorem Node.declaresOnce_annotateParts (n : Node) :
    (n.annotateParts plans).DeclaresOnce ↔ n.DeclaresOnce := by
  rw [Node.DeclaresOnce, Node.DeclaresOnce, Node.signature?_annotateParts]
  cases n.signature? with
  | none => simp
  | some s => simp [TypedJsx.DeclaresOnce]

/-- A component declares its names once after annotation exactly if its plan does not clash with them. -/
theorem Node.declaresOnce_annotate {n : Node} (planned : (n.plan? plans).isSome = true)
    (h : n.DeclaresOnce) : (n.annotate plans).DeclaresOnce ↔ n.clashes plans = false := by
  obtain ⟨p, hp⟩ := Option.isSome_iff_exists.mp planned
  rw [Node.annotate_outer_first, Node.declaresOnce_annotateParts, Node.annotateHere, Node.clashes, hp]
  exact p.declaresOnce_applyTo h

end

/-! ## Whole programs -/

/-- The functions and arrows that have plans declare each of their names once. -/
def Node.PlannedDeclareOnce (plans : List Plan) (program : Node) : Prop :=
  ∀ n ∈ program.nodes, (n.plan? plans).isSome = true → n.DeclaresOnce

instance (plans : List Plan) (program : Node) : Decidable (program.PlannedDeclareOnce plans) :=
  inferInstanceAs (Decidable (∀ n ∈ program.nodes, (n.plan? plans).isSome = true → n.DeclaresOnce))

/-- If the functions and arrows that have plans declare each of their names once, they do so in the annotated
program exactly if no plan brings in the parameter `props`, added, in the place of another or before a pattern
that moves into the body, for a component that is still there and has another `props`: a parameter that is
left, the rest included, a name of the pattern, or a `const`, `let` or class of its body. -/
theorem annotate_declares_once_iff {plans : List Plan} {program : Node}
    (h : program.PlannedDeclareOnce plans) :
    (program.annotate plans).PlannedDeclareOnce plans ↔
      ∀ n ∈ program.nodes, n.annotate plans ∈ (program.annotate plans).nodes →
        n.clashes plans = false := by
  have plan : ∀ n : Node, (n.annotate plans).plan? plans = n.plan? plans := by
    intro n
    simp [Node.plan?]
  constructor
  · intro once n hn left
    cases hp : n.plan? plans with
    | none => simp [Node.clashes, hp]
    | some p =>
      have planned : (n.plan? plans).isSome = true := by simp [hp]
      exact (Node.declaresOnce_annotate plans planned (h n hn planned)).mp
        (once _ left (by rwa [plan]))
  · intro apart x hx planned
    have plannable : x.kind.isPlannable = true := by
      obtain ⟨p, hp⟩ := Option.isSome_iff_exists.mp planned
      exact (Node.mem_of_plan? hp).2.2
    -- every planned component of the annotated program is one of the program, annotated
    obtain ⟨n, hn, -, rfl⟩ := Node.exists_of_mem_nodes_annotate hx plannable
    rw [plan] at planned
    exact (Node.declaresOnce_annotate plans planned (h n hn planned)).mpr (apart n hn hx)

/-- A component without parameters that makes its own `props`. -/
def ownPropsSource : List Char :=
  "function Foo() \x7b\n  const props = useProps();\n  return <b \x7b...props\x7d/>;\n\x7d\n".toList

/-- The parameter `props` is added to a component that declares a `const` of that name. -/
theorem own_props_declared_twice : ∃ m, Module.parse ownPropsSource = .ok m
    ∧ m.tree.PlannedDeclareOnce (m.plans {})
    ∧ ¬(m.tree.annotate (m.plans {})).PlannedDeclareOnce (m.plans {})
    ∧ ∃ n ∈ m.tree.nodes, n.clashes (m.plans {}) = true := by
  have run : ∃ m, Module.parse ownPropsSource = .ok m ∧ m.tree.PlannedDeclareOnce (m.plans {})
      ∧ ¬(m.tree.annotate (m.plans {})).PlannedDeclareOnce (m.plans {}) := by
    decide +kernel
  obtain ⟨m, hm, once, twice⟩ := run
  refine ⟨m, hm, once, twice, ?_⟩
  have clash := mt (annotate_declares_once_iff once).mpr twice
  push Not at clash
  obtain ⟨n, hn, -, clash⟩ := clash
  exact ⟨n, hn, by simpa using clash⟩

end TypedJsx
