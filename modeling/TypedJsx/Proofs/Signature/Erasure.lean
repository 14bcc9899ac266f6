import TypedJsx.Conversion
import TypedJsx.Proofs.Scope.Annotation
/-!
Trees without the types of their signatures. Where no props are declared, annotation writes the type of a
first parameter, a return type or the type argument of a base class, and the parameter `props` where a
component has none (`Plan.withoutSignatureTypes_applyTo`). So what it does can be erased again: nothing else
of the tree is touched.

Main statement: without the types of its signatures, the annotated tree is the tree as it was without its
own, in which each function with a body and each arrow that has a plan and no parameters takes `props`.
-/
namespace TypedJsx

/-! ## Erasure -/

/-- The position among the parts of a node at which annotation may write a type: the type of a parameter,
the return type of a function or arrow, the type arguments of the base of a class. -/
def Kind.typeAt? : Kind → Option Nat
  | .parameter _ | .arrow _ => some 2
  | .function _ | .classNode _ => some 4
  | _ => none

/-- The parts of a node without the type that annotation may write. -/
def Kind.eraseType (k : Kind) (parts : List Node) : List Node :=
  match k.typeAt? with
  | some i => parts.set i .absent
  | none => parts

mutual

/-- The tree without the types of its parameters, the return types of its functions and arrows, and the
type arguments of the bases of its classes. Types in which annotation never writes stay: those of rest and
`this` parameters, and all that stand in other types. -/
def Node.withoutSignatureTypes : Node → Node
  | .mk k s cs => .mk k s (k.eraseType (withoutSignatureTypesList cs))

def withoutSignatureTypesList : List Node → List Node
  | [] => []
  | c :: cs => c.withoutSignatureTypes :: withoutSignatureTypesList cs

end

/-- The parameter `props` without a type. -/
def plainPropsParameter : Node :=
  .fresh (.parameter {}) [.fresh .decorators [], .fresh (.binding propsName) [], .absent, .absent]

/-- A function or an arrow with one more parameter. -/
def Node.withParameter (n parameter : Node) : Node :=
  match n with
  | .mk (.function form) s [name, types, this, .mk .parameters ps params, result, body] =>
    .mk (.function form) s [name, types, this, .mk .parameters ps (params ++ [parameter]), result, body]
  | .mk (.arrow form) s [types, .mk .parameters ps params, result, body] =>
    .mk (.arrow form) s [types, .mk .parameters ps (params ++ [parameter]), result, body]
  | n => n

/-- A node with the parameter `props`, if it is one that gets it. -/
def Node.givenPropsHere (plans : List Plan) (n : Node) : Node :=
  if n.getsProps plans then n.withParameter plainPropsParameter else n

mutual

/-- The tree in which every function with a body and every arrow that has a plan and no parameters, a rest
included, takes `props`. -/
def Node.givenProps (plans : List Plan) : Node → Node
  | .mk k s cs => (Node.mk k s (givenPropsList plans cs)).givenPropsHere plans

def givenPropsList (plans : List Plan) : List Node → List Node
  | [] => []
  | c :: cs => c.givenProps plans :: givenPropsList plans cs

end

theorem withoutSignatureTypesList_eq_map (cs : List Node) :
    withoutSignatureTypesList cs = cs.map Node.withoutSignatureTypes := by
  induction cs with
  | nil => rfl
  | cons c cs ih => simp [withoutSignatureTypesList, ih]

theorem Node.withoutSignatureTypes_mk (k : Kind) (s : Span) (cs : List Node) :
    (Node.mk k s cs).withoutSignatureTypes
      = .mk k s (k.eraseType (cs.map Node.withoutSignatureTypes)) := by
  rw [Node.withoutSignatureTypes, withoutSignatureTypesList_eq_map]

theorem givenPropsList_eq_map (plans : List Plan) (cs : List Node) :
    givenPropsList plans cs = cs.map (Node.givenProps plans) := by
  induction cs with
  | nil => rfl
  | cons c cs ih => simp [givenPropsList, ih]

theorem Node.givenProps_mk (plans : List Plan) (k : Kind) (s : Span) (cs : List Node) :
    (Node.mk k s cs).givenProps plans
      = (Node.mk k s (cs.map (Node.givenProps plans))).givenPropsHere plans := by
  rw [Node.givenProps, givenPropsList_eq_map]

theorem Kind.map_eraseType {f : Node → Node} (h : f .absent = .absent) (k : Kind) (parts : List Node) :
    (k.eraseType parts).map f = k.eraseType (parts.map f) := by
  unfold Kind.eraseType
  split
  · rw [List.map_set, h]
  · rfl

/-! ## What erasure keeps -/

@[simp] theorem Node.isAbsent_withoutSignatureTypes (n : Node) :
    n.withoutSignatureTypes.isAbsent = n.isAbsent := by
  obtain ⟨k, s, cs⟩ := n
  rw [Bool.eq_iff_iff, Node.isAbsent_iff, Node.isAbsent_iff, Node.withoutSignatureTypes_mk]
  refine and_congr_right fun hk => ?_
  obtain rfl : k = .absent := hk
  exact List.map_eq_nil_iff

@[simp] theorem Node.hasNoParameters_withoutSignatureTypes (n : Node) :
    n.withoutSignatureTypes.hasNoParameters = n.hasNoParameters := by
  obtain ⟨k, s, cs⟩ := n
  rw [Node.withoutSignatureTypes_mk]
  by_cases hk : k = .parameters
  · subst hk
    cases cs <;> rfl
  · have no : ∀ ds, (Node.mk k s ds).hasNoParameters = false := by
      intro ds
      unfold Node.hasNoParameters
      split
      · rename_i e
        cases e
        exact absurd rfl hk
      · rfl
    rw [no, no]

theorem Node.takesProps_withoutSignatureTypes (n : Node) :
    n.withoutSignatureTypes.takesProps = n.takesProps := by
  obtain ⟨k, s, cs⟩ := n
  rw [Node.withoutSignatureTypes_mk]
  cases k with
  | function =>
    rcases cs with _ | ⟨a, _ | ⟨b, _ | ⟨c, _ | ⟨d, _ | ⟨e, _ | ⟨f, _ | ⟨g, cs⟩⟩⟩⟩⟩⟩⟩ <;>
      simp [Kind.eraseType, Kind.typeAt?, Node.takesProps]
  | arrow =>
    rcases cs with _ | ⟨a, _ | ⟨b, _ | ⟨c, _ | ⟨d, _ | ⟨e, cs⟩⟩⟩⟩⟩ <;>
      simp [Kind.eraseType, Kind.typeAt?, Node.takesProps]
  | _ => rfl

/-! ## Components -/

theorem Node.hasNoParameters_parameters (ps : Span) (params : List Node) :
    (Node.mk .parameters ps params).hasNoParameters = params.isEmpty := by
  cases params <;> rfl

/-- Without declared props, a plan changes no more of a signature than its result and the types of its
parameters, except that an empty list of parameters gets `props`. -/
theorem Plan.apply_erasable {p : Plan} (undeclared : p.isDeclared = false) (parts : SignatureParts) :
    ∃ params result, (p.apply parts).1 = { parts with params := params, result := result }
      ∧ params.map Node.withoutSignatureTypes
        = parts.params.map Node.withoutSignatureTypes
          ++ if parts.params.isEmpty then [plainPropsParameter] else [] := by
  obtain ⟨params, result, body, isExpression⟩ := parts
  rcases ParameterChange.of_cases p.isDeclared params with ⟨rfl, hc⟩ | ⟨hne, hc | ⟨reason, hc⟩⟩ |
    ⟨m, s, ds, pattern, type, value, rest, rfl, -, ⟨-, hc⟩ | ⟨declared, -⟩⟩
  · refine ⟨[p.propsParameter], if result.isPresent then result else elementType, ?_, rfl⟩
    simp only [Plan.apply, hc, Plan.parameters, List.nil_append]
  · refine ⟨params, if result.isPresent then result else elementType, ?_, by simp [hne]⟩
    simp only [Plan.apply, hc, Plan.parameters]
  · refine ⟨params, result, ?_, by simp [hne]⟩
    simp only [Plan.apply, hc]
  · -- the type that the first parameter gets is erased again
    refine ⟨.mk (.parameter m) s [ds, pattern, p.interfaceType, value] :: rest,
      if result.isPresent then result else elementType, ?_, ?_⟩
    · simp only [Plan.apply, hc, Plan.parameters, Node.withParameterType]
    · simp [Node.withoutSignatureTypes_mk, Kind.eraseType, Kind.typeAt?]
  · rw [undeclared] at declared
    cases declared

theorem Plan.withoutSignatureTypes_applyTo {p : Plan} (undeclared : p.isDeclared = false) (n : Node) :
    (p.applyTo n).1.withoutSignatureTypes
      = if n.takesProps then n.withoutSignatureTypes.withParameter plainPropsParameter
        else n.withoutSignatureTypes := by
  fun_cases Plan.applyTo p n with
  | case1 form s name types this ps params result body absent => simp [Node.takesProps, absent]
  | case2 form s name types this ps params result body present parts reason hparts =>
    obtain ⟨params', result', apply, erased⟩ := p.apply_erasable undeclared ⟨params, result, body, false⟩
    rw [hparts] at apply
    obtain rfl : parts = ⟨params', result', body, false⟩ := apply
    have present : body.isAbsent = false := by simpa using present
    rw [Node.takesProps, Node.hasNoParameters_parameters, present]
    cases none : params.isEmpty <;>
      simp [Node.withoutSignatureTypes_mk, Kind.eraseType, Kind.typeAt?, Node.withParameter, erased, none]
  | case3 form s types ps params result body parts reason hparts =>
    obtain ⟨params', result', apply, erased⟩ :=
      p.apply_erasable undeclared ⟨params, result, body, form.isExpression⟩
    rw [hparts] at apply
    obtain rfl : parts = ⟨params', result', body, form.isExpression⟩ := apply
    rw [Node.takesProps, Node.hasNoParameters_parameters]
    cases none : params.isEmpty <;>
      simp [Node.withoutSignatureTypes_mk, Kind.eraseType, Kind.typeAt?, Node.withParameter, erased, none]
  | case4 form s ds name types base baseTypes implemented body filled =>
    simp [Node.withoutSignatureTypes_mk, Kind.eraseType, Kind.typeAt?, Node.takesProps]
  | case5 n hf ha hc =>
    rw [Node.takesProps_eq_false hf ha]
    rfl

/-! ## Trees -/

theorem Node.withoutSignatureTypes_annotateHere {plans : List Plan}
    (undeclared : ∀ p ∈ plans, p.isDeclared = false) (n : Node) :
    (n.annotateHere plans).withoutSignatureTypes = n.withoutSignatureTypes.givenPropsHere plans := by
  have same : n.withoutSignatureTypes.plan? plans = n.plan? plans := by
    obtain ⟨k, s, cs⟩ := n
    rfl
  rw [Node.givenPropsHere, Node.getsProps, same, Node.takesProps_withoutSignatureTypes, Node.annotateHere]
  cases hp : n.plan? plans with
  | none => rfl
  | some p => exact Plan.withoutSignatureTypes_applyTo (undeclared p (Node.mem_of_plan? hp).1) n

/-- Where no props are declared, annotation is erasable. -/
theorem Node.withoutSignatureTypes_annotate {plans : List Plan}
    (undeclared : ∀ p ∈ plans, p.isDeclared = false) (n : Node) :
    (n.annotate plans).withoutSignatureTypes = n.withoutSignatureTypes.givenProps plans := by
  have absent : Node.absent.givenProps plans = .absent := rfl
  induction n using Node.induction with
  | step k s cs ih =>
    have parts : (cs.map (Node.annotate plans)).map Node.withoutSignatureTypes
        = (cs.map Node.withoutSignatureTypes).map (Node.givenProps plans) := by
      rw [List.map_map, List.map_map]
      exact List.map_congr_left ih
    calc ((Node.mk k s cs).annotate plans).withoutSignatureTypes
        = (Node.mk k s (cs.map (Node.annotate plans))).withoutSignatureTypes.givenPropsHere plans := by
          rw [Node.annotate_mk, Node.withoutSignatureTypes_annotateHere undeclared]
      _ = (Node.mk k s (k.eraseType
            ((cs.map Node.withoutSignatureTypes).map (Node.givenProps plans)))).givenPropsHere plans := by
          rw [Node.withoutSignatureTypes_mk, parts]
      _ = (Node.mk k s cs).withoutSignatureTypes.givenProps plans := by
          rw [Node.withoutSignatureTypes_mk, Node.givenProps_mk, Kind.map_eraseType absent]

/-- Where no plan is for declared props, annotation can be erased: without the types of its signatures, the
annotated tree is the tree without the types of its signatures, in which each function with a body and each
arrow that has a plan and neither parameters nor a rest takes the plain parameter `props`. Without plans for
any of its functions, arrows and classes, the tree is not changed. -/
theorem undeclared_annotation_erasable {plans : List Plan}
    (undeclared : ∀ p ∈ plans, p.isDeclared = false) (program : Node) :
    (program.annotate plans).withoutSignatureTypes = program.withoutSignatureTypes.givenProps plans
      ∧ ((∀ c ∈ program.nodes, c.kind.isPlannable = true → ∀ p ∈ plans, p.span ≠ c.span) →
          program.annotate plans = program) :=
  ⟨Node.withoutSignatureTypes_annotate undeclared program, Node.annotate_of_no_plan⟩

/-- A component without parameters, in which there are an arrow with two of them and a class. -/
def undeclaredSource : List Char :=
  ("function Outer() \x7b\n  const Tag = (p, q = () => <i/>) => <b/>;\n"
    ++ "  class Box extends React.Component \x7b render() \x7b return <u/>; \x7d \x7d\n"
    ++ "  return <Tag/>;\n\x7d\n").toList

/-- Three components without declared props are annotated, and all that is left of it without the types is the
parameter `props` of the outer one. A plan for a span at which nothing stands does nothing. -/
theorem nested_annotation_erased : ∃ m, Module.parse undeclaredSource = .ok m
    ∧ (m.plans {}).map Plan.component = ["Outer", "Tag", "Box"]
    ∧ (m.annotated {}).withoutSignatureTypes
      = m.tree.withoutProps.withoutSignatureTypes.givenProps (m.plans {})
    ∧ ((m.annotated {}).nodes.filter fun n => n.kind == .binding propsName).length = 1
    ∧ m.tree.annotate [⟨"Gone", "GoneProps", false, ⟨0, 3⟩⟩] = m.tree := by
  have run : ∃ m, Module.parse undeclaredSource = .ok m
      ∧ (m.plans {}).map Plan.component = ["Outer", "Tag", "Box"]
      ∧ (∀ p ∈ m.plans {}, p.isDeclared = false)
      ∧ ((m.annotated {}).nodes.filter fun n => n.kind == .binding propsName).length = 1
      ∧ ∀ c ∈ m.tree.nodes, c.kind.isPlannable = true → (⟨0, 3⟩ : Span) ≠ c.span := by
    decide +kernel
  obtain ⟨m, hm, names, undeclared, one, apart⟩ := run
  have erased := (undeclared_annotation_erasable undeclared m.tree.withoutProps).1
  have unchanged := (@undeclared_annotation_erasable [⟨"Gone", "GoneProps", false, ⟨0, 3⟩⟩] (by simp)
    m.tree).2
  refine ⟨m, hm, names, erased, one, unchanged ?_⟩
  simpa using apart

end TypedJsx
