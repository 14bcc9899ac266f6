import TypedJsx.Proofs.Signature.Idempotence
import TypedJsx.Proofs.Signature.Rewriting
/-!
Plans that fail. A plan fails on a first parameter that cannot carry the interface, and then does nothing, or
on a body that has no value to return, and then has already put `props` in the place of the pattern
(`Plan.applyTo_of_failure`). A program as it is written has no such body: an arrow that is one expression has
the expression. Only extraction takes it out, if the expression declares props.

Main statement: a component whose plan fails is left as it was, unless it is an arrow that lost its
expression to extraction and takes its props apart; of that, all but the parameters is left.
-/
namespace TypedJsx

/-! ## Parameters of components -/

/-- The parameters of a function or arrow. -/
def Node.parameterList : Node → List Node
  | .mk (.function _) _ [_, _, _, .mk .parameters _ params, _, _] => params
  | .mk (.arrow _) _ [_, .mk .parameters _ params, _, _] => params
  | _ => []

/-- A function or arrow with other parameters. -/
def Node.withParameters (n : Node) (params : List Node) : Node :=
  match n with
  | .mk (.function form) s [name, types, this, .mk .parameters ps _, result, body] =>
    .mk (.function form) s [name, types, this, .mk .parameters ps params, result, body]
  | .mk (.arrow form) s [types, .mk .parameters ps _, result, body] =>
    .mk (.arrow form) s [types, .mk .parameters ps params, result, body]
  | n => n

theorem Node.withParameters_parameterList (n : Node) : n.withParameters n.parameterList = n := by
  fun_cases Node.parameterList n with
  | case1 => rfl
  | case2 => rfl
  | case3 n hf ha =>
    unfold Node.withParameters
    split
    · exact (hf _ _ _ _ _ _ _ _ _ rfl).elim
    · exact (ha _ _ _ _ _ _ _ rfl).elim
    · rfl

theorem Plan.withParameters_ne {p : Plan} {n : Node}
    (moves : (p.movedPattern? n.parameterList).isSome = true) :
    n.withParameters (p.propsParameter :: n.parameterList.tail) ≠ n := by
  -- `props` has a type, so there is nothing to move
  have stays : ∀ rest, p.movedPattern? (p.propsParameter :: rest) = none := fun rest => by
    simp [Plan.movedPattern?, Plan.propsParameter, Node.fresh, Plan.interfaceType, Node.isPresent,
      Node.isAbsent]
  have other : p.propsParameter :: n.parameterList.tail ≠ n.parameterList := by
    intro same
    rw [← same, stays] at moves
    cases moves
  fun_cases Node.parameterList n with
  | case1 => exact fun same => other (congrArg Node.parameterList same)
  | case2 => exact fun same => other (congrArg Node.parameterList same)
  | case3 n hf ha =>
    unfold Node.parameterList at moves
    split at moves
    · exact (hf _ _ _ _ _ _ _ _ _ rfl).elim
    · exact (ha _ _ _ _ _ _ _ rfl).elim
    · cases moves

/-! ## What a plan that fails has done -/

/-- Why a first parameter cannot carry the interface. -/
def parameterReasons : List String := [restReason, "unexpected parameter pattern"]

/-- Why a plan can fail. -/
def failureReasons : List String := shapeReason :: parameterReasons

theorem ParameterChange.reason_mem {p : Plan} {params : List Node} {reason : String}
    (h : ParameterChange.of p.isDeclared params = .unsupported reason) : reason ∈ parameterReasons := by
  cases params with
  | nil => cases h
  | cons first rest =>
    rcases ParameterChange.of_cons_cases p first rest with
      ⟨m, s, ds, pattern, type, value, rfl⟩ | ⟨unsupported, -⟩
    · rw [ParameterChange.of_parameter] at h
      split_ifs at h
      cases h
      decide
    · rw [unsupported] at h
      cases h
      decide

theorem ParameterChange.reason_ne_shape {p : Plan} {params : List Node} {reason : String}
    (h : ParameterChange.of p.isDeclared params = .unsupported reason) : reason ≠ shapeReason := by
  have other : shapeReason ∉ parameterReasons := by decide
  rintro rfl
  exact other (ParameterChange.reason_mem h)

theorem Plan.reason_mem_of_apply {p : Plan} {parts : SignatureParts} {reason : String}
    (failed : (p.apply parts).2 = some reason) : reason ∈ failureReasons := by
  unfold Plan.apply at failed
  cases change : ParameterChange.of p.isDeclared parts.params with
  | unsupported reason' =>
    simp only [change, Option.some.injEq] at failed
    subst failed
    exact List.mem_cons_of_mem _ (ParameterChange.reason_mem change)
  | moveToBody =>
    simp only [change] at failed
    split at failed
    · cases failed
    · cases failed
      exact List.mem_cons_self
  | _ => simp [change] at failed

theorem Plan.reason_mem {p : Plan} {n : Node} {reason : String} (failed : (p.applyTo n).2 = some reason) :
    reason ∈ failureReasons := by
  fun_cases Plan.applyTo p n with
  | case1 form s name types this ps params result body absent =>
    simp only [Plan.applyTo, absent, if_true] at failed
    cases failed
  | case2 form s name types this ps params result body present parts reason' applied =>
    simp only [Plan.applyTo, present, applied] at failed
    exact Plan.reason_mem_of_apply ((congrArg Prod.snd applied).trans failed)
  | case3 form s types ps params result body parts reason' applied =>
    simp only [Plan.applyTo, applied] at failed
    exact Plan.reason_mem_of_apply ((congrArg Prod.snd applied).trans failed)
  | case4 => cases failed
  | case5 n hf ha hc =>
    rw [Plan.applyTo] at failed
    · cases failed
    · exact hf
    · exact ha
    · exact hc

theorem Outcome.reason_mem {plans : List Plan} {tree : Node} {o : Outcome} {reason : String}
    (mem : o ∈ tree.outcomes plans) (failed : o.failure = some reason) : reason ∈ failureReasons := by
  obtain ⟨n, -, own⟩ := Node.mem_outcomes_iff.mp mem
  obtain ⟨p, -, rfl⟩ := Option.map_eq_some_iff.mp (Option.mem_toList.mp own)
  exact Plan.reason_mem failed

/-- A plan that fails on a signature has done nothing, or has replaced a pattern that the body cannot
bind. -/
theorem Plan.apply_of_failure {p : Plan} {parts : SignatureParts} {reason : String}
    (failed : (p.apply parts).2 = some reason) :
    ((p.apply parts).1 = parts ∧ p.movedPattern? parts.params = none ∧ reason ≠ shapeReason)
      ∨ ((p.apply parts).1 = { parts with params := p.propsParameter :: parts.params.tail }
        ∧ (p.movedPattern? parts.params).isSome = true
        ∧ (parts.body.bindInBody? .absent parts.isExpression).isSome = false ∧ reason = shapeReason) := by
  have moved := p.movedPattern?_eq parts.params
  unfold Plan.apply at failed ⊢
  cases change : ParameterChange.of p.isDeclared parts.params with
  | unsupported reason' =>
    simp only [change, Option.some.injEq] at failed moved ⊢
    subst failed
    exact .inl ⟨trivial, by simpa using moved, ParameterChange.reason_ne_shape change⟩
  | moveToBody =>
    simp only [change, if_true] at failed moved ⊢
    split at failed
    · cases failed
    · rename_i unbound
      -- the parameters were changed before the body was asked whether it can bind the pattern
      have replaced : p.parameters .moveToBody parts.params = p.propsParameter :: parts.params.tail := by
        cases params : parts.params with
        | nil =>
          rw [params] at change
          cases change
        | cons first rest => rfl
      refine .inr ⟨by rw [replaced], by rw [moved]; rfl, ?_, (Option.some.inj failed).symm⟩
      rw [parts.body.isSome_bindInBody? .absent (parts.params.headD .absent).parameterPattern, unbound]
      rfl
  | _ => simp [change] at failed

theorem Plan.applyTo_of_failure {p : Plan} {n : Node} {reason : String} (body : n.hasBody = true)
    (failed : (p.applyTo n).2 = some reason) :
    ((p.applyTo n).1 = n ∧ p.movedPattern? n.parameterList = none ∧ reason ≠ shapeReason)
      ∨ ((p.applyTo n).1 = n.withParameters (p.propsParameter :: n.parameterList.tail)
        ∧ (p.movedPattern? n.parameterList).isSome = true ∧ n.holdsValue = false
        ∧ reason = shapeReason) := by
  fun_cases Plan.applyTo p n with
  | case1 form s name types this ps params result body absent =>
    simp only [Plan.applyTo, absent, if_true] at failed
    cases failed
  | case2 form s name types this ps params result body' present parts reason' applied =>
    simp only [Plan.applyTo, present, applied] at failed
    have kind : body'.kind = .functionBody := by simpa [Node.hasBody, present] using body
    have done := @Plan.apply_of_failure p ⟨params, result, body', false⟩ reason
    rw [applied] at done
    rcases done failed with ⟨rfl, stays, other⟩ | ⟨-, -, unbound, -⟩
    · exact .inl ⟨rfl, stays, other⟩
    · -- a list of statements can bind every pattern
      rw [Node.binds_of_functionBody kind (by simp)] at unbound
      cases unbound
  | case3 form s types ps params result body' parts reason' applied =>
    simp only [Plan.applyTo, applied] at failed
    have done := @Plan.apply_of_failure p ⟨params, result, body', form.isExpression⟩ reason
    rw [applied] at done
    rcases done failed with ⟨rfl, stays, other⟩ | ⟨rfl, moves, unbound, shape⟩
    · exact .inl ⟨rfl, stays, other⟩
    · refine .inr ⟨rfl, moves, ?_, shape⟩
      -- an arrow with its expression could have bound the pattern
      refine Bool.eq_false_iff.mpr fun value => ?_
      rw [Node.binds_of_arrow body value] at unbound
      cases unbound
  | case4 => cases failed
  | case5 n hf ha hc =>
    rw [Plan.applyTo] at failed
    · cases failed
    · exact hf
    · exact ha
    · exact hc

/-! ## Annotated trees -/

/-- A component whose plan fails is left as it was if nothing moves; if something should, all but its
parameters is left. -/
theorem Node.annotate_of_failure {plans : List Plan} {n : Node} {o : Outcome} {reason : String}
    (body : n.hasBody = true) (own : o ∈ n.ownOutcome plans) (failed : o.failure = some reason) :
    (n.annotate plans = n.annotateParts plans ↔ reason ≠ shapeReason)
      ∧ ∃ params, n.annotate plans = (n.withParameters params).annotateParts plans := by
  obtain ⟨p, plan, rfl⟩ := Option.map_eq_some_iff.mp (Option.mem_toList.mp own)
  have inner : (n.annotateParts plans).plan? plans = some p := by rw [Node.plan?_annotateParts, plan]
  have outer : n.annotate plans = (p.applyTo n).1.annotateParts plans := by
    rw [Node.annotate_outer_first, Node.annotateHere, plan]
  have again : (p.applyTo (n.annotateParts plans)).2 = some reason := by
    rw [Plan.applyTo_annotateParts]
    exact failed
  constructor
  · rw [Node.annotate_eq, Node.annotateHere, inner]
    rcases Plan.applyTo_of_failure (Node.hasBody_annotateParts body) again with
      ⟨same, -, other⟩ | ⟨changed, moves, -, shape⟩
    · exact iff_of_true same other
    · refine iff_of_false ?_ (not_not_intro shape)
      show (p.applyTo (n.annotateParts plans)).1 ≠ n.annotateParts plans
      rw [changed]
      exact Plan.withParameters_ne moves
  · rcases Plan.applyTo_of_failure body failed with ⟨same, -⟩ | ⟨changed, -⟩
    · exact ⟨n.parameterList, by rw [outer, same, Node.withParameters_parameterList]⟩
    · exact ⟨_, by rw [outer, changed]⟩

/-- When the plan for a component of a program without its declarations fails, the component is left as it was,
the components inside of it apart, unless the reason is the shape of its body. That is the reason if a pattern
should move there, and the component is an arrow whose one expression declared props; all but its parameters
is left of it. -/
theorem failed_components_kept_iff {program : Node} {hashbang : Option String}
    (hp : program.kind = .program hashbang) (values : program.HoldsValues) (bodies : program.HasBodies)
    (plans : List Plan) {n : Node} {o : Outcome} (remains : program.withoutProps.Remains plans n)
    (own : o ∈ n.ownOutcome plans) {reason : String} (failed : o.failure = some reason) :
    n.annotate plans ∈ (program.withoutProps.annotate plans).nodes
      ∧ (n.annotate plans = n.annotateParts plans ↔ reason ≠ shapeReason)
      ∧ (reason = shapeReason ↔ (o.plan.movedPattern? n.parameterList).isSome = true
        ∧ ∃ a, program.withoutBindings.Survives a ∧ a.losesValue = true ∧ n = a.withoutDeclarations)
      ∧ ∃ params, n.annotate plans = (n.withParameters params).annotateParts plans := by
  have body := bodies.withoutProps hp n remains.mem_nodes
  obtain ⟨kept, params⟩ := Node.annotate_of_failure body own failed
  obtain ⟨p, plan, rfl⟩ := Option.map_eq_some_iff.mp (Option.mem_toList.mp own)
  refine ⟨remains.mem_nodes_annotate (Node.mem_of_plan? plan).2.2, kept, ?_, params⟩
  rcases Plan.applyTo_of_failure body failed with ⟨-, stays, other⟩ | ⟨-, moves, lost, shape⟩
  · exact iff_of_false other (by simp [stays])
  · refine iff_of_true shape ⟨moves, ?_⟩
    obtain ⟨a, survives, rfl⟩ := (Node.mem_nodes_withoutDeclarations _ n).mp remains.mem_nodes
    rw [Node.holdsValue_withoutDeclarations (values.withoutBindings hp a survives.mem_nodes)] at lost
    exact ⟨a, survives, by simpa using lost, rfl⟩

/-- A component that takes its props apart, and whose one expression declares them. -/
def declaringComponent : List Char :=
  "const Foo = (\x7b a \x7d) => Foo.propTypes = \x7b x: <b/> \x7d;".toList

/-- Its plan fails, and the pattern is replaced all the same. -/
theorem declaring_component_changed : ∃ m, Module.parse declaringComponent = .ok m
    ∧ m.tree.kind = .program none ∧ m.tree.HoldsValues ∧ m.tree.HasBodies
    ∧ ∃ n o, m.tree.withoutProps.Remains (m.plans {}) n ∧ o ∈ n.ownOutcome (m.plans {})
      ∧ o.plan.component = "Foo" ∧ o.failure = some shapeReason
      ∧ n.annotate (m.plans {}) ∈ (m.annotated {}).nodes
      ∧ n.annotate (m.plans {}) ≠ n.annotateParts (m.plans {}) := by
  have run : ∃ m, Module.parse declaringComponent = .ok m
      ∧ m.tree.kind = .program none ∧ m.tree.HoldsValues ∧ m.tree.HasBodies
      ∧ ∃ o ∈ m.outcomes {}, o.plan.component = "Foo" ∧ o.failure = some shapeReason := by
    decide +kernel
  obtain ⟨m, parsed, program, values, bodies, o, mem, component, failed⟩ := run
  obtain ⟨n, remains, own⟩ := Node.mem_outcomes_iff.mp mem
  obtain ⟨inside, kept, -⟩ := failed_components_kept_iff program values bodies (m.plans {}) remains own failed
  exact ⟨m, parsed, program, values, bodies, n, o, remains, own, component, failed, inside,
    fun same => kept.mp same rfl⟩

end TypedJsx
