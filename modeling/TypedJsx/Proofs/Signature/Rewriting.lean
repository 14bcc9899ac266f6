import Mathlib.Data.List.TakeWhile
import TypedJsx.Conversion
import TypedJsx.Proofs.Arrow
import TypedJsx.Proofs.Signature.Remaining
/-!
What annotation makes of a component, told without the plan that does it. `Plan.Rewrites` relates a function,
an arrow or a class to what it becomes: its base gets the interface, its result a type, its first parameter
the interface or `props`, and a pattern that is taken out of the parameters is bound in front of the body.
A plan that succeeds does just that (`Plan.rewrites_applyTo`), wherever the component stands: the components
that remain of a tree are the ones that have outcomes (`Node.mem_outcomes_iff`), and each of them is in the
annotated tree (`Node.Remains.mem_nodes_annotate`).

Main statement: every component that is reported as annotated is in the annotated tree, rewritten so, and
with the components inside of it annotated.
-/
namespace TypedJsx

/-! ## What a component becomes -/

/-- A pattern that is a plain name. -/
def Node.isName (pattern : Node) : Bool :=
  match pattern.kind with
  | .binding _ => true
  | _ => false

/-- A pattern that takes a value apart. -/
def Node.isDestructuring (pattern : Node) : Bool :=
  match pattern.kind with
  | .objectPattern | .arrayPattern => true
  | _ => false

/-- What becomes of a list of parameters. The parameters behind the first one, a rest included, are never
changed. -/
inductive Plan.RewritesParameters (p : Plan) : List Node → List Node → Prop
  /-- Without parameters, `props` is the only one. -/
  | added : p.RewritesParameters [] [p.propsParameter]
  /-- A first parameter with a type is kept, and so is one that is no name, unless it destructures declared
  props. -/
  | kept {m : Modifiers} {s : Span} {ds pattern type value : Node} {rest : List Node}
      (h : type.isPresent = true
        ∨ pattern.isName = false ∧ (pattern.isDestructuring = true → p.isDeclared = false)) :
      p.RewritesParameters (.mk (.parameter m) s [ds, pattern, type, value] :: rest)
        (.mk (.parameter m) s [ds, pattern, type, value] :: rest)
  /-- A name without a type gets the interface, if no props are declared. -/
  | typed {m : Modifiers} {s : Span} {ds pattern type value : Node} {rest : List Node}
      (undeclared : p.isDeclared = false) (untyped : type.isPresent = false)
      (name : pattern.isName = true) :
      p.RewritesParameters (.mk (.parameter m) s [ds, pattern, type, value] :: rest)
        (.mk (.parameter m) s [ds, pattern, p.interfaceType, value] :: rest)
  /-- A name or a pattern without a type becomes `props`, if props are declared. -/
  | replaced {m : Modifiers} {s : Span} {ds pattern type value : Node} {rest : List Node}
      (declared : p.isDeclared = true) (untyped : type.isPresent = false)
      (h : pattern.isName = true ∨ pattern.isDestructuring = true) :
      p.RewritesParameters (.mk (.parameter m) s [ds, pattern, type, value] :: rest)
        (p.propsParameter :: rest)

/-- The pattern that goes from the parameters to the body: that of a first parameter without a type that
destructures declared props. -/
def Plan.movedPattern? (p : Plan) : List Node → Option Node
  | .mk (.parameter _) _ [_, pattern, type, _] :: _ =>
    if p.isDeclared && !type.isPresent && pattern.isDestructuring then some pattern else none
  | _ => none

/-- What becomes of the body of a component and of the mark that it is one expression, under a pattern that
may have to be bound in it. -/
inductive RewritesBody : Option Node → Node → Bool → Node → Bool → Prop
  | kept (body : Node) (isExpression : Bool) : RewritesBody none body isExpression body isExpression
  /-- The pattern is bound behind the directives, in front of the statements. -/
  | bound {pattern : Node} {s : Span} {directives statements : List Node}
      (leads : ∀ c ∈ directives, c.isDirective = true)
      (follows : ∀ c ∈ statements.head?, c.isDirective = false) :
      RewritesBody (some pattern) (.mk .functionBody s (directives ++ statements)) false
        (.mk .functionBody s (directives ++ propsBinding pattern :: statements)) false
  /-- An expression is returned behind the pattern that is bound. -/
  | returned {pattern e : Node} {s t : Span} {parts : List Node}
      (value : (Node.mk .functionBody s parts).statements = [.mk .expressionStatement t [e]]) :
      RewritesBody (some pattern) (.mk .functionBody s parts) true
        (.mk .functionBody s [propsBinding pattern, .fresh .returnStatement [e]]) false

/-- What becomes of the parts of a function with a body, or of an arrow. -/
structure Plan.RewritesSignature (p : Plan) (before after : SignatureParts) : Prop where
  params : p.RewritesParameters before.params after.params
  result : after.result = if before.result.isPresent then before.result else elementType
  body : RewritesBody (p.movedPattern? before.params) before.body before.isExpression
    after.body after.isExpression

/-- What becomes of a component. A function without a body stays as it is. -/
def Plan.Rewrites (p : Plan) (before after : Node) : Prop :=
  match before with
  | .mk (.function form) s [name, types, this, .mk .parameters ps params, result, body] =>
    if body.isAbsent then after = before
    else ∃ parts, p.RewritesSignature ⟨params, result, body, false⟩ parts
      ∧ after = .mk (.function form) s
        [name, types, this, .mk .parameters ps parts.params, parts.result, parts.body]
  | .mk (.arrow form) s [types, .mk .parameters ps params, result, body] =>
    ∃ parts, p.RewritesSignature ⟨params, result, body, form.isExpression⟩ parts
      ∧ after = .mk (.arrow { form with isExpression := parts.isExpression }) s
        [types, .mk .parameters ps parts.params, parts.result, parts.body]
  | .mk (.classNode form) s [ds, name, types, base, baseTypes, implemented, body] =>
    after = .mk (.classNode form) s [ds, name, types, base,
      if baseTypes.isPresent then baseTypes else .fresh .typeArguments [p.interfaceType], implemented, body]
  | n => after = n

/-! ## Plans that succeed -/

theorem rewritesBody_prependStatement (pattern : Node) (s : Span) (parts : List Node) :
    RewritesBody (some pattern) (.mk .functionBody s parts) false
      (.mk .functionBody s (prependStatement (propsBinding pattern) parts)) false := by
  have split : parts.takeWhile Node.isDirective ++ parts.dropWhile Node.isDirective = parts :=
    List.takeWhile_append_dropWhile
  have bound := @RewritesBody.bound pattern s (parts.takeWhile Node.isDirective)
    (parts.dropWhile Node.isDirective) (fun c hc => List.mem_takeWhile_imp hc) fun c hc => by
      have := List.head?_dropWhile_not Node.isDirective parts
      rw [Option.mem_def.mp hc] at this
      exact this
  rwa [split] at bound

theorem statements_of_firstValue? {s : Span} {parts : List Node} {e : Node}
    (h : (Node.mk .functionBody s parts).isValueBody = true) (he : firstValue? parts = some e) :
    ∃ t, (Node.mk .functionBody s parts).statements = [.mk .expressionStatement t [e]] := by
  obtain ⟨b, parts', t, e', eq, only⟩ := Node.isValueBody_iff.mp h
  cases eq
  obtain ⟨u, mem⟩ := mem_of_firstValue? he
  have one : Node.mk .expressionStatement u [e] ∈ [Node.mk .expressionStatement t [e']] := by
    rw [← only, List.mem_filter]
    exact ⟨mem, rfl⟩
  rw [List.mem_singleton] at one
  cases one
  exact ⟨t, only⟩

/-- What is done to a list of parameters is told by the type and the pattern of the first one. -/
theorem ParameterChange.of_parameter (isDeclared : Bool) (m : Modifiers) (s : Span)
    (ds pattern type value : Node) (rest : List Node) :
    ParameterChange.of isDeclared (.mk (.parameter m) s [ds, pattern, type, value] :: rest)
      = if type.isPresent then .keep
        else if pattern.isDestructuring then if isDeclared then .moveToBody else .keep
        else if pattern.isName then if isDeclared then .replace else .setType
        else if pattern.kind = .defaultPattern then .unsupported "unexpected parameter pattern"
        else .keep := by
  obtain ⟨k, t, cs⟩ := pattern
  simp only [ParameterChange.of, Node.isDestructuring, Node.isName, Node.kind_mk]
  cases k <;> simp

theorem ParameterChange.of_cons_cases (p : Plan) (first : Node) (rest : List Node) :
    (∃ m s ds pattern type value, first = .mk (.parameter m) s [ds, pattern, type, value])
      ∨ ParameterChange.of p.isDeclared (first :: rest) = .unsupported restReason
        ∧ p.movedPattern? (first :: rest) = none := by
  unfold ParameterChange.of
  split
  · rename_i e
    cases e
  · rename_i e
    cases e
    exact .inl ⟨_, _, _, _, _, _, rfl⟩
  · rename_i no e
    cases e
    refine .inr ⟨rfl, ?_⟩
    unfold Plan.movedPattern?
    split
    · rename_i e
      cases e
      exact (no _ _ _ _ _ _ rfl).elim
    · rfl

theorem Node.isName_of_isDestructuring {pattern : Node} (h : pattern.isDestructuring = true) :
    pattern.isName = false := by
  obtain ⟨k, s, cs⟩ := pattern
  unfold Node.isDestructuring at h
  unfold Node.isName
  split at h <;> simp_all

theorem Plan.rewritesParameters {p : Plan} {params : List Node}
    (supported : ∀ reason, ParameterChange.of p.isDeclared params ≠ .unsupported reason) :
    p.RewritesParameters params (p.parameters (ParameterChange.of p.isDeclared params) params) := by
  cases params with
  | nil => exact .added
  | cons first rest =>
    rcases ParameterChange.of_cons_cases p first rest with
      ⟨m, s, ds, pattern, type, value, rfl⟩ | ⟨unsupported, -⟩
    · rw [ParameterChange.of_parameter] at supported ⊢
      split_ifs at supported ⊢ with typed destructures declared name declared default
      · exact .kept (.inl typed)
      · exact .replaced declared (by simpa using typed) (.inr destructures)
      · have undeclared : p.isDeclared = false := by simpa using declared
        exact .kept (.inr ⟨Node.isName_of_isDestructuring destructures, fun _ => undeclared⟩)
      · exact .replaced declared (by simpa using typed) (.inl name)
      · exact .typed (by simpa using declared) (by simpa using typed) name
      · exact absurd rfl (supported _)
      · exact .kept (.inr ⟨by simpa using name, fun h => absurd h destructures⟩)
    · exact absurd unsupported (supported _)

theorem Plan.movedPattern?_eq (p : Plan) (params : List Node) : p.movedPattern? params
    = if ParameterChange.of p.isDeclared params = .moveToBody then
        some (params.headD .absent).parameterPattern
      else none := by
  cases params with
  | nil => rfl
  | cons first rest =>
    rcases ParameterChange.of_cons_cases p first rest with
      ⟨m, s, ds, pattern, type, value, rfl⟩ | ⟨unsupported, stays⟩
    · have parameter : (Node.mk (.parameter m) s [ds, pattern, type, value]).parameterPattern = pattern :=
        rfl
      rw [ParameterChange.of_parameter, Plan.movedPattern?, List.headD_cons, parameter]
      split_ifs <;> simp_all
    · rw [unsupported, stays]
      rfl

/-- A body that can bind a pattern is rewritten under it. -/
theorem rewritesBody_bindInBody? {body bound pattern : Node} {isExpression : Bool}
    (value : isExpression = true → body.isValueBody = true)
    (h : body.bindInBody? pattern isExpression = some bound) :
    RewritesBody (some pattern) body isExpression bound false := by
  unfold Node.bindInBody? at h
  split at h
  · rename_i s parts
    cases isExpression with
    | false =>
      cases h
      exact rewritesBody_prependStatement pattern s parts
    | true =>
      obtain ⟨e, he, rfl⟩ := Option.map_eq_some_iff.mp h
      obtain ⟨t, only⟩ := statements_of_firstValue? (value rfl) he
      exact .returned only
  · cases h

/-- A plan that succeeds rewrites a signature. -/
theorem Plan.rewritesSignature_apply {p : Plan} {parts : SignatureParts}
    (value : parts.isExpression = true → parts.body.isValueBody = true)
    (success : (p.apply parts).2 = none) : p.RewritesSignature parts (p.apply parts).1 := by
  have moved := p.movedPattern?_eq parts.params
  have params := @Plan.rewritesParameters p parts.params
  unfold Plan.apply at success ⊢
  cases change : ParameterChange.of p.isDeclared parts.params with
  | unsupported reason => simp [change] at success
  | moveToBody =>
    simp only [change, if_true] at moved params success ⊢
    split at success
    · rename_i body bound
      exact ⟨params (by simp), rfl, moved ▸ rewritesBody_bindInBody? value bound⟩
    · cases success
  | _ =>
    simp only [change] at moved params ⊢
    exact ⟨params (by simp), rfl, moved ▸ .kept _ _⟩

theorem Plan.rewrites_applyTo {p : Plan} {n : Node} (value : n.holdsValue = true)
    (success : (p.applyTo n).2 = none) : p.Rewrites n (p.applyTo n).1 := by
  fun_cases Plan.applyTo p n with
  | case1 form s name types this ps params result body absent =>
    simp only [Plan.Rewrites, absent, if_true]
  | case2 form s name types this ps params result body present parts reason applied =>
    have signature := @Plan.rewritesSignature_apply p ⟨params, result, body, false⟩ (by simp)
    rw [applied] at signature
    simp only [Plan.applyTo, present, applied] at success
    simp only [Plan.Rewrites, present]
    exact ⟨parts, signature success, rfl⟩
  | case3 form s types ps params result body parts reason applied =>
    have signature := @Plan.rewritesSignature_apply p ⟨params, result, body, form.isExpression⟩
      (by simpa [Node.holdsValue, or_iff_not_imp_left] using value)
    rw [applied] at signature
    simp only [Plan.applyTo, applied] at success
    exact ⟨parts, signature success, rfl⟩
  | case4 form s ds name types base baseTypes implemented body baseTypes' => rfl
  | case5 _ hf ha hc =>
    unfold Plan.Rewrites
    split
    · exact (hf _ _ _ _ _ _ _ _ _ rfl).elim
    · exact (ha _ _ _ _ _ _ _ rfl).elim
    · exact (hc _ _ _ _ _ _ _ _ _ rfl).elim
    · rfl

/-! ## Annotated trees -/

/-- The outcomes are those of the nodes that remain; and every node whose plan succeeded is in the annotated
tree, rewritten as the plan says, and with the components inside of it annotated. -/
theorem annotated_components_rewritten (plans : List Plan) {tree : Node} (values : tree.HoldsValues)
    (o : Outcome) : (o ∈ tree.outcomes plans ↔ ∃ n, tree.Remains plans n ∧ o ∈ n.ownOutcome plans)
      ∧ ∀ n, tree.Remains plans n → o ∈ n.ownOutcome plans → o.failure = none →
        n.annotate plans ∈ (tree.annotate plans).nodes
          ∧ ∃ after, o.plan.Rewrites n after ∧ n.annotate plans = after.annotateParts plans := by
  refine ⟨Node.mem_outcomes_iff, fun n remains own success => ?_⟩
  obtain ⟨p, plan, rfl⟩ := Option.map_eq_some_iff.mp (Option.mem_toList.mp own)
  have plannable := (Node.mem_of_plan? plan).2.2
  refine ⟨remains.mem_nodes_annotate plannable, (p.applyTo n).1, ?_, ?_⟩
  · exact p.rewrites_applyTo (values n remains.mem_nodes) success
  · rw [Node.annotate_outer_first, Node.annotateHere, plan]

/-- An arrow that takes declared props apart, in front of a rest, and a class with an arrow inside of it. -/
def cardSource : List Char :=
  ("const Card = (\x7b title \x7d, ...rest) => <b>\x7btitle\x7d</b>;\n"
    ++ "Card.propTypes = \x7b title: PropTypes.string \x7d;\n"
    ++ "class Box extends React.Component \x7b\n"
    ++ "  render() \x7b const Tag = p => <i/>; return <Tag/>; \x7d\n\x7d\n").toList

/-- The plans for all three components succeed, and each of them is in the annotated tree, rewritten. -/
theorem card_components_rewritten : ∃ m, Module.parse cardSource = .ok m
    ∧ m.tree.withoutProps.HoldsValues
    ∧ ((m.outcomes {}).map fun o => (o.plan.component, o.plan.isDeclared, o.failure))
      = [("Card", true, none), ("Box", false, none), ("Tag", false, none)]
    ∧ ∀ o ∈ m.outcomes {}, ∃ n, m.tree.withoutProps.Remains (m.plans {}) n
      ∧ n.annotate (m.plans {}) ∈ (m.annotated {}).nodes
      ∧ ∃ after, o.plan.Rewrites n after
        ∧ n.annotate (m.plans {}) = after.annotateParts (m.plans {}) := by
  have run : ∃ m, Module.parse cardSource = .ok m
      ∧ m.tree.withoutProps.HoldsValues
      ∧ ((m.outcomes {}).map fun o => (o.plan.component, o.plan.isDeclared, o.failure))
        = [("Card", true, none), ("Box", false, none), ("Tag", false, none)]
      ∧ ∀ o ∈ m.outcomes {}, o.failure = none := by
    decide +kernel
  obtain ⟨m, parsed, values, outcomes, success⟩ := run
  refine ⟨m, parsed, values, outcomes, fun o ho => ?_⟩
  obtain ⟨iff, rewritten⟩ := annotated_components_rewritten (m.plans {}) values o
  obtain ⟨n, remains, own⟩ := iff.mp ho
  exact ⟨n, remains, rewritten n remains own (success o ho)⟩

end TypedJsx
