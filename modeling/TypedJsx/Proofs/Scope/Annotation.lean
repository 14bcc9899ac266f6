import TypedJsx.Proofs.Scope.Resolution
import TypedJsx.Proofs.Signature.Basic
/-!
What annotation does to references, where no props are declared. It adds types, and a parameter `props`
to a component without parameters. So the parts of an annotated node use the same values as before
(`Retyped`), and the scopes that the node opens stay the same, or gain the name `props` (`Opens`); which
of the two can be read off the node before annotation (`Node.getsProps`).
-/
namespace TypedJsx

/-! ## What annotation does not declare -/

theorem declaredList_eq_map (cs : List Node) : declaredList cs = cs.map Node.declared := by
  induction cs with
  | nil => rfl
  | cons c cs ih => simp [declaredList, ih]

theorem Node.declared_mk (k : Kind) (s : Span) (cs : List Node) :
    (Node.mk k s cs).declared = k.declared (cs.map Node.declared) := by
  rw [Node.declared, declaredList_eq_map]

theorem Plan.declared_applyTo (p : Plan) (n : Node) : (p.applyTo n).1.declared = n.declared := by
  unfold Plan.applyTo
  split
  · split
    · rfl
    · simp [Node.declared_mk, Kind.declared, Kind.bound, Kind.listed, Kind.hoisted, Kind.inferred,
        Kind.key, partAt]
  · simp [Node.declared_mk, Kind.declared, Kind.bound, Kind.listed, Kind.hoisted, Kind.inferred, Kind.key]
  · simp [Node.declared_mk, Kind.declared, Kind.bound, Kind.listed, Kind.hoisted, Kind.inferred,
      Kind.key, partAt]
  · rfl

theorem Node.declared_annotateHere (plans : List Plan) (n : Node) :
    (n.annotateHere plans).declared = n.declared := by
  unfold Node.annotateHere
  split
  · exact Plan.declared_applyTo _ n
  · rfl

@[simp] theorem Node.declared_annotate (plans : List Plan) (n : Node) :
    (n.annotate plans).declared = n.declared := by
  induction n using Node.induction with
  | step k s cs ih =>
    rw [Node.annotate_mk, Node.declared_annotateHere, Node.declared_mk, Node.declared_mk, List.map_map]
    exact congrArg _ (List.map_congr_left ih)

@[simp] theorem map_declared_annotate (plans : List Plan) (cs : List Node) :
    (cs.map (Node.annotate plans)).map Node.declared = cs.map Node.declared := by
  simp [List.map_map, Function.comp_def]

/-! ## References of a node and of its parts -/

/-- The references with a meaning in the parts of a node, from position `i` on. -/
def usesOfFrom (k : Kind) (parts : List Declared) (m : Meaning) (read : Option Meaning) (i : Nat)
    (cs : List Node) : List Use :=
  (usesFrom k parts read i cs).filter fun u => u.meaning == m

theorem usesOfFrom_cons (k : Kind) (parts : List Declared) (m : Meaning) (read : Option Meaning)
    (i : Nat) (c : Node) (cs : List Node) :
    usesOfFrom k parts m read i (c :: cs)
      = (c.usesOf m (k.readsAt read i)).map (Use.within i (k.scopes parts i))
        ++ usesOfFrom k parts m read (i + 1) cs := by
  simp only [usesOfFrom, usesFrom, List.filter_append, List.filter_map, Node.usesOf]
  rfl

theorem Node.usesOf_mk (k : Kind) (s : Span) (cs : List Node) (m : Meaning) (read : Option Meaning) :
    (Node.mk k s cs).usesOf m read
      = ((k.use? read).toList.filter fun u => u.meaning == m)
        ++ usesOfFrom k (cs.map Node.declared) m read 0 cs := by
  rw [Node.usesOf, Node.uses, List.filter_append, declaredList_eq_map]
  rfl

theorem usesFrom_congr {k : Kind} {parts parts' : List Declared} {read : Option Meaning}
    (h : ∀ i, k.scopes parts i = k.scopes parts' i) (i : Nat) (cs : List Node) :
    usesFrom k parts read i cs = usesFrom k parts' read i cs := by
  induction cs generalizing i with
  | nil => rfl
  | cons c cs ih => simp only [usesFrom, h i, ih]

/-! ## Added types -/

/-- A node to which only types are added: the uses of values are the same, and no use is lost. -/
structure Retyped (c d : Node) : Prop where
  values : ∀ read, d.usesOf .value read = c.usesOf .value read
  uses : ∀ read, c.uses read ⊆ d.uses read

theorem Retyped.refl (c : Node) : Retyped c c := ⟨fun _ => rfl, fun _ => List.Subset.refl _⟩

theorem forall₂_retyped_refl (cs : List Node) : List.Forall₂ Retyped cs cs :=
  List.forall₂_same.mpr fun c _ => Retyped.refl c

theorem Retyped.of_isAbsent {c d : Node} (h : c.isAbsent = true)
    (hd : ∀ read, d.usesOf .value read = []) : Retyped c d := by
  obtain ⟨k, s, cs⟩ := c
  obtain ⟨rfl, rfl⟩ := Node.isAbsent_iff.mp h
  have none : ∀ read, (Node.mk .absent s []).uses read = [] := by
    intro read
    simp [Node.uses, usesFrom, Kind.use?]
  refine ⟨fun read => ?_, fun read => ?_⟩
  · rw [hd, Node.usesOf, none read]
    rfl
  · intro u hu
    exact absurd ((none read) ▸ hu) (List.not_mem_nil)

theorem Retyped.of_isPresent (c : Node) {d : Node} (hd : ∀ read, d.usesOf .value read = []) :
    Retyped c (if c.isPresent then c else d) := by
  cases ha : c.isAbsent with
  | false => simpa [Node.isPresent, ha] using Retyped.refl c
  | true => simpa [Node.isPresent, ha] using Retyped.of_isAbsent ha hd

section
variable {k : Kind} {parts : List Declared} {read : Option Meaning} {cs ds : List Node}

theorem usesOfFrom_retyped (h : List.Forall₂ Retyped cs ds) (i : Nat) :
    usesOfFrom k parts .value read i ds = usesOfFrom k parts .value read i cs := by
  induction h generalizing i with
  | nil => rfl
  | cons hr _ ih => rw [usesOfFrom_cons, usesOfFrom_cons, hr.values, ih]

theorem usesFrom_subset_of_retyped (h : List.Forall₂ Retyped cs ds) (i : Nat) :
    usesFrom k parts read i cs ⊆ usesFrom k parts read i ds := by
  induction h generalizing i with
  | nil => exact List.Subset.refl _
  | cons hr _ ih =>
    intro u hu
    rw [usesFrom, List.mem_append] at hu ⊢
    exact hu.imp (fun hu => List.map_subset _ (hr.uses _) hu) (fun hu => ih (i + 1) hu)

/-- Types added in the parts of a node that opens no scope are types added to the node. -/
theorem Retyped.of_parts (hk : ∀ parts i, k.scopes parts i = []) (s : Span)
    (h : List.Forall₂ Retyped cs ds) : Retyped (.mk k s cs) (.mk k s ds) := by
  have same : ∀ (es : List Node) (read : Option Meaning),
      usesFrom k (ds.map Node.declared) read 0 es = usesFrom k (cs.map Node.declared) read 0 es :=
    fun es read => usesFrom_congr (fun i => by rw [hk, hk]) 0 es
  refine ⟨fun read => ?_, fun read => ?_⟩
  · have hv : usesOfFrom k (cs.map Node.declared) .value read 0 ds
        = usesOfFrom k (cs.map Node.declared) .value read 0 cs := usesOfFrom_retyped h 0
    rw [Node.usesOf_mk, Node.usesOf_mk, ← hv]
    simp only [usesOfFrom, same]
  · intro u hu
    rw [Node.uses, declaredList_eq_map, List.mem_append] at hu ⊢
    rw [same]
    exact hu.imp_right fun hu => usesFrom_subset_of_retyped h 0 hu

end

/-! ## What a plan without declared props changes -/

theorem Plan.usesOf_interfaceType (p : Plan) (read : Option Meaning) :
    p.interfaceType.usesOf .value read = [] := by
  simp [Plan.interfaceType, Node.fresh, Node.absent, Node.usesOf, Node.uses, usesFrom, Kind.use?,
    Kind.readsAt, Use.within]

theorem Plan.usesOf_typeArguments (p : Plan) (read : Option Meaning) :
    (Node.fresh .typeArguments [p.interfaceType]).usesOf .value read = [] := by
  simp [Plan.interfaceType, Node.fresh, Node.absent, Node.usesOf, Node.uses, usesFrom, Kind.use?,
    Kind.readsAt, Use.within]

theorem Plan.usesOf_propsParameter (p : Plan) (read : Option Meaning) :
    p.propsParameter.usesOf .value read = [] := by
  simp [Plan.propsParameter, Plan.interfaceType, Node.fresh, Node.absent, Node.usesOf, Node.uses,
    usesFrom, Kind.use?, Kind.readsAt, Use.within]

theorem usesOf_elementType (read : Option Meaning) : elementType.usesOf .value read = [] := by
  simp [elementType, Node.fresh, Node.absent, Node.usesOf, Node.uses, usesFrom, Kind.use?,
    Kind.readsAt, Use.within]

theorem Node.declared_of_isAbsent {n : Node} (h : n.isAbsent = true) : n.declared = {} := by
  obtain ⟨k, s, cs⟩ := n
  obtain ⟨rfl, rfl⟩ := Node.isAbsent_iff.mp h
  rfl

theorem Plan.declared_interfaceType (p : Plan) : p.interfaceType.declared = {} := rfl

theorem Plan.apply_undeclared {p : Plan} (h : p.isDeclared = false) (parts : SignatureParts) :
    ∃ params result, (p.apply parts).1 = { parts with params := params, result := result }
      ∧ Retyped parts.result result
      ∧ (parts.params = [] ∧ params = [p.propsParameter]
        ∨ parts.params ≠ [] ∧ List.Forall₂ Retyped parts.params params
          ∧ params.map Node.declared = parts.params.map Node.declared) := by
  obtain ⟨params, result, body, isExpression⟩ := parts
  have hr : Retyped result (if result.isPresent then result else elementType) :=
    Retyped.of_isPresent result usesOf_elementType
  rcases ParameterChange.of_cases p.isDeclared params with ⟨rfl, hc⟩ | ⟨hne, hc | ⟨reason, hc⟩⟩ |
    ⟨m, s, ds, pattern, type, value, rest, rfl, ht, ⟨-, hc⟩ | ⟨hd, -⟩⟩
  · refine ⟨_, _, ?_, hr, .inl ⟨rfl, rfl⟩⟩
    simp only [Plan.apply, hc, Plan.parameters, List.nil_append]
  · refine ⟨params, _, ?_, hr, .inr ⟨hne, forall₂_retyped_refl params, rfl⟩⟩
    simp only [Plan.apply, hc, Plan.parameters]
  · refine ⟨params, result, ?_, Retyped.refl result, .inr ⟨hne, forall₂_retyped_refl params, rfl⟩⟩
    simp only [Plan.apply, hc]
  · -- the type that is written stands where none was, so nothing was used or declared there
    have typed : Retyped type p.interfaceType := Retyped.of_isAbsent ht p.usesOf_interfaceType
    have first : Retyped (.mk (.parameter m) s [ds, pattern, type, value])
        (.mk (.parameter m) s [ds, pattern, p.interfaceType, value]) :=
      Retyped.of_parts (fun _ _ => rfl) s
        (.cons (.refl ds) (.cons (.refl pattern) (.cons typed (forall₂_retyped_refl [value]))))
    refine ⟨_, _, ?_, hr, .inr ⟨by simp, .cons first (forall₂_retyped_refl rest), ?_⟩⟩
    · simp only [Plan.apply, hc, Plan.parameters, Node.withParameterType]
    · have same : p.interfaceType.declared = type.declared := by
        rw [p.declared_interfaceType, Node.declared_of_isAbsent ht]
      simp only [List.map_cons, Node.declared_mk, same]
  · -- only declared props replace a parameter
    rw [h] at hd
    cases hd

theorem Plan.retyped_propsParameter (p : Plan) (s : Span) :
    Retyped (.mk .parameters s []) (.mk .parameters s [p.propsParameter]) := by
  refine ⟨fun read => ?_, fun read => ?_⟩
  · rw [Node.usesOf_mk, Node.usesOf_mk, usesOfFrom_cons, p.usesOf_propsParameter]
    rfl
  · simp [Node.uses, usesFrom, Kind.use?]

/-! ## Scopes that gain `props` -/

/-- Whether a reference with this binder, as seen from a component, is bound outside the component. The
name that a function expression gives itself is outside of its parameters. -/
def isOutside : Option (List Nat × Bool) → Bool
  | none | some ([], true) => true
  | _ => false

/-- Scopes of a component before and after the parameter `props` was added. -/
structure GainsProps (opened opened' : List Scope) : Prop where
  others : ∀ m x, (m, x) ≠ (.value, propsName) → binderIn opened' m x = binderIn opened m x
  outside : isOutside (binderIn opened .value propsName) = true
  inside : binderIn opened' .value propsName = some ([], false)

/-- What the scopes of a node become: they gain `props`, or stay the same. -/
def Opens (gains : Bool) (opened opened' : List Scope) : Prop :=
  if gains then GainsProps opened opened' else opened' = opened

theorem binderIn_signature (values types : List String) (rest : List Scope) (m : Meaning) (x : String) :
    binderIn (signatureScope values types :: rest) m x
      = if m = .value ∧ x ∈ values ∨ m = .type ∧ x ∈ types then some ([], false)
        else binderIn rest m x := by
  unfold binderIn
  rw [List.find?_cons]
  have hb : (signatureScope values types).binds m x
      = decide (m = .value ∧ x ∈ values ∨ m = .type ∧ x ∈ types) := by
    rw [Bool.eq_iff_iff]
    cases m <;> simp [Scope.binds, signatureScope, denoted]
  rw [hb]
  by_cases h : m = .value ∧ x ∈ values ∨ m = .type ∧ x ∈ types
  · simp [h, Scope.identity, signatureScope]
  · simp [h]

theorem isOutside_ownName (isExpression : Bool) (names : List Denoted) (m : Meaning) (x : String) :
    isOutside (binderIn (ownNameScope isExpression names) m x) = true := by
  cases isExpression with
  | false => rfl
  | true =>
    simp only [ownNameScope, binderIn, if_true, List.find?_singleton]
    split <;> rfl

theorem gainsProps_signature {values : List String} (h : propsName ∉ values) (types : List String)
    (isExpression : Bool) (names : List Denoted) :
    GainsProps (signatureScope values types :: ownNameScope isExpression names)
      (signatureScope (values ++ [propsName]) types :: ownNameScope isExpression names) := by
  refine ⟨fun m x hne => ?_, ?_, ?_⟩
  · have : m = .value → x ≠ propsName := by
      rintro rfl rfl
      exact hne rfl
    rw [binderIn_signature, binderIn_signature]
    congr 1
    simp only [List.mem_append, List.mem_singleton, eq_iff_iff]
    tauto
  · rw [binderIn_signature, if_neg (by simp [h])]
    exact isOutside_ownName ..
  · rw [binderIn_signature, if_pos (by simp)]

/-! ## Components that get `props` -/

/-- Whether a node is an empty list of parameters. -/
def Node.hasNoParameters : Node → Bool
  | .mk .parameters _ [] => true
  | _ => false

/-- Whether a node takes `props`: a function with a body or an arrow, without parameters. -/
def Node.takesProps : Node → Bool
  | .mk (.function _) _ [_, _, _, params, _, body] => params.hasNoParameters && !body.isAbsent
  | .mk (.arrow _) _ [_, params, _, _] => params.hasNoParameters
  | _ => false

/-- Whether annotation adds the parameter `props` to a node. -/
def Node.getsProps (plans : List Plan) (n : Node) : Bool :=
  (n.plan? plans).isSome && n.takesProps

theorem Node.eq_of_hasNoParameters {n : Node} (h : n.hasNoParameters = true) :
    ∃ s, n = .mk .parameters s [] := by
  unfold Node.hasNoParameters at h
  split at h
  · exact ⟨_, rfl⟩
  · cases h

@[simp] theorem Node.hasNoParameters_annotate (plans : List Plan) (n : Node) :
    (n.annotate plans).hasNoParameters = n.hasNoParameters := by
  obtain ⟨k, s, cs⟩ := n
  by_cases hk : k = .parameters
  · rw [hk, Node.annotate_of_not_plannable rfl]
    cases cs <;> rfl
  · have no : ∀ n : Node, n.kind ≠ .parameters → n.hasNoParameters = false := by
      intro n hn
      unfold Node.hasNoParameters
      split
      · exact absurd rfl hn
      · rfl
    rw [no (.mk k s cs) hk, no]
    rwa [Ne, Node.kind_annotate_iff rfl]

theorem Node.takesProps_eq_false {n : Node}
    (hf : ∀ (form : FunctionForm) (s : Span) (name types this : Node) (ps : Span) (params : List Node)
      (result body : Node),
        n = .mk (.function form) s [name, types, this, .mk .parameters ps params, result, body] → False)
    (ha : ∀ (form : ArrowForm) (s : Span) (types : Node) (ps : Span) (params : List Node)
      (result body : Node),
        n = .mk (.arrow form) s [types, .mk .parameters ps params, result, body] → False) :
    n.takesProps = false := by
  unfold Node.takesProps
  split
  · rename_i params _ _
    -- without parameters the node would have the layout that is ruled out
    cases hn : params.hasNoParameters with
    | false => rfl
    | true =>
      obtain ⟨ps, rfl⟩ := Node.eq_of_hasNoParameters hn
      exact (hf _ _ _ _ _ _ _ _ _ rfl).elim
  · rename_i params _ _
    cases hn : params.hasNoParameters with
    | false => rfl
    | true =>
      obtain ⟨ps, rfl⟩ := Node.eq_of_hasNoParameters hn
      exact (ha _ _ _ _ _ _ _ rfl).elim
  · rfl

theorem Node.getsProps_map_annotate (plans : List Plan) (k : Kind) (s : Span) (cs : List Node) :
    (Node.mk k s (cs.map (Node.annotate plans))).getsProps plans = (Node.mk k s cs).getsProps plans := by
  have takes : (Node.mk k s (cs.map (Node.annotate plans))).takesProps = (Node.mk k s cs).takesProps := by
    cases k with
    | function =>
      rcases cs with _ | ⟨a, _ | ⟨b, _ | ⟨c, _ | ⟨d, _ | ⟨e, _ | ⟨f, _ | ⟨g, cs⟩⟩⟩⟩⟩⟩⟩ <;>
        simp [Node.takesProps]
    | arrow =>
      rcases cs with _ | ⟨a, _ | ⟨b, _ | ⟨c, _ | ⟨d, _ | ⟨e, cs⟩⟩⟩⟩⟩ <;> simp [Node.takesProps]
    | _ => rfl
  rw [Node.getsProps, Node.getsProps, takes]
  rfl

/-- What a plan without declared props makes of the parameters of a component: the node of the parameters
only has types added, and binds `props` in addition if it was empty. -/
theorem Plan.parameters_undeclared {p : Plan} (h : p.isDeclared = false) (ps : Span)
    (parts : SignatureParts) :
    ∃ params result, (p.apply parts).1 = { parts with params := params, result := result }
      ∧ Retyped parts.result result
      ∧ Retyped (.mk .parameters ps parts.params) (.mk .parameters ps params)
      ∧ (Node.mk .parameters ps params).declared.params
        = (Node.mk .parameters ps parts.params).declared.params
          ++ if (Node.mk .parameters ps parts.params).hasNoParameters then [propsName] else [] := by
  obtain ⟨params, result, e, hr, ⟨hn, rfl⟩ | ⟨hne, hp, hd⟩⟩ := p.apply_undeclared h parts
  · refine ⟨_, result, e, hr, ?_, ?_⟩
    · rw [hn]
      exact p.retyped_propsParameter ps
    · rw [hn]
      rfl
  · refine ⟨params, result, e, hr, Retyped.of_parts (fun _ _ => rfl) ps hp, ?_⟩
    have : (Node.mk .parameters ps parts.params).hasNoParameters = false := by
      cases hp : parts.params with
      | nil => exact absurd hp hne
      | cons => rfl
    rw [this, Node.declared_mk, Node.declared_mk, hd]
    simp

theorem opens_signature (fixed : List String) (h : propsName ∉ fixed) (params : Node)
    (types : List String) (isExpression : Bool) (names : List Denoted) :
    Opens params.hasNoParameters
      (signatureScope (fixed ++ params.declared.params) types :: ownNameScope isExpression names)
      (signatureScope
        (fixed ++ (params.declared.params ++ if params.hasNoParameters then [propsName] else [])) types
          :: ownNameScope isExpression names) := by
  cases hn : params.hasNoParameters with
  | true =>
    obtain ⟨s, rfl⟩ := Node.eq_of_hasNoParameters hn
    exact (List.append_nil fixed).symm ▸ gainsProps_signature h types isExpression names
  | false => simp [Opens]

/-- A plan without declared props only adds types to the parts of a node, and `props` to the scopes of
one that takes it. -/
theorem Plan.applyTo_undeclared {p : Plan} (h : p.isDeclared = false) (k : Kind) (s : Span)
    (cs : List Node) :
    ∃ ds, (p.applyTo (.mk k s cs)).1 = .mk k s ds ∧ List.Forall₂ Retyped cs ds
      ∧ ∀ i, Opens (Node.mk k s cs).takesProps (k.scopes (cs.map Node.declared) i)
        (k.scopes (ds.map Node.declared) i) := by
  unfold Plan.applyTo
  split
  · rename_i form s name types this ps params result body e
    cases e
    split
    · rename_i ha
      -- an overload is left as it is
      exact ⟨_, rfl, forall₂_retyped_refl _, fun i => by simp [Opens, Node.takesProps, ha]⟩
    · rename_i ha
      obtain ⟨params', result', e, hr, hp, hd⟩ :=
        p.parameters_undeclared h ps ⟨params, result, body, false⟩
      refine ⟨_, rfl, ?_, ?_⟩
      · simp only [e]
        have rest := List.Forall₂.cons hp (.cons hr (forall₂_retyped_refl [body]))
        exact .cons (.refl name) (.cons (.refl types) (.cons (.refl this) rest))
      · intro i
        simp only [e, Kind.scopes, List.map_cons, List.map_nil, partAt, List.getD_cons_succ,
          List.getD_cons_zero, hd, Node.takesProps, ha, Bool.not_false, Bool.and_true]
        exact opens_signature ["arguments"] (by decide) _ _ _ _
  · rename_i form s types ps params result body e
    cases e
    obtain ⟨params', result', e, hr, hp, hd⟩ :=
      p.parameters_undeclared h ps ⟨params, result, body, form.isExpression⟩
    have rest := List.Forall₂.cons hp (.cons hr (forall₂_retyped_refl [body]))
    refine ⟨_, by simp only [e], .cons (.refl types) rest, fun i => ?_⟩
    simp only [Kind.scopes, List.map_cons, List.map_nil, partAt, List.getD_cons_succ,
      List.getD_cons_zero, hd, Node.takesProps]
    exact opens_signature [] (by simp) _ _ false []
  · rename_i form s ds name types base baseTypes implemented body e
    cases e
    -- a class opens its scopes around parts that only get types
    have hb : Retyped baseTypes
        (if baseTypes.isPresent then baseTypes else .fresh .typeArguments [p.interfaceType]) :=
      Retyped.of_isPresent baseTypes p.usesOf_typeArguments
    have rest := List.Forall₂.cons hb (forall₂_retyped_refl [implemented, body])
    exact ⟨_, rfl, .cons (.refl ds) (.cons (.refl name) (.cons (.refl types) (.cons (.refl base) rest))),
      fun i => rfl⟩
  · rename_i hf ha hc
    refine ⟨cs, rfl, forall₂_retyped_refl cs, fun i => ?_⟩
    simp [Opens, Node.takesProps_eq_false hf ha]

/-- Where no props are declared, annotation only adds types to the parts of a node, and `props` to the
scopes of one that gets it. -/
theorem Node.annotateHere_undeclared {plans : List Plan} (h : ∀ p ∈ plans, p.isDeclared = false)
    (k : Kind) (s : Span) (cs : List Node) :
    ∃ ds, (Node.mk k s cs).annotateHere plans = .mk k s ds ∧ List.Forall₂ Retyped cs ds
      ∧ ∀ i, Opens ((Node.mk k s cs).getsProps plans) (k.scopes (cs.map Node.declared) i)
        (k.scopes (ds.map Node.declared) i) := by
  unfold Node.annotateHere Node.getsProps
  cases hp : (Node.mk k s cs).plan? plans with
  | none => exact ⟨cs, rfl, forall₂_retyped_refl cs, fun i => rfl⟩
  | some p => simpa using p.applyTo_undeclared (h p (Node.mem_of_plan? hp).1) k s cs

end TypedJsx
