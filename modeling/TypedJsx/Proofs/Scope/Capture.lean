import TypedJsx.Conversion
import TypedJsx.Proofs.Scope.Annotation
/-!
Capture of references by annotation, where no props are declared. The parameter `props` that a component
without parameters gets is a new binder over the whole component: it takes over every use of `props` in
the component that was bound further out, or not at all.

Main statement: all references to values keep their binders just if no component that gets `props` uses a
`props` from outside of it, and references to types and spaces of names always keep theirs.
-/
namespace TypedJsx

/-- Whether a component uses a `props` that is not bound in it. -/
def Node.usesOuterProps (n : Node) : Bool :=
  (n.usesOf .value (some .value)).any fun u => u.name == propsName && isOutside u.binder?

/-- No component of the tree that gets `props` uses a `props` from outside. -/
def Node.NoCapture (plans : List Plan) (n : Node) : Prop :=
  ∀ c ∈ n.nodes, c.getsProps plans = true → c.usesOuterProps = false

theorem Node.noCapture_mk (plans : List Plan) (k : Kind) (s : Span) (cs : List Node) :
    (Node.mk k s cs).NoCapture plans ↔
      (∀ c ∈ cs, c.NoCapture plans)
        ∧ ((Node.mk k s cs).getsProps plans = true → (Node.mk k s cs).usesOuterProps = false) := by
  simp only [Node.NoCapture, Node.nodes_mk, List.forall_mem_cons, List.forall_mem_flatMap]
  exact and_comm

/-! ## The scopes of one node -/

section
variable {k : Kind} {parts parts' : List Declared} {i : Nat} {gains : Bool}

theorem Opens.grows (h : Opens gains (k.scopes parts i) (k.scopes parts' i)) :
    Grows (k.scopes parts i) (k.scopes parts' i) := by
  refine ⟨k.place_of_mem_scopes parts i, k.place_of_mem_scopes parts' i, fun m x hn => ?_⟩
  cases gains with
  | false => exact h ▸ hn
  | true =>
    have g : GainsProps (k.scopes parts i) (k.scopes parts' i) := h
    by_cases e : (m, x) = (.value, propsName)
    · cases e
      rw [g.inside] at hn
      cases hn
    · rw [← g.others m x e, hn]

/-- A use of a value finds the same scope of the node just if the node's parameter `props` does not take
it over. -/
theorem Opens.binderIn_iff (h : Opens gains (k.scopes parts i) (k.scopes parts' i)) {u : Use}
    (hu : u.meaning = .value) :
    (u.binder? = none → binderIn (k.scopes parts' i) u.meaning u.name
        = binderIn (k.scopes parts i) u.meaning u.name) ↔
      ¬(gains = true ∧ u.name = propsName
        ∧ isOutside (u.within i (k.scopes parts i)).binder? = true) := by
  cases gains with
  | false =>
    have e : k.scopes parts' i = k.scopes parts i := h
    simp [e]
  | true =>
    have g : GainsProps (k.scopes parts i) (k.scopes parts' i) := h
    rw [Use.binder?_within, hu]
    by_cases hx : u.name = propsName
    · cases hb : u.binder? with
      | none =>
        -- `props` was found outside of the node before, and is found in it now
        have : binderIn (k.scopes parts i) .value propsName ≠ some ([], false) := by
          intro e
          have := g.outside
          rw [e] at this
          cases this
        simpa [hx, g.inside, g.outside] using this.symm
      | some b => simp [isOutside]
    · have : (Meaning.value, u.name) ≠ (.value, propsName) := by simpa using hx
      simp [hx, g.others _ _ this]

end

/-! ## Uses of values -/

/-- The references of a tree and of the annotated tree correspond, and have the same binders just if
nothing is captured. -/
structure Captures (plans : List Plan) (n : Node) : Prop where
  follows : ∀ read, List.Forall₂ Follows (n.usesOf .value read) ((n.annotate plans).usesOf .value read)
  settled : ∀ read, Settled (n.usesOf .value read) ((n.annotate plans).usesOf .value read)
    ↔ n.NoCapture plans

section
variable {plans : List Plan} {k : Kind} {parts parts' : List Declared} {gains : Bool}

theorem meaning_of_mem_usesOf {m : Meaning} {read : Option Meaning} {n : Node} {u : Use}
    (h : u ∈ n.usesOf m read) : u.meaning = m := by
  simpa using (List.mem_filter.mp h).2

theorem follows_usesOfFrom (ho : ∀ i, Opens gains (k.scopes parts i) (k.scopes parts' i))
    (read : Option Meaning) {cs : List Node} (ih : ∀ c ∈ cs, Captures plans c) (i : Nat) :
    List.Forall₂ Follows (usesOfFrom k parts .value read i cs)
      (usesOfFrom k parts' .value read i (cs.map (Node.annotate plans))) := by
  induction cs generalizing i with
  | nil => exact .nil
  | cons c cs ihcs =>
    rw [List.map_cons, usesOfFrom_cons, usesOfFrom_cons]
    rw [List.forall_mem_cons] at ih
    exact List.rel_append (follows_map_within i (ih.1.follows _) (ho i).grows) (ihcs ih.2 (i + 1))

theorem settled_usesOfFrom (ho : ∀ i, Opens gains (k.scopes parts i) (k.scopes parts' i))
    (read : Option Meaning) {cs : List Node} (ih : ∀ c ∈ cs, Captures plans c) (i : Nat) :
    Settled (usesOfFrom k parts .value read i cs)
        (usesOfFrom k parts' .value read i (cs.map (Node.annotate plans))) ↔
      (∀ c ∈ cs, c.NoCapture plans) ∧ ∀ u ∈ usesOfFrom k parts .value read i cs,
        ¬(gains = true ∧ u.name = propsName ∧ isOutside u.binder? = true) := by
  induction cs generalizing i with
  | nil => simp [usesOfFrom, usesFrom, Settled]
  | cons c cs ihcs =>
    rw [List.forall_mem_cons] at ih
    have hc := ih.1.follows (k.readsAt read i)
    have here : (∀ u ∈ c.usesOf .value (k.readsAt read i), u.binder? = none →
          binderIn (k.scopes parts' i) u.meaning u.name = binderIn (k.scopes parts i) u.meaning u.name) ↔
        ∀ u ∈ (c.usesOf .value (k.readsAt read i)).map (Use.within i (k.scopes parts i)),
          ¬(gains = true ∧ u.name = propsName ∧ isOutside u.binder? = true) := by
      rw [List.forall_mem_map]
      exact forall₂_congr fun u hu => (ho i).binderIn_iff (meaning_of_mem_usesOf hu)
    rw [List.map_cons, usesOfFrom_cons, usesOfFrom_cons,
      settled_append (follows_map_within i hc (ho i).grows), settled_within i hc (ho i).grows,
      ih.1.settled, ihcs ih.2, here, List.forall_mem_cons, List.forall_mem_append]
    exact and_and_and_comm

end

theorem usesOf_of_takesProps {k : Kind} {s : Span} {cs : List Node}
    (h : (Node.mk k s cs).takesProps = true) (m : Meaning) (read read' : Option Meaning) :
    (Node.mk k s cs).usesOf m read' = usesOfFrom k (cs.map Node.declared) m read 0 cs := by
  have component : k.use? read' = none ∧ ∀ i, k.readsAt read' i = k.readsAt read i := by
    unfold Node.takesProps at h
    split at h <;> rename_i e
    · cases e
      exact ⟨rfl, fun _ => rfl⟩
    · cases e
      exact ⟨rfl, fun _ => rfl⟩
    · cases h
  have same : ∀ (parts : List Declared) (i : Nat) (ns : List Node),
      usesFrom k parts read' i ns = usesFrom k parts read i ns := by
    intro parts i ns
    induction ns generalizing i with
    | nil => rfl
    | cons c ns ih => simp only [usesFrom, component.2, ih]
  rw [Node.usesOf_mk, component.1, usesOfFrom, same]
  rfl

/-- Where no props are declared, the uses of values in a tree keep their binders just if nothing is
captured. -/
theorem Node.captures {plans : List Plan} (h : ∀ p ∈ plans, p.isDeclared = false) (n : Node) :
    Captures plans n := by
  induction n using Node.induction with
  | step k s cs ih =>
    obtain ⟨ds, e, hr, ho⟩ := Node.annotateHere_undeclared h k s (cs.map (Node.annotate plans))
    rw [Node.getsProps_map_annotate, map_declared_annotate] at ho
    -- the parts of the annotated node use the values that the annotated parts use
    have annotated : ∀ read, ((Node.mk k s cs).annotate plans).usesOf .value read
        = ((k.use? read).toList.filter fun u => u.meaning == .value)
          ++ usesOfFrom k (ds.map Node.declared) .value read 0 (cs.map (Node.annotate plans)) := by
      intro read
      rw [Node.annotate_mk, e, Node.usesOf_mk, usesOfFrom_retyped hr]
    have own : ∀ us : List Use, List.Forall₂ Follows us us := fun us =>
      List.forall₂_same.mpr fun u _ => ⟨rfl, rfl, rfl, id⟩
    refine ⟨fun read => ?_, fun read => ?_⟩
    · rw [Node.usesOf_mk, annotated]
      exact List.rel_append (own _) (follows_usesOfFrom ho read ih 0)
    · have ownSettled : Settled ((k.use? read).toList.filter fun u => u.meaning == .value)
          ((k.use? read).toList.filter fun u => u.meaning == .value) :=
        List.forall₂_same.mpr fun u _ => rfl
      rw [Node.usesOf_mk, annotated, settled_append (own _), settled_usesOfFrom ho read ih 0,
        Node.noCapture_mk, and_iff_right ownSettled]
      refine and_congr_right fun _ => ?_
      cases hg : (Node.mk k s cs).getsProps plans with
      | false => simp
      | true =>
        have takes : (Node.mk k s cs).takesProps = true := (Bool.and_eq_true_iff.mp hg).2
        rw [Node.usesOuterProps, usesOf_of_takesProps takes .value read]
        simp [List.any_eq_false]

/-! ## Uses of types and of spaces of names -/

theorem Use.resolve_within {u u' : Use} {opened opened' : List Scope} (i : Nat)
    (h : u'.resolve = u.resolve)
    (ho : binderIn opened' u.meaning u.name = binderIn opened u.meaning u.name) :
    (u'.within i opened').resolve = (u.within i opened).resolve := by
  simp only [Use.resolve, Resolution.mk.injEq] at h
  obtain ⟨hp, hm, hx, hb⟩ := h
  simp only [Use.resolve, Use.binder?_within, hb, hm, hx, ho]
  simp [Use.within, hp, hm, hx]

theorem Opens.binderIn_eq {gains : Bool} {opened opened' : List Scope} (h : Opens gains opened opened')
    {m : Meaning} (hm : m ≠ .value) (x : String) : binderIn opened' m x = binderIn opened m x := by
  cases gains with
  | false => exact congrArg (binderIn · m x) h
  | true => exact GainsProps.others h m x fun e => hm (congrArg Prod.fst e)

theorem usesFrom_kept {plans : List Plan} {k : Kind} {parts parts' : List Declared} {gains : Bool}
    {m : Meaning} (hm : m ≠ .value) (ho : ∀ i, Opens gains (k.scopes parts i) (k.scopes parts' i))
    (read : Option Meaning) {cs : List Node}
    (ih : ∀ c ∈ cs, ∀ read, ∀ u ∈ c.uses read, u.meaning = m →
      ∃ u' ∈ (c.annotate plans).uses read, u'.resolve = u.resolve) (i : Nat) :
    ∀ u ∈ usesFrom k parts read i cs, u.meaning = m →
      ∃ u' ∈ usesFrom k parts' read i (cs.map (Node.annotate plans)), u'.resolve = u.resolve := by
  induction cs generalizing i with
  | nil => simp [usesFrom]
  | cons c cs ihcs =>
    rw [List.forall_mem_cons] at ih
    simp only [usesFrom, List.map_cons, List.mem_append, List.mem_map]
    rintro u (⟨v, hv, rfl⟩ | hu) hum
    · obtain ⟨v', hv', e⟩ := ih.1 _ v hv hum
      refine ⟨v'.within i _, .inl ⟨v', hv', rfl⟩, Use.resolve_within i e ?_⟩
      exact (ho i).binderIn_eq (fun hv => hm (hum ▸ hv)) v.name
    · obtain ⟨u', hu', e⟩ := ihcs ih.2 (i + 1) u hu hum
      exact ⟨u', .inr hu', e⟩

/-- Where no props are declared, the uses of types and of spaces of names keep their binders. -/
theorem Node.uses_kept {plans : List Plan} (h : ∀ p ∈ plans, p.isDeclared = false) {m : Meaning}
    (hm : m ≠ .value) (n : Node) : ∀ read, ∀ u ∈ n.uses read, u.meaning = m →
      ∃ u' ∈ (n.annotate plans).uses read, u'.resolve = u.resolve := by
  induction n using Node.induction with
  | step k s cs ih =>
    intro read u hu hum
    obtain ⟨ds, e, hr, ho⟩ := Node.annotateHere_undeclared h k s (cs.map (Node.annotate plans))
    rw [map_declared_annotate] at ho
    rw [Node.annotate_mk, e]
    simp only [Node.uses, declaredList_eq_map, List.mem_append] at hu ⊢
    rcases hu with own | inner
    · exact ⟨u, .inl own, rfl⟩
    · obtain ⟨u', hu', e⟩ := usesFrom_kept hm ho read ih 0 u inner hum
      exact ⟨u', .inr (usesFrom_subset_of_retyped hr 0 hu'), e⟩

/-! ## Whole programs -/

/-- Where no props are declared, annotation keeps the binder of every use of a value in a program just if
no component that gets the parameter `props` uses a `props` from outside of it. The uses of types and of
spaces of names always keep their binders. -/
theorem annotate_keeps_binders_iff {plans : List Plan} (h : ∀ p ∈ plans, p.isDeclared = false)
    (program : Node) :
    ((program.annotate plans).resolutions .value = program.resolutions .value ↔
        ∀ c ∈ program.nodes, c.getsProps plans = true → c.usesOuterProps = false)
      ∧ ∀ m, m ≠ .value → program.resolutions m ⊆ (program.annotate plans).resolutions m := by
  refine ⟨?_, fun m hm r hr => ?_⟩
  · have captures := Node.captures h program
    exact (settled_iff_map_resolve (captures.follows _)).symm.trans (captures.settled _)
  · obtain ⟨u, hu, rfl⟩ := List.mem_map.mp hr
    obtain ⟨hu, hum⟩ := List.mem_filter.mp hu
    obtain ⟨u', hu', e⟩ := Node.uses_kept h hm program _ u hu (by simpa using hum)
    have hm' : u'.meaning = u.meaning := congrArg Resolution.meaning e
    exact List.mem_map.mpr ⟨u', List.mem_filter.mpr ⟨hu', by rw [hm']; exact hum⟩, e⟩

/-- A component without parameters inside one that takes `props`, and uses them. -/
def nestedSource : List Char :=
  "function Outer(props) \x7b\n  const Inner = () => <b>\x7bprops.x\x7d</b>;\n  return <Inner/>;\n\x7d\n".toList

/-- In a component nested in another, the use of the outer `props` is captured. -/
theorem nested_props_captured : ∃ m, Module.parse nestedSource = .ok m
    ∧ (∀ p ∈ m.plans {}, p.isDeclared = false)
    ∧ (m.tree.annotate (m.plans {})).resolutions .value ≠ m.tree.resolutions .value := by
  have run : (match Module.parse nestedSource with
      | .ok m => decide ((∀ p ∈ m.plans {}, p.isDeclared = false) ∧ ¬∀ c ∈ m.tree.nodes,
          c.getsProps (m.plans {}) = true → c.usesOuterProps = false)
      | .error _ => false) = true := by decide +kernel
  split at run
  · rename_i m hm
    obtain ⟨undeclared, captured⟩ := of_decide_eq_true run
    refine ⟨m, hm, undeclared, fun kept => captured ?_⟩
    exact (annotate_keeps_binders_iff undeclared m.tree).1.mp kept
  · cases run

end TypedJsx
