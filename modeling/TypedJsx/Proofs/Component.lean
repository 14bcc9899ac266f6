import Mathlib.Data.List.Nodup
import TypedJsx.Component
import TypedJsx.Proofs.Tree
/-!
Lists that keep the first item of every key, and the components of a program, which are such a list. They
are found on one walk, which keeps the names that it has recorded. Its steps are those over the candidates
in reading order (`Collector.visit_eq`), and after each of them what has been found has different names, the
ones that were kept (`Collector.IsConsistent.record`).

Main statement: the components of a program are the candidates that are components, of one name the first.
-/
namespace TypedJsx

section
variable {α : Type} (key : α → String)

theorem firstPerKey_sublist (l : List α) : (firstPerKey key l).Sublist l := by
  induction l with
  | nil => exact .slnil
  | cons a l ih => exact (List.filter_sublist.trans ih).cons_cons a

theorem mem_of_mem_firstPerKey {l : List α} {a : α} (h : a ∈ firstPerKey key l) : a ∈ l :=
  (firstPerKey_sublist key l).subset h

theorem nodup_firstPerKey (l : List α) : ((firstPerKey key l).map key).Nodup := by
  induction l with
  | nil => exact .nil
  | cons a l ih =>
    rw [firstPerKey, List.map_cons, List.nodup_cons]
    refine ⟨?_, ih.sublist (List.filter_sublist.map key)⟩
    simp

theorem exists_mem_firstPerKey {l : List α} {a : α} (h : a ∈ l) :
    ∃ b ∈ firstPerKey key l, key b = key a := by
  induction l with
  | nil => cases h
  | cons c l ih =>
    by_cases e : key c = key a
    · exact ⟨c, List.mem_cons_self, e⟩
    · obtain ⟨b, hb, hk⟩ := ih ((List.mem_cons.mp h).resolve_left fun h => e (h ▸ rfl))
      refine ⟨b, List.mem_cons_of_mem c (List.mem_filter.mpr ⟨hb, ?_⟩), hk⟩
      simpa [hk] using Ne.symm e

theorem firstPerKey_append {as : List α} (h : (as.map key).Nodup) (bs : List α) :
    firstPerKey key (as ++ bs)
      = as ++ (firstPerKey key bs).filter fun b => as.all fun a => key b != key a := by
  induction as with
  | nil => simp
  | cons a as ih =>
    rw [List.map_cons, List.nodup_cons] at h
    have apart : (as.filter fun b => key b != key a) = as := by
      rw [List.filter_eq_self]
      intro b hb
      have : key b ≠ key a := fun e => h.1 (e ▸ List.mem_map_of_mem hb)
      simpa using this
    rw [List.cons_append, firstPerKey, ih h.2, List.filter_append, apart, List.filter_filter]
    rfl

theorem mem_firstPerKey_filter_iff {β : Type} {f : β → α} {P : β → Prop} [DecidablePred P] {l : List β}
    {a : α} : a ∈ firstPerKey key ((l.filter P).map f) ↔
      ∃ before b after, l = before ++ b :: after ∧ P b ∧ a = f b
        ∧ ∀ c ∈ before, P c → key (f c) ≠ key (f b) := by
  induction l with
  | nil => simp [firstPerKey]
  | cons d l ih =>
    -- such an item is the first of the list, or stands behind it and does not have its key
    have split : (∃ before b after, d :: l = before ++ b :: after ∧ P b ∧ a = f b
          ∧ ∀ c ∈ before, P c → key (f c) ≠ key (f b))
        ↔ (P d ∧ a = f d) ∨ ∃ before b after, l = before ++ b :: after ∧ P b ∧ a = f b
          ∧ (P d → key (f d) ≠ key (f b)) ∧ ∀ c ∈ before, P c → key (f c) ≠ key (f b) := by
      constructor
      · rintro ⟨_ | ⟨e, before⟩, b, after, same, passes, rfl, earlier⟩
        · cases same
          exact .inl ⟨passes, rfl⟩
        · cases same
          rw [List.forall_mem_cons] at earlier
          exact .inr ⟨before, b, after, rfl, passes, rfl, earlier⟩
      · rintro (⟨passes, rfl⟩ | ⟨before, b, after, rfl, passes, rfl, earlier⟩)
        · exact ⟨[], d, l, rfl, passes, rfl, by simp⟩
        · exact ⟨d :: before, b, after, rfl, passes, rfl, List.forall_mem_cons.mpr earlier⟩
    rw [split]
    by_cases passes : P d
    · rw [List.filter_cons_of_pos (by simpa using passes), List.map_cons, firstPerKey, List.mem_cons,
        List.mem_filter, ih]
      refine or_congr (by simp [passes]) ?_
      constructor
      · rintro ⟨⟨before, b, after, rfl, pass, rfl, earlier⟩, other⟩
        exact ⟨before, b, after, rfl, pass, rfl, fun _ => (bne_iff_ne.mp other).symm, earlier⟩
      · rintro ⟨before, b, after, rfl, pass, rfl, other, earlier⟩
        exact ⟨⟨before, b, after, rfl, pass, rfl, earlier⟩, bne_iff_ne.mpr (other passes).symm⟩
    · rw [List.filter_cons_of_neg (by simpa using passes), ih]
      simp [passes]

theorem firstPerKey_append_cons_of_mem {as : List α} (h : (as.map key).Nodup) {b : α}
    (known : key b ∈ as.map key) (bs : List α) :
    firstPerKey key (as ++ b :: bs) = firstPerKey key (as ++ bs) := by
  obtain ⟨a, ha, same⟩ := List.mem_map.mp known
  have lost : (as.all fun a => key b != key a) = false := by
    rw [List.all_eq_false]
    exact ⟨a, ha, by simp [same]⟩
  rw [firstPerKey_append key h, firstPerKey_append key h, firstPerKey,
    List.filter_cons_of_neg (by simp [lost]), List.filter_filter]
  congr 1
  refine List.filter_congr fun c _ => ?_
  -- what is left has other keys than `a`, so than `b`
  cases all : as.all fun a => key c != key a with
  | false => rfl
  | true => simpa [same] using List.all_eq_true.mp all a ha

theorem filter_key_eq_singleton {l : List α} (h : (l.map key).Nodup) {a : α} (ha : a ∈ l) :
    (l.filter fun b => key b == key a) = [a] := by
  induction l with
  | nil => cases ha
  | cons c l ih =>
    rw [List.map_cons, List.nodup_cons] at h
    rcases List.mem_cons.mp ha with rfl | ha
    · have none : (l.filter fun b => key b == key a) = [] := by
        rw [List.filter_eq_nil_iff]
        intro b hb e
        exact h.1 (beq_iff_eq.mp e ▸ List.mem_map_of_mem hb)
      simp [none]
    · have : key c ≠ key a := fun e => h.1 (e ▸ List.mem_map_of_mem ha)
      simpa [List.filter_cons, this] using ih h.2 ha

end

/-! ## Candidates -/

/-- A node is or declares a named function with a body, or a named class. -/
inductive Node.Declares : Node → Candidate → Prop
  | functionDeclaration {form : FunctionForm} {s t : Span} {name : String} {ns : List Node}
      {types this params result body : Node} (statement : form.isExpression = false)
      (defined : form.isDeclare = false) (written : body.isPresent = true) :
      Declares (.mk (.function form) s [.mk (.binding name) t ns, types, this, params, result, body])
        ⟨name, .functionDeclaration, s, body⟩
  | classDeclaration {form : ClassForm} {s t : Span} {name : String} {ns rest : List Node}
      {ds types base : Node} (statement : form.isExpression = false) :
      Declares (.mk (.classNode form) s (ds :: .mk (.binding name) t ns :: types :: base :: rest))
        ⟨name, .classForm, s, base⟩
  | arrow {isDefinite : Bool} {form : ArrowForm} {d s t : Span} {name : String} {ns : List Node}
      {type types params result body : Node} (written : body.isPresent = true) :
      Declares (.mk (.declarator isDefinite) d
          [.mk (.binding name) t ns, type, .mk (.arrow form) s [types, params, result, body]])
        ⟨name, .arrow, s, body⟩
  | functionExpression {isDefinite : Bool} {form : FunctionForm} {d s t : Span} {name : String}
      {ns : List Node} {type own types this params result body : Node}
      (expression : form.isExpression = true) (written : body.isPresent = true) :
      Declares (.mk (.declarator isDefinite) d [.mk (.binding name) t ns, type,
          .mk (.function form) s [own, types, this, params, result, body]])
        ⟨name, .functionExpression, s, body⟩
  | classExpression {isDefinite : Bool} {form : ClassForm} {d s t : Span} {name : String}
      {ns rest : List Node} {type ds own types base : Node} (expression : form.isExpression = true) :
      Declares (.mk (.declarator isDefinite) d [.mk (.binding name) t ns, type,
          .mk (.classNode form) s (ds :: own :: types :: base :: rest)])
        ⟨name, .classForm, s, base⟩

theorem candidateFunction_eq_some_iff {name : String} {form : ComponentForm} {span : Span} {body : Node}
    {c : Candidate} : candidateFunction name form span body = some c ↔
      body.isPresent = true ∧ c = ⟨name, form, span, body⟩ := by
  unfold candidateFunction Node.isPresent
  cases body.isAbsent <;> simp [eq_comm]

theorem Node.candidate?_eq_some_iff {n : Node} {c : Candidate} :
    n.candidate? = some c ↔ n.Declares c := by
  constructor
  · intro h
    unfold Node.candidate? at h
    split at h
    · split at h
      · cases h
      · rename_i plain
        obtain ⟨written, rfl⟩ := candidateFunction_eq_some_iff.mp h
        rw [Bool.not_eq_true, Bool.or_eq_false_iff] at plain
        exact .functionDeclaration plain.1 plain.2 written
    · split at h
      · cases h
      · rename_i statement
        cases h
        exact .classDeclaration (by simpa using statement)
    · -- a declarator: its value tells what is declared, and its name which
      split at h
      · obtain ⟨written, rfl⟩ := candidateFunction_eq_some_iff.mp h
        exact .arrow written
      · split at h
        · rename_i expression
          obtain ⟨written, rfl⟩ := candidateFunction_eq_some_iff.mp h
          exact .functionExpression expression written
        · cases h
      · split at h
        · rename_i expression
          cases h
          exact .classExpression expression
        · cases h
      · cases h
    · cases h
  · intro h
    cases h with
    | functionDeclaration statement defined written =>
      simp [Node.candidate?, statement, defined, candidateFunction_eq_some_iff, written]
    | classDeclaration statement => simp [Node.candidate?, statement]
    | arrow written => simp [Node.candidate?, candidateFunction_eq_some_iff, written]
    | functionExpression expression written =>
      simp [Node.candidate?, expression, candidateFunction_eq_some_iff, written]
    | classExpression expression => simp [Node.candidate?, expression]

/-- Everything in a tree that could be a component, outer before inner, in reading order. -/
def Node.candidates (tree : Node) : List Candidate := tree.nodes.filterMap Node.candidate?

theorem Node.candidates_mk (k : Kind) (s : Span) (cs : List Node) : (Node.mk k s cs).candidates
    = (Node.mk k s cs).candidate?.toList ++ cs.flatMap Node.candidates := by
  have parts : (cs.flatMap Node.nodes).filterMap Node.candidate? = cs.flatMap Node.candidates :=
    List.filterMap_flatMap
  rw [Node.candidates, Node.nodes_mk, List.filterMap_cons, parts]
  cases (Node.mk k s cs).candidate? <;> rfl

/-- A candidate is a component, certainly or perhaps: markup stands in the body of a function, or a class
extends one of the framework's. -/
def Candidate.IsComponent (c : Candidate) : Prop :=
  match c.form with
  | .classForm => isComponentBase c.evidence = true
  | _ => Detection.ofBody c.evidence = .component ∨ Detection.ofBody c.evidence = .ambiguous

theorem Candidate.isComponent_iff (c : Candidate) : c.IsComponent ↔ c.detection ≠ .notComponent := by
  have body : ∀ d : Detection, d = .component ∨ d = .ambiguous ↔ d ≠ .notComponent := by
    intro d
    cases d <;> simp
  obtain ⟨name, form, span, evidence⟩ := c
  cases form with
  | classForm => cases h : isComponentBase evidence <;> simp [Candidate.IsComponent, Candidate.detection, h]
  | _ => exact body (.ofBody evidence)

instance (c : Candidate) : Decidable c.IsComponent := decidable_of_iff' _ c.isComponent_iff

/-! ## The walk -/

namespace Collector

theorem visitList_eq_foldl (collector : Collector) (cs : List Node) :
    collector.visitList cs = cs.foldl visit collector := by
  induction cs generalizing collector with
  | nil => rfl
  | cons c cs ih => rw [visitList, ih, List.foldl_cons]

/-- The walk through a tree records its candidates in reading order. -/
theorem visit_eq (n : Node) :
    ∀ collector : Collector, collector.visit n = n.candidates.foldl record collector := by
  induction n using Node.induction with
  | step k s cs ih =>
    have parts : ∀ collector : Collector,
        cs.foldl visit collector = (cs.flatMap Node.candidates).foldl record collector := by
      induction cs with
      | nil => exact fun _ => rfl
      | cons c cs later =>
        intro collector
        rw [List.forall_mem_cons] at ih
        rw [List.foldl_cons, ih.1, later ih.2, List.flatMap_cons, List.foldl_append]
    intro collector
    rw [visit, visitList_eq_foldl, parts, Node.candidates_mk, List.foldl_append, meet]
    cases (Node.mk k s cs).candidate? <;> rfl

/-- What has been found has different names, and these are the names that were kept. -/
structure IsConsistent (collector : Collector) : Prop where
  nodup : (collector.found.map Component.name).Nodup
  seen : ∀ name, name ∈ collector.seen ↔ name ∈ collector.found.map Component.name

theorem isConsistent_empty : IsConsistent {} := ⟨.nil, by simp⟩

theorem record_cases {collector : Collector} (h : collector.IsConsistent) (c : Candidate) :
    (¬c.IsComponent ∧ collector.record c = collector)
      ∨ (c.name ∈ collector.found.map Component.name ∧ collector.record c = collector)
      ∨ (c.IsComponent ∧ c.name ∉ collector.found.map Component.name
        ∧ collector.record c = ⟨collector.found ++ [c.component], c.name :: collector.seen⟩) := by
  rw [← h.seen, c.isComponent_iff]
  by_cases seen : c.name ∈ collector.seen
  · exact .inr (.inl ⟨seen, by simp [record, seen]⟩)
  · by_cases none : c.detection = .notComponent
    · exact .inl ⟨by simpa using none, by simp [record, none]⟩
    · exact .inr (.inr ⟨none, seen, by simp [record, seen, none]⟩)

theorem IsConsistent.record {collector : Collector} (h : collector.IsConsistent) (c : Candidate) :
    (collector.record c).IsConsistent := by
  rcases record_cases h c with ⟨-, e⟩ | ⟨-, e⟩ | ⟨-, fresh, e⟩ <;> rw [e]
  · exact h
  · exact h
  · constructor
    · rw [List.map_append, List.map_singleton, List.nodup_append_comm]
      exact List.nodup_cons.mpr ⟨fresh, h.nodup⟩
    · intro name
      simp [h.seen, Candidate.component, or_comm]

/-- Recording candidates one after the other leaves the first of each name of what has been found and of
those candidates that are components. -/
theorem found_foldl_record (cs : List Candidate) :
    ∀ {collector : Collector}, collector.IsConsistent → (cs.foldl Collector.record collector).found
      = firstPerKey Component.name
        (collector.found ++ (cs.filter Candidate.IsComponent).map Candidate.component) := by
  induction cs with
  | nil =>
    intro collector h
    rw [List.foldl_nil, List.filter_nil, List.map_nil, firstPerKey_append _ h.nodup]
    simp [firstPerKey]
  | cons c cs ih =>
    intro collector h
    rw [List.foldl_cons, ih (h.record c)]
    rcases record_cases h c with ⟨none, e⟩ | ⟨known, e⟩ | ⟨is, -, e⟩ <;> rw [e]
    · rw [List.filter_cons_of_neg (by simpa using none)]
    · by_cases is : c.IsComponent
      · rw [List.filter_cons_of_pos (by simpa using is), List.map_cons,
          firstPerKey_append_cons_of_mem _ h.nodup known]
      · rw [List.filter_cons_of_neg (by simpa using is)]
    · rw [List.filter_cons_of_pos (by simpa using is), List.map_cons, List.append_assoc,
        List.singleton_append]

end Collector

theorem Node.components_eq (program : Node) : program.components
    = firstPerKey Component.name
      ((program.candidates.filter Candidate.IsComponent).map Candidate.component) := by
  rw [Node.components, Collector.visit_eq, Collector.found_foldl_record _ Collector.isConsistent_empty]
  rfl

/-- The components of a program are the candidates that are components, of one name the first: no two of them
have the same name, and no other candidate takes the name of one that comes later. The candidates are what
the nodes of the program declare, outer before inner, in reading order. -/
theorem components_are_first_candidates (program : Node) :
    program.components = firstPerKey Component.name
        ((program.candidates.filter Candidate.IsComponent).map Candidate.component)
      ∧ (program.components.map Component.name).Nodup
      ∧ (∀ c, c ∈ program.components ↔ ∃ before x after, program.candidates = before ++ x :: after
        ∧ x.IsComponent ∧ c = x.component ∧ ∀ y ∈ before, y.IsComponent → y.name ≠ x.name)
      ∧ program.candidates = program.nodes.filterMap Node.candidate?
      ∧ ∀ n x, Node.candidate? n = some x ↔ n.Declares x := by
  have components := program.components_eq
  refine ⟨components, ?_, fun c => ?_, rfl, fun n x => Node.candidate?_eq_some_iff⟩
  · rw [components]
    exact nodup_firstPerKey Component.name _
  · rw [components, mem_firstPerKey_filter_iff]
    rfl

theorem Node.nodup_components (program : Node) : (program.components.map Component.name).Nodup := by
  rw [program.components_eq]
  exact nodup_firstPerKey Component.name _

end TypedJsx
