import Mathlib.Data.List.Forall2
import TypedJsx.Proofs.Scope.Basic
/-!
How references are resolved from the inside out. Seen from around a node, a reference in one of its
parts keeps the scope that binds it inside the part; one that is not bound there is looked up in the
scopes that the node opens (`Use.binder?_within`).

Two lists of references are compared where the second follows the first: the same names at the same
places, with scopes that may have grown (`Follows`). They are settled if each reference is bound by the
same scope in both. Whether lists are settled from around a node comes down to whether they are settled
inside it, and what the node's own scopes say about the references that are not bound inside
(`settled_within`).
-/
namespace TypedJsx

/-! ## Looking names up -/

theorem binderIn_append (inner outer : List Scope) (m : Meaning) (x : String) :
    binderIn (inner ++ outer) m x = (binderIn inner m x).or (binderIn outer m x) := by
  simp only [binderIn, List.find?_append]
  cases inner.find? fun s => s.binds m x <;> rfl

theorem binderIn_below (i : Nat) (scopes : List Scope) (m : Meaning) (x : String) :
    binderIn (scopes.map (Scope.below i)) m x
      = (binderIn scopes m x).map fun b => (i :: b.1, b.2) := by
  simp only [binderIn, List.find?_map, Option.map_map]
  rfl

theorem Use.binder?_within (i : Nat) (opened : List Scope) (u : Use) :
    (u.within i opened).binder?
      = (u.binder?.map fun b => (i :: b.1, b.2)).or (binderIn opened u.meaning u.name) := by
  simp only [Use.binder?, Use.within, binderIn_append, binderIn_below]

theorem place_of_mem_ownNameScope {isExpression : Bool} {names : List Denoted} :
    ∀ s ∈ ownNameScope isExpression names, s.place = [] := by
  cases isExpression <;> simp [ownNameScope]

theorem Kind.place_of_mem_scopes (k : Kind) (parts : List Declared) (i : Nat) :
    ∀ s ∈ k.scopes parts i, s.place = [] := by
  unfold Kind.scopes
  split <;> (try split) <;>
    simp only [List.forall_mem_cons, List.not_mem_nil, false_implies, implies_true, and_true,
      signatureScope, true_and] <;>
    exact place_of_mem_ownNameScope

/-! ## Lists of references that follow each other -/

/-- The same reference where scopes may have more names: one that is not bound now was not before. -/
structure Follows (u u' : Use) : Prop where
  place : u'.place = u.place
  meaning : u'.meaning = u.meaning
  name : u'.name = u.name
  unbound : u'.binder? = none → u.binder? = none

/-- Each reference is bound by the same scope in both lists. -/
def Settled (us us' : List Use) : Prop := List.Forall₂ (fun u u' => u'.binder? = u.binder?) us us'

/-- Scopes that a node opens, before and after names were added to them. -/
structure Grows (opened opened' : List Scope) : Prop where
  here : ∀ s ∈ opened, s.place = []
  here' : ∀ s ∈ opened', s.place = []
  unbound : ∀ m x, binderIn opened' m x = none → binderIn opened m x = none

section
variable {u u' : Use} {opened opened' : List Scope}

theorem Follows.within (i : Nat) (h : Follows u u') (g : Grows opened opened') :
    Follows (u.within i opened) (u'.within i opened') := by
  refine ⟨by simp [Use.within, h.place], h.meaning, h.name, ?_⟩
  intro hn
  rw [Use.binder?_within, Option.or_eq_none_iff, Option.map_eq_none_iff, h.meaning, h.name] at hn
  rw [Use.binder?_within, h.unbound hn.1, g.unbound _ _ hn.2]
  rfl

/-- From around a node, a reference has the same binder in both just if it has inside, or is bound
inside in neither and found in the same scope of the node. -/
theorem Follows.binder?_within_iff (i : Nat) (h : Follows u u') (g : Grows opened opened') :
    (u'.within i opened').binder? = (u.within i opened).binder? ↔
      u'.binder? = u.binder? ∧ (u.binder? = none →
        binderIn opened' u.meaning u.name = binderIn opened u.meaning u.name) := by
  -- a scope inside the part is never one of the node's own
  have apart : ∀ b : List Nat × Bool, binderIn opened u.meaning u.name ≠ some (i :: b.1, b.2) := by
    intro b hb
    obtain ⟨s, hs, e⟩ := Option.map_eq_some_iff.mp hb
    have := g.here s (List.mem_of_find?_eq_some hs)
    simp [Scope.identity, this] at e
  rw [Use.binder?_within, Use.binder?_within, h.meaning, h.name]
  cases hu' : u'.binder? with
  | none => simp [h.unbound hu']
  | some b' =>
    cases hu : u.binder? with
    | none => simpa using fun e => apart b' e.symm
    | some b => simp [Prod.ext_iff]

end

theorem follows_map_within (i : Nat) {us us' : List Use} {opened opened' : List Scope}
    (h : List.Forall₂ Follows us us') (g : Grows opened opened') :
    List.Forall₂ Follows (us.map (Use.within i opened)) (us'.map (Use.within i opened')) := by
  rw [List.forall₂_map_left_iff, List.forall₂_map_right_iff]
  exact h.imp fun _ _ f => f.within i g

/-- Lists are settled from around a node just if they are inside it, and the node's scopes say the same
of every reference that is not bound inside. -/
theorem settled_within (i : Nat) {us us' : List Use} {opened opened' : List Scope}
    (h : List.Forall₂ Follows us us') (g : Grows opened opened') :
    Settled (us.map (Use.within i opened)) (us'.map (Use.within i opened')) ↔
      Settled us us' ∧ ∀ u ∈ us, u.binder? = none →
        binderIn opened' u.meaning u.name = binderIn opened u.meaning u.name := by
  unfold Settled
  rw [List.forall₂_map_left_iff, List.forall₂_map_right_iff]
  induction h with
  | nil => simp
  | cons hf _ ih =>
    rw [List.forall₂_cons, List.forall₂_cons, ih, hf.binder?_within_iff i g, List.forall_mem_cons]
    exact and_and_and_comm

theorem settled_append {us us' vs vs' : List Use} (h : List.Forall₂ Follows us us') :
    Settled (us ++ vs) (us' ++ vs') ↔ Settled us us' ∧ Settled vs vs' := by
  unfold Settled
  induction h with
  | nil => simp
  | cons _ _ ih => simp only [List.cons_append, List.forall₂_cons, ih, and_assoc]

theorem settled_iff_map_resolve {us us' : List Use} (h : List.Forall₂ Follows us us') :
    Settled us us' ↔ us'.map Use.resolve = us.map Use.resolve := by
  unfold Settled
  induction h with
  | nil => simp
  | cons hf _ ih =>
    rw [List.forall₂_cons, List.map_cons, List.map_cons, List.cons.injEq, ih]
    simp [Use.resolve, hf.place, hf.meaning, hf.name]

end TypedJsx
