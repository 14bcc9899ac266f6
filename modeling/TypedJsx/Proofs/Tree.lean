import Mathlib.Data.List.Basic
import TypedJsx.Tree.Node
/-!
Induction over syntax trees, and all the nodes of a tree in reading order, also with those that stand
around each (`Node.placed`). What holds of a node whenever it holds of its children holds of every tree
(`Node.induction`), so that walks written as a pair of recursions are proved about with one. Trees are
compared by how many of their nodes pass a test.
-/
namespace TypedJsx

/-- What holds of a node if it holds of its children holds of every node. -/
theorem Node.induction {P : Node → Prop}
    (step : ∀ k s cs, (∀ c ∈ cs, P c) → P (.mk k s cs)) : ∀ n, P n
  | .mk k s cs => step k s cs (children cs)
where
  children : ∀ cs : List Node, ∀ c ∈ cs, P c
    | [], c, h => by simp at h
    | d :: ds, c, h => by
      rcases List.mem_cons.mp h with here | later
      · rw [here]; exact Node.induction step d
      · exact children ds c later

@[simp] theorem Node.kind_mk (k : Kind) (s : Span) (cs : List Node) : (Node.mk k s cs).kind = k := rfl

@[simp] theorem Node.span_mk (k : Kind) (s : Span) (cs : List Node) : (Node.mk k s cs).span = s := rfl

@[simp] theorem Node.children_mk (k : Kind) (s : Span) (cs : List Node) :
    (Node.mk k s cs).children = cs := rfl

@[simp] theorem Node.withChildren_mk (k : Kind) (s : Span) (cs ds : List Node) :
    (Node.mk k s cs).withChildren ds = .mk k s ds := rfl

@[simp] theorem Node.withChildren_children (n : Node) : n.withChildren n.children = n := by
  obtain ⟨k, s, cs⟩ := n
  rfl

theorem Node.isAbsent_iff {n : Node} : n.isAbsent = true ↔ n.kind = .absent ∧ n.children = [] := by
  obtain ⟨k, s, cs⟩ := n
  constructor
  · intro h
    unfold Node.isAbsent at h
    split at h
    · rename_i e
      cases e
      exact ⟨rfl, rfl⟩
    · cases h
  · rintro ⟨hk, hc⟩
    simp only [Node.kind_mk, Node.children_mk] at hk hc
    rw [hk, hc]
    rfl

theorem Node.isDirective_iff {n : Node} : n.isDirective = true ↔ ∃ raw, n.kind = .directive raw := by
  obtain ⟨k, s, cs⟩ := n
  constructor
  · intro h
    unfold Node.isDirective at h
    split at h
    · rename_i e
      cases e
      exact ⟨_, rfl⟩
    · cases h
  · rintro ⟨raw, hk⟩
    obtain rfl : k = .directive raw := hk
    rfl

mutual

/-- All nodes of a tree, outer before inner, in reading order. -/
def Node.nodes : Node → List Node
  | .mk k s cs => .mk k s cs :: nodesList cs

def nodesList : List Node → List Node
  | [] => []
  | c :: cs => c.nodes ++ nodesList cs

end

theorem nodesList_eq_flatMap (cs : List Node) : nodesList cs = cs.flatMap Node.nodes := by
  induction cs with
  | nil => rfl
  | cons c cs ih => simp [nodesList, ih]

@[simp] theorem Node.nodes_mk (k : Kind) (s : Span) (cs : List Node) :
    (Node.mk k s cs).nodes = .mk k s cs :: cs.flatMap Node.nodes := by
  rw [Node.nodes, nodesList_eq_flatMap]

theorem Node.mem_nodes_self (n : Node) : n ∈ n.nodes := by
  obtain ⟨k, s, cs⟩ := n
  rw [Node.nodes_mk]
  exact List.mem_cons_self

/-! ## Where a node stands -/

/-- A node stands in a tree, and `around` are the nodes on the way down to it whose kind passes a test, the
outermost first. -/
inductive Node.StandsIn (test : Kind → Bool) : (tree : Node) → (around : List Node) → (n : Node) → Prop
  | root (n : Node) : StandsIn test n [] n
  | inside {k : Kind} {s : Span} {cs around : List Node} {c n : Node} (passes : test k = true)
      (mem : c ∈ cs) (part : StandsIn test c around n) :
      StandsIn test (.mk k s cs) (.mk k s cs :: around) n
  | through {k : Kind} {s : Span} {cs around : List Node} {c n : Node} (fails : test k = false)
      (mem : c ∈ cs) (part : StandsIn test c around n) : StandsIn test (.mk k s cs) around n

theorem Node.mem_nodes_iff_standsIn (test : Kind → Bool) {tree n : Node} :
    n ∈ tree.nodes ↔ ∃ around, tree.StandsIn test around n := by
  constructor
  · induction tree using Node.induction with
    | step k s cs ih =>
      intro h
      rw [Node.nodes_mk, List.mem_cons, List.mem_flatMap] at h
      rcases h with rfl | ⟨c, mem, part⟩
      · exact ⟨[], .root _⟩
      · obtain ⟨around, stands⟩ := ih c mem part
        cases h : test k with
        | true => exact ⟨_, .inside h mem stands⟩
        | false => exact ⟨_, .through h mem stands⟩
  · rintro ⟨around, stands⟩
    induction stands with
    | root n => exact n.mem_nodes_self
    | inside _ mem _ ih | through _ mem _ ih =>
      rw [Node.nodes_mk]
      exact List.mem_cons_of_mem _ (List.mem_flatMap_of_mem mem ih)

mutual

/-- All nodes of a tree, outer before inner, in reading order, each with the nodes around it whose kind
passes a test, the outermost first. -/
def Node.placed (test : Kind → Bool) : Node → List (List Node × Node)
  | .mk k s cs => ([], .mk k s cs) :: (placedList test cs).map fun p =>
      if test k then (.mk k s cs :: p.1, p.2) else p

def placedList (test : Kind → Bool) : List Node → List (List Node × Node)
  | [] => []
  | c :: cs => c.placed test ++ placedList test cs

end

theorem placedList_eq_flatMap (test : Kind → Bool) (cs : List Node) :
    placedList test cs = cs.flatMap (Node.placed test) := by
  induction cs with
  | nil => rfl
  | cons c cs ih => simp [placedList, ih]

theorem Node.placed_mk (test : Kind → Bool) (k : Kind) (s : Span) (cs : List Node) :
    (Node.mk k s cs).placed test = ([], .mk k s cs) :: (cs.flatMap (Node.placed test)).map fun p =>
      if test k then (.mk k s cs :: p.1, p.2) else p := by
  rw [Node.placed, placedList_eq_flatMap]

theorem Node.map_snd_placed (test : Kind → Bool) (n : Node) :
    (n.placed test).map Prod.snd = n.nodes := by
  induction n using Node.induction with
  | step k s cs ih =>
    have parts : (cs.flatMap (Node.placed test)).map Prod.snd = cs.flatMap Node.nodes := by
      rw [List.map_flatMap]
      exact List.flatMap_congr fun c hc => ih c hc
    rw [Node.placed_mk, Node.nodes_mk, List.map_cons, List.map_map, ← parts]
    refine congrArg _ (List.map_congr_left fun p _ => ?_)
    cases test k <;> rfl

theorem Node.mem_placed_iff (test : Kind → Bool) {tree n : Node} {around : List Node} :
    (around, n) ∈ tree.placed test ↔ tree.StandsIn test around n := by
  constructor
  · induction tree using Node.induction generalizing around with
    | step k s cs ih =>
      intro h
      rw [Node.placed_mk, List.mem_cons, List.mem_map] at h
      rcases h with e | ⟨⟨inner, n⟩, h, e⟩
      · cases e
        exact .root _
      · obtain ⟨c, mem, part⟩ := List.mem_flatMap.mp h
        -- a node that passes joins those around its parts, any other is passed by
        cases passes : test k with
        | true =>
          rw [passes, if_pos rfl] at e
          cases e
          exact .inside passes mem (ih c mem part)
        | false =>
          rw [passes, if_neg Bool.false_ne_true] at e
          cases e
          exact .through passes mem (ih c mem part)
  · intro stands
    induction stands with
    | root n =>
      obtain ⟨k, s, cs⟩ := n
      rw [Node.placed_mk]
      exact List.mem_cons_self
    | inside passes mem _ ih =>
      rw [Node.placed_mk]
      exact List.mem_cons_of_mem _ (List.mem_map.mpr ⟨_, List.mem_flatMap_of_mem mem ih, by simp [passes]⟩)
    | through fails mem _ ih =>
      rw [Node.placed_mk]
      exact List.mem_cons_of_mem _ (List.mem_map.mpr ⟨_, List.mem_flatMap_of_mem mem ih, by simp [fails]⟩)

/-! ## Counting nodes -/

/-- How many nodes of a tree pass a test. -/
def Node.occurrences (test : Node → Bool) (n : Node) : Nat := n.nodes.countP test

/-- How many nodes of some trees pass a test. -/
def occurrencesIn (test : Node → Bool) (cs : List Node) : Nat := (cs.flatMap Node.nodes).countP test

section
variable (test : Node → Bool)

@[simp] theorem occurrencesIn_nil : occurrencesIn test [] = 0 := rfl

@[simp] theorem occurrencesIn_cons (c : Node) (cs : List Node) :
    occurrencesIn test (c :: cs) = c.occurrences test + occurrencesIn test cs := by
  rw [occurrencesIn, List.flatMap_cons, List.countP_append]
  rfl

@[simp] theorem occurrencesIn_append (cs ds : List Node) :
    occurrencesIn test (cs ++ ds) = occurrencesIn test cs + occurrencesIn test ds := by
  rw [occurrencesIn, List.flatMap_append, List.countP_append]
  rfl

theorem Node.occurrences_mk (k : Kind) (s : Span) (cs : List Node) :
    (Node.mk k s cs).occurrences test
      = (test (.mk k s cs)).toNat + occurrencesIn test cs := by
  rw [Node.occurrences, Node.nodes_mk, List.countP_cons, Nat.add_comm]
  cases test (.mk k s cs) <;> rfl

theorem occurrences_le_of_mem {cs : List Node} {c : Node} (h : c ∈ cs) :
    c.occurrences test ≤ occurrencesIn test cs := by
  induction cs with
  | nil => cases h
  | cons d cs ih =>
    rw [occurrencesIn_cons]
    rcases List.mem_cons.mp h with rfl | h
    · exact Nat.le_add_right _ _
    · exact Nat.le_add_left_of_le (ih h)

end

theorem occurrencesIn_le_of_forall {test : Node → Bool} {g : Node → Node} {cs : List Node}
    (h : ∀ c ∈ cs, (g c).occurrences test ≤ c.occurrences test) :
    occurrencesIn test (cs.map g) ≤ occurrencesIn test cs := by
  induction cs with
  | nil => exact Nat.le_refl _
  | cons c cs ih =>
    rw [List.forall_mem_cons] at h
    rw [List.map_cons, occurrencesIn_cons, occurrencesIn_cons]
    exact Nat.add_le_add h.1 (ih h.2)

/-! ## Searching in order -/

theorem find?_isFirst {α : Type} {before : α → α → Prop} {l : List α} {test : α → Bool} {a : α}
    (sorted : l.Pairwise before) (refl : ∀ a, before a a) (h : l.find? test = some a) :
    ∀ b ∈ l, test b = true → before a b := by
  obtain ⟨-, earlier, later, rfl, fails⟩ := List.find?_eq_some_iff_append.mp h
  intro b hb pass
  rcases List.mem_append.mp hb with hb | hb
  · exact absurd pass (by simpa using fails b hb)
  · rcases List.mem_cons.mp hb with rfl | hb
    · exact refl b
    · exact List.rel_of_pairwise_cons (List.pairwise_append.mp sorted).2.1 hb

end TypedJsx
