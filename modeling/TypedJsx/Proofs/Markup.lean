import TypedJsx.Component
import TypedJsx.Proofs.Tree
/-!
Where markup stands in a body. The walk through a body counts in how many functions it stands, and notes
markup under that count. A walk through a tree leaves the count as it was, and notes just the markup of the
tree, each piece at the count of the functions around it (`MarkupScan.notes_visit`).

Main statement: a function is a component if markup stands in its body outside every function in it,
ambiguous if markup stands there in such functions only, and no component if there is none.
-/
namespace TypedJsx

/-- Markup stands in the tree, and in just so many functions of it. -/
def Node.HasMarkupAt (tree : Node) (depth : Nat) : Prop :=
  ∃ n around, n.kind.isMarkup = true ∧ tree.StandsIn Kind.isFunction around n ∧ around.length = depth

theorem Node.hasMarkupAt_mk_iff {k : Kind} {s : Span} {cs : List Node} {depth : Nat} :
    (Node.mk k s cs).HasMarkupAt depth ↔ (k.isMarkup = true ∧ depth = 0)
      ∨ ∃ c ∈ cs, ∃ d, c.HasMarkupAt d ∧ depth = if k.isFunction then d + 1 else d := by
  constructor
  · rintro ⟨n, around, markup, stands, rfl⟩
    cases stands with
    | root => exact .inl ⟨markup, rfl⟩
    | inside passes mem part => exact .inr ⟨_, mem, _, ⟨n, _, markup, part, rfl⟩, by simp [passes]⟩
    | through fails mem part => exact .inr ⟨_, mem, _, ⟨n, _, markup, part, rfl⟩, by simp [fails]⟩
  · rintro (⟨markup, rfl⟩ | ⟨c, mem, d, ⟨n, around, markup, part, rfl⟩, rfl⟩)
    · exact ⟨.mk k s cs, [], markup, .root _, rfl⟩
    · cases h : k.isFunction with
      | true => exact ⟨n, _, markup, .inside h mem part, by simp⟩
      | false => exact ⟨n, _, markup, .through h mem part, by simp⟩

namespace MarkupScan

/-- What a walk has noted between two points: it is back at its depth, and `met` are the depths, counted from
there, at which it has met markup. -/
structure Notes (scan later : MarkupScan) (met : Nat → Prop) : Prop where
  depth : later.depth = scan.depth
  own : later.own = true ↔ scan.own = true ∨ ∃ d, met d ∧ scan.depth + d = 0
  nested : later.nested = true ↔ scan.nested = true ∨ ∃ d, met d ∧ scan.depth + d ≠ 0

theorem Notes.nothing (scan : MarkupScan) : scan.Notes scan fun _ => False := ⟨rfl, by simp, by simp⟩

theorem Notes.congr {scan later : MarkupScan} {met met' : Nat → Prop} (h : scan.Notes later met)
    (same : ∀ d, met d ↔ met' d) : scan.Notes later met' := by
  rwa [funext fun d => propext (same d)] at h

theorem Notes.append {scan mid later : MarkupScan} {met met' : Nat → Prop} (first : scan.Notes mid met)
    (second : mid.Notes later met') : scan.Notes later fun d => met d ∨ met' d where
  depth := second.depth.trans first.depth
  own := by
    rw [second.own, first.own, first.depth, or_assoc]
    simp only [or_and_right, exists_or]
  nested := by
    rw [second.nested, first.nested, first.depth, or_assoc]
    simp only [or_and_right, exists_or]

theorem notes_hit (scan : MarkupScan) : scan.Notes scan.hit (· = 0) := by
  unfold hit
  split
  · rename_i h
    exact ⟨rfl, by simp [beq_iff_eq.mp h], by simp [beq_iff_eq.mp h]⟩
  · rename_i h
    have h : scan.depth ≠ 0 := by simpa using h
    exact ⟨rfl, by simp [h], by simp [h]⟩

theorem Notes.leave {scan later : MarkupScan} {met : Nat → Prop} (h : scan.enter.Notes later met) :
    scan.Notes later.leave fun d => ∃ e, met e ∧ d = e + 1 := by
  obtain ⟨depth, own, nested⟩ := h
  have back : later.leave.depth = scan.depth := by
    rw [MarkupScan.leave, depth]
    exact Nat.add_sub_cancel scan.depth 1
  refine ⟨back, own.trans (or_congr_right ?_), nested.trans (or_congr_right ?_)⟩
  · constructor
    · rintro ⟨d, -, none⟩
      simp [enter] at none
    · rintro ⟨_, ⟨e, -, rfl⟩, none⟩
      simp at none
  · constructor
    · rintro ⟨d, met, -⟩
      exact ⟨d + 1, ⟨d, met, rfl⟩, by simp⟩
    · rintro ⟨_, ⟨e, met, rfl⟩, -⟩
      exact ⟨e, met, by simp [enter]⟩

theorem notes_visitList {cs : List Node} (h : ∀ c ∈ cs, ∀ scan, Notes scan (scan.visit c) c.HasMarkupAt) :
    ∀ scan, Notes scan (scan.visitList cs) fun d => ∃ c ∈ cs, c.HasMarkupAt d := by
  induction cs with
  | nil => exact fun scan => (Notes.nothing scan).congr (by simp)
  | cons c cs ih =>
    rw [List.forall_mem_cons] at h
    intro scan
    rw [visitList]
    exact ((h.1 scan).append (ih h.2 _)).congr (by simp)

/-- A walk through a tree notes the markup of the tree, each piece at the depth at which it stands. -/
theorem notes_visit (n : Node) : ∀ scan : MarkupScan, scan.Notes (scan.visit n) n.HasMarkupAt := by
  induction n using Node.induction with
  | step k s cs ih =>
    intro scan
    have parts := notes_visitList ih
    unfold visit
    split
    · rename_i function
      -- a function is no markup itself, and what is met in its parts is one deeper
      have plain : k.isMarkup = false := by
        cases k <;> simp [Kind.isFunction] at function <;> rfl
      refine (parts scan.enter).leave.congr fun d => ?_
      rw [Node.hasMarkupAt_mk_iff]
      simp only [function, plain, Bool.false_eq_true, false_and, false_or, if_true]
      constructor
      · rintro ⟨e, ⟨c, mem, met⟩, rfl⟩
        exact ⟨c, mem, e, met, rfl⟩
      · rintro ⟨c, mem, e, met, rfl⟩
        exact ⟨e, ⟨c, mem, met⟩, rfl⟩
    · rename_i function
      split
      · rename_i markup
        refine ((notes_hit scan).append (parts scan.hit)).congr fun d => ?_
        rw [Node.hasMarkupAt_mk_iff]
        simp [function, markup]
      · rename_i markup
        refine (parts scan).congr fun d => ?_
        rw [Node.hasMarkupAt_mk_iff]
        simp [function, markup]

end MarkupScan

/-! ## What a body says -/

theorem Node.exists_hasMarkupAt_iff {tree : Node} :
    (∃ depth, tree.HasMarkupAt depth) ↔ ∃ n ∈ tree.nodes, n.kind.isMarkup = true := by
  constructor
  · rintro ⟨_, n, around, markup, stands, rfl⟩
    exact ⟨n, (Node.mem_nodes_iff_standsIn Kind.isFunction).mpr ⟨around, stands⟩, markup⟩
  · rintro ⟨n, mem, markup⟩
    obtain ⟨around, stands⟩ := (Node.mem_nodes_iff_standsIn Kind.isFunction).mp mem
    exact ⟨around.length, n, around, markup, stands, rfl⟩

theorem Node.hasMarkupAt_zero_iff {tree : Node} :
    tree.HasMarkupAt 0 ↔ ∃ n, n.kind.isMarkup = true ∧ tree.StandsIn Kind.isFunction [] n := by
  constructor
  · rintro ⟨n, around, markup, stands, none⟩
    rw [List.length_eq_zero_iff] at none
    exact ⟨n, markup, none ▸ stands⟩
  · rintro ⟨n, markup, stands⟩
    exact ⟨n, [], markup, stands, rfl⟩

theorem MarkupScan.visit_body (body : Node) :
    ((MarkupScan.visit {} body).own = true ↔ body.HasMarkupAt 0)
      ∧ ((MarkupScan.visit {} body).nested = true ↔ ∃ d, body.HasMarkupAt (d + 1)) := by
  obtain ⟨-, own, nested⟩ := MarkupScan.notes_visit body {}
  rw [own, nested]
  constructor
  · simp
  · simp only [Bool.false_eq_true, false_or, Nat.zero_add, ne_eq]
    exact ⟨fun ⟨d, met, deep⟩ => ⟨d - 1, by rwa [Nat.sub_add_cancel (Nat.pos_of_ne_zero deep)]⟩,
      fun ⟨d, met⟩ => ⟨d + 1, met, Nat.succ_ne_zero d⟩⟩

/-- The body of a function tells a component by markup that stands in it outside every function in it; an
ambiguous one by markup that stands in functions in it only, in their parameters or their bodies; and no
component by the lack of markup. -/
theorem body_detection_iff (body : Node) :
    (Detection.ofBody body = .component ↔
        ∃ n, n.kind.isMarkup = true ∧ body.StandsIn Kind.isFunction [] n)
      ∧ (Detection.ofBody body = .ambiguous ↔ (∃ n ∈ body.nodes, n.kind.isMarkup = true)
        ∧ ∀ n around, n.kind.isMarkup = true → body.StandsIn Kind.isFunction around n → around ≠ [])
      ∧ (Detection.ofBody body = .notComponent ↔ ∀ n ∈ body.nodes, n.kind.isMarkup = false) := by
  obtain ⟨own, nested⟩ := MarkupScan.visit_body body
  -- the answers are told by whether there is markup outside of all functions, and anywhere
  have apart : (∀ n around, n.kind.isMarkup = true → body.StandsIn Kind.isFunction around n → around ≠ [])
      ↔ ¬body.HasMarkupAt 0 := by
    rw [Node.hasMarkupAt_zero_iff]
    constructor
    · rintro only ⟨n, markup, stands⟩
      exact only n [] markup stands rfl
    · rintro none n _ markup stands rfl
      exact none ⟨n, markup, stands⟩
  have clear : (∀ n ∈ body.nodes, n.kind.isMarkup = false) ↔ ¬∃ d, body.HasMarkupAt d := by
    rw [Node.exists_hasMarkupAt_iff]
    simp
  have anywhere : (∃ d, body.HasMarkupAt d) ↔ body.HasMarkupAt 0 ∨ ∃ d, body.HasMarkupAt (d + 1) :=
    Nat.or_exists_add_one.symm
  rw [← Node.hasMarkupAt_zero_iff, ← Node.exists_hasMarkupAt_iff, apart, clear, anywhere, ← own, ← nested]
  simp only [Detection.ofBody]
  cases (MarkupScan.visit {} body).own <;> cases (MarkupScan.visit {} body).nested <;> simp

end TypedJsx
