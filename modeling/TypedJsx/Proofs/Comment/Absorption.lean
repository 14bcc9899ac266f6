import Mathlib.Data.List.Nodup
import Mathlib.Data.List.Perm.Basic
import TypedJsx.Proofs.Comment.Placement
import TypedJsx.Proofs.Conversion.Comments
import TypedJsx.Proofs.Extraction.Exact
/-!
Each comment is taken by one entry at most. A comment that an entry takes stands between the properties of its
declaration, where no statement is, and there it leads or trails one property. Declarations inside a property
take comments from inside it.

Main statement: the absorbed comments are told once each, and each stands in a declaration that is taken out.
-/
namespace TypedJsx

/-! ## Text that is laid out -/

/-- Two spans share no text. -/
def Span.IsApartFrom (a b : Span) : Prop := a.stop ≤ b.start ∨ b.stop ≤ a.start

instance (a b : Span) : Decidable (a.IsApartFrom b) := inferInstanceAs (Decidable (_ ∨ _))

theorem Span.contains_iff {outer inner : Span} :
    outer.contains inner = true ↔ outer.start ≤ inner.start ∧ inner.stop ≤ outer.stop := by
  simp [Span.contains]

theorem Span.contains_trans {a b c : Span} (h : a.contains b = true) (h' : b.contains c = true) :
    a.contains c = true := by
  rw [Span.contains_iff] at *
  omega

theorem Span.IsApartFrom.not_contains {a b s : Span} (h : a.IsApartFrom b) (wide : s.start < s.stop)
    (left : a.contains s = true) (right : b.contains s = true) : False := by
  rw [Span.contains_iff] at left right
  unfold Span.IsApartFrom at h
  omega

/-- The node has an object literal in it. -/
def Node.HoldsObject (n : Node) : Prop := ∃ o ∈ n.nodes, o.kind = .object

instance (n : Node) : Decidable n.HoldsObject := inferInstanceAs (Decidable (∃ o ∈ n.nodes, o.kind = .object))

/-- Parts of a node that have object literals in them stand within the node and apart from each other. Parts
without any can share text: a shorthand property is its key and its value at once. -/
structure Node.Nests (n : Node) : Prop where
  within : ∀ part ∈ n.children, part.HoldsObject → n.span.contains part.span = true
  apart : n.children.Pairwise fun a b => a.HoldsObject → b.HoldsObject → a.span.IsApartFrom b.span

instance (n : Node) : Decidable n.Nests :=
  decidable_of_iff (_ ∧ _) ⟨fun ⟨within, apart⟩ => ⟨within, apart⟩, fun ⟨within, apart⟩ => ⟨within, apart⟩⟩

/-- How an object literal is written: a brace, then its properties in order, each up to the end of a token. -/
structure Node.IsObjectText (tokens : List Span) (o : Node) : Prop where
  opens : ⟨o.span.start, o.span.start + 1⟩ ∈ tokens
  inside : ∀ p ∈ o.children,
    o.span.start < p.span.start ∧ p.span.start < p.span.stop ∧ p.span.stop ≤ o.span.stop
  ordered : o.children.Pairwise fun p q => p.span.stop ≤ q.span.start
  ends : ∀ p ∈ o.children, ∃ t ∈ tokens, t.start < t.stop ∧ t.stop = p.span.stop

instance (tokens : List Span) (o : Node) : Decidable (o.IsObjectText tokens) :=
  decidable_of_iff (_ ∧ _ ∧ _ ∧ _) ⟨fun ⟨opens, inside, ordered, ends⟩ => ⟨opens, inside, ordered, ends⟩,
    fun ⟨opens, inside, ordered, ends⟩ => ⟨opens, inside, ordered, ends⟩⟩

/-- A tree of nodes that nest, over text with these tokens. -/
structure Node.IsLaidOut (tokens : List Span) (tree : Node) : Prop where
  nests : ∀ n ∈ tree.nodes, n.Nests
  objects : ∀ o ∈ tree.nodes, o.kind = .object → o.IsObjectText tokens

instance (tokens : List Span) (tree : Node) : Decidable (tree.IsLaidOut tokens) :=
  decidable_of_iff (_ ∧ _) ⟨fun ⟨nests, objects⟩ => ⟨nests, objects⟩, fun ⟨nests, objects⟩ => ⟨nests, objects⟩⟩

/-- The token at an offset is the next one behind a comment. -/
structure Comment.IsFollowedAt (tokens : List Span) (c : Comment) (offset : Nat) : Prop where
  behind : c.span.stop ≤ offset
  token : ∃ t ∈ tokens, t.start = offset
  next : ∀ t ∈ tokens, c.span.stop ≤ t.start → offset ≤ t.start

instance (tokens : List Span) (c : Comment) (offset : Nat) : Decidable (c.IsFollowedAt tokens offset) :=
  decidable_of_iff (_ ∧ _ ∧ _) ⟨fun ⟨behind, token, next⟩ => ⟨behind, token, next⟩,
    fun ⟨behind, token, next⟩ => ⟨behind, token, next⟩⟩

/-- Different comments between the tokens of a text. One that leads is attached to the next token. -/
structure AreBetween (tokens : List Span) (comments : List Comment) : Prop where
  distinct : (comments.map Comment.span).Nodup
  wide : ∀ c ∈ comments, c.span.start < c.span.stop
  apart : ∀ c ∈ comments, ∀ t ∈ tokens, c.span.IsApartFrom t
  leads : ∀ c ∈ comments, c.isLeading = true → c.IsFollowedAt tokens c.attachedTo

instance (tokens : List Span) (comments : List Comment) : Decidable (AreBetween tokens comments) :=
  decidable_of_iff (_ ∧ _ ∧ _ ∧ _) ⟨fun ⟨distinct, wide, apart, leads⟩ => ⟨distinct, wide, apart, leads⟩,
    fun ⟨distinct, wide, apart, leads⟩ => ⟨distinct, wide, apart, leads⟩⟩

section
variable {tokens : List Span}

theorem Node.IsLaidOut.part {k : Kind} {s : Span} {cs : List Node} (h : (Node.mk k s cs).IsLaidOut tokens)
    {c : Node} (mem : c ∈ cs) : c.IsLaidOut tokens := by
  have sub : ∀ n ∈ c.nodes, n ∈ (Node.mk k s cs).nodes := by
    intro n hn
    rw [Node.nodes_mk]
    exact List.mem_cons_of_mem _ (List.mem_flatMap_of_mem mem hn)
  exact ⟨fun n hn => h.nests n (sub n hn), fun o ho => h.objects o (sub o ho)⟩

theorem Node.HoldsObject.of_part {k : Kind} {s : Span} {cs : List Node} {c : Node} (mem : c ∈ cs)
    (h : c.HoldsObject) : (Node.mk k s cs).HoldsObject := by
  obtain ⟨o, ho, object⟩ := h
  refine ⟨o, ?_, object⟩
  rw [Node.nodes_mk]
  exact List.mem_cons_of_mem _ (List.mem_flatMap_of_mem mem ho)

theorem Node.IsLaidOut.contains {n o : Node} (h : n.IsLaidOut tokens) (mem : o ∈ n.nodes)
    (object : o.kind = .object) : n.span.contains o.span = true := by
  induction n using Node.induction with
  | step k s cs ih =>
    have root := h.nests _ (Node.mem_nodes_self _)
    rw [Node.nodes_mk, List.mem_cons, List.mem_flatMap] at mem
    rcases mem with rfl | ⟨c, hc, ho⟩
    · exact Span.contains_iff.mpr ⟨Nat.le_refl _, Nat.le_refl _⟩
    · exact Span.contains_trans (root.within c hc ⟨o, ho, object⟩) (ih c hc (h.part hc) ho)

theorem Node.IsLaidOut.of_mem {n p : Node} (h : n.IsLaidOut tokens) (mem : p ∈ n.nodes) :
    p.IsLaidOut tokens := by
  induction n using Node.induction with
  | step k s cs ih =>
    rw [Node.nodes_mk, List.mem_cons, List.mem_flatMap] at mem
    rcases mem with rfl | ⟨c, hc, hp⟩
    · exact h
    · exact ih c hc (h.part hc) hp

theorem Node.mem_nodes_of_sublist {k : Kind} {s : Span} {cs ds : List Node} (sub : ds.Sublist cs)
    {n : Node} (mem : n ∈ (Node.mk k s ds).nodes) : n = .mk k s ds ∨ n ∈ (Node.mk k s cs).nodes := by
  rw [Node.nodes_mk, List.mem_cons, List.mem_flatMap] at *
  exact mem.imp_right fun ⟨c, hc, hn⟩ => .inr ⟨c, sub.subset hc, hn⟩

theorem Node.IsLaidOut.of_sublist {k : Kind} {s : Span} {cs ds : List Node} (sub : ds.Sublist cs)
    (h : (Node.mk k s cs).IsLaidOut tokens) : (Node.mk k s ds).IsLaidOut tokens := by
  have root := h.nests _ (Node.mem_nodes_self _)
  constructor
  · intro n mem
    rcases Node.mem_nodes_of_sublist sub mem with rfl | mem
    · exact ⟨fun p hp => root.within p (sub.subset hp), root.apart.sublist sub⟩
    · exact h.nests n mem
  · intro o mem object
    rcases Node.mem_nodes_of_sublist sub mem with rfl | mem
    · have text := h.objects _ (Node.mem_nodes_self _) object
      exact ⟨text.opens, fun p hp => text.inside p (sub.subset hp), text.ordered.sublist sub,
        fun p hp => text.ends p (sub.subset hp)⟩
    · exact h.objects o mem object

end

/-! ## Between properties -/

/-- A span in an object literal and in none of its properties. -/
def Node.HasBetween (o : Node) (s : Span) : Prop :=
  o.span.contains s = true ∧ ∀ p ∈ o.children, p.span.IsApartFrom s

/-- Where what trails a property has to end: where the next property begins, or the object literal ends. -/
def nextStart (stop : Nat) (later : List Node) : Nat := (later.head?.map fun p => p.span.start).getD stop

section
variable {tokens : List Span} {comments : List Comment} {o : Node}

theorem nextStart_le (stop : Nat) {later : List Node}
    (ordered : later.Pairwise fun p q => p.span.stop ≤ q.span.start)
    (inside : ∀ p ∈ later, p.span.start < p.span.stop) {q : Node} (mem : q ∈ later) :
    nextStart stop later ≤ q.span.start := by
  cases later with
  | nil => cases mem
  | cons next later =>
    show next.span.start ≤ q.span.start
    rcases List.mem_cons.mp mem with rfl | mem
    · exact Nat.le_refl _
    · have := List.rel_of_pairwise_cons ordered mem
      have := inside next List.mem_cons_self
      omega

theorem Comment.IsFollowedAt.le_start {c : Comment} {offset : Nat} (h : c.IsFollowedAt tokens offset)
    {t : Span} (mem : t ∈ tokens) (apart : c.span.IsApartFrom t) (before : t.start < offset) :
    t.stop ≤ c.span.start := by
  rcases apart with le | le
  · have := h.next t mem le
    omega
  · exact le

variable {earlier later : List Node} {p : Node} (split : o.children = earlier ++ p :: later)

include split in
theorem Node.hasBetween_of_split {s : Span} (inside : o.span.contains s = true)
    (left : ∀ q ∈ earlier, q.span.stop ≤ s.start) (here : p.span.IsApartFrom s)
    (right : ∀ q ∈ later, s.stop ≤ q.span.start) : o.HasBetween s := by
  refine ⟨inside, fun q hq => ?_⟩
  rw [split, List.mem_append, List.mem_cons] at hq
  rcases hq with hq | rfl | hq
  · exact .inl (left q hq)
  · exact here
  · exact .inr (right q hq)

variable (text : o.IsObjectText tokens)
include split text

theorem Node.IsObjectText.hasBetween_of_leads {c : Comment} (apart : ∀ t ∈ tokens, c.span.IsApartFrom t)
    (followed : c.IsFollowedAt tokens p.span.start) : o.HasBetween c.span := by
  obtain ⟨opens, inside, ordered, ends⟩ := text
  rw [split] at inside ordered ends
  obtain ⟨start, wide, stop⟩ := inside p (by simp)
  obtain ⟨-, rest, left⟩ := List.pairwise_append.mp ordered
  have behind := followed.behind
  have opened : o.span.start + 1 ≤ c.span.start := followed.le_start opens (apart _ opens) start
  refine Node.hasBetween_of_split split (Span.contains_iff.mpr (by omega)) (fun q hq => ?_) (.inr behind)
    fun q hq => ?_
  · obtain ⟨t, ht, token, last⟩ := ends q (by simp [hq])
    have before := left q hq p List.mem_cons_self
    have := followed.le_start ht (apart t ht) (by omega)
    omega
  · have := List.rel_of_pairwise_cons rest hq
    omega

theorem Node.IsObjectText.hasBetween_of_trails {s : Span} (behind : p.span.stop ≤ s.start)
    (before : s.stop ≤ nextStart o.span.stop later) : o.HasBetween s := by
  obtain ⟨-, inside, ordered, -⟩ := text
  rw [split] at inside ordered
  obtain ⟨start, wide, stop⟩ := inside p (by simp)
  obtain ⟨-, rest, left⟩ := List.pairwise_append.mp ordered
  obtain ⟨-, sorted⟩ := List.pairwise_cons.mp rest
  have within : nextStart o.span.stop later ≤ o.span.stop := by
    cases later with
    | nil => exact Nat.le_refl _
    | cons next later =>
      have := inside next (by simp)
      show next.span.start ≤ o.span.stop
      omega
  refine Node.hasBetween_of_split split (Span.contains_iff.mpr (by omega)) (fun q hq => ?_) (.inl behind)
    fun q hq => ?_
  · have := left q hq p List.mem_cons_self
    omega
  · exact Nat.le_trans before (nextStart_le _ sorted (fun r hr => (inside r (by simp [hr])).2.1) hq)

/-- A comment on a property stands between the properties. -/
theorem Node.IsObjectText.hasBetween (between : AreBetween tokens comments) {c : Comment} (mem : c ∈ comments)
    (on : c.isOnEntry p.span (nextStart o.span.stop later) = true) : o.HasBetween c.span := by
  rw [Comment.isOnEntry, Bool.or_eq_true] at on
  rcases on with leads | trails
  · rw [Bool.and_eq_true, beq_iff_eq] at leads
    have followed := between.leads c mem leads.1
    rw [leads.2] at followed
    exact text.hasBetween_of_leads split (between.apart c mem) followed
  · simp only [Bool.and_eq_true, decide_eq_true_eq] at trails
    exact text.hasBetween_of_trails split trails.1.2 trails.2

end

/-- No comment is on a property and on a later one. -/
theorem Comment.not_isOnEntry_of_later {c : Comment} {p q : Span} {next stop : Nat}
    (wide : c.span.start < c.span.stop) (order : p.start < p.stop ∧ p.stop ≤ q.start ∧ q.start < q.stop)
    (before : next ≤ q.start) (on : c.isOnEntry p next = true) : c.isOnEntry q stop = false := by
  rw [← Bool.not_eq_true]
  intro on'
  unfold Comment.isOnEntry at on on'
  rw [c.isLeading_eq_not_isTrailing] at on on'
  cases trails : c.isTrailing with
  | false =>
    simp only [trails, Bool.not_false, Bool.true_and, Bool.false_and, Bool.or_false, beq_iff_eq] at on on'
    omega
  | true =>
    simp only [trails, Bool.not_true, Bool.true_and, Bool.false_and, Bool.false_or, Bool.and_eq_true,
      decide_eq_true_eq] at on on'
    omega

/-! ## Comments of one declaration -/

/-- The comments that a declaration took with it, entry by entry. -/
def PropDeclaration.comments (d : PropDeclaration) : List Comment := d.entries.flatMap PropEntry.comments

theorem PropDeclaration.mem_comments {d : PropDeclaration} {c : Comment} : c ∈ d.comments ↔ d.Carries c :=
  List.mem_flatMap

section
variable {ctx : PropContext}

theorem PropContext.entries_cons (stop : Nat) (p : Node) (later : List Node) :
    ctx.entries stop (p :: later) = (ctx.entry? p (nextStart stop later)).toList ++ ctx.entries stop later := by
  cases later <;> rfl

theorem PropContext.comments_of_entry? {p : Node} {next : Nat} {e : PropEntry}
    (h : ctx.entry? p next = some e) : e.comments = ctx.comments.filter fun c => c.isOnEntry p.span next := by
  unfold PropContext.entry? at h
  split at h
  · obtain ⟨name, -, h⟩ := Option.bind_eq_some_iff.mp h
    cases h
    rfl
  · cases h

theorem PropContext.mem_entries {stop : Nat} {properties : List Node} {e : PropEntry}
    (h : e ∈ ctx.entries stop properties) : ∃ earlier p later, properties = earlier ++ p :: later
      ∧ e.comments = ctx.comments.filter fun c => c.isOnEntry p.span (nextStart stop later) := by
  induction properties with
  | nil => cases h
  | cons p properties ih =>
    rw [PropContext.entries_cons, List.mem_append, Option.mem_toList] at h
    rcases h with h | h
    · exact ⟨[], p, properties, rfl, ctx.comments_of_entry? h⟩
    · obtain ⟨earlier, q, later, rfl, comments⟩ := ih h
      exact ⟨p :: earlier, q, later, rfl, comments⟩

theorem PropContext.nodup_comments_entries {tokens : List Span} (between : AreBetween tokens ctx.comments)
    (stop : Nat) {properties : List Node} (ordered : properties.Pairwise fun p q => p.span.stop ≤ q.span.start)
    (inside : ∀ p ∈ properties, p.span.start < p.span.stop) :
    ((ctx.entries stop properties).flatMap PropEntry.comments).Nodup := by
  induction properties with
  | nil => exact List.nodup_nil
  | cons p properties ih =>
    obtain ⟨right, sorted⟩ := List.pairwise_cons.mp ordered
    rw [List.forall_mem_cons] at inside
    rw [PropContext.entries_cons, List.flatMap_append, List.nodup_append]
    refine ⟨?_, ih sorted inside.2, ?_⟩
    · cases h : ctx.entry? p (nextStart stop properties) with
      | none => exact List.nodup_nil
      | some e =>
        simp only [Option.toList_some, List.flatMap_singleton, ctx.comments_of_entry? h]
        exact between.distinct.of_map.filter _
    · intro c here c' later same
      subst same
      obtain ⟨e, he, hc⟩ := List.mem_flatMap.mp here
      obtain ⟨e', he', hc'⟩ := List.mem_flatMap.mp later
      rw [Option.mem_toList] at he
      obtain ⟨before, q, after, rfl, taken⟩ := ctx.mem_entries he'
      rw [ctx.comments_of_entry? he, List.mem_filter] at hc
      rw [taken, List.mem_filter] at hc'
      have mem : q ∈ before ++ q :: after := List.mem_append_right _ List.mem_cons_self
      -- the other entry is of a later property, and no comment is on both
      have order := And.intro (right q mem) (inside.2 q mem)
      have next := nextStart_le stop sorted inside.2 mem
      rw [Comment.not_isOnEntry_of_later (between.wide c hc.1) ⟨inside.1, order⟩ next hc.2] at hc'
      exact absurd hc'.2 Bool.false_ne_true

end

/-! ## Comments of a statement -/

theorem Node.withoutParentheses_mem_nodes (n : Node) : n.withoutParentheses ∈ n.nodes := by
  fun_induction Node.withoutParentheses n with
  | case1 s inner ih =>
    rw [Node.nodes_mk]
    exact List.mem_cons_of_mem _ (List.mem_flatMap_of_mem List.mem_cons_self ih)
  | case2 n _ => exact n.mem_nodes_self

/-- The object literal that a declaration assigns, in its statement. -/
structure Node.Assigns (statement o : Node) : Prop where
  object : o.kind = .object
  form : ∃ component value s t isOptional u v ps w qs, statement = .mk .expressionStatement s
    [.mk (.assignment .assign) t [.mk (.member isOptional) u
      [.mk (.reference component) v ps, .mk (.name "propTypes") w qs], value]] ∧ value.withoutParentheses = o

section
variable {ctx : PropContext}

theorem PropContext.entries_of_declaration? {statement : Node} {d : PropDeclaration}
    (h : ctx.declaration? statement = some d) : d.entries = []
      ∨ ∃ o, statement.Assigns o ∧ d.entries = ctx.entries o.span.stop o.children := by
  have assignment : statement.isPropAssignment = true := by rw [← ctx.isSome_declaration?, h]; rfl
  obtain ⟨component, value, s, t, isOptional, u, v, ps, w, qs, rfl⟩ := Node.isPropAssignment_iff.mp assignment
  obtain rfl : _ = d := Option.some.inj h
  dsimp only
  split
  · rename_i span properties e
    exact .inr ⟨_, ⟨rfl, component, value, s, t, isOptional, u, v, ps, w, qs, rfl, e⟩, rfl⟩
  · exact .inl rfl

theorem Node.Assigns.mem_nodes {statement o : Node} (h : statement.Assigns o) : o ∈ statement.nodes := by
  obtain ⟨-, component, value, s, t, isOptional, u, v, ps, w, qs, rfl, rfl⟩ := h
  have part := value.withoutParentheses_mem_nodes
  simp [part]

/-- The comments that the declarations of a tree took with them. -/
def PropContext.taken (ctx : PropContext) (tree : Node) : List Comment :=
  (ctx.declarations tree).flatMap PropDeclaration.comments

/-- The comments that a statement took itself. -/
def PropContext.own (ctx : PropContext) (statement : Node) : List Comment :=
  (ctx.declaration? statement).toList.flatMap PropDeclaration.comments

/-- A statement list adds to what its statements took inside what they took themselves. -/
theorem PropContext.taken_mk (k : Kind) (s : Span) (cs : List Node) : (ctx.taken (.mk k s cs)).Perm
    (cs.flatMap fun c => ctx.taken c ++ if k.isStatementList then ctx.own c else []) := by
  have own : (if k.isStatementList then cs.filterMap ctx.declaration? else []).flatMap PropDeclaration.comments
      = cs.flatMap fun c => if k.isStatementList then ctx.own c else [] := by
    split
    · rw [List.filterMap_eq_flatMap_toList, List.flatMap_assoc]
      rfl
    · simp
  rw [PropContext.taken, PropContext.declarations, PropContext.declarationsInList_eq_flatMap,
    List.flatMap_append, List.flatMap_assoc, own]
  exact List.flatMap_append_perm cs _ _

theorem PropContext.taken_of_not_list {k : Kind} (h : k.isStatementList = false) (s : Span) (cs : List Node) :
    ctx.taken (.mk k s cs) = cs.flatMap ctx.taken := by
  rw [PropContext.taken, PropContext.declarations, PropContext.declarationsInList_eq_flatMap, h,
    if_neg Bool.false_ne_true, List.append_nil, List.flatMap_assoc]
  rfl

theorem PropContext.taken_withoutParentheses (n : Node) : ctx.taken n.withoutParentheses = ctx.taken n := by
  fun_induction Node.withoutParentheses n with
  | case1 s inner ih => rw [ih, ctx.taken_of_not_list rfl, List.flatMap_singleton]
  | case2 n _ => rfl

end

/-- A comment stands in a node, which has an object literal in it. -/
structure PropContext.HasIn (ctx : PropContext) (n : Node) (c : Comment) : Prop where
  mem : c ∈ ctx.comments
  holds : n.HoldsObject
  inside : n.span.contains c.span = true

section
variable {tokens : List Span} {ctx : PropContext} (between : AreBetween tokens ctx.comments)
include between

theorem PropContext.hasBetween_of_mem_own {statement : Node} (laidOut : statement.IsLaidOut tokens)
    {c : Comment} (h : c ∈ ctx.own statement) : c ∈ ctx.comments ∧ ∃ o, statement.Assigns o ∧ o.HasBetween c.span := by
  obtain ⟨d, hd, hc⟩ := List.mem_flatMap.mp h
  obtain ⟨e, he, hc⟩ := List.mem_flatMap.mp hc
  rcases ctx.entries_of_declaration? (Option.mem_toList.mp hd) with none | ⟨o, assigns, entries⟩
  · rw [none] at he
    cases he
  · have text := laidOut.objects o assigns.mem_nodes assigns.object
    rw [entries] at he
    obtain ⟨earlier, p, later, split, taken⟩ := ctx.mem_entries he
    rw [taken, List.mem_filter] at hc
    exact ⟨hc.1, o, assigns, text.hasBetween split between hc.1 hc.2⟩

theorem PropContext.hasIn_of_mem_own {statement : Node} (laidOut : statement.IsLaidOut tokens) :
    ∀ c ∈ ctx.own statement, ctx.HasIn statement c := by
  intro c h
  obtain ⟨hc, o, assigns, inside, -⟩ := ctx.hasBetween_of_mem_own between laidOut h
  have around := laidOut.contains assigns.mem_nodes assigns.object
  exact ⟨hc, ⟨o, assigns.mem_nodes, assigns.object⟩, Span.contains_trans around inside⟩

theorem PropContext.hasIn_of_mem_append {k : Kind} {part : Node} (laidOut : part.IsLaidOut tokens)
    (inner : ∀ c ∈ ctx.taken part, ctx.HasIn part c) :
    ∀ c ∈ ctx.taken part ++ (if k.isStatementList then ctx.own part else []), ctx.HasIn part c := by
  intro c h
  rcases List.mem_append.mp h with h | h
  · exact inner c h
  · split at h
    · exact ctx.hasIn_of_mem_own between laidOut c h
    · cases h

/-- What the declarations of a tree took stands in the tree. -/
theorem PropContext.hasIn_of_mem_taken {tree : Node} (laidOut : tree.IsLaidOut tokens) :
    ∀ c ∈ ctx.taken tree, ctx.HasIn tree c := by
  induction tree using Node.induction with
  | step k s cs ih =>
    intro c h
    have root := laidOut.nests _ (Node.mem_nodes_self _)
    rw [(ctx.taken_mk k s cs).mem_iff, List.mem_flatMap] at h
    obtain ⟨part, mem, h⟩ := h
    have laid := laidOut.part mem
    obtain ⟨hc, holds, inside⟩ := ctx.hasIn_of_mem_append between laid (ih part mem laid) c h
    exact ⟨hc, holds.of_part mem, Span.contains_trans (root.within part mem holds) inside⟩

theorem PropContext.not_mem_own_of_mem_taken {statement : Node} (laidOut : statement.IsLaidOut tokens)
    {c : Comment} (inner : c ∈ ctx.taken statement) : c ∉ ctx.own statement := by
  intro h
  obtain ⟨hc, o, ⟨object, component, value, s, t, isOptional, u, v, ps, w, qs, rfl, e⟩, inside, apart⟩ :=
    ctx.hasBetween_of_mem_own between laidOut h
  have wide := between.wide c hc
  have assignment := laidOut.part (List.mem_singleton_self _)
  have nests := assignment.nests _ (Node.mem_nodes_self _)
  have target := assignment.part List.mem_cons_self
  have assigned := assignment.part (List.mem_cons_of_mem _ (List.mem_singleton_self value))
  have part : o ∈ value.nodes := e ▸ value.withoutParentheses_mem_nodes
  rw [ctx.taken_of_not_list rfl, List.flatMap_singleton, ctx.taken_of_not_list rfl, List.flatMap_cons,
    List.flatMap_singleton, List.mem_append] at inner
  rcases inner with inTarget | inValue
  · obtain ⟨-, holds, inside'⟩ := ctx.hasIn_of_mem_taken between target c inTarget
    have sides := List.rel_of_pairwise_cons nests.apart (List.mem_singleton_self value) holds ⟨o, part, object⟩
    exact sides.not_contains wide inside' (Span.contains_trans (assigned.contains part object) inside)
  · -- what is taken inside the value is taken inside a property
    rw [← ctx.taken_withoutParentheses, e] at inValue
    obtain ⟨k, span, properties⟩ := o
    obtain rfl : k = .object := object
    rw [ctx.taken_of_not_list rfl, List.mem_flatMap] at inValue
    obtain ⟨p, hp, inProperty⟩ := inValue
    have laid := (assigned.of_mem part).part hp
    obtain ⟨-, -, inside'⟩ := ctx.hasIn_of_mem_taken between laid c inProperty
    exact (apart p hp).not_contains wide inside' (Span.contains_iff.mpr ⟨Nat.le_refl _, Nat.le_refl _⟩)

theorem PropContext.nodup_own {statement : Node} (laidOut : statement.IsLaidOut tokens) :
    (ctx.own statement).Nodup := by
  cases h : ctx.declaration? statement with
  | none =>
    rw [PropContext.own, h]
    exact List.nodup_nil
  | some d =>
    rw [PropContext.own, h, Option.toList_some, List.flatMap_singleton, PropDeclaration.comments]
    rcases ctx.entries_of_declaration? h with none | ⟨o, assigns, entries⟩
    · rw [none]
      exact List.nodup_nil
    · have text := laidOut.objects o assigns.mem_nodes assigns.object
      rw [entries]
      exact ctx.nodup_comments_entries between _ text.ordered fun p hp => (text.inside p hp).2.1

/-- No comment is taken twice in a tree. -/
theorem PropContext.nodup_taken {tree : Node} (laidOut : tree.IsLaidOut tokens) : (ctx.taken tree).Nodup := by
  induction tree using Node.induction with
  | step k s cs ih =>
    have root := laidOut.nests _ (Node.mem_nodes_self _)
    have within : ∀ part ∈ cs, ∀ c ∈ ctx.taken part ++ (if k.isStatementList then ctx.own part else []),
        ctx.HasIn part c := fun part mem =>
      ctx.hasIn_of_mem_append between (laidOut.part mem) (ctx.hasIn_of_mem_taken between (laidOut.part mem))
    rw [(ctx.taken_mk k s cs).nodup_iff, List.nodup_flatMap]
    refine ⟨fun part mem => ?_, root.apart.imp_of_mem fun {a b} ha hb apart c left right => ?_⟩
    · have laid := laidOut.part mem
      split
      · refine List.nodup_append.mpr ⟨ih part mem laid, ctx.nodup_own between laid, ?_⟩
        rintro c inner _ own rfl
        exact ctx.not_mem_own_of_mem_taken between laid inner own
      · rw [List.append_nil]
        exact ih part mem laid
    · obtain ⟨hc, holds, inside⟩ := within a ha c left
      obtain ⟨-, holds', inside'⟩ := within b hb c right
      exact (apart holds holds').not_contains (between.wide c hc) inside inside'

end

/-! ## Comments of a module -/

section
variable {tokens : List Span} {m : Module}

theorem Node.IsLaidOut.withoutBindings {n : Node} (h : n.IsLaidOut tokens) :
    n.withoutBindings.IsLaidOut tokens := by
  obtain ⟨k, s, cs⟩ := n
  rw [Node.withoutBindings, Node.withChildren_mk, Node.children_mk]
  exact h.of_sublist List.filter_sublist

theorem Module.absorbed_eq : m.extraction.absorbed
    = (m.propContext.taken m.tree.withoutBindings).map Comment.span := by
  simp only [Module.extraction, PropContext.taken, PropDeclaration.comments, List.map_flatMap]

theorem Module.absorbed_perm : m.extraction.absorbed.Perm
    ((m.extraction.declarations.flatMap PropDeclaration.entries).flatMap
      fun e => e.comments.map Comment.span) := by
  rw [List.flatMap_assoc]
  exact (List.mergeSort_perm _ _).symm.flatMap_right _

theorem Module.contains_of_carries (comments : AreBetween tokens m.comments) (tree : m.tree.IsLaidOut tokens)
    {d : PropDeclaration} (h : m.Declares d) {c : Comment} (carries : d.Carries c) :
    c ∈ m.comments ∧ d.span.contains c.span = true := by
  obtain ⟨list, hl, -, statement, hs, hd⟩ := h
  have laid : statement.IsLaidOut tokens := by
    have := tree.withoutBindings.of_mem hl
    obtain ⟨k, s, cs⟩ := list
    exact this.part hs
  have own : c ∈ m.propContext.own statement := by
    rw [PropContext.own, hd, Option.toList_some, List.flatMap_singleton]
    exact PropDeclaration.mem_comments.mpr carries
  obtain ⟨hc, -, inside⟩ := m.propContext.hasIn_of_mem_own comments laid c own
  rw [PropContext.span_of_declaration? hd]
  exact ⟨hc, inside⟩

end

/-- In a module whose comments stand between its tokens and whose nodes nest, the comments that entries of
declarations took are told once each, one for every comment of an entry. Each stands in a declaration that was
taken out, and no two entries have one in common. -/
theorem comments_absorbed_once (m : Module) (tokens : List Span) (comments : AreBetween tokens m.comments)
    (tree : m.tree.IsLaidOut tokens) :
    m.extraction.absorbed.Nodup
      ∧ m.extraction.absorbed.length = (m.extraction.declarations.flatMap PropDeclaration.comments).length
      ∧ (∀ s ∈ m.extraction.absorbed, ∃ d ∈ m.extraction.declarations, ∃ c ∈ m.comments,
        d.Carries c ∧ c.span = s ∧ d.span ∈ m.extraction.removed ∧ d.span.contains s = true)
      ∧ (m.extraction.declarations.flatMap PropDeclaration.entries).Pairwise fun a b =>
        ∀ c ∈ a.comments, ∀ c' ∈ b.comments, c.span ≠ c'.span := by
  have laid := tree.withoutBindings
  have once : m.extraction.absorbed.Nodup := by
    have taken := m.propContext.nodup_taken comments laid
    rw [Module.absorbed_eq]
    -- different comments that were taken have different spans, as all comments have
    refine taken.map_on fun c hc c' hc' same => ?_
    have mem := (m.propContext.hasIn_of_mem_taken comments laid c hc).mem
    have mem' := (m.propContext.hasIn_of_mem_taken comments laid c' hc').mem
    exact List.inj_on_of_nodup_map comments.distinct mem mem' same
  refine ⟨once, ?_, fun s hs => ?_, ?_⟩
  · have flat : (m.extraction.declarations.flatMap PropDeclaration.comments)
        = (m.extraction.declarations.flatMap PropDeclaration.entries).flatMap PropEntry.comments :=
      List.flatMap_assoc.symm
    rw [Module.absorbed_perm.length_eq, flat, ← List.map_flatMap, List.length_map]
  · obtain ⟨c, ⟨d, hd, carries⟩, rfl⟩ := (m.mem_absorbed s).mp hs
    obtain ⟨hc, inside⟩ := Module.contains_of_carries comments tree hd carries
    have mem := (m.mem_extraction d).mpr hd
    exact ⟨d, mem, c, hc, carries, rfl, List.mem_append_right _ (List.mem_map_of_mem mem), inside⟩
  · rw [Module.absorbed_perm.nodup_iff, List.nodup_flatMap] at once
    refine once.2.imp fun {a b} disjoint c hc c' hc' same => ?_
    exact disjoint (List.mem_map_of_mem hc) (same ▸ List.mem_map_of_mem hc')

/-- A declaration inside a property of another one, with a comment on each. -/
def declarationInProperty : List Char :=
  ("A.propTypes = \x7b\n  // first\n  a() \x7b B.propTypes = \x7b\n    b: 1 // second\n  \x7d \x7d, "
    ++ "// third\n  c: 2\n\x7d;\n").toList

/-- Its tokens, up to the end. -/
def declarationInPropertyTokens : List Span :=
  [(0, 1), (1, 2), (2, 11), (12, 13), (14, 15), (29, 30), (30, 31), (31, 32), (33, 34),
    (35, 36), (36, 37), (37, 46), (47, 48), (49, 50), (55, 56), (56, 57), (58, 59), (72, 73),
    (74, 75), (75, 76), (88, 89), (89, 90), (91, 92), (93, 94), (94, 95), (96, 96)].map
    fun (start, stop) => ⟨start, stop⟩

/-- The inner declaration takes one comment, the outer one the other two. -/
theorem nested_comments_absorbed_once : ∃ m, Module.parse declarationInProperty = .ok m
    ∧ AreBetween declarationInPropertyTokens m.comments ∧ m.tree.IsLaidOut declarationInPropertyTokens
    ∧ m.extraction.absorbed = [⟨60, 69⟩, ⟨18, 26⟩, ⟨77, 85⟩] ∧ m.extraction.absorbed.Nodup
    ∧ (m.extraction.declarations.flatMap PropDeclaration.comments).length = 3 := by
  have run : ∃ m, Module.parse declarationInProperty = .ok m
      ∧ AreBetween declarationInPropertyTokens m.comments ∧ m.tree.IsLaidOut declarationInPropertyTokens
      ∧ m.extraction.absorbed = [⟨60, 69⟩, ⟨18, 26⟩, ⟨77, 85⟩] := by decide +kernel
  obtain ⟨m, hm, comments, tree, absorbed⟩ := run
  obtain ⟨once, length, -, -⟩ := comments_absorbed_once m declarationInPropertyTokens comments tree
  rw [absorbed] at length
  exact ⟨m, hm, comments, tree, absorbed, once, length.symm⟩

end TypedJsx
