import TypedJsx.Printer.Program
/-!
What writing does to a page: it adds text at the end, and takes comments that wait at most
(`Page.Extends`). Which text is added is told by a kind of texts, of which blocks of writing put several one
after the other. So what a function writes follows from what the functions write that it calls, which is for
the search of instances to find (`Adds`).
-/
namespace TypedJsx

/-! ## Kinds of text -/

/-- A kind of texts of which several, one after the other, are one. -/
class IsKind (T : List Char → Prop) : Prop where
  nil : T []
  append {cs ds : List Char} : T cs → T ds → T (cs ++ ds)

/-- Any text. -/
def Any : List Char → Prop := fun _ => True

instance : IsKind Any := ⟨trivial, fun _ _ => trivial⟩

/-- A kind that has all blanks. -/
class HasBlanks (T : List Char → Prop) : Prop extends IsKind T where
  blanks {cs : List Char} : (∀ c ∈ cs, c = ' ' ∨ c = '\n' ∨ c = '\t') → T cs

instance : HasBlanks Any := ⟨fun _ => trivial⟩

/-- A comment whose lines are of a kind, with or without the blanks in front of them. -/
def Comment.HasLines (T : List Char → Prop) (c : Comment) : Prop :=
  ∀ line ∈ Printing.commentLines (Printing.escapeScript c.text), T line ∧ T (trimLeft line)

/-! ## Pages -/

/-- A page with more text, and no more comments that wait. -/
structure Page.Extends (T : List Char → Prop) (p q : Page) : Prop where
  text : ∃ added, T added ∧ q.text = p.text ++ added
  comments : q.comments ⊆ p.comments

theorem Page.Extends.refl {T : List Char → Prop} [IsKind T] (p : Page) : Page.Extends T p p where
  text := ⟨[], IsKind.nil, (List.append_nil _).symm⟩
  comments := List.Subset.refl _

theorem Page.Extends.trans {T : List Char → Prop} [IsKind T] {p q r : Page} (h : Page.Extends T p q)
    (h' : Page.Extends T q r) : Page.Extends T p r where
  text := by
    obtain ⟨first, kind, hq⟩ := h.text
    obtain ⟨second, kind', hr⟩ := h'.text
    exact ⟨first ++ second, IsKind.append kind kind', by rw [hr, hq, List.append_assoc]⟩
  comments := List.Subset.trans h'.comments h.comments

/-- Writing that adds text of a kind. -/
class Adds (T : List Char → Prop) {α : Type} (x : StateM Page α) : Prop where
  extends_run : ∀ p : Page, Page.Extends T p (x.run p).2

namespace Adds

-- the measure that bounds the search doubles with every step of a block
set_option synthInstance.maxSize 100000000

variable {T : List Char → Prop} [IsKind T] {α β : Type}

instance (a : α) : Adds T (pure a) := ⟨Page.Extends.refl⟩

instance bind (x : StateM Page α) (f : α → StateM Page β) [Adds T x] [∀ a, Adds T (f a)] :
    Adds T (x >>= f) where
  extends_run p := (extends_run (x := x) p).trans (extends_run (x := f (x.run p).1) (x.run p).2)

/-- What is written next may depend on what was found. -/
theorem after {x : StateM Page α} {f : α → StateM Page β} [Adds T x] (h : ∀ a, Adds T (f a)) :
    Adds T (x >>= f) := bind x f

instance : Adds T (get : StateM Page Page) := ⟨Page.Extends.refl⟩

instance (c : Prop) [Decidable c] (x y : StateM Page α) [Adds T x] [Adds T y] :
    Adds T (if c then x else y) := by
  split <;> infer_instance

/-- All on a page may change but its text and its comments. -/
instance (l i s a e o r n : Page → Nat) (c : Page → Bool) (w : Page → Option WrittenOp) :
    Adds T (modify fun p => Page.mk p.reversed (l p) (i p) (c p) (s p) (a p) (e p) (o p) (w p) (r p) (n p)
      p.comments) :=
  ⟨fun p => ⟨(Page.Extends.refl p).text, List.Subset.refl _⟩⟩

instance (c : Prop) [Decidable c] (f g : Page → Page) [Adds T (modify f)] [Adds T (modify g)] :
    Adds T (modify fun p => if c then f p else g p) := by
  split <;> assumption

end Adds

namespace Printing

set_option synthInstance.maxSize 100000000

/-! ## The page -/

theorem text_append (p : Page) (cs : List Char) : (p.append cs).text = p.text ++ cs := by
  have run : ∀ r : List Char, (cs.foldl (fun r c => c :: r) r).reverse = r.reverse ++ cs := by
    induction cs with
    | nil => simp
    | cons c cs ih => simp
  exact run _

theorem adds_chars {T : List Char → Prop} {cs : List Char} (h : T cs) : Adds T (chars cs) :=
  ⟨fun p => ⟨⟨cs, h, text_append p cs⟩, List.Subset.refl _⟩⟩

section
variable {T : List Char → Prop} [HasBlanks T] (body : Printing) [Adds T body]

instance : Adds T blank := adds_chars (HasBlanks.blanks (by simp))
instance : Adds T newline := adds_chars (HasBlanks.blanks (by simp))

instance : Adds T indentation := by
  have tabs : ∀ n, Adds T (chars (List.replicate n '\t')) := fun n =>
    adds_chars (HasBlanks.blanks fun c hc => .inr (.inr (List.eq_of_mem_replicate hc)))
  unfold indentation
  infer_instance

instance : Adds T freshLine := by unfold freshLine; infer_instance
instance (c : Bool) : Adds T (whenever c body) := by unfold whenever; infer_instance
instance : Adds T (indented body) := by unfold indented; infer_instance
instance (offset : Nat) : Adds T (hasComments offset) := by unfold hasComments; infer_instance

end

instance {T : List Char → Prop} [IsKind T] (offset : Nat) : Adds T (takeComments offset) where
  extends_run p := ⟨(Page.Extends.refl p).text, by
    show (p.comments.partition _).2 ⊆ p.comments
    rw [List.partition_eq_filter_filter]
    exact List.filter_sublist.subset⟩

theorem adds_each {T : List Char → Prop} [IsKind T] {α : Type} {item : α → Printing} {items : List α}
    (h : ∀ a ∈ items, Adds T (item a)) : Adds T (each items item) := by
  unfold each
  fun_induction separated item (pure ()) items with
  | case1 => infer_instance
  | case2 a => exact h a (List.mem_singleton_self a)
  | case3 a rest _ ih =>
    rw [List.forall_mem_cons] at h
    have := h.1
    have := ih h.2
    infer_instance

/-! ## Comments -/

section
variable {T : List Char → Prop} [HasBlanks T] {c : Comment} {cs : List Comment}

theorem adds_commentText (h : c.HasLines T) : Adds T (commentText c) := by
  have lines : ∀ line ∈ commentLines (escapeScript c.text), Adds T (commentLine line) := by
    intro line mem
    have := adds_chars (h line mem).2
    unfold commentLine
    infer_instance
  unfold commentText
  split
  · rename_i line one
    exact adds_chars (h line (by simp [one])).1
  · exact adds_each lines

instance : Adds T (beginComments c) := by
  unfold beginComments
  split
  · refine .after fun _ => ?_
    split <;> infer_instance
  · infer_instance

instance : Adds T (betweenComments c) := by unfold betweenComments; infer_instance
instance : Adds T (endComments c) := by unfold endComments; infer_instance

theorem adds_restOfComments (h : ∀ c ∈ cs, c.HasLines T) : Adds T (restOfComments cs) := by
  induction cs with
  | nil => exact inferInstanceAs (Adds T (pure ()))
  | cons c rest ih =>
    rw [List.forall_mem_cons] at h
    have := adds_commentText h.1
    have := ih h.2
    unfold restOfComments
    infer_instance

theorem adds_commentGroup (h : ∀ c ∈ cs, c.HasLines T) : Adds T (commentGroup cs) := by
  unfold commentGroup
  split
  · infer_instance
  · rw [List.forall_mem_cons] at h
    have := adds_commentText h.1
    have := adds_restOfComments h.2
    infer_instance

end

/-- What comments come to on a page: blanks, and their lines, with or without the blanks in front. -/
inductive IsAside (comments : List Comment) : List Char → Prop where
  | blanks {cs : List Char} (h : ∀ c ∈ cs, c = ' ' ∨ c = '\n' ∨ c = '\t') : IsAside comments cs
  | line {c : Comment} {cs : List Char} (mem : c ∈ comments)
      (isLine : cs ∈ commentLines (escapeScript c.text)) : IsAside comments cs
  | trimmed {c : Comment} {cs : List Char} (mem : c ∈ comments)
      (isLine : cs ∈ commentLines (escapeScript c.text)) : IsAside comments (trimLeft cs)
  | append {cs ds : List Char} (first : IsAside comments cs) (second : IsAside comments ds) :
      IsAside comments (cs ++ ds)

instance (comments : List Comment) : HasBlanks (IsAside comments) where
  nil := .blanks (by simp)
  append := .append
  blanks := .blanks

/-- The comments at an offset are among those that wait. -/
theorem extends_commentsAt {comments : List Comment} {p : Page} (known : p.comments ⊆ comments)
    (offset : Nat) : p.Extends (IsAside comments) ((commentsAt offset).run p).2 := by
  have taken : Adds (IsAside comments) (takeComments offset) := inferInstance
  have found : ((takeComments offset).run p).1 ⊆ p.comments := by
    show (p.comments.partition _).1 ⊆ p.comments
    rw [List.partition_eq_filter_filter]
    exact List.filter_sublist.subset
  have group : Adds (IsAside comments) (commentGroup ((takeComments offset).run p).1) :=
    adds_commentGroup fun c hc line isLine =>
      ⟨.line (known (found hc)) isLine, .trimmed (known (found hc)) isLine⟩
  exact (taken.extends_run p).trans (group.extends_run _)

/-! ## Any text -/

instance (cs : List Char) : Adds Any (chars cs) := adds_chars trivial
instance (s : String) : Adds Any (put s) := adds_chars trivial
instance : Adds Any endStatement := adds_chars trivial

instance (body : Printing) [Adds Any body] (c : Bool) : Adds Any (wrapped c body) := by
  unfold wrapped
  infer_instance

instance (body : Printing) [Adds Any body] (isEmpty : Bool) : Adds Any (braces isEmpty body) := by
  unfold braces
  infer_instance

section
variable {α : Type} (item : α → Printing) [∀ a, Adds Any (item a)] (items : List α)

instance (separator : Printing) [Adds Any separator] : Adds Any (separated item separator items) := by
  fun_induction separated item separator items <;> infer_instance

instance : Adds Any (list items item) := by unfold list; infer_instance
instance : Adds Any (each items item) := adds_each fun _ _ => inferInstance

end

instance : Adds Any separateWord := by
  unfold separateWord
  refine .after fun _ => ?_
  split <;> infer_instance

instance (s : String) : Adds Any (word s) := by unfold word; infer_instance

instance (o : WrittenOp) : Adds Any (separateOperator o) := by
  unfold separateOperator
  refine .after fun _ => ?_
  split <;> infer_instance

instance (o : WrittenOp) (s : String) : Adds Any (operator o s) := by unfold operator; infer_instance
instance (c : Comment) : Adds Any (commentText c) := adds_commentText fun _ _ => ⟨trivial, trivial⟩

instance (cs : List Comment) : Adds Any (commentGroup cs) :=
  adds_commentGroup fun _ _ _ _ => ⟨trivial, trivial⟩

instance (offset : Nat) : Adds Any (commentsAt offset) := by unfold commentsAt; infer_instance
instance : Adds Any joined := by unfold joined; infer_instance
instance (offset : Nat) : Adds Any (commentsInline offset) := by unfold commentsInline; infer_instance
instance (offset : Nat) : Adds Any (commentsOnLines offset) := by unfold commentsOnLines; infer_instance

/-! ## Literals -/

instance (value : String) (hasLone : Bool) : Adds Any (stringLiteral value hasLone) := by
  unfold stringLiteral
  infer_instance

instance (raw : String) : Adds Any (quotedRaw raw) := by unfold quotedRaw; infer_instance

instance (value : Numeral) (written : String) (place : Place) : Adds Any (number value written place) := by
  unfold number
  infer_instance

instance (value : Nat) : Adds Any (bigint value) := by unfold bigint; infer_instance

instance (pattern flags : String) : Adds Any (regexp pattern flags) := by
  unfold regexp
  refine .after fun _ => ?_
  split <;> infer_instance

section
variable (pieces : List String) (parts : List Node) (write : Node → Printing) [∀ n, Adds Any (write n)]

instance : Adds Any (templatePieces write pieces parts) := by
  fun_induction templatePieces write pieces parts <;> infer_instance

instance : Adds Any (quotedTemplate pieces parts write) := by unfold quotedTemplate; infer_instance
instance : Adds Any (template pieces parts write) := by unfold template; infer_instance

end

section
variable (write : Write) [∀ n place, Adds Any (write n place)] (place : Place) (n k t u v : Node)
  (ns : List Node) (b c d : Bool) (s : String) (m : Modifiers) (p : Precedence) (form : MemberForm)

/-! ## Signatures -/

instance (f : Node → Printing) [∀ n, Adds Any (f n)] : Adds Any (optional n f) := by
  unfold optional
  infer_instance

instance : Adds Any (typed write place n) := by unfold typed; infer_instance
instance : Adds Any (initial write place n) := by unfold initial; infer_instance

instance : Adds Any (typeParameters write place ns) := by
  unfold typeParameters
  refine .after fun _ => ?_
  split <;> infer_instance

instance : Adds Any (typeParameter write place b c d n k t) := by unfold typeParameter; infer_instance
instance : Adds Any (typeArguments write place ns) := by unfold typeArguments; infer_instance

instance : Adds Any (parameterWords m) := by
  unfold parameterWords
  split <;> infer_instance

instance : Adds Any (decorators write n) := by unfold decorators; infer_instance
instance : Adds Any (parameter write place m n k t u) := by unfold parameter; infer_instance
instance : Adds Any (parameterList write place n k) := by unfold parameterList; infer_instance
instance : Adds Any (key write b n) := by unfold key; infer_instance
instance : Adds Any (signature write place n k t u) := by unfold signature; infer_instance
instance : Adds Any (keyed write place b n k) := by unfold keyed; infer_instance

instance : Adds Any (bracketed write place b ns) := by
  unfold bracketed
  dsimp only
  refine .after fun _ => .after fun _ => ?_
  split <;> infer_instance

instance : Adds Any (pattern write n place) := by
  unfold pattern
  dsimp only
  split <;> infer_instance

/-! ## Functions and classes -/

instance : Adds Any atDeclarationStart := by unfold atDeclarationStart; infer_instance
instance : Adds Any (body write n place) := by unfold body; infer_instance
instance (form : FunctionForm) : Adds Any (function write form n place) := by unfold function; infer_instance

instance (form : ArrowForm) : Adds Any (arrow write form place n) := by
  unfold arrow
  repeat' split
  all_goals infer_instance

instance : Adds Any (methodRest write n k place) := by unfold methodRest; infer_instance

instance : Adds Any (methodWords n) := by
  unfold methodWords
  split <;> infer_instance

instance : Adds Any (accessibilityWord m) := by
  unfold accessibilityWord
  split <;> infer_instance

instance : Adds Any (memberWords m) := by unfold memberWords; infer_instance
instance : Adds Any (accessorWords m) := by unfold accessorWords; infer_instance

instance : Adds Any (memberForm form) := by
  unfold memberForm
  split <;> infer_instance

instance : Adds Any (classMethod write form b m n place) := by unfold classMethod; infer_instance
instance : Adds Any (classField write b m n place) := by unfold classField; infer_instance

instance : Adds Any (classMember write place n) := by
  unfold classMember
  refine .after fun _ => .after fun _ => .after fun _ => ?_
  split <;> infer_instance

instance (form : ClassForm) : Adds Any (classNode write form n place) := by unfold classNode; infer_instance

instance : Adds Any (functionPart write n place) := by
  unfold functionPart
  split <;> infer_instance

/-! ## Types -/

instance : Adds Any (typeMembers write ns place) := by unfold typeMembers; infer_instance
instance : Adds Any (typeKey write b n place) := by unfold typeKey; infer_instance

instance : Adds Any (accessorWord form) := by
  unfold accessorWord
  split <;> infer_instance

instance (a b : MappedMark) : Adds Any (mappedType write place s a b n k t) := by
  unfold mappedType
  infer_instance

instance : Adds Any (conditionalType write place n k t u) := by unfold conditionalType; infer_instance
instance : Adds Any (importType write place n k t u) := by unfold importType; infer_instance

instance : Adds Any (type write n place) := by
  unfold type
  dsimp only
  split <;> infer_instance

/-! ## Expressions -/

instance : Adds Any (openingTag write b n ns) := by unfold openingTag; infer_instance

instance : Adds Any (markup write n) := by
  unfold markup
  dsimp only
  split <;> infer_instance

instance : Adds Any (property write form b c n k place) := by
  unfold property
  split <;> infer_instance

instance : Adds Any (object write n place) := by
  unfold object
  split <;> infer_instance

instance : Adds Any (array write ns) := by unfold array; infer_instance
instance : Adds Any (argumentLines write ns) := by unfold argumentLines; infer_instance
instance (stop : Nat) : Adds Any (arguments write stop ns) := by unfold arguments; infer_instance
instance : Adds Any (pureComment b) := by unfold pureComment; infer_instance
instance : Adds Any (call write b c place n) := by unfold call; infer_instance
instance : Adds Any (newCall write b place n) := by unfold newCall; infer_instance

instance : Adds Any (importCall write s place n) := by
  unfold importCall
  dsimp only
  refine .after fun _ => .after fun _ => .after fun _ => ?_
  split
  · infer_instance
  · dsimp only [id]
    infer_instance

instance : Adds Any separateNumber := by unfold separateNumber; infer_instance
instance : Adds Any (member write b c place n) := by unfold member; infer_instance
instance : Adds Any (index write b place n) := by unfold index; infer_instance
instance : Adds Any (infixed write s p b c place n) := by unfold infixed; infer_instance
instance : Adds Any (privateIn write place n) := by unfold privateIn; infer_instance
instance (op : UnaryOp) : Adds Any (unary write op place n) := by unfold unary; infer_instance
instance (op : UpdateOp) : Adds Any (update write op b place n) := by unfold update; infer_instance
instance (op : AssignOp) : Adds Any (assignment write op place n) := by unfold assignment; infer_instance
instance : Adds Any (conditional write place n) := by unfold conditional; infer_instance
instance : Adds Any (yieldExpression write b place n) := by unfold yieldExpression; infer_instance
instance : Adds Any (typeAssertion write s place n) := by unfold typeAssertion; infer_instance

instance : Adds Any (expression write n place) := by
  unfold expression
  split <;> infer_instance

/-! ## Statements -/

instance : Adds Any (beginStatement n) := by unfold beginStatement; infer_instance
instance : Adds Any (beginInline n) := by unfold beginInline; infer_instance

instance : Adds Any (beginDeclaration n) := by
  unfold beginDeclaration
  split <;> infer_instance

instance : Adds Any (endDeclaration n) := by
  unfold endDeclaration
  split <;> infer_instance

instance : Adds Any (onLines write place n) := by unfold onLines; infer_instance
instance : Adds Any (block write place n) := by unfold block; infer_instance
instance : Adds Any (directive n s) := by unfold directive; infer_instance

instance : Adds Any (statementList write place ns) := by
  unfold statementList
  split <;> infer_instance

instance : Adds Any (functionBody write place n) := by unfold functionBody; infer_instance

instance : Adds Any (governed write place n) := by
  unfold governed
  split <;> infer_instance

instance : Adds Any (firstBranch write place n b) := by unfold firstBranch; infer_instance

instance : Adds Any (ifChain write place n) := by
  fun_induction ifChain write place n with
  | case1 _ test first second ih =>
    split <;> infer_instance
  | case2 => infer_instance

instance : Adds Any (forEach write place s p n) := by unfold forEach; infer_instance
instance : Adds Any (forLoop write place n) := by unfold forLoop; infer_instance

instance : Adds Any (switchCase write place n) := by
  unfold switchCase
  split <;> infer_instance

instance : Adds Any (tryStatement write place n) := by unfold tryStatement; infer_instance
instance : Adds Any (catchClause write place n) := by unfold catchClause; infer_instance
instance : Adds Any (jump write s n) := by unfold jump; infer_instance
instance : Adds Any (declarator write b n place) := by unfold declarator; infer_instance

instance (w : DeclarationWord) : Adds Any (variableDeclaration write w b n place) := by
  unfold variableDeclaration
  infer_instance

instance : Adds Any (statement write n place) := by
  unfold statement
  split <;> infer_instance

/-! ## Imports, exports and declarations -/

instance : Adds Any (listed write ns) := by unfold listed; infer_instance
instance : Adds Any (renamed write b n k) := by unfold renamed; infer_instance
instance : Adds Any (importedNames write b ns) := by unfold importedNames; infer_instance
instance : Adds Any (importDeclaration write b s c n) := by unfold importDeclaration; infer_instance
instance : Adds Any (exportSource write n k) := by unfold exportSource; infer_instance
instance (offset : Nat) : Adds Any (commentsOfExport offset) := by unfold commentsOfExport; infer_instance
instance : Adds Any (exportedName write b n k) := by unfold exportedName; infer_instance

instance : Adds Any (moduleBody write place n) := by
  fun_induction moduleBody write place n <;> infer_instance

instance : Adds Any (moduleDeclaration write s b n place) := by unfold moduleDeclaration; infer_instance

instance : Adds Any (declaration write n place) := by
  unfold declaration
  dsimp only
  split <;> infer_instance

instance : Adds Any (beginExport n k) := by unfold beginExport; infer_instance

instance : Adds Any (moduleItem write n place) := by
  unfold moduleItem
  dsimp only
  split <;> infer_instance

/-! ## Programs -/

instance : Adds Any (node write n place) := by
  unfold node
  generalize n.kind = k
  cases k <;> dsimp only <;> infer_instance

end

instance (depth : Nat) (n : Node) (place : Place) : Adds Any (toDepth depth n place) := by
  induction depth generalizing n place with
  | zero => exact inferInstanceAs (Adds Any (pure ()))
  | succ depth ih => exact inferInstanceAs (Adds Any (node (toDepth depth) n place))

theorem exists_run_text (x : Printing) [Adds Any x] (p : Page) :
    ∃ text, (x.run p).2.text = p.text ++ text := by
  obtain ⟨text, -, added⟩ := (Adds.extends_run (T := Any) (x := x) p).text
  exact ⟨text, added⟩

end Printing

end TypedJsx
