import TypedJsx.Hook
import TypedJsx.Proofs.Component
/-!
What the hooks of a program tell. The walk through a program keeps a stack of the declarators that it stands
in. It comes back from every tree with the stack that it went in with (`HookScan.notes_visit`), so at each
node that it meets the stack is that of the declarators around the node (`HookScan.map_meetings`), and what
it has found is the first of each name of what the calls tell of in reading order.

Main statement: interfaces and hooks are found as if each call were looked at where it stands, and the stack
is empty at the end.
-/
namespace TypedJsx

/-- Items that are added one by one, if new, leave the first of each key. -/
theorem foldl_addNew {α : Type} (key : α → String) (bs : List α) :
    ∀ {as : List α}, (as.map key).Nodup → bs.foldl (addNew key) as = firstPerKey key (as ++ bs) := by
  induction bs with
  | nil =>
    intro as h
    simpa [firstPerKey] using (firstPerKey_append key h []).symm
  | cons b bs ih =>
    intro as h
    rw [List.foldl_cons]
    by_cases known : key b ∈ as.map key
    · have same : addNew key as b = as := by
        obtain ⟨a, ha, e⟩ := List.mem_map.mp known
        exact if_pos (List.any_eq_true.mpr ⟨a, ha, by simp [e]⟩)
      rw [same, ih h, firstPerKey_append_cons_of_mem key h known]
    · have grown : addNew key as b = as ++ [b] := by
        refine if_neg fun any => known ?_
        obtain ⟨a, ha, e⟩ := List.any_eq_true.mp any
        exact List.mem_map.mpr ⟨a, ha, beq_iff_eq.mp e⟩
      have nodup : ((as ++ [b]).map key).Nodup := by
        rw [List.map_append, List.map_singleton, List.nodup_append_comm]
        exact List.nodup_cons.mpr ⟨known, h⟩
      rw [grown, ih nodup, List.append_assoc, List.singleton_append]

/-! ## What a call tells of -/

/-- A node is a call of a plain name. -/
inductive Node.Calls : Node → String → List Node → Prop
  | call {isOptional isPure : Bool} {s t : Span} {name : String} {ns args : List Node} {types : Node} :
      Calls (.mk (.call isOptional isPure) s (.mk (.reference name) t ns :: types :: args)) name args

/-- A declarator has an array pattern, whose first element binds a name. -/
inductive Node.BindsFirst : Node → String → Prop
  | element {k : Kind} {d a s : Span} {name : String} {ns es rest : List Node} :
      BindsFirst (.mk k d (.mk .arrayPattern a (.mk (.binding name) s ns :: es) :: rest)) name

/-- The interfaces that a call tells of, in their order; `around` are the declarators around it, the
outermost first. -/
inductive Node.TellsOf (around : List Node) (n : Node) : List Interface → Prop
  | state {e d : Node} {rest : List Node} {name type : String} (calls : n.Calls "useState" (e :: rest))
      (innermost : around.getLast? = some d) (binds : d.BindsFirst name)
      (typed : initialType? e = some type) :
      TellsOf around n
        [{ name := capitalize name ++ "State"
           members := [{ name := "value", type := type, isOptional := false }] }]
  | reducer {e : Node} {rest : List Node} {name : String} (calls : n.Calls "useReducer" (e :: rest))
      (inside : around ≠ []) (named : e.kind = .reference name) :
      TellsOf around n
        [{ name := name ++ "State" },
          { name := name ++ "Action"
            members := [{ name := "type", type := "string", isOptional := false },
              { name := "payload", type := "any", isOptional := true }] }]
  | context {e : Node} {rest : List Node} {name : String} (calls : n.Calls "useContext" (e :: rest))
      (named : e.kind = .reference name) : TellsOf around n [{ name := name ++ "Value" }]

/-- What a declarator has on the stack. -/
def Node.firstName? (d : Node) : Option String := firstElementName? (d.child 0)

/-- What a call tells of under a stack of declarators, the innermost first. -/
def Node.told (declarators : List (Option String)) (n : Node) : List Interface :=
  match hookCall? declarators.head? n with
  | some c => if c.isHook then c.interfaces else []
  | none => []

/-- The hook that a node calls. -/
def Node.calledHook? (n : Node) : Option String :=
  match hookCall? none n with
  | some c => if c.isHook then some c.name else none
  | none => none

theorem Node.firstName?_eq_some_iff {d : Node} {name : String} :
    d.firstName? = some name ↔ d.BindsFirst name := by
  constructor
  · intro h
    obtain ⟨k, s, cs⟩ := d
    cases cs with
    | nil => cases h
    | cons c cs =>
      unfold Node.firstName? firstElementName? at h
      split at h
      · rename_i e
        cases h
        obtain rfl : c = _ := e
        exact .element
      · cases h
  · rintro ⟨⟩
    rfl

theorem Node.Calls.hookCall?_eq {n : Node} {name : String} {args : List Node} (h : n.Calls name args)
    (declarator : Option (Option String)) :
    hookCall? declarator n = some ⟨name, firstArgument? args, declarator⟩ := by
  cases h
  rfl

theorem hookCall?_eq_some_iff {declarator : Option (Option String)} {n : Node} {c : HookCall} :
    hookCall? declarator n = some c ↔
      ∃ name args, n.Calls name args ∧ c = ⟨name, firstArgument? args, declarator⟩ := by
  constructor
  · intro h
    unfold hookCall? at h
    split at h
    · cases h
      exact ⟨_, _, .call, rfl⟩
    · cases h
  · rintro ⟨name, args, calls, rfl⟩
    exact calls.hookCall?_eq declarator

theorem hookCall?_eq_none {n : Node} (h : ¬∃ name args, n.Calls name args)
    (declarator : Option (Option String)) : hookCall? declarator n = none := by
  rw [Option.eq_none_iff_forall_ne_some]
  intro c found
  obtain ⟨name, args, calls, -⟩ := hookCall?_eq_some_iff.mp found
  exact h ⟨name, args, calls⟩

theorem bind_initialType?_cons (e : Node) (rest : List Node) :
    (firstArgument? (e :: rest)).bind initialType? = initialType? e := by
  obtain ⟨k, s, cs⟩ := e
  cases k <;> rfl

theorem argumentName?_cons_eq_some_iff {hook name : String} {e : Node} {rest : List Node}
    {declarator : Option (Option String)} :
    HookCall.argumentName? ⟨hook, firstArgument? (e :: rest), declarator⟩ = some name ↔
      e.kind = .reference name := by
  obtain ⟨k, s, cs⟩ := e
  cases k <;> simp [HookCall.argumentName?, firstArgument?]

/-- The stack of the declarators around a place. -/
def stackOf (around : List Node) : List (Option String) := around.reverse.map Node.firstName?

theorem head?_stackOf (around : List Node) :
    (stackOf around).head? = around.getLast?.map Node.firstName? := by
  rw [stackOf, List.head?_map, List.head?_reverse]

theorem HookCall.isHook_of_interfaces {c : HookCall} (h : c.interfaces ≠ []) : c.isHook = true := by
  have names : c.name = "useState" ∨ c.name = "useReducer" ∨ c.name = "useContext" := by
    by_contra none
    simp only [not_or] at none
    exact h (by simp [HookCall.interfaces, none])
  rw [HookCall.isHook]
  rcases names with e | e | e <;> rw [e] <;> decide +kernel

theorem Node.told_eq_interfaces (declarators : List (Option String)) (n : Node) : n.told declarators
    = ((hookCall? declarators.head? n).map HookCall.interfaces).getD [] := by
  unfold Node.told
  cases hookCall? declarators.head? n with
  | none => rfl
  | some c =>
    by_cases h : c.interfaces = []
    · simp [h]
    · simp [HookCall.isHook_of_interfaces h]

section
variable {around : List Node} {n : Node} {args : List Node} {declarator : Option (Option String)}

theorem Node.tellsOf_state (calls : n.Calls "useState" args)
    (h : HookCall.stateInterfaces ⟨"useState", firstArgument? args, (stackOf around).head?⟩ ≠ []) :
    n.TellsOf around
      (HookCall.stateInterfaces ⟨"useState", firstArgument? args, (stackOf around).head?⟩) := by
  unfold HookCall.stateInterfaces at h ⊢
  split at h
  · rename_i type name typed innermost
    cases args with
    | nil => cases typed
    | cons e rest =>
      dsimp only at typed innermost
      rw [bind_initialType?_cons] at typed
      rw [head?_stackOf, Option.map_eq_some_iff] at innermost
      obtain ⟨d, innermost, binds⟩ := innermost
      exact .state calls innermost (Node.firstName?_eq_some_iff.mp binds) typed
  · exact absurd rfl h

theorem Node.tellsOf_reducer (calls : n.Calls "useReducer" args)
    (h : HookCall.reducerInterfaces ⟨"useReducer", firstArgument? args, (stackOf around).head?⟩ ≠ []) :
    n.TellsOf around
      (HookCall.reducerInterfaces ⟨"useReducer", firstArgument? args, (stackOf around).head?⟩) := by
  unfold HookCall.reducerInterfaces at h ⊢
  split at h
  · rename_i name d named innermost
    cases args with
    | nil => cases named
    | cons e rest =>
      have inside : around ≠ [] := by
        rintro rfl
        cases innermost
      exact .reducer calls inside (argumentName?_cons_eq_some_iff.mp named)
  · exact absurd rfl h

theorem Node.tellsOf_context (calls : n.Calls "useContext" args)
    (h : HookCall.contextInterfaces ⟨"useContext", firstArgument? args, declarator⟩ ≠ []) :
    n.TellsOf around (HookCall.contextInterfaces ⟨"useContext", firstArgument? args, declarator⟩) := by
  unfold HookCall.contextInterfaces at h ⊢
  split at h
  · rename_i name named
    cases args with
    | nil => cases named
    | cons e rest => exact .context calls (argumentName?_cons_eq_some_iff.mp named)
  · exact absurd rfl h

end

theorem Node.tellsOf_iff {around : List Node} {n : Node} {l : List Interface} :
    n.TellsOf around l ↔ n.told (stackOf around) = l ∧ l ≠ [] := by
  rw [Node.told_eq_interfaces]
  constructor
  · intro h
    cases h with
    | state calls innermost binds typed =>
      rw [head?_stackOf, innermost, Option.map_some, Node.firstName?_eq_some_iff.mpr binds,
        calls.hookCall?_eq]
      simp [HookCall.interfaces, HookCall.stateInterfaces, bind_initialType?_cons, typed]
    | reducer calls inside named =>
      obtain ⟨d, innermost⟩ := Option.ne_none_iff_exists'.mp (mt List.getLast?_eq_none_iff.mp inside)
      rw [head?_stackOf, innermost, Option.map_some, calls.hookCall?_eq]
      simp [HookCall.interfaces, HookCall.reducerInterfaces, argumentName?_cons_eq_some_iff.mpr named]
    | context calls named =>
      rw [calls.hookCall?_eq]
      simp [HookCall.interfaces, HookCall.contextInterfaces, argumentName?_cons_eq_some_iff.mpr named]
  · rintro ⟨rfl, some⟩
    cases found : hookCall? (stackOf around).head? n with
    | none => simp [found] at some
    | some c =>
      obtain ⟨hook, args, calls, rfl⟩ := hookCall?_eq_some_iff.mp found
      rw [found, Option.map_some, Option.getD_some] at some
      rw [Option.map_some, Option.getD_some]
      unfold HookCall.interfaces at some ⊢
      -- the walk tells by the name of the hook, and each hook reads its own arguments
      split_ifs at some ⊢ with state reducer context
      · obtain rfl := beq_iff_eq.mp state
        exact Node.tellsOf_state calls some
      · obtain rfl := beq_iff_eq.mp reducer
        exact Node.tellsOf_reducer calls some
      · obtain rfl := beq_iff_eq.mp context
        exact Node.tellsOf_context calls some
      · exact absurd rfl some

theorem Node.calledHook?_eq_some_iff {n : Node} {name : String} : n.calledHook? = some name ↔
    (∃ args, n.Calls name args) ∧ "use".toList <+: name.toList := by
  have hook : ∀ args, HookCall.isHook ⟨name, args, none⟩ = true ↔ "use".toList <+: name.toList :=
    fun _ => List.isPrefixOf_iff_prefix
  unfold Node.calledHook?
  constructor
  · intro h
    split at h
    · rename_i c found
      obtain ⟨name, args, calls, rfl⟩ := hookCall?_eq_some_iff.mp found
      split_ifs at h with isHook
      cases h
      exact ⟨⟨args, calls⟩, (hook _).mp isHook⟩
    · cases h
  · rintro ⟨⟨args, calls⟩, isHook⟩
    rw [calls.hookCall?_eq]
    exact if_pos ((hook _).mpr isHook)

/-! ## The walk -/

namespace HookScan

mutual

/-- The nodes that the walk through a tree meets, in order, with what it is when it meets each. -/
def meetings (scan : HookScan) : Node → List (HookScan × Node)
  | .mk k s cs =>
    (scan, .mk k s cs) :: meetingsList ((scan.meet (.mk k s cs)).enter (.mk k s cs)) cs

def meetingsList (scan : HookScan) : List Node → List (HookScan × Node)
  | [] => []
  | c :: cs => scan.meetings c ++ meetingsList (scan.visit c) cs

end

/-- What a walk has noted between two points: it is back on its stack, and it has added what is new of the
interfaces and the hooks that it was told. -/
structure Notes (scan later : HookScan) (told : List Interface) (hooks : List String) : Prop where
  declarators : later.declarators = scan.declarators
  interfaces : later.interfaces = told.foldl (addNew Interface.name) scan.interfaces
  used : later.used = hooks.foldl (addNew id) scan.used

theorem Notes.nothing (scan : HookScan) : scan.Notes scan [] [] := ⟨rfl, rfl, rfl⟩

theorem Notes.append {scan mid later : HookScan} {told told' : List Interface} {hooks hooks' : List String}
    (first : scan.Notes mid told hooks) (second : mid.Notes later told' hooks') :
    scan.Notes later (told ++ told') (hooks ++ hooks') where
  declarators := second.declarators.trans first.declarators
  interfaces := by rw [second.interfaces, first.interfaces, List.foldl_append]
  used := by rw [second.used, first.used, List.foldl_append]

theorem Notes.leave {scan later : HookScan} {n : Node} {told : List Interface} {hooks : List String}
    (h : (scan.enter n).Notes later told hooks) : scan.Notes (later.leave n) told hooks := by
  obtain ⟨declarators, interfaces, used⟩ := h
  unfold enter at declarators interfaces used
  unfold HookScan.leave
  split at declarators
  · rename_i inside
    rw [if_pos inside] at interfaces used ⊢
    exact ⟨by rw [declarators, List.tail_cons], interfaces, used⟩
  · rename_i outside
    rw [if_neg outside] at interfaces used ⊢
    exact ⟨declarators, interfaces, used⟩

/-- A call that is met tells what it does under the stack; no other node tells anything. -/
theorem notes_meet (scan : HookScan) (n : Node) :
    scan.Notes (scan.meet n) (n.told scan.declarators) n.calledHook?.toList := by
  unfold meet Node.told Node.calledHook?
  by_cases h : ∃ name args, n.Calls name args
  · obtain ⟨name, args, calls⟩ := h
    rw [calls.hookCall?_eq, calls.hookCall?_eq]
    have named : HookCall.isHook ⟨name, firstArgument? args, scan.declarators.head?⟩
        = HookCall.isHook ⟨name, firstArgument? args, none⟩ := rfl
    dsimp only [call]
    rw [named]
    split
    · exact ⟨rfl, rfl, rfl⟩
    · exact .nothing scan
  · rw [hookCall?_eq_none h, hookCall?_eq_none h]
    exact .nothing scan

theorem notes_visitList {cs : List Node}
    (h : ∀ c ∈ cs, ∀ scan : HookScan, scan.Notes (scan.visit c)
      ((scan.meetings c).flatMap fun m => m.2.told m.1.declarators)
      ((scan.meetings c).flatMap fun m => m.2.calledHook?.toList)) :
    ∀ scan : HookScan, scan.Notes (scan.visitList cs)
      ((scan.meetingsList cs).flatMap fun m => m.2.told m.1.declarators)
      ((scan.meetingsList cs).flatMap fun m => m.2.calledHook?.toList) := by
  induction cs with
  | nil => exact Notes.nothing
  | cons c cs ih =>
    rw [List.forall_mem_cons] at h
    intro scan
    rw [visitList, meetingsList, List.flatMap_append, List.flatMap_append]
    exact (h.1 scan).append (ih h.2 (scan.visit c))

/-- A walk through a tree notes what the nodes that it meets tell under its stack, and comes back on the
stack that it went in with. -/
theorem notes_visit (n : Node) : ∀ scan : HookScan, scan.Notes (scan.visit n)
    ((scan.meetings n).flatMap fun m => m.2.told m.1.declarators)
    ((scan.meetings n).flatMap fun m => m.2.calledHook?.toList) := by
  induction n using Node.induction with
  | step k s cs ih =>
    intro scan
    have parts := (notes_visitList ih ((scan.meet (.mk k s cs)).enter (.mk k s cs))).leave
    rw [visit, meetings, List.flatMap_cons, List.flatMap_cons]
    exact (scan.notes_meet (.mk k s cs)).append parts

theorem declarators_enter (scan : HookScan) (n : Node) : (scan.enter n).declarators
    = if n.kind.isDeclarator then n.firstName? :: scan.declarators else scan.declarators := by
  unfold enter
  split <;> rfl

theorem map_meetingsList {cs : List Node}
    (h : ∀ c ∈ cs, ∀ scan : HookScan, (scan.meetings c).map (fun m => (m.1.declarators, m.2))
      = (c.placed Kind.isDeclarator).map fun p => (stackOf p.1 ++ scan.declarators, p.2)) :
    ∀ scan : HookScan, (scan.meetingsList cs).map (fun m => (m.1.declarators, m.2))
      = (cs.flatMap (Node.placed Kind.isDeclarator)).map fun p =>
        (stackOf p.1 ++ scan.declarators, p.2) := by
  induction cs with
  | nil => exact fun _ => rfl
  | cons c cs ih =>
    rw [List.forall_mem_cons] at h
    intro scan
    rw [meetingsList, List.map_append, h.1, ih h.2, (notes_visit c scan).declarators, List.flatMap_cons,
      List.map_append]

/-- When the walk meets a node, the declarators around the node are on the stack, in front of those that
it went in with. -/
theorem map_meetings (n : Node) : ∀ scan : HookScan,
    (scan.meetings n).map (fun m => (m.1.declarators, m.2))
      = (n.placed Kind.isDeclarator).map fun p => (stackOf p.1 ++ scan.declarators, p.2) := by
  induction n using Node.induction with
  | step k s cs ih =>
    intro scan
    have parts := map_meetingsList ih ((scan.meet (.mk k s cs)).enter (.mk k s cs))
    rw [meetings, List.map_cons, parts, Node.placed_mk, List.map_cons, List.map_map, declarators_enter,
      (scan.notes_meet _).declarators]
    refine congrArg _ (List.map_congr_left fun p _ => ?_)
    rw [Node.kind_mk]
    dsimp only [Function.comp_apply]
    split
    · simp [stackOf]
    · rfl

end HookScan

/-! ## Where hooks stand -/

theorem HookScan.flatMap_meetings {β : Type} (f : List (Option String) → Node → List β) (program : Node) :
    ((HookScan.meetings {} program).flatMap fun m => f m.1.declarators m.2)
      = (program.placed Kind.isDeclarator).flatMap fun p => f (stackOf p.1) p.2 := by
  have same := congrArg (List.flatMap fun q => f q.1 q.2) (HookScan.map_meetings program {})
  simpa only [List.flatMap_map, List.append_nil] using same

theorem Node.hookInterfaces_eq (program : Node) : program.hookInterfaces = firstPerKey Interface.name
    ((program.placed Kind.isDeclarator).flatMap fun p => p.2.told (stackOf p.1)) := by
  rw [Node.hookInterfaces, Node.hookScan, (HookScan.notes_visit program {}).interfaces,
    HookScan.flatMap_meetings fun declarators n => n.told declarators]
  exact foldl_addNew Interface.name _ .nil

theorem Node.hooksUsed_eq (program : Node) :
    program.hooksUsed = firstPerKey id (program.nodes.filterMap Node.calledHook?) := by
  rw [Node.hooksUsed, Node.hookScan, (HookScan.notes_visit program {}).used,
    HookScan.flatMap_meetings fun _ n => n.calledHook?.toList, ← Node.map_snd_placed Kind.isDeclarator,
    List.filterMap_eq_flatMap_toList, List.flatMap_map]
  exact foldl_addNew id _ .nil

theorem Node.nodup_hookInterfaces (program : Node) :
    (program.hookInterfaces.map Interface.name).Nodup := by
  rw [program.hookInterfaces_eq]
  exact nodup_firstPerKey Interface.name _

theorem Node.exists_call_of_mem_hookInterfaces {program : Node} {i : Interface}
    (h : i ∈ program.hookInterfaces) : ∃ c : HookCall, i ∈ c.interfaces := by
  rw [program.hookInterfaces_eq] at h
  obtain ⟨p, -, told⟩ := List.mem_flatMap.mp (mem_of_mem_firstPerKey Interface.name h)
  rw [Node.told_eq_interfaces] at told
  cases found : hookCall? (stackOf p.1).head? p.2 with
  | none => simp [found] at told
  | some c => exact ⟨c, by simpa [found] using told⟩

/-- The interfaces that hooks tell of are, of each name the first, those that the calls of plain names tell
of where they stand in the program, outer before inner, in reading order. The hooks that are used are, each
once, the names of such calls that begin with `use`. Whenever the walk meets a node, its stack is that of
the declarators around the node, and it is empty at the end. -/
theorem hooks_found_in_place (program : Node) :
    program.hookInterfaces = firstPerKey Interface.name
        ((program.placed Kind.isDeclarator).flatMap fun p => p.2.told (stackOf p.1))
      ∧ (∀ around n l, Node.TellsOf around n l ↔ n.told (stackOf around) = l ∧ l ≠ [])
      ∧ program.hooksUsed = firstPerKey id (program.nodes.filterMap Node.calledHook?)
      ∧ (∀ n name, Node.calledHook? n = some name ↔
          (∃ args, n.Calls name args) ∧ "use".toList <+: name.toList)
      ∧ (HookScan.meetings {} program).map (fun m => (m.1.declarators, m.2))
        = (program.placed Kind.isDeclarator).map (fun p => (p.1.reverse.map Node.firstName?, p.2))
      ∧ (program.placed Kind.isDeclarator).map Prod.snd = program.nodes
      ∧ (∀ around n, (around, n) ∈ program.placed Kind.isDeclarator ↔
          program.StandsIn Kind.isDeclarator around n)
      ∧ program.hookScan.declarators = [] := by
  refine ⟨program.hookInterfaces_eq, fun around n l => Node.tellsOf_iff, program.hooksUsed_eq,
    fun n name => Node.calledHook?_eq_some_iff, ?_, program.map_snd_placed _,
    fun around n => Node.mem_placed_iff _, (HookScan.notes_visit program {}).declarators⟩
  have met := HookScan.map_meetings program {}
  simpa only [List.append_nil, stackOf] using met

end TypedJsx
