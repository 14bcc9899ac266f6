import TypedJsx.Proofs.Conversion.Level
import TypedJsx.Proofs.Extraction.Deletion
import TypedJsx.Proofs.Printer
import TypedJsx.Proofs.Signature.Basic
/-!
The directives that a program begins with. Nothing that a conversion does to the tree takes one away or
puts anything in front of them: extraction drops no directive, and a plan changes nothing before the first
part of a component that is no directive (`Node.prologue_annotate`). The text of a typed module begins with
what stands before the code, and that is nothing just if the program imports the framework and there is no
interface (`heading_eq_nil_iff`).

Main statement: the directives still lead the program that the code is made from; they lead the typed
module just if the program imports the framework, declares no props, and no component or hook adds an
interface. Else an import or an interface comes first. What leads the tree leads the text as well, but for
comments (`Node.print_begins`), so the text of a module without a heading begins with the directives of its
source (`code_begins_of_no_heading`).
-/
namespace TypedJsx

/-- The text of a directive between its quotes. -/
def Node.directiveText? (n : Node) : Option String :=
  match n.kind with
  | .directive raw => some raw
  | _ => none

/-- The directives that a list of statements begins with. -/
def leadingDirectives : List Node → List String
  | [] => []
  | c :: cs =>
    match c.directiveText? with
    | some raw => raw :: leadingDirectives cs
    | none => []

/-- The directives that a program begins with. -/
def Node.prologue (program : Node) : List String := leadingDirectives program.children

/-- The line that says how a program is run, if it has one. -/
def Node.runLine (program : Node) : List Char :=
  match program.kind with
  | .program (some line) => "#!".toList ++ line.toList ++ "\n".toList
  | _ => []

theorem Node.runLine_eq_nil {n : Node} (plain : ¬∃ line, n.kind = .program (some line)) :
    n.runLine = [] := by
  unfold runLine
  split
  · rename_i line h
    exact absurd ⟨line, h⟩ plain
  · rfl

/-! ## Directives in the tree -/

theorem Node.directiveText?_eq_some_iff {n : Node} {raw : String} :
    n.directiveText? = some raw ↔ n.kind = .directive raw := by
  unfold Node.directiveText?
  split <;> simp_all

theorem leadingDirectives_map {f : Node → Node} {cs : List Node}
    (same : ∀ c ∈ cs, (f c).directiveText? = c.directiveText?) :
    leadingDirectives (cs.map f) = leadingDirectives cs := by
  induction cs with
  | nil => rfl
  | cons c cs ih =>
    rw [List.forall_mem_cons] at same
    rw [List.map_cons, leadingDirectives, leadingDirectives, same.1, ih same.2]

theorem leadingDirectives_filter {keep : Node → Bool} {cs : List Node}
    (kept : ∀ c ∈ cs, c.directiveText?.isSome → keep c = true) :
    leadingDirectives cs <+: leadingDirectives (cs.filter keep) := by
  induction cs with
  | nil => exact List.prefix_rfl
  | cons c cs ih =>
    rw [List.forall_mem_cons] at kept
    cases h : c.directiveText? with
    | none =>
      rw [leadingDirectives, h]
      exact List.nil_prefix
    | some raw =>
      rw [List.filter_cons_of_pos (kept.1 (by simp [h])), leadingDirectives, leadingDirectives, h]
      exact List.cons_prefix_cons.mpr ⟨rfl, ih kept.2⟩

theorem Node.directiveText?_withoutDeclarations (n : Node) :
    n.withoutDeclarations.directiveText? = n.directiveText? := by
  rw [Node.directiveText?, Node.kind_withoutDeclarations, Node.directiveText?]

theorem Node.directiveText?_annotate (plans : List Plan) (n : Node) :
    (n.annotate plans).directiveText? = n.directiveText? := by
  apply Option.ext
  intro raw
  rw [Node.directiveText?_eq_some_iff, Node.directiveText?_eq_some_iff]
  exact Node.kind_annotate_iff rfl

theorem Node.prologue_withoutBindings (program : Node) :
    program.prologue <+: program.withoutBindings.prologue := by
  obtain ⟨k, s, cs⟩ := program
  refine leadingDirectives_filter fun c _ hc => ?_
  obtain ⟨raw, hc⟩ := Option.isSome_iff_exists.mp hc
  obtain ⟨k, t, parts⟩ := c
  obtain rfl : k = .directive raw := Node.directiveText?_eq_some_iff.mp hc
  rfl

theorem Node.prologue_withoutDeclarations (program : Node) :
    program.prologue <+: program.withoutDeclarations.prologue := by
  obtain ⟨k, s, cs⟩ := program
  have same : leadingDirectives (cs.map Node.withoutDeclarations) = leadingDirectives cs :=
    leadingDirectives_map fun c _ => c.directiveText?_withoutDeclarations
  rw [Node.withoutDeclarations_mk, Node.prologue, Node.prologue, Node.children_mk, Node.children_mk, ← same]
  split
  · refine leadingDirectives_filter fun c _ hc => ?_
    obtain ⟨raw, hc⟩ := Option.isSome_iff_exists.mp hc
    obtain ⟨k, t, parts⟩ := c
    obtain rfl : k = .directive raw := Node.directiveText?_eq_some_iff.mp hc
    rfl
  · exact List.prefix_rfl

/-- A plan changes nothing before the first part of a component that is no directive. -/
theorem Plan.prologue_applyTo (p : Plan) (n : Node) : (p.applyTo n).1.prologue = n.prologue := by
  have parameters : ∀ s cs, (Node.mk .parameters s cs).directiveText? = none := fun _ _ => rfl
  unfold Plan.applyTo
  split
  · dsimp only
    split
    · rfl
    · simp only [Node.prologue, Node.children_mk, leadingDirectives, parameters]
  · simp only [Node.prologue, Node.children_mk, leadingDirectives, parameters]
  · rename_i baseTypes _ _
    have written : (Node.fresh .typeArguments [p.interfaceType]).directiveText? = none := rfl
    cases h : baseTypes.isPresent with
    | true => simp
    | false =>
      have absent : baseTypes.directiveText? = none := by
        have h : baseTypes.isAbsent = true := by simpa [Node.isPresent] using h
        rw [Node.directiveText?, (Node.isAbsent_iff.mp h).1]
      simp [Node.prologue, leadingDirectives, written, absent]
  · rfl

theorem Node.prologue_annotate (plans : List Plan) (program : Node) :
    (program.annotate plans).prologue = program.prologue := by
  obtain ⟨k, s, cs⟩ := program
  have parts : (Node.mk k s (cs.map (Node.annotate plans))).prologue = (Node.mk k s cs).prologue :=
    leadingDirectives_map fun c _ => c.directiveText?_annotate plans
  rw [Node.annotate_mk, ← parts, Node.annotateHere]
  split
  · exact Plan.prologue_applyTo _ _
  · rfl

theorem Node.runLine_eq {n n' : Node}
    (h : ∀ line, n.kind = .program (some line) ↔ n'.kind = .program (some line)) :
    n.runLine = n'.runLine := by
  by_cases has : ∃ line, n.kind = .program (some line)
  · obtain ⟨line, hn⟩ := has
    rw [runLine, hn, runLine, (h line).mp hn]
  · rw [runLine_eq_nil has, runLine_eq_nil fun ⟨line, hn⟩ => has ⟨line, (h line).mpr hn⟩]

theorem Module.runLine_annotated (m : Module) (config : Config) :
    (m.annotated config).runLine = m.tree.runLine := by
  refine Node.runLine_eq fun line => ?_
  rw [Module.annotated, Node.kind_annotate_iff rfl, Node.withoutProps, Node.kind_withoutDeclarations]
  cases m.tree with
  | mk k s cs => rfl

theorem Module.prologue_annotated (m : Module) (config : Config) :
    m.tree.prologue <+: (m.annotated config).prologue := by
  rw [Module.annotated, Node.prologue_annotate]
  exact m.tree.prologue_withoutBindings.trans (Node.prologue_withoutDeclarations _)

/-! ## Directives on the page -/

/-- The line of a directive. -/
def directiveLine (raw : String) : List Char :=
  let quote := (Printing.directiveQuote raw.toList).toList
  quote ++ raw.toList ++ quote ++ ";\n".toList

/-- A text that begins with directives, each on its line, with no more than comments in front of it. -/
def BeginsWith (comments : List Comment) : List String → List Char → Prop
  | [], _ => True
  | raw :: rest, text => ∃ aside more, text = aside ++ directiveLine raw ++ more
      ∧ Printing.IsAside comments aside ∧ BeginsWith comments rest more

theorem BeginsWith.append {comments : List Comment} {raws : List String} {text : List Char}
    (h : BeginsWith comments raws text) (more : List Char) : BeginsWith comments raws (text ++ more) := by
  induction raws generalizing text with
  | nil => trivial
  | cons raw raws ih =>
    obtain ⟨aside, after, rfl, isAside, begins⟩ := h
    exact ⟨aside, after ++ more, List.append_assoc .., isAside, ih begins⟩

theorem BeginsWith.of_isPrefix {comments : List Comment} {raws all : List String} {text : List Char}
    (h : BeginsWith comments all text) (first : raws <+: all) : BeginsWith comments raws text := by
  induction raws generalizing all text with
  | nil => trivial
  | cons raw raws ih =>
    obtain ⟨others, rfl⟩ := first
    obtain ⟨aside, more, rfl, isAside, begins⟩ := h
    exact ⟨aside, more, rfl, isAside, ih begins (List.prefix_append raws others)⟩

namespace Printing

variable {comments : List Comment} {p : Page}

theorem run_directive (known : p.comments ⊆ comments) (n : Node) (raw : String) :
    ∃ aside, IsAside comments aside
      ∧ ((directive n raw).run p).2.text = p.text ++ (aside ++ directiveLine raw)
      ∧ ((directive n raw).run p).2.comments ⊆ comments := by
  have begun : p.Extends (IsAside comments) ((beginStatement n).run p).2 :=
    (extends_commentsAt known n.span.start).trans (Adds.extends_run (x := indentation) _)
  obtain ⟨aside, isAside, text⟩ := begun.text
  refine ⟨aside, isAside, ?_, List.Subset.trans begun.comments known⟩
  have line : ((directive n raw).run p).2.text
      = ((beginStatement n).run p).2.text ++ directiveLine raw := by
    show ((((Page.append _ _).append _).append _).append _).text = _
    simp only [text_append, directiveLine, List.append_assoc]
    rfl
  rw [line, text, List.append_assoc]

theorem each_cons {α : Type} (item : α → Printing) (a : α) (rest : List α) :
    each (a :: rest) item = item a >>= fun _ => each rest item := by
  cases rest with
  | nil => rfl
  | cons b rest => rfl

theorem run_plain (x : Printing) [Adds Any x] {items : List Node} (none : leadingDirectives items = []) :
    ∃ text, (x.run p).2.text = p.text ++ text ∧ BeginsWith comments (leadingDirectives items) text := by
  obtain ⟨text, added⟩ := exists_run_text x p
  exact ⟨text, added, by rw [none]; trivial⟩

theorem run_statements (known : p.comments ⊆ comments) (depth : Nat) (items : List Node) :
    ∃ text, ((each items (onLines (toDepth (depth + 1)) {})).run p).2.text = p.text ++ text
      ∧ BeginsWith comments (leadingDirectives items) text := by
  induction items generalizing p with
  | nil => exact ⟨[], (List.append_nil _).symm, trivial⟩
  | cons c rest ih =>
    cases h : c.directiveText? with
    | none => exact run_plain _ (by rw [leadingDirectives, h])
    | some raw =>
      obtain ⟨k, s, cs⟩ := c
      obtain rfl : k = .directive raw := Node.directiveText?_eq_some_iff.mp h
      obtain ⟨aside, isAside, added, remain⟩ := run_directive known (.mk (.directive raw) s cs) raw
      obtain ⟨text, later, begins⟩ := ih remain
      refine ⟨aside ++ directiveLine raw ++ text, ?_, ?_⟩
      · rw [each_cons]
        rw [added, List.append_assoc] at later
        exact later
      · exact ⟨aside, text, rfl, isAside, begins⟩

/-- A first statement that would be read as a directive is none, so nothing is asked of its text. -/
theorem run_statementList (known : p.comments ⊆ comments) (depth : Nat) (items : List Node) :
    ∃ text, ((statementList (toDepth (depth + 1)) {} items).run p).2.text = p.text ++ text
      ∧ BeginsWith comments (leadingDirectives items) text := by
  cases items with
  | nil => exact run_plain _ rfl
  | cons first rest =>
    cases h : looksLikeDirective first with
    | true =>
      -- an expression that looks like a directive is none, and gets parentheses
      refine run_plain _ ?_
      unfold looksLikeDirective at h
      split at h
      · rfl
      · cases h
    | false =>
      rw [statementList, h]
      exact run_statements known depth (first :: rest)

theorem run_rest (known : p.comments ⊆ comments) (k : Kind) (s : Span) (cs : List Node) :
    ∃ text, ((do statementList (toDepth (depthList cs + 1)) {} cs; commentsAt s.stop : Printing).run p).2.text
        = p.text ++ text
      ∧ BeginsWith comments (Node.mk k s cs).prologue text := by
  obtain ⟨text, added, begins⟩ := run_statementList known (depthList cs) cs
  obtain ⟨more, closing⟩ := exists_run_text (commentsAt s.stop)
    ((statementList (toDepth (depthList cs + 1)) {} cs).run p).2
  refine ⟨text ++ more, ?_, begins.append more⟩
  rw [← List.append_assoc, ← added]
  exact closing

/-- The text of a program begins with its directives, behind the line that says how it is run. -/
theorem run_program (known : p.comments ⊆ comments) (tree : Node) :
    ∃ aside text, ((program tree).run p).2.text = p.text ++ (aside ++ (tree.runLine ++ text))
      ∧ IsAside comments aside ∧ BeginsWith comments tree.prologue text := by
  obtain ⟨k, s, cs⟩ := tree
  -- comments at the start of the text come before everything, also before the line that says how it is run
  have opening := extends_commentsAt known 0
  have known := List.Subset.trans opening.comments known
  obtain ⟨aside, isAside, before⟩ := opening.text
  by_cases hk : ∃ line, k = .program (some line)
  · obtain ⟨line, rfl⟩ := hk
    obtain ⟨text, added, begins⟩ := run_rest
      (p := ((((commentsAt 0).run p).2.append "#!".toList).append line.toList).append "\n".toList) known
      (.program (some line)) s cs
    refine ⟨aside, text, ?_, isAside, begins⟩
    rw [text_append, text_append, text_append, before] at added
    exact added.trans (by simp [Node.runLine, Node.kind])
  · obtain ⟨text, added, begins⟩ := run_rest known k s cs
    refine ⟨aside, text, ?_, isAside, begins⟩
    rw [before, List.append_assoc] at added
    rw [Node.runLine_eq_nil (n := .mk k s cs) hk, List.nil_append]
    unfold program
    split
    · rename_i line h
      exact absurd ⟨line, h⟩ hk
    · exact added

end Printing

/-- The text of a program begins with its directives. No more than comments and the line that says how it is
run come before. -/
theorem Node.print_begins (tree : Node) (comments : List Comment) :
    ∃ aside text, tree.print comments = aside ++ (tree.runLine ++ text)
      ∧ Printing.IsAside comments aside ∧ BeginsWith comments tree.prologue text :=
  Printing.run_program List.filter_sublist.subset tree

/-! ## What stands before the code -/

/-- What a typed module begins with, before the code. -/
def heading (hasReactImport : Bool) (interfaces : List Interface) : List Char :=
  (if hasReactImport then [] else reactImport ++ blankLine) ++ interfaceText interfaces

theorem assemble_eq_heading_append (code : List Char) (hasReactImport : Bool)
    (interfaces : List Interface) :
    assemble code hasReactImport interfaces = heading hasReactImport interfaces ++ code := rfl

theorem interfaceText_cons (i : Interface) (interfaces : List Interface) :
    "interface ".toList <+: interfaceText (i :: interfaces) := by
  rw [interfaceText, if_neg (by simp), List.map_cons]
  have first : "interface ".toList <+: i.render := ⟨_, (List.append_assoc _ _ _).symm⟩
  refine first.trans ?_
  cases interfaces.map Interface.render with
  | nil => exact List.prefix_append _ _
  | cons t ts =>
    rw [joinWith, List.append_assoc, List.append_assoc]
    · exact List.prefix_append _ _
    · exact List.cons_ne_nil _ _

theorem prefix_heading {hasReactImport : Bool} {interfaces : List Interface}
    (h : heading hasReactImport interfaces ≠ []) :
    "import ".toList <+: heading hasReactImport interfaces
      ∨ "interface ".toList <+: heading hasReactImport interfaces := by
  cases hasReactImport with
  | false =>
    have text : "import ".toList <+: reactImport := by decide +kernel
    rw [heading, if_neg (by simp), List.append_assoc]
    exact .inl (text.trans (List.prefix_append _ _))
  | true =>
    cases interfaces with
    | nil => exact absurd rfl h
    | cons i interfaces => exact .inr (interfaceText_cons i interfaces)

theorem heading_eq_nil_iff {hasReactImport : Bool} {interfaces : List Interface} :
    heading hasReactImport interfaces = [] ↔ hasReactImport = true ∧ interfaces = [] := by
  constructor
  · intro h
    cases hasReactImport with
    | false => cases h
    | true =>
      refine ⟨rfl, ?_⟩
      cases interfaces with
      | nil => rfl
      | cons i interfaces =>
        have begins := interfaceText_cons i interfaces
        rw [show interfaceText (i :: interfaces) = [] from h] at begins
        exact absurd (List.prefix_nil.mp begins) (by decide +kernel)
  · rintro ⟨rfl, rfl⟩
    rfl

/-! ## Conversions without interfaces -/

section
variable (m : Module) (config : Config)

theorem Module.hasReactImport_iff : m.extraction.hasReactImport = true ↔
    ∃ s ∈ m.tree.statements, s.importSource? = some "react" := by
  simp [Module.extraction]

theorem Module.props_eq_nil_iff : (m.convertParts config).props = [] ↔ (¬∃ d, m.Declares d)
    ∧ ∀ p ∈ m.plans config, p.component ∉ annotatedNames (m.outcomes config) := by
  have names := m.map_name_props config
  have nil : (m.convertParts config).props = [] ↔ m.interfaced config = [] := by
    rw [← List.map_eq_nil_iff (f := Interface.name), names, List.map_eq_nil_iff]
  have declared : m.extraction.components = [] ↔ ¬∃ d, m.Declares d := by
    rw [List.eq_nil_iff_forall_not_mem]
    simp only [Extraction.mem_components, m.mem_extraction]
    constructor
    · rintro h ⟨d, hd⟩
      exact h _ ⟨d, hd, rfl⟩
    · rintro h _ ⟨d, hd, -⟩
      exact h ⟨d, hd⟩
  rw [nil, Module.interfaced, List.append_eq_nil_iff, declared, List.map_eq_nil_iff,
    List.filter_eq_nil_iff]
  refine and_congr_right fun undeclared => forall₂_congr fun p hp => ?_
  have plain : p.isDeclared = false := by
    rw [(m.plan_of_mem config hp).2, ← Bool.not_eq_true, m.declares_iff]
    rintro ⟨d, hd, -⟩
    exact undeclared ⟨d, hd⟩
  simp [plain]

theorem Module.interfaces_eq_nil_iff : (m.convertParts config).interfaces config = [] ↔
    (¬∃ d, m.Declares d)
      ∧ (∀ p ∈ m.plans config, p.component ∉ annotatedNames (m.outcomes config))
      ∧ (config.level = .advanced → (m.annotated config).hookInterfaces = []) := by
  have free : (m.convertParts config).props = [] →
      (m.convertParts config).freeHooks = (m.annotated config).hookInterfaces := by
    intro h
    rw [ConvertedParts.freeHooks, h]
    exact List.filter_true _
  rw [← and_assoc, ← m.props_eq_nil_iff config, m.interfaces_eq_append]
  split
  · rename_i advanced
    rw [List.append_eq_nil_iff]
    exact and_congr_right fun h => by simp [free h, advanced]
  · rename_i other
    simp [other]

end

/-- A text that is converted is read as a module whose directives still lead the program that the code is
made from. What the typed module begins with before this code is empty just if the program imports from
`react`, declares no props, no component was annotated and, at the advanced level, no hook tells of an
interface. Otherwise it begins with an import or an interface. -/
theorem prologue_kept_iff_no_heading (t : Toolchain) (source : List Char) (config : Config)
    (converts : (t.convert source config).OnlyWarns) : ∃ m body, t.Reads source m
      ∧ t.print (m.annotated config) (m.placedComments config) = .ok body
      ∧ m.tree.prologue <+: (m.annotated config).prologue
      ∧ ∃ before, (t.convert source config).code = String.ofList (before ++ body)
        ∧ (before = [] ↔ (∃ s ∈ m.tree.statements, s.importSource? = some "react")
          ∧ (¬∃ d, m.Declares d)
          ∧ (∀ p ∈ m.plans config, p.component ∉ annotatedNames (m.outcomes config))
          ∧ (config.level = .advanced → (m.annotated config).hookInterfaces = []))
        ∧ (before ≠ [] → "import ".toList <+: before ∨ "interface ".toList <+: before) := by
  -- a conversion that only warns has a text, so neither the reader nor the printer failed
  have fails : ∀ failure, t.convert source config ≠ .failed failure source := by
    intro failure h
    have errors := converts.hasErrors
    rw [h, (ConversionResult.isFailure_failed failure source).hasErrors] at errors
    cases errors
  rcases t.convert_cases source with ⟨failure, failed⟩ | ⟨m, reads, finished⟩
  · exact absurd (failed config) (fails failure)
  cases hp : t.print (m.annotated config) (m.placedComments config) with
  | error payload =>
    refine absurd ?_ (fails (.serialization payload.message))
    rw [finished, Toolchain.finish, hp]
  | ok body =>
    refine ⟨m, body, reads, hp, m.prologue_annotated config,
      heading m.extraction.hasReactImport ((m.convertParts config).interfaces config), ?_, ?_,
      prefix_heading⟩
    · rw [finished, Toolchain.finish, hp, ← assemble_eq_heading_append]
      rfl
    · rw [heading_eq_nil_iff, m.hasReactImport_iff, m.interfaces_eq_nil_iff config]

/-- A module for the client that imports the framework. -/
def clientSource : List Char :=
  "'use client';\nimport React from 'react';\nexport const x = 1;\n".toList

/-- A program that imports the framework and has no components keeps its directive in front. -/
theorem client_directive_kept : ∃ m, Module.parse clientSource = .ok m
    ∧ m.tree.prologue = ["use client"]
    ∧ ["use client"] <+: (m.annotated {}).prologue
    ∧ (Toolchain.standard.convert clientSource {}).code
      = String.ofList ((m.annotated {}).print (m.placedComments {})) := by
  have run : ∃ m, Module.parse clientSource = .ok m ∧ m.tree.prologue = ["use client"]
      ∧ (∃ s ∈ m.tree.statements, s.importSource? = some "react")
      ∧ m.extraction.declarations = [] ∧ m.plans {} = [] := by decide +kernel
  have converts : (convert clientSource {}).diagnostics = [] := by decide +kernel
  obtain ⟨m, hm, prologue, imports, undeclared, unplanned⟩ := run
  have warns : (Toolchain.standard.convert clientSource {}).OnlyWarns := by
    rw [Toolchain.convert_standard]
    intro d hd
    rw [converts] at hd
    cases hd
  obtain ⟨m', body, reads, printed, kept, before, code, nothing, -⟩ :=
    prologue_kept_iff_no_heading Toolchain.standard clientSource {} warns
  rw [Toolchain.reads_standard_iff, hm] at reads
  obtain rfl := Except.ok.inj reads
  have none : ¬∃ d, m.Declares d := by
    rintro ⟨d, hd⟩
    rw [← Module.mem_extraction, undeclared] at hd
    cases hd
  obtain rfl : before = [] := nothing.mpr ⟨imports, none, by simp [unplanned], by simp⟩
  refine ⟨m, hm, prologue, prologue ▸ kept, ?_⟩
  rw [code, ← Except.ok.inj printed]
  rfl

/-- In the text that this library prints, the directives of the source come first where nothing stands before
the code: what is in front of them are comments, and the line that says how the program is run. -/
theorem code_begins_of_no_heading {source : List Char} {config : Config} {m : Module}
    (parsed : Module.parse source = .ok m)
    (none : heading m.extraction.hasReactImport ((m.convertParts config).interfaces config) = []) :
    ∃ aside text, (convert source config).code = String.ofList (aside ++ (m.tree.runLine ++ text))
      ∧ Printing.IsAside (m.placedComments config) aside
      ∧ BeginsWith (m.placedComments config) m.tree.prologue text := by
  obtain ⟨aside, text, printed, isAside, begins⟩ :=
    (m.annotated config).print_begins (m.placedComments config)
  refine ⟨aside, text, ?_, isAside, begins.of_isPrefix (m.prologue_annotated config)⟩
  rw [convert, parsed, ← m.runLine_annotated config, ← printed]
  dsimp only
  rw [assemble_eq_heading_append]
  exact congrArg String.ofList (congrArg (· ++ _) none)

/-- A module for the client that does not import the framework. -/
def bareClientSource : List Char := "'use client';\nexport const x = 1;\n".toList

/-- The import that is put in front of the directive makes it a statement like any other. -/
theorem client_directive_demoted : ∃ m, Module.parse bareClientSource = .ok m
    ∧ m.tree.prologue = ["use client"]
    ∧ (convert bareClientSource {}).hasErrors = false
    ∧ (convert bareClientSource {}).code ≠ String.ofList (m.convertParts {}).body
    ∧ ∃ m', Module.parse (convert bareClientSource {}).code.toList = .ok m' ∧ m'.tree.prologue = [] := by
  decide +kernel

end TypedJsx
