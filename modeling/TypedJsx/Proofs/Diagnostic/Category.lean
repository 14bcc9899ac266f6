import TypedJsx.Proofs.Diagnostic.Location
import TypedJsx.Proofs.Signature.Failure
/-!
Categories of failures. A category is told by words that occur in a message. A word does not reach across
characters that it does not hold (`isInfix_append_iff_of_apart`), so the words of a message are the words of its
pieces between such characters. A location is no word (`Category.allOf_located`), and neither is what the
message of a failed plan says around the name of the component.

Main statement: the diagnostics of two components that cannot be annotated for the same reason, at the same
place, differ in their messages only just if the names of the components have words of the same categories.
-/
namespace TypedJsx

/-! ## Words in a text -/

theorem occursIn_iff_isInfix {word text : List Char} : occursIn word text = true ↔ word <:+: text := by
  induction text with
  | nil => rw [occursIn, List.isEmpty_iff, List.infix_nil]
  | cons c text ih =>
    rw [occursIn, Bool.or_eq_true, ih, List.isPrefixOf_iff_prefix, List.infix_cons_iff]

/-- A word does not reach across characters that it does not hold. -/
theorem isInfix_append_iff_of_apart {word between : List Char} (some : between ≠ [])
    (apart : ∀ c ∈ between, c ∉ word) (before behind : List Char) :
    word <:+: before ++ (between ++ behind) ↔ word <:+: before ∨ word <:+: behind := by
  constructor
  · intro h
    -- a word that reaches across has a character of the middle, and it has none of them
    rcases List.infix_append_iff.mp h with h | h | ⟨first, last, rfl, ends, begins⟩
    · exact .inl h
    · rcases List.infix_append_iff.mp h with h | h | ⟨first, last, rfl, ends, begins⟩
      · cases word with
        | nil => exact .inl List.nil_infix
        | cons c word => exact absurd List.mem_cons_self (apart c (h.subset List.mem_cons_self))
      · exact .inr h
      · cases first with
        | nil => exact .inr begins.isInfix
        | cons c first => exact absurd List.mem_cons_self (apart c (ends.subset List.mem_cons_self))
    · cases last with
      | nil =>
        rw [List.append_nil]
        exact .inl ends.isInfix
      | cons c last =>
        cases between with
        | nil => exact absurd rfl some
        | cons d between =>
          obtain ⟨rfl, -⟩ := List.cons_prefix_cons.mp begins
          exact absurd (List.mem_append_right _ List.mem_cons_self) (apart c List.mem_cons_self)
  · rintro (h | h)
    · exact h.trans (List.prefix_append _ _).isInfix
    · exact h.trans ((List.suffix_append _ _).trans (List.suffix_append _ _)).isInfix

namespace Category

/-! ## Categories -/

/-- The words of all categories. -/
def words : List String := keywords.flatMap (·.2)

theorem allOf_congr {a b : List Char} (same : ∀ w ∈ words, w.toList <:+: a ↔ w.toList <:+: b) :
    allOf a = allOf b := by
  refine congrArg (List.map _) (List.filter_congr fun k hk => ?_)
  rw [Bool.eq_iff_iff, List.any_eq_true, List.any_eq_true]
  refine exists_congr fun w => and_congr_right fun hw => ?_
  rw [occursIn_iff_isInfix, occursIn_iff_isInfix]
  exact same w (List.mem_flatMap.mpr ⟨k, hk, hw⟩)

theorem allOf_eq_nil_iff {a : List Char} : allOf a = [] ↔ ∀ w ∈ words, ¬w.toList <:+: a := by
  rw [allOf, List.map_eq_nil_iff, List.filter_eq_nil_iff]
  simp only [List.any_eq_true, not_exists, not_and, occursIn_iff_isInfix, words, List.mem_flatMap]
  exact ⟨fun none w ⟨k, hk, hw⟩ => none k hk w hw, fun none k hk w hw => none w ⟨k, hk, hw⟩⟩

/-- Characters that no word holds. -/
structure Separates (between : List Char) : Prop where
  ne_nil : between ≠ []
  apart : ∀ c ∈ between, ∀ w ∈ words, c ∉ w.toList

theorem separates_singleton {c : Char} (apart : ∀ w ∈ words, c ∉ w.toList) : Separates [c] where
  ne_nil := List.cons_ne_nil c []
  apart d hd := by
    rw [List.mem_singleton.mp hd]
    exact apart

theorem Separates.infix_append_iff {between : List Char} (h : Separates between) {w : String}
    (hw : w ∈ words) (before behind : List Char) : w.toList <:+: before ++ (between ++ behind) ↔
      w.toList <:+: before ∨ w.toList <:+: behind :=
  isInfix_append_iff_of_apart h.ne_nil (fun c hc => h.apart c hc w hw) before behind

theorem Separates.allOf_append_left {between behind : List Char} (h : Separates between)
    (none : allOf behind = []) (before : List Char) : allOf (before ++ (between ++ behind)) = allOf before :=
  allOf_congr fun _ hw => by rw [h.infix_append_iff hw, or_iff_left (allOf_eq_nil_iff.mp none _ hw)]

theorem Separates.allOf_append_right {between before : List Char} (h : Separates between)
    (none : allOf before = []) (behind : List Char) : allOf (before ++ (between ++ behind)) = allOf behind :=
  allOf_congr fun _ hw => by rw [h.infix_append_iff hw, or_iff_right (allOf_eq_nil_iff.mp none _ hw)]

/-! ## Locations -/

theorem separates_written (n : Nat) : Separates (Location.written n) where
  ne_nil := (Location.isDigits_written n).ne_nil
  apart c hc w hw mem := by
    have letters : ∀ w ∈ words, w.toList.any isAsciiDigit = false := by decide
    have digit : w.toList.any isAsciiDigit = true :=
      List.any_eq_true.mpr ⟨c, mem, Location.isAsciiDigit_of_mem_written hc⟩
    rw [letters w hw] at digit
    cases digit

theorem separates_parenthesis : Separates ['('] := separates_singleton (by decide)

theorem allOf_form_tail (line column : Nat) :
    allOf ("line ".toList ++ (Location.written line ++ (", column ".toList
      ++ (Location.written column ++ [')'])))) = [] := by
  have closed : allOf [')'] = [] := by decide
  have inner : allOf ", column ".toList = [] := by decide
  rw [(separates_written line).allOf_append_right (by decide),
    (separates_written column).allOf_append_right inner, closed]

theorem allOf_concat_blank (text : List Char) : allOf (text ++ [' ']) = allOf text := by
  have inner : ∀ w ∈ words, w.toList ≠ [] ∧ w.toList.getLast? ≠ some ' ' := by decide
  refine allOf_congr fun w hw => ?_
  rw [List.infix_concat_iff, or_iff_right]
  rw [List.suffix_concat_iff]
  rintro (none | ⟨text, ends, -⟩)
  · exact (inner w hw).1 none
  · refine (inner w hw).2 ?_
    rw [ends, List.getLast?_concat]

/-- The location behind a message does not count. -/
theorem allOf_located (message : String) (p : Position) :
    allOf (Failure.located message p).toList = allOf message.toList := by
  have split : (Failure.located message p).toList = (message.toList ++ [' ']) ++ (['('] ++ ("line ".toList
      ++ (Location.written p.line ++ (", column ".toList ++ (Location.written p.column ++ [')']))))) :=
    Location.toList_located message p
  -- a word may hold a blank, so the one before the parenthesis is dropped and not split at
  rw [split, separates_parenthesis.allOf_append_left (allOf_form_tail _ _), allOf_concat_blank]

/-! ## What is said of a failure -/

theorem ofMessage_congr {a b : List Char} (same : allOf a = allOf b) : ofMessage a = ofMessage b := by
  rw [ofMessage, ofMessage, same]

theorem suggestionsFor_congr {a b : List Char} (same : allOf a = allOf b) :
    suggestionsFor a = suggestionsFor b := by
  rw [suggestionsFor, suggestionsFor, same]

theorem flatMap_suggestions_injective : Function.Injective fun cs : List Category => cs.flatMap suggestions := by
  have two : ∀ c : Category, c.suggestions.length = 2 := fun c => by cases c <;> rfl
  have length : ∀ cs : List Category, (cs.flatMap suggestions).length = cs.length * 2 := fun cs => by
    simp [List.length_flatMap, two]
  have injective : ∀ c d : Category, c.suggestions = d.suggestions → c = d := fun c d => by
    cases c <;> cases d <;> decide
  intro cs ds same
  have lengths : cs.length * 2 = ds.length * 2 :=
    (length cs).symm.trans ((congrArg List.length same).trans (length ds))
  -- equally many suggestions come from equally many categories, so both lists end together
  induction cs generalizing ds with
  | nil =>
    rw [List.length_nil] at lengths
    exact (List.length_eq_zero_iff.mp (by omega)).symm
  | cons c cs ih =>
    cases ds with
    | nil =>
      rw [List.length_cons, List.length_nil] at lengths
      omega
    | cons d ds =>
      rw [List.length_cons, List.length_cons] at lengths
      obtain ⟨first, rest⟩ := List.append_inj same ((two c).trans (two d).symm)
      rw [injective c d first, ih rest (by omega)]

theorem suggestionsFor_eq (a : List Char) :
    suggestionsFor a = (if allOf a = [] then [conversion] else allOf a).flatMap suggestions := by
  unfold suggestionsFor
  split
  · rename_i none
    rw [none]
    rfl
  · rename_i some
    rw [if_neg some]

theorem conversion_not_mem_allOf (a : List Char) : conversion ∉ allOf a := by
  have told : ∀ k ∈ keywords, k.1 ≠ conversion := by decide
  intro mem
  obtain ⟨k, hk, same⟩ := List.mem_map.mp mem
  exact told k (List.mem_of_mem_filter hk) same

theorem suggestionsFor_eq_iff {a b : List Char} :
    suggestionsFor a = suggestionsFor b ↔ allOf a = allOf b := by
  refine ⟨fun same => ?_, suggestionsFor_congr⟩
  have other : ∀ {t : List Char}, [conversion] ≠ allOf t := fun {t} e =>
    conversion_not_mem_allOf t (e ▸ List.mem_singleton_self _)
  rw [suggestionsFor_eq, suggestionsFor_eq] at same
  have found := flatMap_suggestions_injective same
  split_ifs at found with none none'
  · rw [none, none']
  · exact absurd found other
  · exact absurd found.symm other
  · exact found

/-! ## Components that cannot be annotated -/

theorem separates_quote : Separates ['`'] := separates_singleton (by decide)

/-- What is said of a component that cannot be annotated has the words of its name only. -/
theorem allOf_annotation {reason : String} (known : reason ∈ failureReasons) (component : String) :
    allOf ("Cannot annotate component `" ++ component ++ "`: " ++ reason).toList
      = allOf component.toList := by
  have silent : ∀ r ∈ failureReasons, allOf (": ".toList ++ r.toList) = [] := by decide
  have opening : allOf "Cannot annotate component ".toList = [] := by decide
  have first : "Cannot annotate component `".toList = "Cannot annotate component ".toList ++ ['`'] := by decide
  have second : "`: ".toList = ['`'] ++ ": ".toList := by decide
  have split : ("Cannot annotate component `" ++ component ++ "`: " ++ reason).toList
      = "Cannot annotate component ".toList ++ (['`'] ++ (component.toList ++ (['`']
        ++ (": ".toList ++ reason.toList)))) := by
    simp only [String.toList_append, first, second, List.append_assoc]
  rw [split, separates_quote.allOf_append_right opening,
    separates_quote.allOf_append_left (silent reason known)]

end Category

/-- Diagnostics that differ in their messages at most. -/
def Diagnostic.Alike (d e : Diagnostic) : Prop := { d with message := e.message } = e

/-- The diagnostic of a component that could not be annotated. -/
def Outcome.diagnostic? (source : List Char) (o : Outcome) : Option Diagnostic :=
  (o.failure? source).map (Diagnostic.reportContained · source)

theorem Outcome.diagnostic?_eq {plans : List Plan} {tree : Node} {o : Outcome} {reason : String}
    (mem : o ∈ tree.outcomes plans) (failed : o.failure = some reason) (source : List Char) :
    ∃ message, o.diagnostic? source = some
      { message := message
        line := (Position.ofOffset source o.plan.span.start).line
        column := (Position.ofOffset source o.plan.span.start).column
        severity := .warning
        code := (Category.ofMessage o.plan.component.toList).code
        snippet := Diagnostic.snippetOf source (Position.ofOffset source o.plan.span.start).line
        suggestions := Category.suggestionsFor o.plan.component.toList } := by
  have known := Outcome.reason_mem mem failed
  let message := Failure.located ("Cannot annotate component `" ++ o.plan.component ++ "`: " ++ reason)
    (Position.ofOffset source o.plan.span.start)
  have same : Category.allOf message.toList = Category.allOf o.plan.component.toList := by
    rw [Category.allOf_located, Category.allOf_annotation known]
  rw [← Category.ofMessage_congr same, ← Category.suggestionsFor_congr same]
  refine ⟨message, ?_⟩
  rw [Outcome.diagnostic?, Outcome.failure?, failed]
  rfl

theorem Outcome.code_of_diagnostic? {plans : List Plan} {tree : Node} {o : Outcome} {reason : String}
    (mem : o ∈ tree.outcomes plans) (failed : o.failure = some reason) {source : List Char} {d : Diagnostic}
    (said : o.diagnostic? source = some d) : d.code = (Category.ofMessage o.plan.component.toList).code := by
  obtain ⟨message, placed⟩ := Outcome.diagnostic?_eq mem failed source
  cases said.symm.trans placed
  rfl

/-- Two components that cannot be annotated for the same reason, at the same place of the same source, have
diagnostics with the same line, column, severity and snippet, whatever they are called. Code and suggestions
are the same, so that the diagnostics differ in their messages only, just if the names of the components have
words of the same categories. -/
theorem failures_alike_iff {plans plans' : List Plan} {tree tree' : Node} {o o' : Outcome} {reason : String}
    (mem : o ∈ tree.outcomes plans) (mem' : o' ∈ tree'.outcomes plans') (failed : o.failure = some reason)
    (failed' : o'.failure = some reason) (span : o.plan.span = o'.plan.span) (source : List Char) :
    ∃ d d', o.diagnostic? source = some d ∧ o'.diagnostic? source = some d'
      ∧ d.line = d'.line ∧ d.column = d'.column ∧ d.severity = d'.severity ∧ d.snippet = d'.snippet
      ∧ (d.Alike d'
        ↔ Category.allOf o.plan.component.toList = Category.allOf o'.plan.component.toList) := by
  obtain ⟨message, said⟩ := Outcome.diagnostic?_eq mem failed source
  obtain ⟨message', said'⟩ := Outcome.diagnostic?_eq mem' failed' source
  refine ⟨_, _, said, said', by rw [span], by rw [span], rfl, by rw [span], ?_⟩
  rw [Diagnostic.Alike, span, ← Category.suggestionsFor_eq_iff]
  constructor
  · exact congrArg Diagnostic.suggestions
  · intro same
    rw [same, Category.ofMessage_congr (Category.suggestionsFor_eq_iff.mp same)]

/-- A component that takes its props as a rest, and has a word of a category in its name. -/
def boxComponent : List Char := "function JSXBox(...rest) \x7b return <b/>; \x7d".toList

/-- The same failure at the same place is one of markup, or is not, by what the component is called. -/
theorem box_blamed_for_name : ∃ m, Module.parse boxComponent = .ok m
    ∧ ∃ o ∈ m.outcomes {}, o.plan.component = "JSXBox" ∧ o.failure = some restReason
      ∧ ∃ o' ∈ m.tree.withoutProps.outcomes ((m.plans {}).map fun p => { p with component := "Box" }),
        o'.plan.component = "Box" ∧ o'.failure = some restReason ∧ o.plan.span = o'.plan.span
          ∧ ∃ d d', o.diagnostic? m.source = some d ∧ o'.diagnostic? m.source = some d'
            ∧ d.code = "JSX_ERROR" ∧ d'.code = "CONVERSION_ERROR" ∧ ¬d.Alike d' := by
  have run : ∃ m, Module.parse boxComponent = .ok m
      ∧ ∃ o ∈ m.outcomes {}, o.plan.component = "JSXBox" ∧ o.failure = some restReason
        ∧ ∃ o' ∈ m.tree.withoutProps.outcomes ((m.plans {}).map fun p => { p with component := "Box" }),
          o'.plan.component = "Box" ∧ o'.failure = some restReason ∧ o.plan.span = o'.plan.span := by
    decide +kernel
  obtain ⟨m, parsed, o, mem, name, failed, o', mem', name', failed', span⟩ := run
  obtain ⟨d, d', said, said', -, -, -, -, alike⟩ :=
    failures_alike_iff mem mem' failed failed' span m.source
  have code := Outcome.code_of_diagnostic? mem failed said
  have code' := Outcome.code_of_diagnostic? mem' failed' said'
  rw [name, name'] at alike
  rw [name] at code
  rw [name'] at code'
  have markup : (Category.ofMessage "JSXBox".toList).code = "JSX_ERROR" := by decide
  have none : (Category.ofMessage "Box".toList).code = "CONVERSION_ERROR" := by decide
  have other : Category.allOf "JSXBox".toList ≠ Category.allOf "Box".toList := by decide
  exact ⟨m, parsed, o, mem, name, failed, o', mem', name', failed', span, d, d', said, said',
    code.trans markup, code'.trans none, fun same => other (alike.mp same)⟩

end TypedJsx
