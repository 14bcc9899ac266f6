import TypedJsx.Proofs.Component
import TypedJsx.Proofs.Tree
import TypedJsx.PropTypes
/-!
The declarations that are taken out of a program. They are the matched statements of all its statement
lists, however deep these are nested (`PropContext.mem_declarations`), in the order of their text. So the
declaration that counts for a component is the one that starts last (`Module.declarationFor?_isLast`).
-/
namespace TypedJsx

/-- A declaration is that of a statement in some statement list of a tree. -/
def PropContext.Matches (ctx : PropContext) (tree : Node) (d : PropDeclaration) : Prop :=
  ∃ list ∈ tree.nodes, list.kind.isStatementList = true
    ∧ ∃ statement ∈ list.children, ctx.declaration? statement = some d

/-- A declaration of a module, besides the statements that load validators. -/
def Module.Declares (m : Module) (d : PropDeclaration) : Prop :=
  m.propContext.Matches m.tree.withoutBindings d

theorem PropContext.declarationsInList_eq_flatMap (ctx : PropContext) (cs : List Node) :
    ctx.declarationsInList cs = cs.flatMap ctx.declarations := by
  induction cs with
  | nil => rfl
  | cons c cs ih => simp [PropContext.declarationsInList, ih]

theorem withoutDeclarationsList_eq_map (cs : List Node) :
    withoutDeclarationsList cs = cs.map Node.withoutDeclarations := by
  induction cs with
  | nil => rfl
  | cons c cs ih => simp [withoutDeclarationsList, ih]

theorem PropContext.mem_declarations (ctx : PropContext) (tree : Node) (d : PropDeclaration) :
    d ∈ ctx.declarations tree ↔ ctx.Matches tree d := by
  induction tree using Node.induction with
  | step k s cs ih =>
    have inner : (∃ c ∈ cs, d ∈ ctx.declarations c) ↔ ∃ c ∈ cs, ctx.Matches c d :=
      exists_congr fun c => and_congr_right fun hc => ih c hc
    rw [PropContext.declarations, PropContext.declarationsInList_eq_flatMap, List.mem_append,
      List.mem_flatMap, inner]
    constructor
    · rintro (⟨c, hc, list, hl, h⟩ | h)
      · exact ⟨list, by simpa using .inr ⟨c, hc, hl⟩, h⟩
      · split at h
        · rename_i hk
          exact ⟨.mk k s cs, by simp, hk, List.mem_filterMap.mp h⟩
        · cases h
    · rintro ⟨list, hl, hk, h⟩
      rw [Node.nodes_mk, List.mem_cons, List.mem_flatMap] at hl
      rcases hl with rfl | ⟨c, hc, hl⟩
      · rw [Node.kind_mk] at hk
        rw [if_pos hk]
        exact .inr (List.mem_filterMap.mpr h)
      · exact .inl ⟨c, hc, list, hl, hk, h⟩

/-! ## The declaration that counts -/

theorem Module.mem_extraction (m : Module) (d : PropDeclaration) :
    d ∈ m.extraction.declarations ↔ m.Declares d := by
  rw [Module.extraction, List.mem_mergeSort]
  exact m.propContext.mem_declarations _ d

theorem Module.pairwise_extraction (m : Module) :
    m.extraction.declarations.Pairwise fun a b => a.span.start ≤ b.span.start := by
  have transitive : ∀ a b c : PropDeclaration, decide (a.span.start ≤ b.span.start) = true →
      decide (b.span.start ≤ c.span.start) = true → decide (a.span.start ≤ c.span.start) = true := by
    intro a b c hab hbc
    exact decide_eq_true (Nat.le_trans (of_decide_eq_true hab) (of_decide_eq_true hbc))
  have total : ∀ a b : PropDeclaration,
      (decide (a.span.start ≤ b.span.start) || decide (b.span.start ≤ a.span.start)) = true := by
    intro a b
    simpa using Nat.le_total _ _
  exact (List.pairwise_mergeSort transitive total _).imp fun h => of_decide_eq_true h

/-- The declaration that counts for a component is one of the module, and none of the component starts
after it. -/
theorem Module.declarationFor?_isLast {m : Module} {name : String} {d : PropDeclaration}
    (h : m.extraction.declarationFor? name = some d) :
    m.Declares d ∧ d.component = name
      ∧ ∀ d', m.Declares d' → d'.component = name → d'.span.start ≤ d.span.start := by
  refine ⟨?_, by simpa using List.find?_some h, fun d' hd' hn => ?_⟩
  · rw [← Module.mem_extraction]
    exact List.mem_reverse.mp (List.mem_of_find?_eq_some h)
  · have mem : d' ∈ m.extraction.declarations := (m.mem_extraction d').mpr hd'
    have descending := List.pairwise_reverse.mpr m.pairwise_extraction
    exact find?_isFirst descending (fun _ => Nat.le_refl _) h d' (List.mem_reverse.mpr mem) (by simpa using hn)

theorem Module.declares_iff (m : Module) (name : String) :
    m.extraction.declares name = true ↔ ∃ d, m.Declares d ∧ d.component = name := by
  simp [Extraction.declares, Extraction.declarationFor?, Module.mem_extraction]

theorem Extraction.nodup_components (e : Extraction) : e.components.Nodup := by
  have h := nodup_firstPerKey id (e.declarations.map PropDeclaration.component)
  rwa [List.map_id] at h

theorem Extraction.mem_components {e : Extraction} {name : String} :
    name ∈ e.components ↔ ∃ d ∈ e.declarations, d.component = name := by
  constructor
  · intro h
    exact List.mem_map.mp (mem_of_mem_firstPerKey id h)
  · rintro ⟨d, hd, rfl⟩
    obtain ⟨name, h, e⟩ := exists_mem_firstPerKey id (List.mem_map.mpr ⟨d, hd, rfl⟩)
    exact (show name = d.component from e) ▸ h

theorem Extraction.map_component_declarationFor? (e : Extraction) :
    (e.components.filterMap e.declarationFor?).map PropDeclaration.component = e.components := by
  have each : ∀ name ∈ e.components, ∃ d, e.declarationFor? name = some d ∧ d.component = name := by
    intro name h
    obtain ⟨d, hd, rfl⟩ := Extraction.mem_components.mp h
    have : (e.declarationFor? d.component).isSome := by
      simpa [Extraction.declarationFor?] using ⟨d, hd, rfl⟩
    obtain ⟨d', hd'⟩ := Option.isSome_iff_exists.mp this
    exact ⟨d', hd', by simpa using List.find?_some hd'⟩
  generalize e.components = names at each
  induction names with
  | nil => rfl
  | cons name names ih =>
    rw [List.forall_mem_cons] at each
    obtain ⟨⟨d, hd, rfl⟩, rest⟩ := each
    rw [List.filterMap_cons_some hd, List.map_cons, ih rest]

end TypedJsx
