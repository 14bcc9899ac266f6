import TypedJsx.Batch
import TypedJsx.Proofs.Conversion.Accounting
/-!
Batches of files. However the reader and the printer of a toolchain end, a conversion has one of two
outcomes: it failed, with one error and no code, or it has code and at most warnings to say
(`Toolchain.convert_fails_or_warns`). A batch adds the outcome of one file after the other to three lists,
and what a file adds does not depend on what is there (`Toolchain.addTo_eq_append`). Its typed name is its
stem with a new ending (`tsxFileName_eq`).

Main statement: a batch of two lists of files is the batch of the first and then that of the second; every
file has one entry, in order, among the errors or among the converted files, made from its own conversion.
-/
namespace TypedJsx

/-! ## Names of typed files -/

theorem withoutEnding?_eq_some_iff {ending name stem : List Char} :
    withoutEnding? ending name = some stem ↔ name = stem ++ ending := by
  unfold withoutEnding?
  rw [Option.ite_none_right_eq_some, List.isSuffixOf_iff_suffix]
  constructor
  · rintro ⟨⟨before, rfl⟩, cut⟩
    simpa using cut
  · rintro rfl
    exact ⟨List.suffix_append _ _, by simp⟩

theorem isSome_withoutEnding? (ending name : List Char) :
    (withoutEnding? ending name).isSome = ending.isSuffixOf name := by
  unfold withoutEnding?
  split <;> simp_all only [Option.isSome_some, Option.isSome_none, Bool.not_eq_true]

/-- A name without its last `.tsx`, `.jsx` or `.js`, if it ends with one of them. -/
def fileStem (name : List Char) : List Char :=
  ([".tsx".toList, ".jsx".toList, ".js".toList].findSome? fun ending => withoutEnding? ending name).getD name

theorem tsxFileName_eq (name : List Char) : tsxFileName name = fileStem name ++ ".tsx".toList := by
  unfold tsxFileName fileStem
  rw [← isSome_withoutEnding?, List.findSome?_cons, List.findSome?_cons, List.findSome?_cons,
    List.findSome?_nil]
  cases typed : withoutEnding? ".tsx".toList name with
  | some stem => exact withoutEnding?_eq_some_iff.mp typed
  | none =>
    cases withoutEnding? ".jsx".toList name with
    | some stem => rfl
    | none => cases withoutEnding? ".js".toList name <;> rfl

theorem exists_ending (name : List Char) :
    ∃ ending ∈ [".tsx".toList, ".jsx".toList, ".js".toList, []], name = fileStem name ++ ending := by
  unfold fileStem
  cases found : [".tsx".toList, ".jsx".toList, ".js".toList].findSome? (withoutEnding? · name) with
  | none => exact ⟨[], by simp, by simp⟩
  | some stem =>
    obtain ⟨ending, mem, cut⟩ := List.exists_of_findSome?_eq_some found
    exact ⟨ending, List.mem_append_left [[]] mem, withoutEnding?_eq_some_iff.mp cut⟩

/-! ## Outcomes of a conversion -/

theorem exists_of_bind_eq_ok {ε α β : Type} {x : Except ε α} {f : α → Except ε β} {b : β}
    (h : (x >>= f) = .ok b) : ∃ a, x = .ok a ∧ f a = .ok b := by
  cases x with
  | error e => cases h
  | ok a => exact ⟨a, rfl, h⟩

namespace ConversionResult

/-- A conversion that failed: it has no code, and one error to report. -/
def IsFailure (r : ConversionResult) : Prop := ∃ d : Diagnostic, r = ⟨"", [d]⟩ ∧ d.severity = .error

/-- A conversion with nothing to report but warnings. -/
def OnlyWarns (r : ConversionResult) : Prop := ∀ d ∈ r.diagnostics, d.severity = .warning

theorem isFailure_failed (failure : Failure) (source : List Char) : (failed failure source).IsFailure :=
  ⟨Diagnostic.report failure source, rfl, rfl⟩

theorem IsFailure.hasErrors {r : ConversionResult} (h : r.IsFailure) : r.hasErrors = true := by
  obtain ⟨d, rfl, hd⟩ := h
  simp [ConversionResult.hasErrors, Diagnostic.isError, hd]

theorem OnlyWarns.hasErrors {r : ConversionResult} (h : r.OnlyWarns) : r.hasErrors = false := by
  rw [ConversionResult.hasErrors, List.any_eq_false]
  intro d hd
  simp [Diagnostic.isError, h d hd]

end ConversionResult

namespace Toolchain

variable (t : Toolchain) (config : Config)

theorem onlyWarns_of_convertModule {m : Module} {r : ConversionResult}
    (h : t.convertModule m config = .ok r) : r.OnlyWarns := by
  obtain ⟨body, -, hr⟩ := exists_of_bind_eq_ok h
  obtain rfl := Except.ok.inj hr
  intro d hd
  exact Module.severity_of_mem_diagnostics hd

/-- A conversion fails or warns, wherever it ended: in the reader, in its faults, in the printer, or not
before the end. -/
theorem convert_fails_or_warns (source : List Char) :
    (t.convert source config).IsFailure ∨ (t.convert source config).OnlyWarns := by
  unfold convert
  cases hs : t.convertSource source config with
  | error payload => exact .inl (ConversionResult.isFailure_failed _ _)
  | ok result =>
    cases result with
    | error failure => exact .inl (ConversionResult.isFailure_failed _ _)
    | ok r =>
      -- the conversion came to its end, so the reader handed over a module
      obtain ⟨reading, -, hr⟩ := exists_of_bind_eq_ok hs
      obtain ⟨m, -, converted⟩ := exists_of_bind_eq_ok (Except.ok.inj hr)
      exact .inr (t.onlyWarns_of_convertModule config converted)

end Toolchain

/-! ## Results one after the other -/

namespace BatchResult

@[simp] theorem append_empty (r : BatchResult) : r.append {} = r := by
  simp [BatchResult.append]

theorem append_assoc (a b c : BatchResult) : (a.append b).append c = a.append (b.append c) := by
  simp [BatchResult.append, List.append_assoc]

end BatchResult

namespace Toolchain

variable (t : Toolchain) (config : Config)

theorem addTo_eq_append (r : BatchResult) (f : SourceFile) :
    t.addTo config r f = r.append (t.addTo config {} f) := by
  unfold addTo
  dsimp only
  split
  · simp [BatchResult.append]
  · split <;> simp [BatchResult.append]

/-- What a list of files adds to results does not depend on them. -/
theorem foldl_addTo_eq_append (r : BatchResult) (files : List SourceFile) :
    files.foldl (t.addTo config) r = r.append (t.convertBatch config files) := by
  induction files generalizing r with
  | nil => exact r.append_empty.symm
  | cons f files ih =>
    calc (f :: files).foldl (t.addTo config) r
        = (t.addTo config r f).append (t.convertBatch config files) := ih _
      _ = (r.append (t.addTo config {} f)).append (t.convertBatch config files) := by
        rw [t.addTo_eq_append config r f]
      _ = r.append ((t.addTo config {} f).append (t.convertBatch config files)) :=
        BatchResult.append_assoc _ _ _
      _ = r.append (t.convertBatch config (f :: files)) := by rw [← ih]; rfl

theorem convertBatch_append (xs ys : List SourceFile) :
    t.convertBatch config (xs ++ ys)
      = (t.convertBatch config xs).append (t.convertBatch config ys) := by
  rw [convertBatch, List.foldl_append]
  exact t.foldl_addTo_eq_append config _ ys

theorem convertBatch_cons (f : SourceFile) (files : List SourceFile) :
    t.convertBatch config (f :: files)
      = (t.addTo config {} f).append (t.convertBatch config files) :=
  t.foldl_addTo_eq_append config _ files

/-! ## The entry of a file -/

/-- The typed file that a source becomes. -/
def typedFile (f : SourceFile) : SourceFile :=
  ⟨String.ofList (tsxFileName f.name.toList), (t.convert f.content.toList config).code⟩

/-- What is reported about a source. -/
def report (f : SourceFile) : FileDiagnostics := ⟨f.name, (t.convert f.content.toList config).diagnostics⟩

/-- The entry of a file in a batch: under its own name with one error if its conversion failed, else the
typed file. -/
inductive Yields (f : SourceFile) : FileDiagnostics ⊕ SourceFile → Prop where
  | failed (d : Diagnostic) (result : t.convert f.content.toList config = ⟨"", [d]⟩)
      (isError : d.severity = .error) : Yields f (.inl ⟨f.name, [d]⟩)
  | converted (onlyWarns : (t.convert f.content.toList config).OnlyWarns) :
      Yields f (.inr (t.typedFile config f))

/-- A file adds its entry to the errors or to the converted files, and what it has to say besides to the
warnings. -/
theorem exists_yields_addTo (f : SourceFile) : ∃ entry, t.Yields config f entry
    ∧ (t.addTo config {} f).errors = entry.getLeft?.toList
    ∧ (t.addTo config {} f).converted = entry.getRight?.toList
    ∧ ∀ w, w ∈ (t.addTo config {} f).warnings ↔ (t.convert f.content.toList config).OnlyWarns
      ∧ (t.convert f.content.toList config).diagnostics ≠ [] ∧ w = t.report config f := by
  rcases t.convert_fails_or_warns config f.content.toList with failure | onlyWarns
  · have hasErrors := failure.hasErrors
    obtain ⟨d, result, isError⟩ := failure
    have report : (t.convert f.content.toList config).diagnostics = [d] := by rw [result]
    refine ⟨_, .failed d result isError, ?_, ?_, fun w => ?_⟩
    · simp [addTo, hasErrors, report]
    · simp [addTo, hasErrors]
    · have warns : ¬(t.convert f.content.toList config).OnlyWarns := fun h => by
        rw [h.hasErrors] at hasErrors
        cases hasErrors
      simp [addTo, hasErrors, warns]
  · have hasErrors := onlyWarns.hasErrors
    refine ⟨_, .converted onlyWarns, ?_, ?_, fun w => ?_⟩
    · simp [addTo, hasErrors]
    · simp [addTo, hasErrors, typedFile]
    · cases he : (t.convert f.content.toList config).diagnostics.isEmpty <;>
        simp_all [addTo, report]

/-- The entries of all files, in order: those that failed are the errors of the batch, the others its
converted files. -/
theorem exists_forall₂_yields (files : List SourceFile) : ∃ entries,
    List.Forall₂ (t.Yields config) files entries
      ∧ (t.convertBatch config files).errors = entries.filterMap Sum.getLeft?
      ∧ (t.convertBatch config files).converted = entries.filterMap Sum.getRight? := by
  induction files with
  | nil => exact ⟨[], .nil, rfl, rfl⟩
  | cons f files ih =>
    obtain ⟨entry, yields, errors, converted, -⟩ := t.exists_yields_addTo config f
    obtain ⟨entries, rest, restErrors, restConverted⟩ := ih
    refine ⟨entry :: entries, .cons yields rest, ?_, ?_⟩
    · rw [convertBatch_cons, BatchResult.append, errors, restErrors]
      cases entry <;> rfl
    · rw [convertBatch_cons, BatchResult.append, converted, restConverted]
      cases entry <;> rfl

/-- A file that is converted, as its conversion reports no error. -/
def converts (f : SourceFile) : Bool := !(t.convert f.content.toList config).hasErrors

theorem converted_convertBatch (files : List SourceFile) :
    (t.convertBatch config files).converted
      = (files.filter (t.converts config)).map (t.typedFile config) := by
  induction files with
  | nil => rfl
  | cons f files ih =>
    rw [convertBatch_cons, BatchResult.append, ih, List.filter_cons]
    cases h : (t.convert f.content.toList config).hasErrors <;> simp [addTo, converts, h, typedFile]

theorem errors_convertBatch (files : List SourceFile) :
    (t.convertBatch config files).errors
      = (files.filter fun f => !t.converts config f).map (t.report config) := by
  induction files with
  | nil => rfl
  | cons f files ih =>
    rw [convertBatch_cons, BatchResult.append, ih, List.filter_cons]
    cases h : (t.convert f.content.toList config).hasErrors <;> simp [addTo, converts, h, report]

theorem isClean_convertBatch_iff (files : List SourceFile) :
    (t.convertBatch config files).isClean = true ↔
      ∀ f ∈ files, ∀ d ∈ (t.convert f.content.toList config).diagnostics, d.severity ≠ .error := by
  rw [BatchResult.isClean, errors_convertBatch]
  simp [converts, ConversionResult.hasErrors, Diagnostic.isError]

theorem exists_of_mem_converted {files : List SourceFile} {typed : SourceFile}
    (h : typed ∈ (t.convertBatch config files).converted) :
    ∃ f ∈ files, typed = t.typedFile config f := by
  rw [converted_convertBatch] at h
  obtain ⟨f, hf, same⟩ := List.mem_map.mp h
  exact ⟨f, (List.mem_filter.mp hf).1, same.symm⟩

/-- The warnings of a batch are what is reported about converted files, where there is something. -/
theorem mem_warnings_convertBatch (files : List SourceFile) (w : FileDiagnostics) :
    w ∈ (t.convertBatch config files).warnings ↔ ∃ f ∈ files,
      (t.convert f.content.toList config).OnlyWarns
        ∧ (t.convert f.content.toList config).diagnostics ≠ [] ∧ w = t.report config f := by
  induction files with
  | nil => simp [convertBatch]
  | cons f files ih =>
    obtain ⟨-, -, -, -, warnings⟩ := t.exists_yields_addTo config f
    rw [convertBatch_cons, BatchResult.append, List.mem_append, warnings, ih]
    simp

end Toolchain

/-! ## Whole batches -/

/-- A batch of two lists of files is the batch of the first and then that of the second. Every file has one
entry, in order: an error under its own name with one diagnostic, and then it has no code, or a converted
file under the typed name with the code of its own conversion. The warnings are what converted files have
to report, which is warnings only. All this holds however the reader and the printer end; with those of the
library, the conversion of a file on its own is that of its text. -/
theorem batch_one_entry_per_file (t : Toolchain) (config : Config) :
    (∀ xs ys, t.convertBatch config (xs ++ ys)
      = (t.convertBatch config xs).append (t.convertBatch config ys))
    ∧ (∀ files, ∃ entries, List.Forall₂ (t.Yields config) files entries
        ∧ (t.convertBatch config files).errors = entries.filterMap Sum.getLeft?
        ∧ (t.convertBatch config files).converted = entries.filterMap Sum.getRight?)
    ∧ (∀ files w, w ∈ (t.convertBatch config files).warnings ↔
        w.diagnostics ≠ [] ∧ (∀ d ∈ w.diagnostics, d.severity = .warning)
          ∧ ∃ f ∈ files, t.Yields config f (.inr (t.typedFile config f)) ∧ w = t.report config f)
    ∧ ∀ source, Toolchain.standard.convert source config = convert source config := by
  refine ⟨t.convertBatch_append config, t.exists_forall₂_yields config, fun files w => ?_,
    fun source => Toolchain.convert_standard source config⟩
  rw [t.mem_warnings_convertBatch config]
  constructor
  · rintro ⟨f, hf, onlyWarns, some, rfl⟩
    exact ⟨some, onlyWarns, f, hf, .converted onlyWarns, rfl⟩
  · rintro ⟨some, onlyWarns, f, hf, -, rfl⟩
    exact ⟨f, hf, onlyWarns, some, rfl⟩

end TypedJsx
