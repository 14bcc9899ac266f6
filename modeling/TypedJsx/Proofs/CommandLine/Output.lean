import TypedJsx.Proofs.Batch
import TypedJsx.Proofs.CommandLine.Loading
import TypedJsx.Proofs.FileSystem.Writing
/-!
What a run leaves in its output directory. Each file is written where its path in the directory leads, and
nothing else is touched (`Run.writeFile_spec`); so after all of them the last file at each place stands there
(`Run.writeFiles_spec`), unless the archive is written to the same place.

Main statement: a run loses no converted file exactly if files at the same place have the same content, and
the archive goes elsewhere. Nothing checks this before the files are written: `a.js` and `a.jsx` both become
`a.tsx`, and so do `a.js` and `sub/a.js` if they are given as files.
-/
namespace TypedJsx

/-! ## Modules without props -/

theorem convert_of_silent {source : List Char} {m : Module} {config : Config}
    (parsed : Module.parse source = .ok m)
    (silent : m.propContext.declarations m.tree.withoutBindings = [])
    (noComponents : m.tree.components = []) :
    convert source config = {
      code := String.ofList (assemble (m.convertParts config).body (m.convertParts config).hasReactImport
        (mergeInterfaces [] (if config.withHooks then (m.convertParts config).hooks else [])))
      diagnostics := (m.convertParts config).diagnostics } := by
  have declarations : m.extraction.declarations = [] := by
    rw [Module.extraction, silent, List.mergeSort_nil]
  have plans : m.plans config = [] := by
    rw [Module.plans, noComponents]
    rfl
  have props : (m.convertParts config).props = [] := by
    simp [Module.convertParts, plans, undeclaredInterfaces, Extraction.interfaces, Extraction.components,
      declarations, firstPerKey]
  rw [convert, parsed]
  simp only [ConvertedParts.interfaces, props]

/-- A conversion to code with nothing to say, for texts that it can be computed for. -/
theorem convert_eq_of_computed {source : List Char} {config : Config} {code : String}
    (h : ∃ m, Module.parse source = .ok m
      ∧ m.propContext.declarations m.tree.withoutBindings = [] ∧ m.tree.components = []
      ∧ String.ofList (assemble (m.convertParts config).body (m.convertParts config).hasReactImport
          (mergeInterfaces [] (if config.withHooks then (m.convertParts config).hooks else []))) = code
      ∧ (m.convertParts config).diagnostics = []) : convert source config = ⟨code, []⟩ := by
  obtain ⟨m, parsed, silent, noComponents, rfl, quiet⟩ := h
  rw [convert_of_silent parsed silent noComponents, quiet]

/-! ## Places -/

/-- The path of a file in a directory. -/
def SourceFile.pathIn (f : SourceFile) (directory : String) : List Char :=
  Path.join directory.toList f.name.toList

/-- The place that the path of a file in a directory leads to. -/
def SourceFile.placeIn (f : SourceFile) (fs : FileSystem) (directory : String) : List (List Char) :=
  fs.resolve (f.pathIn directory)

namespace Run

variable {fs later : FileSystem} {directory : String} {files : List SourceFile}

/-! ## One file -/

/-- What is saved stands where the path leads and can be read there, and nothing else changes. -/
theorem save_spec {path : List Char} {content : FileContent} {failed : Bool → FileError → FatalError}
    (h : save path content failed fs = (later, none)) :
    fs.ChangesOnly later [fs.resolve path] ∧ later.StandsAt (fs.resolve path) content
      ∧ later.IsFilePath path ∧ ∀ other ≠ fs.resolve path, later.file? other = fs.file? other := by
  unfold save at h
  split at h
  · cases (Prod.mk.inj h).2
  · rename_i made created
    split at h
    · rename_i written
      obtain rfl := (Prod.mk.inj h).1
      obtain ⟨changes, files, -⟩ := FileSystem.createDirectories_spec created
      obtain ⟨step, stands, isFilePath⟩ := FileSystem.write_spec written
      obtain ⟨-, -, -, rfl⟩ := FileSystem.write_eq_ok_iff.mp written
      rw [changes.resolve] at step stands isFilePath ⊢
      refine ⟨changes.trans step, stands, isFilePath, fun other differ => ?_⟩
      rw [FileSystem.file?_put, if_neg differ, FileSystem.file?, files, FileSystem.file?]
    · cases (Prod.mk.inj h).2

theorem save_failed {path : List Char} {content : FileContent} {failed : Bool → FileError → FatalError}
    {e : FatalError} (h : save path content failed fs = (later, some e)) :
    fs.ChangesOnly later [] ∧ later.files = fs.files := by
  unfold save at h
  split at h
  · rename_i made cause created
    obtain rfl := (Prod.mk.inj h).1
    obtain ⟨changes, files, -⟩ := FileSystem.createDirectories_spec created
    exact ⟨changes, files⟩
  · rename_i made created
    split at h
    · cases (Prod.mk.inj h).2
    · obtain rfl := (Prod.mk.inj h).1
      obtain ⟨changes, files, -⟩ := FileSystem.createDirectories_spec created
      exact ⟨changes, files⟩

theorem writeFile_spec {f : SourceFile} (h : writeFile directory fs f = (later, none)) :
    fs.ChangesOnly later [f.placeIn fs directory]
      ∧ later.StandsAt (f.placeIn fs directory) (.text f.content)
      ∧ later.IsFilePath (f.pathIn directory) := by
  unfold writeFile at h
  obtain ⟨changes, stands, isFilePath, -⟩ := save_spec h
  exact ⟨changes, stands, isFilePath⟩

theorem writeArchive_spec {p : Packer} {path : String} (h : writeArchive p path fs files = (later, none)) :
    ∃ archive, fs.ChangesOnly later [fs.resolve path.toList]
      ∧ later.StandsAt (fs.resolve path.toList) (.archive archive) := by
  unfold writeArchive at h
  split at h
  · cases (Prod.mk.inj h).2
  · rename_i archive _
    obtain ⟨changes, stands, -⟩ := save_spec h
    exact ⟨archive, changes, stands⟩

/-! ## All files -/

/-- The file that is written last at a place. -/
def lastAt (fs : FileSystem) (directory : String) (files : List SourceFile)
    (place : List (List Char)) : Option SourceFile :=
  files.reverse.find? fun f => f.placeIn fs directory == place

theorem lastAt_cons (f : SourceFile) (place : List (List Char)) :
    lastAt fs directory (f :: files) place
      = (lastAt fs directory files place).or (if f.placeIn fs directory = place then some f else none) := by
  rw [lastAt, List.reverse_cons, List.find?_append, List.find?_singleton]
  simp only [beq_iff_eq]
  rfl

theorem exists_lastAt (fs : FileSystem) (directory : String) {f : SourceFile} (h : f ∈ files) :
    ∃ last ∈ files, last.placeIn fs directory = f.placeIn fs directory
      ∧ lastAt fs directory files (f.placeIn fs directory) = some last := by
  cases found : lastAt fs directory files (f.placeIn fs directory) with
  | none =>
    have free := List.find?_eq_none.mp found f (List.mem_reverse.mpr h)
    exact absurd (beq_self_eq_true _) free
  | some last =>
    exact ⟨last, List.mem_reverse.mp (List.mem_of_find?_eq_some found),
      by simpa using List.find?_some found, rfl⟩

/-- After all files are written, every path can be read, and the last file at each place stands there. -/
theorem writeFiles_spec (h : writeFiles directory fs files = (later, none)) :
    fs.ChangesOnly later (files.map fun f => f.placeIn fs directory)
      ∧ (∀ f ∈ files, later.IsFilePath (f.pathIn directory))
      ∧ ∀ place last, lastAt fs directory files place = some last →
        later.StandsAt place (.text last.content) := by
  induction files generalizing fs with
  | nil =>
    obtain rfl := (Prod.mk.inj h).1
    exact ⟨.refl fs, by simp, by simp [lastAt]⟩
  | cons f rest ih =>
    rw [writeFiles] at h
    split at h
    · rename_i mid written
      obtain ⟨step, stands, isFilePath⟩ := writeFile_spec written
      obtain ⟨steps, paths, lasts⟩ := ih h
      have places : ∀ g : SourceFile, g.placeIn mid directory = g.placeIn fs directory := fun g =>
        step.resolve _
      simp only [lastAt, places] at steps lasts
      refine ⟨step.trans steps, fun g hg => ?_, fun place last found => ?_⟩
      · rcases List.mem_cons.mp hg with rfl | hg
        · exact steps.isFilePath isFilePath
        · exact paths g hg
      · rw [lastAt_cons] at found
        cases after : lastAt fs directory rest place with
        | some g =>
          rw [after, Option.some_or] at found
          exact lasts place last (after.trans found)
        | none =>
          rw [after, Option.none_or, Option.ite_none_right_eq_some] at found
          obtain ⟨rfl, found⟩ := found
          obtain rfl := Option.some.inj found
          -- no file after this one is written at its place
          refine steps.file _ _ (fun touched => ?_) stands
          obtain ⟨g, hg, there⟩ := List.mem_map.mp touched
          exact List.find?_eq_none.mp after g (List.mem_reverse.mpr hg) (by simpa using there)
    · cases h

/-! ## The whole output -/

theorem writeAll_cases {a : Arguments} (outDir : a.outDir = some directory)
    (written : writeAll a fs files = (later, none)) :
    ∃ mid, writeFiles directory fs files = (mid, none)
      ∧ (a.archive = none ∧ later = mid
        ∨ ∃ path, a.archive = some path
          ∧ writeArchive .standard path mid files = (later, none)) := by
  rw [writeAll, outDir] at written
  dsimp only at written
  cases tree : writeFiles directory fs files with
  | mk mid failure =>
    rw [tree] at written
    cases failure with
    | some e => cases (Prod.mk.inj written).2
    | none =>
      refine ⟨mid, rfl, ?_⟩
      cases archive : a.archive with
      | none =>
        rw [archive] at written
        exact .inl ⟨rfl, (Prod.mk.inj written).1.symm⟩
      | some path =>
        rw [archive] at written
        exact .inr ⟨path, rfl, written⟩

/-- After everything is written, what can be read at the path of a file is the last file at its place, if the
archive is not there; an archive is no text. -/
theorem writeAll_spec {a : Arguments} (outDir : a.outDir = some directory)
    (written : writeAll a fs files = (later, none)) {f last : SourceFile} (hf : f ∈ files)
    (found : lastAt fs directory files (f.placeIn fs directory) = some last) (text : String) :
    later.readText (f.pathIn directory) = .ok text ↔ last.content = text
      ∧ ∀ path, a.archive = some path → fs.resolve path.toList ≠ f.placeIn fs directory := by
  obtain ⟨mid, tree, ⟨archive, rfl⟩ | ⟨path, archive, archived⟩⟩ := writeAll_cases outDir written
  · obtain ⟨steps, paths, lasts⟩ := writeFiles_spec tree
    have stands : later.StandsAt (later.resolve (f.pathIn directory)) (.text last.content) := by
      rw [steps.resolve]
      exact lasts _ _ found
    rw [FileSystem.readText_eq_ok_iff (paths f hf) stands]
    simp [archive]
  · obtain ⟨steps, paths, lasts⟩ := writeFiles_spec tree
    obtain ⟨content, step, archiveStands⟩ := writeArchive_spec archived
    have isFilePath := step.isFilePath (paths f hf)
    have place : later.resolve (f.pathIn directory) = f.placeIn fs directory :=
      (step.resolve _).trans (steps.resolve _)
    rw [steps.resolve] at step archiveStands
    -- the archive comes last, and takes the place of the file if both lead to one
    by_cases same : fs.resolve path.toList = f.placeIn fs directory
    · have stands : later.StandsAt (later.resolve (f.pathIn directory)) (.archive content) := by
        rwa [place, ← same]
      rw [FileSystem.readText_eq_ok_iff isFilePath stands]
      simp [archive, same]
    · have stands : later.StandsAt (later.resolve (f.pathIn directory)) (.text last.content) := by
        rw [place]
        exact step.file _ _ (by simpa using Ne.symm same) (lasts _ _ found)
      rw [FileSystem.readText_eq_ok_iff isFilePath stands]
      simp [archive, same]

/-- A run with an output directory that ends without a fatal error, with the archive that it is asked for,
and the files that it converts. -/
inductive Completes (fs : FileSystem) (arguments : List String) :
    String → Option String → List SourceFile → Prop where
  | intro {a : Arguments} {directory : String} {config : Config} {files : List SourceFile}
      (parsed : Request.parse arguments = .ok (.run a)) (outDir : a.outDir = some directory)
      (loaded : load fs a = .ok (config, files))
      (written : (writeAll a fs (convertBatch config files).converted).2 = none) :
      Completes fs arguments directory a.archive (convertBatch config files).converted

theorem Completes.exists_writeAll {arguments : List String} {archive : Option String}
    {converted : List SourceFile} (h : Completes fs arguments directory archive converted) :
    ∃ a : Arguments, a.outDir = some directory ∧ a.archive = archive
      ∧ writeAll a fs converted = ((run fs arguments).fileSystem, none) := by
  cases h with
  | @intro a _ config files parsed outDir loaded written =>
    refine ⟨a, outDir, rfl, ?_⟩
    cases output : writeAll a fs (convertBatch config files).converted with
    | mk after failure =>
      rw [output] at written
      obtain rfl : failure = none := written
      simp [run, parsed, convertFiles_of_loaded loaded, output]

end Run

/-- After a run with an output directory that ends without a fatal error, what can be read at the path of a
converted file is the last of the files at its place, if the archive is not written there. So no converted
file is lost exactly if files at the same place have the same content, and the archive goes elsewhere. -/
theorem out_dir_keeps_files_iff {fs : FileSystem} {arguments : List String} {directory : String}
    {archive : Option String} {converted : List SourceFile}
    (h : Run.Completes fs arguments directory archive converted) :
    (∀ f ∈ converted, ∃ last ∈ converted, last.placeIn fs directory = f.placeIn fs directory
        ∧ Run.lastAt fs directory converted (f.placeIn fs directory) = some last
        ∧ ∀ text, (run fs arguments).fileSystem.readText (f.pathIn directory) = .ok text ↔
          last.content = text
            ∧ ∀ path, archive = some path → fs.resolve path.toList ≠ f.placeIn fs directory)
      ∧ ((∀ f ∈ converted, (run fs arguments).fileSystem.readText (f.pathIn directory) = .ok f.content) ↔
        (∀ f ∈ converted, ∀ g ∈ converted,
          f.placeIn fs directory = g.placeIn fs directory → f.content = g.content)
        ∧ ∀ path, archive = some path → ∀ f ∈ converted,
          fs.resolve path.toList ≠ f.placeIn fs directory) := by
  obtain ⟨a, outDir, rfl, written⟩ := h.exists_writeAll
  have reads : ∀ f ∈ converted, ∃ last ∈ converted, last.placeIn fs directory = f.placeIn fs directory
      ∧ Run.lastAt fs directory converted (f.placeIn fs directory) = some last
      ∧ ∀ text, (run fs arguments).fileSystem.readText (f.pathIn directory) = .ok text ↔
        last.content = text ∧ ∀ path, a.archive = some path →
          fs.resolve path.toList ≠ f.placeIn fs directory := fun f hf => by
    obtain ⟨last, hlast, same, found⟩ := Run.exists_lastAt fs directory hf
    exact ⟨last, hlast, same, found, Run.writeAll_spec outDir written hf found⟩
  refine ⟨reads, fun kept => ⟨fun f hf g hg same => ?_, fun path archive f hf => ?_⟩, ?_⟩
  · -- both have the content of the last file at their place
    obtain ⟨last, -, -, found, text⟩ := reads f hf
    obtain ⟨last', -, -, found', text'⟩ := reads g hg
    obtain rfl : last = last' := Option.some.inj (found.symm.trans ((congrArg _ same).trans found'))
    exact ((text _).mp (kept f hf)).1.symm.trans ((text' _).mp (kept g hg)).1
  · obtain ⟨last, -, -, -, text⟩ := reads f hf
    exact ((text _).mp (kept f hf)).2 path archive
  · rintro ⟨agree, apart⟩ f hf
    obtain ⟨last, hlast, same, -, text⟩ := reads f hf
    exact (text _).mpr ⟨agree last hlast f hf same, fun path archive => apart path archive f hf⟩

/-- Two scripts whose names differ in their endings only. -/
def twoScripts : FileSystem where
  home := ["work".toList]
  files := [(["work".toList, "a.js".toList], .text "a;"), (["work".toList, "a.jsx".toList], .text "b;")]

def typedScripts : List SourceFile :=
  [⟨"a.tsx", "import React from 'react';\n\na;\n"⟩, ⟨"a.tsx", "import React from 'react';\n\nb;\n"⟩]

theorem convert_scripts : convert "a;".toList {} = ⟨"import React from 'react';\n\na;\n", []⟩
    ∧ convert "b;".toList {} = ⟨"import React from 'react';\n\nb;\n", []⟩ :=
  ⟨convert_eq_of_computed (by decide +kernel), convert_eq_of_computed (by decide +kernel)⟩

theorem converted_scripts {first second : String}
    (names : String.ofList (tsxFileName first.toList) = "a.tsx"
      ∧ String.ofList (tsxFileName second.toList) = "a.tsx") :
    (convertBatch {} [⟨first, "a;"⟩, ⟨second, "b;"⟩]).converted = typedScripts := by
  simp only [convertBatch, Toolchain.convertBatch, Toolchain.addTo, List.foldl_cons, List.foldl_nil,
    Toolchain.convert_standard, convert_scripts, names]
  rfl

/-- Of two scripts that become `a.tsx`, a run without a failure keeps only one. -/
theorem script_overwritten :
    Run.Completes twoScripts ["a.js", "a.jsx", "--out-dir", "out"] "out" none typedScripts
      ∧ ¬∀ f ∈ typedScripts, (run twoScripts ["a.js", "a.jsx", "--out-dir", "out"]).fileSystem.readText
          (f.pathIn "out") = .ok f.content := by
  have completes : Run.Completes twoScripts ["a.js", "a.jsx", "--out-dir", "out"] "out" none
      typedScripts := by
    have intro := @Run.Completes.intro twoScripts ["a.js", "a.jsx", "--out-dir", "out"]
      { inputs := ["a.js", "a.jsx"], outDir := some "out" } "out" {} [⟨"a.js", "a;"⟩, ⟨"a.jsx", "b;"⟩]
      (by decide +kernel) rfl (by decide +kernel)
    rw [converted_scripts (by decide +kernel)] at intro
    exact intro (by decide +kernel)
  refine ⟨completes, fun kept => ?_⟩
  have agree := ((out_dir_keeps_files_iff completes).2.mp kept).1
  exact absurd (agree _ (List.mem_cons_self) _ (List.mem_cons_of_mem _ List.mem_cons_self) rfl) (by decide)

end TypedJsx
