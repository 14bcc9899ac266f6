import TypedJsx.Proofs.CommandLine.Loading
import TypedJsx.Proofs.CommandLine.Output
/-!
The order of a run: everything is read, then files are converted, then everything is written. An action
meets the file system that the actions before it left, so this is about the order of the actions: whatever a
run writes, and wherever, comes of what the files held at its start.

Main statement: a run that cannot load prints nothing on the output and changes no file; any other converts
the sources as they were at the start; and the exit code tells of fatal errors and of files that failed.
-/
namespace TypedJsx

namespace Run

variable {fs : FileSystem} {a : Arguments} {c : Config} {files : List SourceFile}

/-- A run that stops at a fatal error. -/
def EndsFatally (fs : FileSystem) (a : Arguments) : Prop :=
  ∃ e, ((program a).perform { fileSystem := fs }).1 = .error e

theorem endsFatally_iff_of_loaded (loaded : load fs a = .ok (c, files)) :
    EndsFatally fs a ↔ (writeAll a fs (convertBatch c files).converted).2 ≠ none := by
  rw [EndsFatally, perform_program_of_loaded loaded]
  cases writeAll a fs (convertBatch c files).converted with
  | mk later failure => cases failure <;> simp

theorem isClean_iff : (convertBatch c files).isClean = true ↔
    ∀ f ∈ files, ∀ d ∈ (convert f.content.toList c).diagnostics, d.severity ≠ .error := by
  simp only [convertBatch, Toolchain.isClean_convertBatch_iff, Toolchain.convert_standard]

/-- The exit code of a run that loads is zero just if there is no fatal error and no error of a file. -/
theorem exitCode_of_loaded (loaded : load fs a = .ok (c, files)) :
    (convertFiles fs a).exitCode = 0 ↔ ¬EndsFatally fs a
      ∧ ∀ f ∈ files, ∀ d ∈ (convert f.content.toList c).diagnostics, d.severity ≠ .error := by
  rw [endsFatally_iff_of_loaded loaded, ← isClean_iff, convertFiles_of_loaded loaded]
  cases writeAll a fs (convertBatch c files).converted with
  | mk later failure => cases failure <;> simp

end Run

/-- The phases of a run do not interfere. If the settings or a source cannot be read, or there is no source,
the run stops with exit code 1, prints nothing on the output and changes no file. Otherwise all it writes and
prints comes of the sources as the file system had them at its start, wherever it writes; and its exit code is
0 exactly if it meets no fatal error and no source has an error to report.

The sources are those that the walks find. A directory that cannot be listed is passed over
(`Run.placesOf_unlisted`), which is no failure of the run. -/
theorem run_reads_before_writing {fs : FileSystem} {arguments : List String} {a : Arguments}
    (parsed : Request.parse arguments = .ok (.run a)) :
    (¬Run.CanLoad fs a → Run.EndsFatally fs a ∧ (run fs arguments).exitCode = 1
      ∧ (run fs arguments).stdout = "" ∧ (run fs arguments).fileSystem = fs)
    ∧ (Run.CanLoad fs a → ∃ c files, Run.config fs a = .ok c
      ∧ List.Forall₂ (Run.Place.Gives fs) (Run.places fs a.inputs) files
      ∧ (run fs arguments).fileSystem = (Run.writeAll a fs (convertBatch c files).converted).1
      ∧ (run fs arguments).stdout = Run.earlyOutput a (convertBatch c files)
        ++ (if (Run.writeAll a fs (convertBatch c files).converted).2 = none
          then Run.lateOutput a (convertBatch c files) else "")
      ∧ ((run fs arguments).exitCode = 0 ∨ (run fs arguments).exitCode = 1)
      ∧ ((run fs arguments).exitCode = 0 ↔ ¬Run.EndsFatally fs a
        ∧ ∀ f ∈ files, ∀ d ∈ (convert f.content.toList c).diagnostics, d.severity ≠ .error)) := by
  rw [run, parsed]
  dsimp only
  constructor
  · intro cannot
    cases loaded : Run.load fs a with
    | ok pair => exact absurd (Run.canLoad_iff.mpr ⟨pair.1, pair.2, loaded⟩) cannot
    | error e =>
      rw [Run.convertFiles_of_unloaded loaded]
      exact ⟨⟨e, by rw [Run.perform_program_of_unloaded loaded]⟩, rfl, rfl, rfl⟩
  · intro can
    obtain ⟨c, files, loaded⟩ := Run.canLoad_iff.mp can
    obtain ⟨hasConfig, -, gives⟩ := Run.load_eq_ok_iff.mp loaded
    refine ⟨c, files, hasConfig, gives, ?_, ?_, ?_, Run.exitCode_of_loaded loaded⟩
    -- files, output and exit code are read off one equation, which speaks of the start only
    all_goals
      rw [Run.convertFiles_of_loaded loaded]
      cases Run.writeAll a fs (convertBatch c files).converted with
      | mk later failure => cases failure <;> simp

/-- A script, and beside it a typed file under the name that the script gets. -/
def scriptBesideTyped : FileSystem where
  home := ["work".toList]
  files := [(["work".toList, "in".toList, "a.jsx".toList], .text "a;"),
    (["work".toList, "in".toList, "a.tsx".toList], .text "b;")]

/-- The script is written over the typed file, which is converted all the same as it was. -/
theorem overwritten_source_converted :
    Run.CanLoad scriptBesideTyped { inputs := ["in/a.jsx", "in/a.tsx"], outDir := some "in" }
      ∧ (run scriptBesideTyped ["in/a.jsx", "in/a.tsx", "--out-dir", "in"]).fileSystem.readText
          "in/a.tsx".toList = .ok "import React from 'react';\n\nb;\n" := by
  have parsed : Request.parse ["in/a.jsx", "in/a.tsx", "--out-dir", "in"]
      = .ok (.run { inputs := ["in/a.jsx", "in/a.tsx"], outDir := some "in" }) := by decide +kernel
  have loaded : Run.load scriptBesideTyped { inputs := ["in/a.jsx", "in/a.tsx"], outDir := some "in" }
      = .ok ({}, [⟨"a.jsx", "a;"⟩, ⟨"a.tsx", "b;"⟩]) := by decide +kernel
  have can := Run.canLoad_iff.mpr ⟨_, _, loaded⟩
  obtain ⟨c, files, hasConfig, gives, written, -⟩ :=
    (@run_reads_before_writing scriptBesideTyped _ _ parsed).2 can
  -- the sources of the statement are those that are loaded
  have some : files ≠ [] := by
    rintro rfl
    exact can.some (List.forall₂_nil_right_iff.mp gives)
  have same := loaded.symm.trans (Run.load_eq_ok_iff.mpr ⟨hasConfig, some, gives⟩)
  obtain ⟨rfl, rfl⟩ := Prod.mk.inj (Except.ok.inj same)
  rw [converted_scripts (by decide +kernel)] at written
  rw [written]
  exact ⟨can, by decide +kernel⟩

end TypedJsx
