import TypedJsx.Proofs.CommandLine.Loading
import TypedJsx.Proofs.CommandLine.Output
import TypedJsx.Proofs.FileSystem.Route
/-!
Where a run with an output directory writes. A file is written where its name, read as a path, leads from
the directory. The name is made of the names on the way to a source: they are joined by slashes, backslashes
become slashes, and the ending is replaced (`Run.exists_place_of_mem_sources`). Only the second of these
steps can make a name that leads out of the directory: a name without a backslash stays as it is, and no name
in a file system is `..`, is empty or holds a slash.

Main statement: nothing but the files that are written changes, and a file is written beneath the directory
just if its name stays in it; so all are if no name in the file system holds a backslash.
-/
namespace TypedJsx

/-! ## Names of typed files -/

theorem tsxFileName_cases (name : List Char) : ∃ stem ending, name = stem ++ ending
    ∧ '/' ∉ ending ∧ tsxFileName name = stem ++ ".tsx".toList := by
  obtain ⟨ending, known, split⟩ := exists_ending name
  have noSlash : ∀ ending ∈ [".tsx".toList, ".jsx".toList, ".js".toList, []], '/' ∉ ending := by
    decide +kernel
  exact ⟨fileStem name, ending, split, noSlash ending known, tsxFileName_eq name⟩

/-- The typed name of a relative path that does not go up stays in every directory. -/
theorem staysIn_tsxFileName {name : List Char} (relative : Path.isAbsolute name = false)
    (names : ['.', '.'] ∉ Path.parts name) (directory : List (List Char)) :
    Path.StaysIn directory (tsxFileName name) := by
  obtain ⟨stem, ending, rfl, noSlash, typed⟩ := tsxFileName_cases name
  obtain ⟨front, last, split⟩ := Path.exists_pieces_append stem
  have plain : '/' ∉ ".tsx".toList ∧ Path.isAbsolute ".tsx".toList = false := by decide +kernel
  have length : (last ++ ".tsx".toList).length = last.length + 4 := by simp
  rw [typed]
  generalize ".tsx".toList = tsx at plain length
  have start : Path.isAbsolute (stem ++ tsx) = false := by
    cases stem with
    | nil => exact plain.2
    | cons c stem => exact relative
  have long : ∀ part : List Char, part.length < 4 → last ++ tsx ≠ part := by
    rintro part short rfl
    omega
  -- the last part is the name that gets the typed ending
  have parts : Path.parts (stem ++ tsx)
      = (front.filter fun p => !p.isEmpty && p != ['.']) ++ [last ++ tsx] := by
    have some := long [] (by decide)
    have dot := long ['.'] (by decide)
    rw [Path.parts, split _ plain.1, List.filter_append, List.filter_cons_of_pos, List.filter_nil]
    simp only [Bool.and_eq_true, bne_iff_ne, Bool.not_eq_true', List.isEmpty_eq_false_iff]
    exact ⟨some, dot⟩
  refine Path.staysIn_of_names start (by simp [parts]) ?_ directory
  rw [parts, List.mem_append, List.mem_singleton, not_or]
  refine ⟨fun up => names ?_, (long _ (by decide)).symm⟩
  rw [Path.parts, split ending noSlash, List.filter_append]
  exact List.mem_append_left _ up

/-! ## Names of sources -/

/-- A name in a file system that holds no backslash. -/
structure IsPlainName (name : List Char) : Prop where
  some : name ≠ []
  notUp : name ≠ ['.', '.']
  noSlash : '/' ∉ name
  noBackslash : '\\' ∉ name

/-- No name of a file or of a directory with files holds a backslash. -/
def FileSystem.HasPlainNames (fs : FileSystem) : Prop :=
  ∀ file ∈ fs.files, ∀ name ∈ file.1, IsPlainName name

theorem mem_joinWith {names : List (List Char)} {c : Char} (h : c ∈ joinWith ['/'] names) :
    c = '/' ∨ ∃ name ∈ names, c ∈ name := by
  fun_induction joinWith ['/'] names with
  | case1 => cases h
  | case2 name => exact .inr ⟨name, List.mem_singleton_self name, h⟩
  | case3 name names _ ih =>
    rw [List.mem_append, List.mem_append, List.mem_singleton] at h
    rcases h with (here | slash) | later
    · exact .inr ⟨name, List.mem_cons_self, here⟩
    · exact .inl slash
    · rcases ih later with slash | ⟨other, mem, hc⟩
      · exact .inl slash
      · exact .inr ⟨other, List.mem_cons_of_mem name mem, hc⟩

theorem Run.toList_sourceName {name : List Char} (h : '\\' ∉ name) : (sourceName name).toList = name := by
  have same : name.map (fun c => if c == '\\' then '/' else c) = name := by
    refine (List.map_congr_left fun c hc => ?_).trans (List.map_id name)
    have : c ≠ '\\' := fun e => h (e ▸ hc)
    simp [this]
  rw [sourceName, same, String.toList_ofList]

theorem Run.staysIn_of_plain {names : List (List Char)} (some : names ≠ [])
    (plain : ∀ name ∈ names, IsPlainName name) (directory : List (List Char)) :
    Path.StaysIn directory (tsxFileName (sourceName (joinWith ['/'] names)).toList) := by
  have pieces := Path.pieces_joinWith some fun name hn => (plain name hn).noSlash
  have noBackslash : '\\' ∉ joinWith ['/'] names := by
    intro h
    rcases mem_joinWith h with slash | ⟨name, hn, hc⟩
    · cases slash
    · exact (plain name hn).noBackslash hc
  rw [Run.toList_sourceName noBackslash]
  refine staysIn_tsxFileName ?_ ?_ directory
  · cases h : joinWith ['/'] names with
    | nil => rfl
    | cons c cs =>
      -- an absolute path would have an empty name in front
      refine beq_eq_false_iff_ne.mpr fun slash => ?_
      obtain rfl : c = '/' := Option.some.inj slash
      rw [h, Path.pieces, if_pos rfl] at pieces
      exact (plain [] (pieces ▸ List.mem_cons_self)).some rfl
  · intro up
    rw [Path.parts, pieces] at up
    exact (plain _ (List.mem_filter.mp up).1).notUp rfl

/-! ## Where sources are read -/

theorem FileSystem.exists_file_of_readText {fs : FileSystem} {path : List Char} {text : String}
    (h : fs.readText path = .ok text) :
    ∃ file ∈ fs.files, ∃ name, Path.fileName? path = some name ∧ [name] <:+ file.1 := by
  unfold readText at h
  split at h
  · cases h
  rename_i clear
  split at h
  · cases h
  rename_i noDirectory
  -- a way to a file does not end in `.` or `..`, so its last part is a name
  obtain ⟨-, front, name, parts, notUp, -, place⟩ :=
    exists_name_of_clear (obstacle?_eq_none_iff.mp clear).1 (Bool.eq_false_iff.mpr noDirectory)
  split at h
  · cases h
  rename_i content found
  obtain ⟨file, mem, there⟩ := exists_of_file? found
  refine ⟨file, mem, name, ?_, _, place.symm.trans there.symm⟩
  rw [Path.fileName?, parts, List.getLast?_concat]
  split
  · rename_i up
    exact absurd (Option.some.inj up) notUp
  · rename_i none
    cases none
  · rename_i same
    exact same.symm

namespace Run

variable {fs later : FileSystem} {directory : String}

/-- A source is named after the last names on the way to a file. -/
theorem exists_place_of_mem_sources {inputs : List String} {files : List SourceFile}
    (h : sources fs inputs = .ok files) {f : SourceFile} (hf : f ∈ files) :
    ∃ file ∈ fs.files, ∃ names ≠ [], names <:+ file.1 ∧ f.name = sourceName (joinWith ['/'] names) := by
  obtain ⟨place, mem, gives⟩ := exists_of_mem_right (sources_eq_ok_iff.mp h).2 hf
  obtain ⟨input, -, mem⟩ := List.mem_flatMap.mp mem
  unfold placesOf at mem
  split at mem
  · -- the input is a directory
    obtain ⟨names, found, rfl⟩ := List.mem_map.mp mem
    obtain ⟨some, ⟨file, hfile, place⟩, -⟩ :=
      FileSystem.mem_filesBelow_iff.mp (List.mem_filter.mp found).1
    exact ⟨file, hfile, names, some, ⟨_, place.symm⟩, gives.name⟩
  · obtain rfl := List.mem_singleton.mp mem
    obtain ⟨file, hfile, last, isName, ends⟩ := FileSystem.exists_file_of_readText gives.content
    have name := gives.name
    dsimp only at isName name
    rw [isName] at name
    exact ⟨file, hfile, [last], List.cons_ne_nil _ _, ends, name⟩

/-! ## Files that are written -/

/-- The files that are written into a directory: those before the first that fails. -/
def writtenFiles (directory : String) (fs : FileSystem) : List SourceFile → List SourceFile
  | [] => []
  | f :: rest =>
    match writeFile directory fs f with
    | (fs, none) => f :: writtenFiles directory fs rest
    | (_, some _) => []

/-- The files that a run writes into a directory. -/
def written (fs : FileSystem) (a : Arguments) (directory : String) : List SourceFile :=
  match load fs a with
  | .ok (config, files) => writtenFiles directory fs (convertBatch config files).converted
  | .error _ => []

theorem prefix_of_writtenFiles (fs : FileSystem) (files : List SourceFile) :
    writtenFiles directory fs files <+: files := by
  induction files generalizing fs with
  | nil => exact List.prefix_rfl
  | cons f rest ih =>
    rw [writtenFiles]
    split
    · exact List.cons_prefix_cons.mpr ⟨rfl, ih _⟩
    · exact List.nil_prefix

theorem writeFiles_writtenFiles (fs : FileSystem) (files : List SourceFile) : ∃ mid,
    writeFiles directory fs (writtenFiles directory fs files) = (mid, none)
      ∧ mid.ChangesOnly (writeFiles directory fs files).1 []
      ∧ (writeFiles directory fs files).1.files = mid.files := by
  induction files generalizing fs with
  | nil => exact ⟨fs, rfl, .refl fs, rfl⟩
  | cons f rest ih =>
    rw [writtenFiles, writeFiles]
    cases h : writeFile directory fs f with
    | mk later failure =>
      cases failure with
      | none =>
        dsimp only
        rw [writeFiles, h]
        exact ih later
      | some e =>
        unfold writeFile at h
        obtain ⟨changes, files⟩ := save_failed h
        exact ⟨fs, rfl, changes, files⟩

theorem file?_writeFiles {files : List SourceFile} (h : writeFiles directory fs files = (later, none))
    {place : List (List Char)} (untouched : ∀ f ∈ files, f.placeIn fs directory ≠ place) :
    later.file? place = fs.file? place := by
  induction files generalizing fs with
  | nil => rw [← (Prod.mk.inj h).1]
  | cons f rest ih =>
    rw [List.forall_mem_cons] at untouched
    rw [writeFiles] at h
    split at h
    · rename_i mid written
      unfold writeFile at written
      obtain ⟨step, -, -, others⟩ := save_spec written
      have here : mid.file? place = fs.file? place := others place (Ne.symm untouched.1)
      refine (ih h fun g hg => ?_).trans here
      rw [SourceFile.placeIn, step.resolve]
      exact untouched.2 g hg
    · cases h

/-- What a run with an output directory and no archive leaves is what writing its files leaves, but for
directories that were made before a failure. -/
theorem writeFiles_written {arguments : List String} {a : Arguments}
    (parsed : Request.parse arguments = .ok (.run a)) (outDir : a.outDir = some directory)
    (noArchive : a.archive = none) : ∃ mid,
    writeFiles directory fs (written fs a directory) = (mid, none)
      ∧ mid.ChangesOnly (run fs arguments).fileSystem []
      ∧ (run fs arguments).fileSystem.files = mid.files := by
  rw [run, parsed]
  dsimp only
  cases loaded : load fs a with
  | error e =>
    rw [convertFiles_of_unloaded loaded, written, loaded]
    exact ⟨fs, rfl, .refl fs, rfl⟩
  | ok pair =>
    obtain ⟨config, files⟩ := pair
    have output : (convertFiles fs a).fileSystem
        = (writeFiles directory fs (convertBatch config files).converted).1 := by
      rw [convertFiles_of_loaded loaded, writeAll, outDir, noArchive]
      dsimp only
      cases (writeFiles directory fs (convertBatch config files).converted).2 <;> rfl
    rw [written, loaded, output]
    exact writeFiles_writtenFiles fs _

theorem exists_place_of_mem_written {a : Arguments} {f : SourceFile} (hf : f ∈ written fs a directory) :
    ∃ file ∈ fs.files, ∃ names ≠ [], names <:+ file.1
      ∧ f.name = String.ofList (tsxFileName (sourceName (joinWith ['/'] names)).toList) := by
  unfold written at hf
  split at hf
  · rename_i config files loaded
    obtain ⟨source, hs, rfl⟩ :=
      Toolchain.standard.exists_of_mem_converted config ((prefix_of_writtenFiles fs _).subset hf)
    obtain ⟨c, -, loaded⟩ := exists_of_bind_eq_ok loaded
    obtain ⟨read, found, loaded⟩ := exists_of_bind_eq_ok loaded
    obtain ⟨rfl, rfl⟩ := Prod.mk.inj (Except.ok.inj loaded)
    obtain ⟨file, hfile, names, some, ends, name⟩ := exists_place_of_mem_sources found hs
    exact ⟨file, hfile, names, some, ends, by rw [← name]; rfl⟩
  · cases hf

end Run

/-- A run with an output directory and no archive changes no files but those it writes into the directory,
and each of these is at its place afterwards. Such a file is named after names on the way to a file that was
there before: they are joined by slashes, backslashes become slashes, and the ending is replaced. Its place is
beneath the directory just if this name, as a path, stays in the directory. So all files are written beneath
the directory if no name in the file system holds a backslash. -/
theorem out_dir_contains_iff {fs : FileSystem} {arguments : List String} {a : Arguments}
    {directory : String} (parsed : Request.parse arguments = .ok (.run a))
    (outDir : a.outDir = some directory) (noArchive : a.archive = none) :
    (∀ place, (run fs arguments).fileSystem.file? place ≠ fs.file? place →
        ∃ f ∈ Run.written fs a directory, f.placeIn fs directory = place)
      ∧ ∀ f ∈ Run.written fs a directory,
        (∃ text, (run fs arguments).fileSystem.StandsAt (f.placeIn fs directory) (.text text))
        ∧ (∃ file ∈ fs.files, ∃ names ≠ [], names <:+ file.1
          ∧ f.name = String.ofList (tsxFileName (Run.sourceName (joinWith ['/'] names)).toList))
        ∧ (Path.Beneath (fs.resolve directory.toList) (f.placeIn fs directory) ↔
          Path.StaysIn (fs.resolve directory.toList) f.name.toList)
        ∧ (fs.HasPlainNames → Path.Beneath (fs.resolve directory.toList) (f.placeIn fs directory)) := by
  obtain ⟨mid, output, rest, files⟩ := @Run.writeFiles_written fs _ _ _ parsed outDir noArchive
  refine ⟨fun place changed => ?_, fun f hf => ?_⟩
  · by_contra untouched
    simp only [not_exists, not_and] at untouched
    have kept : (run fs arguments).fileSystem.file? place = mid.file? place := by
      rw [FileSystem.file?, FileSystem.file?, files]
    exact changed (kept.trans (Run.file?_writeFiles output untouched))
  · have stays := fs.beneath_join_iff directory.toList f.name.toList
    obtain ⟨file, hfile, names, some, ends, name⟩ := Run.exists_place_of_mem_written hf
    refine ⟨?_, ⟨file, hfile, names, some, ends, name⟩, stays, fun plain => stays.mpr ?_⟩
    · obtain ⟨last, -, -, found⟩ := Run.exists_lastAt fs directory hf
      have stands := (Run.writeFiles_spec output).2.2 _ _ found
      exact ⟨last.content, rest.file _ _ List.not_mem_nil stands⟩
    · rw [name, String.toList_ofList]
      exact Run.staysIn_of_plain some (fun n hn => plain file hfile n (ends.subset hn)) _

/-- A directory with a script in it whose name holds a backslash. -/
def backslashScript : FileSystem where
  home := ["work".toList]
  files := [(["work".toList, "in".toList, "..\\evil.js".toList], .text "a;")]

/-- The script is written beside the output directory. -/
theorem backslash_leads_out :
    Run.written backslashScript { inputs := ["in"], outDir := some "out" } "out"
        = [⟨"../evil.tsx", "import React from 'react';\n\na;\n"⟩]
      ∧ ¬∀ f ∈ Run.written backslashScript { inputs := ["in"], outDir := some "out" } "out",
        Path.Beneath (backslashScript.resolve "out".toList) (f.placeIn backslashScript "out") := by
  have name : String.ofList (tsxFileName "../evil.js".toList) = "../evil.tsx" := by decide +kernel
  have loaded : Run.load backslashScript { inputs := ["in"], outDir := some "out" }
      = .ok ({}, [⟨"../evil.js", "a;"⟩]) := by decide +kernel
  have converted : (convertBatch {} [⟨"../evil.js", "a;"⟩]).converted
      = [⟨"../evil.tsx", "import React from 'react';\n\na;\n"⟩] := by
    simp only [convertBatch, Toolchain.convertBatch, Toolchain.addTo, List.foldl_cons, List.foldl_nil,
      Toolchain.convert_standard, convert_scripts.1, name]
    rfl
  have written : Run.written backslashScript { inputs := ["in"], outDir := some "out" } "out"
      = [⟨"../evil.tsx", "import React from 'react';\n\na;\n"⟩] := by
    rw [Run.written, loaded]
    dsimp only
    rw [converted]
    decide +kernel
  have parsed : Request.parse ["in", "--out-dir", "out"]
      = .ok (.run { inputs := ["in"], outDir := some "out" }) := by decide +kernel
  refine ⟨written, fun beneath => ?_⟩
  -- by the equivalence it is enough that the name climbs out and does not come back
  have leaves := (@out_dir_contains_iff backslashScript _ _ _ parsed rfl rfl).2
  rw [written] at beneath leaves
  have stays := (leaves _ (List.mem_singleton_self _)).2.2.1.mp (beneath _ (List.mem_singleton_self _))
  have route : Path.route (Path.parts "../evil.tsx".toList)
      = { climb := 1, names := ["evil.tsx".toList] } := by decide +kernel
  have directory : backslashScript.resolve "out".toList = ["work".toList, "out".toList] := by decide +kernel
  have relative : Path.isAbsolute "../evil.tsx".toList = false := by decide +kernel
  rw [Path.StaysIn, route, directory, relative] at stays
  obtain ⟨below, -, back⟩ := stays
  have back : ["evil.tsx".toList] = "out".toList :: below := back
  exact absurd (List.cons.inj back).1 (by decide +kernel)

end TypedJsx
