import Mathlib.Data.List.Forall2
import TypedJsx.CommandLine.Run
import TypedJsx.Proofs.Batch
/-!
What a run reads. The actions of a run each have an equation, and an action that comes after another one
begins where that one stopped, or not at all. So the whole run comes to what loading gives in the file system
at its start (`Run.perform_program_of_loaded`), or stops there (`Run.perform_program_of_unloaded`).

The inputs come to a list of places (`Run.places`), which depends on the file system but not on what its files
hold: a directory stands for what a walk finds in it (`FileSystem.mem_filesBelow_iff`). Each place is read, one
after the other (`Run.sources_eq`). So a run can load exactly if there is a place, every place can be read, and
the settings are there (`Run.canLoad_iff`).
-/
namespace TypedJsx

/-! ## Actions -/

namespace Action

variable {α β : Type}

@[simp] theorem perform_pure (a : α) (s : Session) : (pure a : Action α).perform s = (.ok a, s) := rfl

/-- What comes after an action begins in the session that the action leaves, unless it fails. -/
theorem perform_bind (x : Action α) (f : α → Action β) (s : Session) :
    (x >>= f).perform s = match x.perform s with
      | (.ok a, later) => (f a).perform later
      | (.error e, later) => (.error e, later) := by
  unfold perform ExceptT.run
  simp only [bind, ExceptT.bind, ExceptT.mk, StateT.bind, ExceptT.bindCont]
  cases x s with
  | mk result later => cases result <;> rfl

@[simp] theorem perform_ask (question : FileSystem → Except FatalError α) (s : Session) :
    (ask question).perform s = (question s.fileSystem, s) := rfl

@[simp] theorem perform_print (text : String) (s : Session) :
    (print text).perform s = (.ok (), { s with stdout := s.stdout ++ text }) := rfl

@[simp] theorem perform_report (text : String) (s : Session) :
    (report text).perform s = (.ok (), { s with stderr := s.stderr ++ text }) := rfl

theorem perform_change (step : FileSystem → FileSystem × Option FatalError) (s : Session) :
    (change step).perform s = (match (step s.fileSystem).2 with
      | some e => .error e
      | none => .ok (), { s with fileSystem := (step s.fileSystem).1 }) := rfl

end Action

namespace Run

variable {fs : FileSystem} {a : Arguments}

theorem load_cases (fs : FileSystem) (a : Arguments) :
    (∃ e, load fs a = .error e ∧ (config fs a = .error e
      ∨ ∃ c, config fs a = .ok c ∧ sources fs a.inputs = .error e))
    ∨ ∃ c files, load fs a = .ok (c, files) ∧ config fs a = .ok c ∧ sources fs a.inputs = .ok files := by
  unfold load
  cases hc : config fs a with
  | error e => exact .inl ⟨e, rfl, .inl rfl⟩
  | ok c =>
    cases hs : sources fs a.inputs with
    | error e => exact .inl ⟨e, rfl, .inr ⟨c, rfl, rfl⟩⟩
    | ok files => exact .inr ⟨c, files, rfl, rfl, rfl⟩

theorem perform_program_of_unloaded {e : FatalError} (h : load fs a = .error e) :
    (program a).perform { fileSystem := fs } = (.error e, { fileSystem := fs }) := by
  rcases load_cases fs a with ⟨e', loaded, refused⟩ | ⟨c, files, loaded, -⟩
  · obtain rfl : e' = e := by simpa [loaded] using h
    rcases refused with noConfig | ⟨c, hasConfig, noSources⟩
    · simp [program, Action.perform_bind, noConfig]
    · simp [program, Action.perform_bind, hasConfig, noSources]
  · simp [loaded] at h

/-- A run that can load converts what it loaded, reports, and writes; the session before it writes is that of
the start but for what was printed. -/
theorem perform_program_of_loaded {c : Config} {files : List SourceFile} (h : load fs a = .ok (c, files)) :
    (program a).perform { fileSystem := fs } = match writeAll a fs (convertBatch c files).converted with
      | (later, none) => (.ok (convertBatch c files).isClean, {
        fileSystem := later
        stdout := earlyOutput a (convertBatch c files) ++ lateOutput a (convertBatch c files)
        stderr := diagnosticsText (convertBatch c files) })
      | (later, some e) => (.error e, {
        fileSystem := later
        stdout := earlyOutput a (convertBatch c files)
        stderr := diagnosticsText (convertBatch c files) }) := by
  rcases load_cases fs a with ⟨e, loaded, -⟩ | ⟨c', files', loaded, hasConfig, hasSources⟩
  · simp [loaded] at h
  · obtain ⟨rfl, rfl⟩ : c' = c ∧ files' = files := by simpa [loaded] using h
    rw [program]
    simp only [Action.perform_bind, Action.perform_ask, hasConfig, hasSources, Action.perform_report,
      Action.perform_print, Action.perform_change, Action.perform_pure, String.empty_append]
    cases writeAll a fs (convertBatch c' files').converted with
    | mk later failure => cases failure <;> rfl

theorem convertFiles_of_unloaded {e : FatalError} (h : load fs a = .error e) :
    convertFiles fs a = { exitCode := 1, stderr := e.message, fileSystem := fs } := by
  rw [convertFiles, perform_program_of_unloaded h]
  simp

theorem convertFiles_of_loaded {c : Config} {files : List SourceFile} (h : load fs a = .ok (c, files)) :
    convertFiles fs a = match writeAll a fs (convertBatch c files).converted with
      | (later, none) => {
        exitCode := if (convertBatch c files).isClean then 0 else 1
        stdout := earlyOutput a (convertBatch c files) ++ lateOutput a (convertBatch c files)
        stderr := diagnosticsText (convertBatch c files)
        fileSystem := later }
      | (later, some e) => {
        exitCode := 1
        stdout := earlyOutput a (convertBatch c files)
        stderr := diagnosticsText (convertBatch c files) ++ e.message
        fileSystem := later } := by
  rw [convertFiles, perform_program_of_loaded h]
  cases writeAll a fs (convertBatch c files).converted with
  | mk later failure => cases failure <;> rfl

end Run

/-! ## Lists of results -/

section MapM

variable {ε α β γ : Type} {g : α → Except ε β}

theorem mapM_eq_ok_iff {as : List α} {bs : List β} :
    as.mapM g = .ok bs ↔ List.Forall₂ (fun a b => g a = .ok b) as bs := by
  induction as generalizing bs with
  | nil => cases bs <;> simp [pure, Except.pure]
  | cons a as ih =>
    rw [List.mapM_cons, List.forall₂_cons_left_iff]
    constructor
    · intro h
      obtain ⟨b, here, h⟩ := exists_of_bind_eq_ok h
      obtain ⟨rest, later, h⟩ := exists_of_bind_eq_ok h
      exact ⟨b, rest, here, ih.mp later, (Except.ok.inj h).symm⟩
    · rintro ⟨b, rest, here, later, rfl⟩
      rw [here, ih.mpr later]
      rfl

theorem exists_mapM_eq_ok {as : List α} (h : ∀ a ∈ as, ∃ b, g a = .ok b) : ∃ bs, as.mapM g = .ok bs := by
  induction as with
  | nil => exact ⟨[], rfl⟩
  | cons a as ih =>
    rw [List.forall_mem_cons] at h
    obtain ⟨⟨b, here⟩, later⟩ := h
    obtain ⟨bs, later⟩ := ih later
    exact ⟨b :: bs, mapM_eq_ok_iff.mpr (.cons here (mapM_eq_ok_iff.mp later))⟩

theorem exists_of_mem_right {R : α → β → Prop} {as : List α} {bs : List β} (h : List.Forall₂ R as bs)
    {b : β} (hb : b ∈ bs) : ∃ a ∈ as, R a b := by
  induction h with
  | nil => cases hb
  | @cons a b' as bs here _ ih =>
    rcases List.mem_cons.mp hb with rfl | hb
    · exact ⟨a, List.mem_cons_self, here⟩
    · obtain ⟨a', mem, found⟩ := ih hb
      exact ⟨a', List.mem_cons_of_mem a mem, found⟩

theorem mapM_flatMap (parts : γ → List α) (cs : List γ) :
    (cs.flatMap parts).mapM g = (cs.mapM fun c => (parts c).mapM g) >>= fun bs => pure bs.flatten := by
  induction cs with
  | nil => rfl
  | cons c cs ih => simp [ih]

end MapM

/-! ## Walks -/

theorem FileSystem.isHiddenFrom_append_iff {fs : FileSystem} {place parts : List (List Char)} :
    fs.isHiddenFrom place (place ++ parts) = true ↔
      ∃ front, front <+: parts ∧ front ≠ parts ∧ place ++ front ∈ fs.unlisted := by
  simp only [isHiddenFrom, List.any_eq_true, Bool.and_eq_true, List.isPrefixOf_iff_prefix,
    decide_eq_true_eq]
  constructor
  · rintro ⟨_, unlisted, ⟨⟨front, rfl⟩, above⟩, length⟩
    refine ⟨front, List.prefix_append_right_inj place |>.mp above, ?_, unlisted⟩
    rintro rfl
    exact Nat.lt_irrefl _ length
  · rintro ⟨front, above, differ, unlisted⟩
    have strict : front.length < parts.length :=
      Nat.lt_of_le_of_ne above.length_le fun same => differ (above.eq_of_length same)
    refine ⟨_, unlisted, ⟨List.prefix_append _ _, (List.prefix_append_right_inj place).mpr above⟩, ?_⟩
    simpa using strict

/-- A walk finds the files below a directory, if this one and each that is on the way can be listed. -/
theorem FileSystem.mem_filesBelow_iff {fs : FileSystem} {path : List Char} {parts : List (List Char)} :
    parts ∈ fs.filesBelow path ↔ parts ≠ [] ∧ (∃ file ∈ fs.files, file.1 = fs.resolve path ++ parts)
      ∧ ∀ front, front <+: parts → front ≠ parts → fs.resolve path ++ front ∉ fs.unlisted := by
  simp only [filesBelow, List.mem_mergeSort, List.mem_map, List.mem_filter, Bool.and_eq_true,
    List.isPrefixOf_iff_prefix, decide_eq_true_eq, Bool.not_eq_true', ← Bool.not_eq_true]
  constructor
  · rintro ⟨file, ⟨mem, ⟨⟨below, split⟩, length⟩, shown⟩, rfl⟩
    rw [← split, List.drop_left]
    rw [← split, isHiddenFrom_append_iff] at shown
    refine ⟨?_, ⟨file, mem, split.symm⟩, fun front above differ unlisted =>
      shown ⟨front, above, differ, unlisted⟩⟩
    rintro rfl
    simp [← split] at length
  · rintro ⟨some, ⟨file, mem, split⟩, listed⟩
    refine ⟨file, ⟨mem, ⟨⟨parts, split.symm⟩, ?_⟩, ?_⟩, by rw [split, List.drop_left]⟩
    · simpa [split] using List.length_pos_iff.mpr some
    · rw [split, isHiddenFrom_append_iff]
      rintro ⟨front, above, differ, unlisted⟩
      exact listed front above differ unlisted

namespace Run

variable {fs : FileSystem} {a : Arguments} {inputs : List String} {files : List SourceFile}

/-! ## Places -/

/-- Where a source is read, and what it is named after. -/
structure Place where
  path : List Char
  name : List Char
deriving DecidableEq

/-- The places of an input: those below a directory, or the input itself. -/
def placesOf (fs : FileSystem) (input : String) : List Place :=
  if fs.isDirectory input.toList then
    ((fs.filesBelow input.toList).filter isSource).map fun parts =>
      ⟨Path.join input.toList (joinWith ['/'] parts), joinWith ['/'] parts⟩
  else [⟨input.toList, (Path.fileName? input.toList).getD input.toList⟩]

def places (fs : FileSystem) (inputs : List String) : List Place := inputs.flatMap (placesOf fs)

/-- A directory that cannot be listed has no places, and nothing is said about it. -/
theorem placesOf_unlisted {input : String} (isDirectory : fs.isDirectory input.toList = true)
    (unlisted : fs.resolve input.toList ∈ fs.unlisted) : placesOf fs input = [] := by
  have nothing : fs.filesBelow input.toList = [] := by
    refine List.eq_nil_iff_forall_not_mem.mpr fun parts found => ?_
    obtain ⟨some, -, listed⟩ := FileSystem.mem_filesBelow_iff.mp found
    exact listed [] List.nil_prefix some.symm (by simpa using unlisted)
  rw [placesOf, if_pos isDirectory, nothing]
  rfl

example :
    let files := [(["locked".toList, "a.jsx".toList], .text ""), (["b.jsx".toList], .text "")]
    places { files := files, unlisted := [["locked".toList]] } ["locked", "b.jsx"]
      = [⟨"b.jsx".toList, "b.jsx".toList⟩] := by
  decide +kernel

/-- The source at a place, as the file system has it. -/
structure Place.Gives (fs : FileSystem) (place : Place) (f : SourceFile) : Prop where
  name : f.name = sourceName place.name
  content : fs.readText place.path = .ok f.content

theorem of_inContext_eq_ok {α : Type} {context : String} {result : Except FileError α} {a : α}
    (h : inContext context result = .ok a) : result = .ok a := by
  cases result with
  | ok b => exact congrArg Except.ok (Except.ok.inj h)
  | error e => cases h

theorem readSource_eq_ok_iff {place : Place} {f : SourceFile} :
    readSource fs place.path place.name = .ok f ↔ place.Gives fs f := by
  constructor
  · intro h
    obtain ⟨text, read, h⟩ := exists_of_bind_eq_ok h
    obtain rfl := Except.ok.inj h
    exact ⟨rfl, of_inContext_eq_ok read⟩
  · rintro ⟨name, content⟩
    rw [readSource, content, ← name]
    rfl

/-! ## Sources -/

/-- Reads the sources at places, one after the other. -/
def readPlaces (fs : FileSystem) (places : List Place) : Except FatalError (List SourceFile) :=
  places.mapM fun place => readSource fs place.path place.name

theorem readPlaces_eq_ok_iff {places : List Place} :
    readPlaces fs places = .ok files ↔ List.Forall₂ (Place.Gives fs) places files := by
  simp only [readPlaces, mapM_eq_ok_iff, readSource_eq_ok_iff]

theorem sourcesOf_eq (fs : FileSystem) (input : String) :
    sourcesOf fs input = readPlaces fs (placesOf fs input) := by
  unfold sourcesOf placesOf
  dsimp only
  split
  · rw [readPlaces, List.mapM_map]
    rfl
  · simp [readPlaces]

/-- The sources of all inputs are read place by place; there has to be one. -/
theorem sources_eq (fs : FileSystem) (inputs : List String) :
    sources fs inputs = readPlaces fs (places fs inputs) >>= fun files =>
      if files.isEmpty then .error ⟨["no .jsx or .js files found"]⟩ else .ok files := by
  have each : sourcesOf fs = fun input => readPlaces fs (placesOf fs input) := funext (sourcesOf_eq fs)
  rw [sources, places, readPlaces, mapM_flatMap, each, bind_assoc]
  simp only [pure_bind]
  rfl

theorem sources_eq_ok_iff : sources fs inputs = .ok files ↔
    files ≠ [] ∧ List.Forall₂ (Place.Gives fs) (places fs inputs) files := by
  rw [sources_eq, ← readPlaces_eq_ok_iff]
  constructor
  · intro h
    obtain ⟨found, read, h⟩ := exists_of_bind_eq_ok h
    split at h
    · cases h
    · rename_i some
      obtain rfl := Except.ok.inj h
      exact ⟨fun none => some (List.isEmpty_iff.mpr none), read⟩
  · rintro ⟨some, read⟩
    rw [read]
    exact if_neg fun none => some (List.isEmpty_iff.mp none)

/-! ## Runs that can load -/

theorem load_eq_ok_iff {c : Config} : load fs a = .ok (c, files) ↔
    config fs a = .ok c ∧ files ≠ [] ∧ List.Forall₂ (Place.Gives fs) (places fs a.inputs) files := by
  rw [← sources_eq_ok_iff]
  constructor
  · intro h
    obtain ⟨c, hasConfig, h⟩ := exists_of_bind_eq_ok h
    obtain ⟨files, hasSources, h⟩ := exists_of_bind_eq_ok h
    obtain ⟨rfl, rfl⟩ := Prod.mk.inj (Except.ok.inj h)
    exact ⟨hasConfig, hasSources⟩
  · rintro ⟨hasConfig, hasSources⟩
    rw [load, hasConfig, hasSources]
    rfl

/-- A run can load: its settings are there, there are places to read at, and each can be read. -/
structure CanLoad (fs : FileSystem) (a : Arguments) : Prop where
  config : ∃ c, Run.config fs a = .ok c
  some : places fs a.inputs ≠ []
  readable : ∀ place ∈ places fs a.inputs, ∃ text, fs.readText place.path = .ok text

theorem canLoad_iff : CanLoad fs a ↔ ∃ c files, load fs a = .ok (c, files) := by
  constructor
  · rintro ⟨⟨c, hasConfig⟩, some, readable⟩
    -- a place that can be read gives a source, whatever its name
    have each : ∀ place ∈ places fs a.inputs, ∃ f, readSource fs place.path place.name = .ok f := by
      intro place mem
      obtain ⟨text, read⟩ := readable place mem
      exact ⟨⟨sourceName place.name, text⟩, readSource_eq_ok_iff.mpr ⟨rfl, read⟩⟩
    obtain ⟨files, read⟩ := exists_mapM_eq_ok each
    have gives := readPlaces_eq_ok_iff.mp read
    refine ⟨c, files, load_eq_ok_iff.mpr ⟨hasConfig, ?_, gives⟩⟩
    rintro rfl
    exact some (List.forall₂_nil_right_iff.mp gives)
  · rintro ⟨c, files, loaded⟩
    obtain ⟨hasConfig, some, gives⟩ := load_eq_ok_iff.mp loaded
    refine ⟨⟨c, hasConfig⟩, fun none => ?_, ?_⟩
    · rw [none] at gives
      exact some (List.forall₂_nil_left_iff.mp gives)
    · exact ((List.forall₂_and_left _ _).mp (gives.imp fun place f h => ⟨⟨f.content, h.content⟩, h⟩)).1

end Run

end TypedJsx
