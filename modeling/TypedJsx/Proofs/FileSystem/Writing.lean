import Mathlib.Data.List.Basic
import TypedJsx.FileSystem
import TypedJsx.Proofs.FileSystem.Path
/-!
What writing a file does to a file system. A file stands at a place if no directory is there and no file is
above it; such a file is what reading the place gives, by any path that can be followed. Making directories
and writing keep the working directory, all directories, and every file that stands anywhere but at the place
that is written (`FileSystem.ChangesOnly`). This needs no assumption on the file system before: what is
refused by the checks of a write is exactly what could do harm to other files. Where directories were made for
a file, nothing but the end of its path and what stands at its place can refuse it
(`exists_write_iff_of_createDirectories`).
-/
namespace TypedJsx.FileSystem

variable {fs later : FileSystem} {path : List Char} {place other : List (List Char)}
  {content : FileContent}

/-! ## Directories and files by their places -/

theorem isDirectoryAt_iff : fs.isDirectoryAt place = true ↔
    place <+: fs.home ∨ (∃ d ∈ fs.directories, place <+: d)
      ∨ ∃ f ∈ fs.files, place <+: f.1 ∧ place.length < f.1.length := by
  simp [isDirectoryAt, or_assoc]

theorem isDirectoryAt_above (h : fs.isDirectoryAt place = true) (above : other <+: place) :
    fs.isDirectoryAt other = true := by
  rw [isDirectoryAt_iff] at h ⊢
  rcases h with home | ⟨d, hd, known⟩ | ⟨f, hf, below, length⟩
  · exact .inl (above.trans home)
  · exact .inr (.inl ⟨d, hd, above.trans known⟩)
  · exact .inr (.inr ⟨f, hf, above.trans below, above.length_le.trans_lt length⟩)

theorem isDirectoryAt_origin (fs : FileSystem) (path : List Char) :
    fs.isDirectoryAt (fs.origin path) = true := by
  rw [isDirectoryAt_iff, origin]
  split
  · exact .inl List.nil_prefix
  · exact .inl List.prefix_rfl

theorem exists_of_file? (h : fs.file? place = some content) : ∃ f ∈ fs.files, f.1 = place := by
  obtain ⟨f, found, -⟩ := Option.map_eq_some_iff.mp h
  exact ⟨f, List.mem_of_find?_eq_some found, by simpa using List.find?_some found⟩

theorem isDirectoryAt_of_file? (h : fs.file? place = some content) (above : other <+: place)
    (length : other.length < place.length) : fs.isDirectoryAt other = true := by
  obtain ⟨f, hf, rfl⟩ := exists_of_file? h
  exact isDirectoryAt_iff.mpr (.inr (.inr ⟨f, hf, above, length⟩))

/-- A file that stands at a place and can be read there. -/
structure StandsAt (fs : FileSystem) (place : List (List Char)) (content : FileContent) : Prop where
  file : fs.file? place = some content
  noDirectory : fs.isDirectoryAt place = false
  notBelow : fs.isBelowFile place = false

/-! ## Ways -/

theorem obstacleFrom?_cons_eq_none_iff {p : List Char} {rest : List (List Char)} :
    fs.obstacleFrom? place (p :: rest) = none ↔
      fs.isDirectoryAt (Path.enter place p) = true ∧ fs.obstacleFrom? (Path.enter place p) rest = none := by
  rw [obstacleFrom?]
  split <;> simp_all

theorem obstacle?_eq_none_iff : fs.obstacle? path = none ↔
    fs.obstacleFrom? (fs.origin path) (Path.way path) = none
      ∧ fs.isBelowFile (fs.resolve path) = false := by
  simp [obstacle?]

theorem isDirectoryAt_follow {parts : List (List Char)} (isDirectory : fs.isDirectoryAt place = true)
    (clear : fs.obstacleFrom? place parts = none) :
    fs.isDirectoryAt (Path.follow place parts) = true := by
  induction parts generalizing place with
  | nil => exact isDirectory
  | cons p rest ih =>
    rw [obstacleFrom?_cons_eq_none_iff] at clear
    exact ih clear.1 clear.2

theorem exists_name_of_clear (clear : fs.obstacleFrom? (fs.origin path) (Path.way path) = none)
    (noDirectory : fs.isDirectoryAt (fs.resolve path) = false) :
    Path.endsInDot path = false ∧ ∃ front name, Path.parts path = front ++ [name] ∧ name ≠ ['.', '.']
      ∧ fs.isDirectoryAt (Path.follow (fs.origin path) front) = true
      ∧ fs.resolve path = Path.follow (fs.origin path) front ++ [name] := by
  have start := fs.isDirectoryAt_origin path
  have leads := isDirectoryAt_follow start clear
  rw [Path.way] at clear leads
  rw [resolve] at noDirectory ⊢
  split at leads
  · rw [leads] at noDirectory
    cases noDirectory
  rename_i noDot
  refine ⟨by simpa using noDot, ?_⟩
  rcases List.eq_nil_or_concat' (Path.parts path) with none | ⟨front, name, parts⟩
  · rw [none, Path.follow, List.foldl_nil, start] at noDirectory
    cases noDirectory
  rw [parts, List.dropLast_concat] at leads
  have place : Path.follow (fs.origin path) (front ++ [name])
      = Path.enter (Path.follow (fs.origin path) front) name := List.foldl_concat ..
  rw [parts, place, Path.enter] at noDirectory ⊢
  -- going up from a directory would lead to a directory
  have notUp : name ≠ ['.', '.'] := by
    rintro rfl
    rw [if_pos (beq_self_eq_true _), isDirectoryAt_above leads (List.dropLast_prefix _)] at noDirectory
    cases noDirectory
  exact ⟨front, name, rfl, notUp, leads, if_neg (by simpa using notUp)⟩

/-! ## The frame of a change -/

/-- What a change keeps: the working directory, the directories, which of them can be listed, and the files
that stand at other places than those touched. -/
structure ChangesOnly (fs later : FileSystem) (touched : List (List (List Char))) : Prop where
  home : later.home = fs.home
  unlisted : later.unlisted = fs.unlisted
  directory : ∀ place, fs.isDirectoryAt place = true → later.isDirectoryAt place = true
  file : ∀ place content, place ∉ touched → fs.StandsAt place content → later.StandsAt place content

namespace ChangesOnly

variable {touched : List (List (List Char))}

theorem refl (fs : FileSystem) : fs.ChangesOnly fs [] where
  home := rfl
  unlisted := rfl
  directory _ h := h
  file _ _ _ h := h

theorem trans {last : FileSystem} {more : List (List (List Char))} (h : fs.ChangesOnly later touched)
    (h' : later.ChangesOnly last more) : fs.ChangesOnly last (touched ++ more) where
  home := h'.home.trans h.home
  unlisted := h'.unlisted.trans h.unlisted
  directory place isDirectory := h'.directory place (h.directory place isDirectory)
  file place content untouched stands := by
    rw [List.mem_append, not_or] at untouched
    exact h'.file place content untouched.2 (h.file place content untouched.1 stands)

theorem resolve (h : fs.ChangesOnly later touched) (path : List Char) :
    later.resolve path = fs.resolve path := by
  rw [FileSystem.resolve, FileSystem.resolve, origin, origin, h.home]

theorem obstacleFrom?_eq_none (h : fs.ChangesOnly later touched) {parts : List (List Char)}
    (clear : fs.obstacleFrom? place parts = none) : later.obstacleFrom? place parts = none := by
  induction parts generalizing place with
  | nil => rfl
  | cons p rest ih =>
    rw [obstacleFrom?_cons_eq_none_iff] at clear ⊢
    exact ⟨h.directory _ clear.1, ih clear.2⟩

end ChangesOnly

/-! ## Paths of files -/

/-- A path that can be followed, and that says nothing against a file at its end. -/
structure IsFilePath (fs : FileSystem) (path : List Char) : Prop where
  clear : fs.obstacleFrom? (fs.origin path) (Path.way path) = none
  noSlash : Path.endsInSlash path = false

theorem ChangesOnly.isFilePath {touched : List (List (List Char))} (h : fs.ChangesOnly later touched)
    (isFilePath : fs.IsFilePath path) : later.IsFilePath path where
  clear := by
    have clear := h.obstacleFrom?_eq_none isFilePath.clear
    rwa [origin, h.home]
  noSlash := isFilePath.noSlash

theorem readText_eq_ok_iff (isFilePath : fs.IsFilePath path)
    (stands : fs.StandsAt (fs.resolve path) content) (text : String) :
    fs.readText path = .ok text ↔ content = .text text := by
  have clear := obstacle?_eq_none_iff.mpr ⟨isFilePath.clear, stands.notBelow⟩
  cases content <;> simp [readText, clear, isFilePath.noSlash, stands.file, stands.noDirectory]

/-! ## Making directories -/

theorem prefix_of_prefix_enter {p : List Char} (h : other <+: Path.enter place p) :
    other = Path.enter place p ∨ other <+: place := by
  unfold Path.enter at h ⊢
  split at h
  · exact .inr (h.trans (List.dropLast_prefix place))
  · rename_i name
    rw [if_neg name]
    exact List.prefix_concat_iff.mp h

theorem isDirectoryAt_with_directory (d : List (List Char)) :
    isDirectoryAt { fs with directories := fs.directories ++ [d] } place = true
      ↔ fs.isDirectoryAt place = true ∨ place <+: d := by
  rw [isDirectoryAt_iff, isDirectoryAt_iff]
  simp only [List.mem_append, List.mem_singleton, or_and_right, exists_or, exists_eq_left,
    or_assoc]
  grind

/-- One more directory in a directory, where no file is, leaves everything as it was. -/
theorem changesOnly_of_directory {p : List Char} (isDirectory : fs.isDirectoryAt place = true)
    (free : fs.file? (Path.enter place p) = none) :
    fs.ChangesOnly { fs with directories := fs.directories ++ [Path.enter place p] } [] where
  home := rfl
  unlisted := rfl
  directory other h := (isDirectoryAt_with_directory _).mpr (.inl h)
  file other content _ stands := by
    refine ⟨stands.file, ?_, stands.notBelow⟩
    rw [← Bool.not_eq_true, isDirectoryAt_with_directory]
    have noDirectory := Bool.eq_false_iff.mp stands.noDirectory
    rintro (there | above)
    · exact noDirectory there
    · rcases prefix_of_prefix_enter above with rfl | above
      · rw [stands.file] at free
        cases free
      · exact noDirectory (isDirectoryAt_above isDirectory above)

theorem makeDirectories_spec {hasMade : Bool} {parts : List (List Char)} {failure : Option FileError}
    (isDirectory : fs.isDirectoryAt place = true)
    (made : fs.makeDirectories hasMade place parts = (later, failure)) :
    fs.ChangesOnly later [] ∧ later.files = fs.files
      ∧ (failure = none → later.obstacleFrom? place parts = none) := by
  induction parts generalizing fs hasMade place with
  | nil =>
    obtain rfl := (Prod.mk.inj made).1
    exact ⟨.refl fs, rfl, fun _ => rfl⟩
  | cons p rest ih =>
    rw [makeDirectories] at made
    split at made
    · rename_i there
      obtain ⟨changes, files, clear⟩ := ih there made
      exact ⟨changes, files, fun done =>
        obstacleFrom?_cons_eq_none_iff.mpr ⟨changes.directory _ there, clear done⟩⟩
    · split at made
      · obtain ⟨rfl, rfl⟩ := Prod.mk.inj made
        exact ⟨.refl fs, rfl, fun done => by cases done⟩
      · rename_i free
        -- the directory is new; from here the way goes on in a system that has it
        have step := changesOnly_of_directory isDirectory (by simpa using free)
        have there : isDirectoryAt { fs with directories := fs.directories ++ [Path.enter place p] }
            (Path.enter place p) = true := (isDirectoryAt_with_directory _).mpr (.inr List.prefix_rfl)
        obtain ⟨changes, files, clear⟩ := ih there made
        exact ⟨step.trans changes, files, fun done =>
          obstacleFrom?_cons_eq_none_iff.mpr ⟨changes.directory _ there, clear done⟩⟩

/-- Making the directories of a path changes nothing else, also when it fails. -/
theorem createDirectories_spec {failure : Option FileError}
    (made : fs.createDirectories path = (later, failure)) :
    fs.ChangesOnly later [] ∧ later.files = fs.files
      ∧ (failure = none → later.obstacleFrom? (fs.origin path) (Path.parts path) = none) :=
  makeDirectories_spec (fs.isDirectoryAt_origin path) made

/-! ## Writing a file -/

theorem fst_replaced (place : List (List Char)) (content : FileContent)
    (f : List (List Char) × FileContent) :
    (if f.1 == place then (place, content) else f).1 = f.1 := by
  by_cases h : f.1 = place <;> simp [h]

theorem any_put (fs : FileSystem) (place : List (List Char)) (content : FileContent)
    (P : List (List Char) → Bool) :
    ((fs.put place content).files.any fun f => P f.1) = ((fs.files.any fun f => P f.1) || P place) := by
  unfold put
  split
  · rename_i there
    obtain ⟨c, hc⟩ := Option.isSome_iff_exists.mp there
    obtain ⟨f, hf, rfl⟩ := exists_of_file? hc
    simp only [List.any_map, Function.comp_def, fst_replaced]
    cases hP : P f.1 with
    | false => exact (Bool.or_false _).symm
    | true => simpa using ⟨f.1, ⟨f.2, hf⟩, hP⟩
  · simp

theorem file?_put (fs : FileSystem) (place other : List (List Char)) (content : FileContent) :
    (fs.put place content).file? other = if other = place then some content else fs.file? other := by
  unfold put
  split
  · rename_i there
    simp only [file?, List.find?_map, Function.comp_def, fst_replaced, Option.map_map]
    split
    · rename_i same
      subst same
      obtain ⟨f, found⟩ := Option.isSome_iff_exists.mp (Option.isSome_map.symm.trans there)
      have there' : f.1 = other := by simpa using List.find?_some found
      simp [found, there']
    · rename_i differ
      refine Option.map_congr fun f found => ?_
      have there' : f.1 = other := by simpa using List.find?_some found
      simp [there', differ]
  · rename_i free
    have none : fs.files.find? (fun f => f.1 == place) = none :=
      Option.map_eq_none_iff.mp (Option.not_isSome_iff_eq_none.mp free)
    split
    · rename_i same
      simp [file?, same, none]
    · rename_i differ
      simp [file?, List.find?_append, Ne.symm differ]

theorem isBelowFile_put (fs : FileSystem) (place other : List (List Char)) (content : FileContent) :
    (fs.put place content).isBelowFile other
      = (fs.isBelowFile other || (place.isPrefixOf other && decide (place.length < other.length))) :=
  fs.any_put place content fun p => p.isPrefixOf other && p.length < other.length

theorem isDirectoryAt_put (fs : FileSystem) (place other : List (List Char)) (content : FileContent) :
    (fs.put place content).isDirectoryAt other
      = (fs.isDirectoryAt other || (other.isPrefixOf place && decide (other.length < place.length))) := by
  have known : (fs.put place content).home = fs.home
      ∧ (fs.put place content).directories = fs.directories := by
    unfold put
    split <;> exact ⟨rfl, rfl⟩
  have files := fs.any_put place content fun p => other.isPrefixOf p && other.length < p.length
  rw [isDirectoryAt, known.1, known.2, files, isDirectoryAt, Bool.or_assoc, Bool.or_assoc, Bool.or_assoc]

theorem isDirectoryAt_put_of_parent (parent : fs.isDirectoryAt place.dropLast = true) :
    (fs.put place content).isDirectoryAt other = fs.isDirectoryAt other := by
  rw [isDirectoryAt_put]
  cases h : other.isPrefixOf place && decide (other.length < place.length) with
  | false => exact Bool.or_false _
  | true =>
    rw [Bool.and_eq_true, List.isPrefixOf_iff_prefix, decide_eq_true_iff] at h
    have above : other <+: place.dropLast := by
      rw [List.dropLast_eq_take]
      exact List.prefix_take_iff.mpr ⟨h.1, by omega⟩
    rw [isDirectoryAt_above parent above]
    rfl

/-- A file that is put into a directory, at a place that is no directory and not below a file, stands there,
and nothing else changes. -/
theorem put_spec (parent : fs.isDirectoryAt place.dropLast = true)
    (noDirectory : fs.isDirectoryAt place = false) (notBelow : fs.isBelowFile place = false) :
    fs.ChangesOnly (fs.put place content) [place] ∧ (fs.put place content).StandsAt place content := by
  refine ⟨⟨?_, ?_, fun other h => ?_, fun other c untouched stands => ⟨?_, ?_, ?_⟩⟩, ⟨?_, ?_, ?_⟩⟩
  · unfold put
    split <;> rfl
  · unfold put
    split <;> rfl
  · rwa [isDirectoryAt_put_of_parent parent]
  · rw [file?_put, if_neg (by simpa using untouched), stands.file]
  · rw [isDirectoryAt_put_of_parent parent, stands.noDirectory]
  · rw [isBelowFile_put, stands.notBelow, Bool.false_or, Bool.and_eq_false_imp]
    intro above
    -- else the place would be a directory, with the other file in it
    refine decide_eq_false fun length => ?_
    have isDirectory := isDirectoryAt_of_file? stands.file (List.isPrefixOf_iff_prefix.mp above) length
    rw [noDirectory] at isDirectory
    cases isDirectory
  · rw [file?_put, if_pos rfl]
  · rw [isDirectoryAt_put_of_parent parent, noDirectory]
  · rw [isBelowFile_put, notBelow]
    simp

theorem write_eq_ok_iff : fs.write path content = .ok later ↔
    fs.obstacle? path = none ∧ fs.isDirectoryAt (fs.resolve path) = false
      ∧ Path.endsInSlash path = false ∧ later = fs.put (fs.resolve path) content := by
  unfold write
  cases fs.obstacle? path with
  | some e => simp
  | none =>
    cases fs.isDirectoryAt (fs.resolve path) <;> cases Path.endsInSlash path <;> simp [eq_comm]

/-- Writing puts a file where the path leads, and changes nothing else; the path can be read then. -/
theorem write_spec (written : fs.write path content = .ok later) :
    fs.ChangesOnly later [fs.resolve path] ∧ later.StandsAt (fs.resolve path) content
      ∧ later.IsFilePath path := by
  obtain ⟨clear, noDirectory, noSlash, rfl⟩ := write_eq_ok_iff.mp written
  obtain ⟨clear, notBelow⟩ := obstacle?_eq_none_iff.mp clear
  obtain ⟨-, front, name, -, -, parent, place⟩ := exists_name_of_clear clear noDirectory
  have parent : fs.isDirectoryAt (fs.resolve path).dropLast = true := by
    rwa [place, List.dropLast_concat]
  obtain ⟨changes, stands⟩ := put_spec parent noDirectory notBelow
  exact ⟨changes, stands, changes.isFilePath ⟨clear, noSlash⟩⟩

/-- Once the directories of a path are made, a file is written there just if the path says nothing against a
file, and no directory is there. -/
theorem exists_write_iff_of_createDirectories {made : FileSystem}
    (created : fs.createDirectories (Path.parent path) = (made, none)) :
    (∃ written, made.write path content = .ok written) ↔
      (Path.endsInDot path = false ∧ Path.endsInSlash path = false)
        ∧ made.isDirectoryAt (made.resolve path) = false ∧ made.isBelowFile (made.resolve path) = false := by
  obtain ⟨changes, -, clear⟩ := createDirectories_spec created
  simp only [write_eq_ok_iff, obstacle?_eq_none_iff]
  constructor
  · rintro ⟨later, ⟨clear, notBelow⟩, noDirectory, noSlash, -⟩
    exact ⟨⟨(exists_name_of_clear clear noDirectory).1, noSlash⟩, noDirectory, notBelow⟩
  · rintro ⟨⟨noDot, noSlash⟩, noDirectory, notBelow⟩
    refine ⟨_, ⟨?_, notBelow⟩, noDirectory, noSlash, rfl⟩
    -- a path without parts leads to a directory
    have some : Path.parts path ≠ [] := fun none => by
      rw [resolve, none, Path.follow, List.foldl_nil, isDirectoryAt_origin] at noDirectory
      cases noDirectory
    rw [Path.way, noDot, if_neg Bool.false_ne_true, ← Path.parts_parent]
    rw [origin, ← Path.isAbsolute_parent some, changes.home]
    exact clear rfl

end TypedJsx.FileSystem
