import Mathlib.Data.List.Nodup
import TypedJsx.Proofs.CommandLine.Output
/-!
What becomes of a batch that is packed. Nothing is known of a packer but that it keeps what it is given
(`Packer.IsLawful`): a name that was opened is refused, any other is opened, and the archive that is handed
over holds what was put into it. The files that are packed so far are the invariant of packing
(`Packer.Packs`), so packing comes to the search for a name that is there already
(`Packer.IsLawful.pack_eq`).

Main statement: a batch can be packed exactly if no two of the converted sources have the same stem.
Otherwise the first typed name that is there already is refused, and nothing is written.
-/
namespace TypedJsx

/-! ## Repeated names -/

theorem firstRepeated?_eq_none_iff {seen names : List String} :
    firstRepeated? seen names = none ↔ names.Nodup ∧ ∀ n ∈ names, n ∉ seen := by
  induction names generalizing seen with
  | nil => simp [firstRepeated?]
  | cons n names ih =>
    rw [firstRepeated?]
    by_cases known : n ∈ seen
    · simp [known]
    · simp only [List.contains_iff_mem, known, if_false, ih, List.nodup_cons, List.mem_cons,
        forall_eq_or_imp, not_or]
      constructor
      · rintro ⟨nodup, apart⟩
        exact ⟨⟨fun again => (apart n again).1 rfl, nodup⟩, not_false, fun m hm => (apart m hm).2⟩
      · rintro ⟨⟨fresh, nodup⟩, -, apart⟩
        exact ⟨nodup, fun m hm => ⟨fun same => fresh (same ▸ hm), apart m hm⟩⟩

theorem exists_of_firstRepeated?_eq_some {seen names : List String} {name : String}
    (h : firstRepeated? seen names = some name) : ∃ before after, names = before ++ name :: after
      ∧ before.Nodup ∧ (∀ n ∈ before, n ∉ seen) ∧ (name ∈ before ∨ name ∈ seen) := by
  induction names generalizing seen with
  | nil => cases h
  | cons n names ih =>
    rw [firstRepeated?] at h
    by_cases known : n ∈ seen
    · obtain rfl : n = name := by simpa [known] using h
      exact ⟨[], names, rfl, .nil, by simp, .inr known⟩
    · have h : firstRepeated? (n :: seen) names = some name := by simpa [known] using h
      obtain ⟨before, after, rfl, nodup, apart, repeated⟩ := ih h
      -- the first name is new, so it joins those in front and leaves those that were seen
      refine ⟨n :: before, after, rfl, List.nodup_cons.mpr ⟨fun again => ?_, nodup⟩, ?_, ?_⟩
      · exact apart n again List.mem_cons_self
      · rintro m (_ | ⟨_, hm⟩)
        · exact known
        · exact fun hs => apart m hm (List.mem_cons_of_mem n hs)
      · rw [List.mem_cons, or_comm (a := name = n), or_assoc, ← List.mem_cons]
        exact repeated

/-! ## Packers -/

theorem mapError_eq_ok_iff {ε ε' α : Type} {g : ε → ε'} {x : Except ε α} {a : α} :
    x.mapError g = .ok a ↔ x = .ok a := by
  cases x <;> simp [Except.mapError]

namespace Packer

/-- A state in which these files are packed. -/
inductive Packs (p : Packer) : p.State → List SourceFile → Prop where
  | start : p.Packs p.start []
  | add {s later : p.State} {files : List SourceFile} {f : SourceFile} (before : p.Packs s files)
      (added : p.add s f = .ok later) : p.Packs later (files ++ [f])

/-- A packer that keeps what it is given. A name is refused just if it was opened before. -/
structure IsLawful (p : Packer) : Prop where
  refuses {s : p.State} {files : List SourceFile} {name : String} (packed : p.Packs s files)
    (known : name ∈ files.map SourceFile.name) :
    p.openEntry s name = .error (Archive.duplicateMessage name)
  opens {s : p.State} {files : List SourceFile} {name : String} (packed : p.Packs s files)
    (fresh : name ∉ files.map SourceFile.name) :
    ∃ opened, p.openEntry s name = .ok opened ∧ ∀ content, ∃ later, p.write opened content = .ok later
  finishes {s : p.State} {files : List SourceFile} (packed : p.Packs s files) :
    p.finish s = .ok ⟨files⟩

variable {p : Packer}

theorem openNew_known {entries : List SourceFile} {name : String}
    (known : name ∈ entries.map SourceFile.name) :
    openNew entries name = .error (Archive.duplicateMessage name) := by
  obtain ⟨f, hf, rfl⟩ := List.mem_map.mp known
  have there : entries.any (·.name == f.name) = true := List.any_eq_true.mpr ⟨f, hf, beq_iff_eq.mpr rfl⟩
  exact if_pos there

theorem openNew_fresh {entries : List SourceFile} {name : String}
    (fresh : name ∉ entries.map SourceFile.name) : openNew entries name = .ok (entries ++ [⟨name, ""⟩]) := by
  refine if_neg fun known => fresh ?_
  obtain ⟨f, hf, same⟩ := List.any_eq_true.mp known
  exact List.mem_map.mpr ⟨f, hf, beq_iff_eq.mp same⟩

theorem writeLast_new (entries : List SourceFile) (name content : String) :
    writeLast (entries ++ [⟨name, ""⟩]) content = .ok (entries ++ [⟨name, content⟩]) := by
  simp [writeLast]

theorem eq_of_openNew_writeLast {entries opened later : List SourceFile} {f : SourceFile}
    (isOpen : openNew entries f.name = .ok opened) (written : writeLast opened f.content = .ok later) :
    later = entries ++ [f] := by
  by_cases known : f.name ∈ entries.map SourceFile.name
  · rw [openNew_known known] at isOpen
    cases isOpen
  · rw [openNew_fresh known] at isOpen
    obtain rfl := Except.ok.inj isOpen
    exact (Except.ok.inj ((writeLast_new ..).symm.trans written)).symm

theorem eq_of_packs_standard {entries : standard.State} {files : List SourceFile}
    (h : standard.Packs entries files) : entries = files := by
  induction h with
  | start => rfl
  | @add entries later files f _ added same =>
    subst same
    obtain ⟨opened, isOpen, written⟩ := exists_of_bind_eq_ok added
    exact eq_of_openNew_writeLast (mapError_eq_ok_iff.mp isOpen) (mapError_eq_ok_iff.mp written)

theorem isLawful_standard : standard.IsLawful where
  refuses packed known := by
    obtain rfl := eq_of_packs_standard packed
    exact openNew_known known
  opens packed fresh := by
    obtain rfl := eq_of_packs_standard packed
    exact ⟨_, openNew_fresh fresh, fun content => ⟨_, writeLast_new ..⟩⟩
  finishes packed := by
    obtain rfl := eq_of_packs_standard packed
    rfl

namespace IsLawful

theorem exists_add (lawful : p.IsLawful) {s : p.State} {files : List SourceFile} {f : SourceFile}
    (packed : p.Packs s files) (fresh : f.name ∉ files.map SourceFile.name) :
    ∃ later, p.add s f = .ok later ∧ p.Packs later (files ++ [f]) := by
  obtain ⟨opened, isOpen, writes⟩ := lawful.opens packed fresh
  obtain ⟨later, written⟩ := writes f.content
  have added : p.add s f = .ok later := by
    rw [add, isOpen]
    simp [bind, Except.bind, Except.mapError, written]
  exact ⟨later, added, packed.add added⟩

theorem add_known (lawful : p.IsLawful) {s : p.State} {files : List SourceFile} {f : SourceFile}
    (packed : p.Packs s files) (known : f.name ∈ files.map SourceFile.name) :
    p.add s f = .error (.refused (Archive.duplicateMessage f.name)) := by
  rw [add, lawful.refuses packed known]
  rfl

/-- What comes of more files depends on the names that were opened only. -/
theorem foldlM_add (lawful : p.IsLawful) {s : p.State} {seen : List String} {files : List SourceFile}
    (packed : p.Packs s files) (names : ∀ n, n ∈ seen ↔ n ∈ files.map SourceFile.name)
    (more : List SourceFile) :
    match firstRepeated? seen (more.map SourceFile.name) with
    | some name => more.foldlM p.add s = .error (.refused (Archive.duplicateMessage name))
    | none => ∃ later, more.foldlM p.add s = .ok later ∧ p.Packs later (files ++ more) := by
  induction more generalizing s seen files with
  | nil => exact ⟨s, rfl, by rwa [List.append_nil]⟩
  | cons f more ih =>
    rw [List.map_cons, firstRepeated?, List.foldlM_cons]
    by_cases known : f.name ∈ seen
    · simp [known, lawful.add_known packed ((names _).mp known), bind, Except.bind]
    · -- the file is packed, and from here on its name is one of those that were opened
      obtain ⟨later, added, packed⟩ := lawful.exists_add packed fun h => known ((names _).mpr h)
      have names : ∀ n, n ∈ f.name :: seen ↔ n ∈ (files ++ [f]).map SourceFile.name := fun n => by
        simp [names n, or_comm]
      simpa [known, added, bind, Except.bind] using ih packed names

/-- Packing refuses the first name that is there already. Without one it packs all files. -/
theorem pack_eq (lawful : p.IsLawful) (files : List SourceFile) :
    p.pack files
      = (Archive.ofFiles files).mapError fun name => .refused (Archive.duplicateMessage name) := by
  have names : ∀ n, n ∈ ([] : List String) ↔ n ∈ ([] : List SourceFile).map SourceFile.name := by simp
  have run := lawful.foldlM_add .start names files
  rw [pack, Archive.ofFiles]
  cases found : firstRepeated? [] (files.map SourceFile.name) with
  | some name =>
    rw [found] at run
    rw [run]
    rfl
  | none =>
    rw [found] at run
    obtain ⟨later, packed, packs⟩ := run
    rw [packed]
    simp [bind, Except.bind, lawful.finishes packs, Except.mapError]

end IsLawful

end Packer

/-! ## Batches -/

/-- The stem of the name of a file. -/
def SourceFile.stem (f : SourceFile) : List Char := fileStem f.name.toList

theorem Toolchain.name_typedFile_eq_iff (t : Toolchain) (config : Config) (f g : SourceFile) :
    (t.typedFile config f).name = (t.typedFile config g).name ↔ f.stem = g.stem := by
  simp only [typedFile, String.ofList_inj, tsxFileName_eq, List.append_left_inj, SourceFile.stem]

/-- The converted files of a batch have different names exactly if no two of their sources have the same
stem. -/
theorem Toolchain.nodup_names_converted_iff (t : Toolchain) (config : Config) (files : List SourceFile) :
    ((t.convertBatch config files).converted.map SourceFile.name).Nodup ↔
      (files.filter (t.converts config)).Pairwise fun f g => f.stem ≠ g.stem := by
  rw [converted_convertBatch, List.map_map, List.Nodup, List.pairwise_map]
  simp only [Function.comp_apply, ne_eq, name_typedFile_eq_iff]

/-- The first file whose name stands in front of it, with what is in front. -/
structure IsFirstRepeated (files before : List SourceFile) (f : SourceFile) : Prop where
  isPrefix : before ++ [f] <+: files
  distinct : (before.map SourceFile.name).Nodup
  repeated : f.name ∈ before.map SourceFile.name

theorem exists_isFirstRepeated {files : List SourceFile} {name : String}
    (h : firstRepeated? [] (files.map SourceFile.name) = some name) :
    ∃ before f, IsFirstRepeated files before f ∧ f.name = name := by
  obtain ⟨before, after, split, nodup, -, repeated⟩ := exists_of_firstRepeated?_eq_some h
  obtain ⟨front, back, rfl, rfl, names⟩ := List.map_eq_append_iff.mp split
  obtain ⟨f, rest, rfl, rfl, -⟩ := List.map_eq_cons_iff.mp names
  exact ⟨front, f, ⟨⟨rest, by simp⟩, nodup, by simpa using repeated⟩, rfl⟩

/-- A batch can be packed exactly if no two of the sources that are converted have the same stem, and then
the entries are the converted files in order. Otherwise there is a first converted file whose name is there
already: it is refused by its name, and no directory is made and no file is changed. -/
theorem batch_packs_iff {p : Packer} (lawful : p.IsLawful) (t : Toolchain) (config : Config)
    (files : List SourceFile) :
    ((∃ archive, p.pack (t.convertBatch config files).converted = .ok archive) ↔
        (files.filter (t.converts config)).Pairwise fun f g => f.stem ≠ g.stem)
      ∧ (∀ archive, p.pack (t.convertBatch config files).converted = .ok archive →
        archive.entries = (files.filter (t.converts config)).map (t.typedFile config))
      ∧ ((¬(files.filter (t.converts config)).Pairwise fun f g => f.stem ≠ g.stem) →
        ∃ before f, IsFirstRepeated (t.convertBatch config files).converted before f
          ∧ p.pack (t.convertBatch config files).converted
            = .error (.refused (Archive.duplicateMessage f.name))
          ∧ ∀ path fs, Run.writeArchive p path fs (t.convertBatch config files).converted
            = (fs, some (Run.archiveError path (.refused (Archive.duplicateMessage f.name))))) := by
  rw [← t.nodup_names_converted_iff config, ← t.converted_convertBatch config]
  -- nothing but the names of what was converted matters from here
  generalize (t.convertBatch config files).converted = converted
  have outcome := lawful.pack_eq converted
  rw [Archive.ofFiles] at outcome
  cases found : firstRepeated? [] (converted.map SourceFile.name) with
  | none =>
    have packed : p.pack converted = .ok ⟨converted⟩ := by rw [outcome, found]; rfl
    have distinct := (firstRepeated?_eq_none_iff.mp found).1
    refine ⟨⟨fun _ => distinct, fun _ => ⟨_, packed⟩⟩, fun archive h => ?_, absurd distinct⟩
    rw [packed] at h
    rw [← Except.ok.inj h]
  | some name =>
    obtain ⟨before, f, first, rfl⟩ := exists_isFirstRepeated found
    have refused : p.pack converted = .error (.refused (Archive.duplicateMessage f.name)) := by
      rw [outcome, found]; rfl
    have notDistinct : ¬(converted.map SourceFile.name).Nodup := fun distinct => by
      rw [firstRepeated?_eq_none_iff.mpr ⟨distinct, by simp⟩] at found
      cases found
    refine ⟨⟨fun ⟨archive, h⟩ => ?_, fun distinct => absurd distinct notDistinct⟩, fun archive h => ?_,
      fun _ => ⟨before, f, first, refused, fun path fs => ?_⟩⟩
    · rw [refused] at h
      cases h
    · rw [refused] at h
      cases h
    · rw [Run.writeArchive, refused]

/-- Two scripts that become `a.tsx` cannot be packed together. -/
theorem scripts_not_packed :
    Packer.standard.IsLawful
      ∧ (¬([⟨"a.js", "a;"⟩, ⟨"a.jsx", "b;"⟩].filter (Toolchain.standard.converts {})).Pairwise
        fun f g : SourceFile => f.stem ≠ g.stem)
      ∧ Packer.standard.pack (convertBatch {} [⟨"a.js", "a;"⟩, ⟨"a.jsx", "b;"⟩]).converted
        = .error (.refused "invalid Zip archive: Duplicate filename: a.tsx") := by
  have lawful := Packer.isLawful_standard
  have converted : (convertBatch {} [⟨"a.js", "a;"⟩, ⟨"a.jsx", "b;"⟩]).converted = typedScripts :=
    converted_scripts (by decide +kernel)
  have collision : ¬([⟨"a.js", "a;"⟩, ⟨"a.jsx", "b;"⟩].filter (Toolchain.standard.converts {})).Pairwise
      fun f g : SourceFile => f.stem ≠ g.stem := by
    rw [← Toolchain.standard.nodup_names_converted_iff, ← convertBatch, converted]
    decide
  obtain ⟨-, -, refuses⟩ := batch_packs_iff lawful .standard {} [⟨"a.js", "a;"⟩, ⟨"a.jsx", "b;"⟩]
  obtain ⟨before, f, first, refused, -⟩ := refuses collision
  rw [← convertBatch, converted] at first refused
  have name : ∀ g ∈ typedScripts, g.name = "a.tsx" := by decide
  rw [converted]
  rw [name f (first.isPrefix.subset (by simp))] at refused
  exact ⟨lawful, collision, refused⟩

end TypedJsx
