import TypedJsx.FileSystem
import TypedJsx.Proofs.FileSystem.Path
/-!
Where a path leads from a directory. Of its parts only some count in the end: how many directories it climbs,
and the names that it then takes (`Path.route`). A part adds to the route what it adds to the way
(`Path.Route.target_enter`), so the route leads where the path leads (`Path.follow_eq_target`), whatever
directories there are.

Main statement: a path in a directory leads beneath it just if it is relative and comes back by the names of
the directories that it climbs out of, and goes on; or is absolute and goes through the directory itself.
-/
namespace TypedJsx

namespace Path

/-- A place inside a directory. -/
def Beneath (directory place : List (List Char)) : Prop := ∃ below ≠ [], place = directory ++ below

theorem beneath_append_iff (above directory place : List (List Char)) :
    Beneath (above ++ directory) (above ++ place) ↔ Beneath directory place := by
  simp only [Beneath, List.append_assoc, List.append_cancel_left_eq]

/-! ## Routes -/

/-- What counts of the parts of a path. -/
structure Route where
  /-- How many directories the path climbs. -/
  climb : Nat := 0
  /-- The names that it then takes. -/
  names : List (List Char) := []
deriving DecidableEq

/-- A route with one more part. -/
def Route.enter (r : Route) (part : List Char) : Route :=
  if part == ['.', '.'] then
    if r.names.isEmpty then { r with climb := r.climb + 1 } else { r with names := r.names.dropLast }
  else { r with names := r.names ++ [part] }

def route (parts : List (List Char)) : Route := parts.foldl Route.enter {}

/-- The place that a route leads to. Nothing is above the root. -/
def Route.target (r : Route) (directory : List (List Char)) : List (List Char) :=
  directory.take (directory.length - r.climb) ++ r.names

theorem Route.target_enter (r : Route) (part : List Char) (directory : List (List Char)) :
    (r.enter part).target directory = Path.enter (r.target directory) part := by
  unfold Route.enter Path.enter
  split
  · cases hn : r.names with
    | nil =>
      have one : directory.length - (r.climb + 1)
          = (directory.take (directory.length - r.climb)).length - 1 := by
        rw [List.length_take]
        omega
      rw [if_pos (by simp), Route.target, Route.target, hn, List.append_nil, List.append_nil,
        List.dropLast_eq_take, List.take_take, one, List.length_take]
      congr 1
      omega
    | cons name names =>
      rw [if_neg (by simp), Route.target, Route.target, hn, List.dropLast_append_of_ne_nil (by simp)]
  · rw [Route.target, Route.target, List.append_assoc]

/-- A path leads where its route leads. -/
theorem follow_eq_target (directory parts : List (List Char)) :
    follow directory parts = (route parts).target directory := by
  have run : ∀ r : Route, parts.foldl Path.enter (r.target directory)
      = (parts.foldl Route.enter r).target directory := by
    induction parts with
    | nil => exact fun _ => rfl
    | cons part parts ih =>
      intro r
      rw [List.foldl_cons, List.foldl_cons, ← Route.target_enter, ih]
  have start : ({} : Route).target directory = directory := by
    simp [Route.target]
  rw [route, ← run, start, follow]

theorem route_of_names {parts : List (List Char)} (names : ['.', '.'] ∉ parts) :
    route parts = { names := parts } := by
  have run : ∀ down, parts.foldl Route.enter { names := down } = { names := down ++ parts } := by
    induction parts with
    | nil => simp
    | cons part parts ih =>
      rw [List.mem_cons, not_or] at names
      intro down
      rw [List.foldl_cons, Route.enter, if_neg (by simpa using Ne.symm names.1), ih names.2,
        List.append_assoc, List.singleton_append]
  exact run []

/-- Parts lead beneath a directory just if they come back by the names of the directories that they climb
out of, and go on. -/
theorem beneath_follow_iff (directory parts : List (List Char)) :
    Beneath directory (follow directory parts) ↔
      Beneath (directory.drop (directory.length - (route parts).climb)) (route parts).names := by
  have climbed := beneath_append_iff (directory.take (directory.length - (route parts).climb))
    (directory.drop (directory.length - (route parts).climb)) (route parts).names
  rw [List.take_append_drop] at climbed
  rw [follow_eq_target, Route.target, climbed]

/-! ## Paths in a directory -/

/-- A path that does not leave a directory, told by its route: the directories that it climbs out of it
enters again, and an absolute path enters all of them. -/
def StaysIn (directory : List (List Char)) (path : List Char) : Prop :=
  Beneath
    (if isAbsolute path then directory
      else directory.drop (directory.length - (route (parts path)).climb))
    (route (parts path)).names

theorem staysIn_of_names {path : List Char} (relative : isAbsolute path = false)
    (some : parts path ≠ []) (names : ['.', '.'] ∉ parts path) (directory : List (List Char)) :
    StaysIn directory path := by
  refine ⟨parts path, some, ?_⟩
  rw [route_of_names names, relative]
  simp

theorem pieces_joinWith {names : List (List Char)} (some : names ≠ [])
    (noSlash : ∀ name ∈ names, '/' ∉ name) : pieces (joinWith ['/'] names) = names := by
  induction names with
  | nil => exact absurd rfl some
  | cons name names ih =>
    rw [List.forall_mem_cons] at noSlash
    have first := pieces_of_no_slash noSlash.1
    cases names with
    | nil => exact first
    | cons next names =>
      rw [joinWith, List.append_assoc, List.singleton_append, pieces_append, first,
        ih (List.cons_ne_nil _ _) noSlash.2, List.singleton_append]
      exact List.cons_ne_nil _ _

end Path

/-! ## Places of paths in a directory -/

theorem FileSystem.resolve_join (fs : FileSystem) (directory path : List Char) :
    fs.resolve (Path.join directory path)
      = Path.follow (if Path.isAbsolute path then [] else fs.resolve directory) (Path.parts path) := by
  have within : ∀ {joined : List Char}, Path.isAbsolute joined = Path.isAbsolute directory →
      Path.parts joined = Path.parts directory ++ Path.parts path →
      fs.resolve joined = Path.follow (fs.resolve directory) (Path.parts path) := by
    intro joined start parts
    rw [resolve, resolve, origin, origin, start, parts, Path.follow, List.foldl_append]
    rfl
  unfold Path.join
  cases absolute : Path.isAbsolute path with
  | true => simp [resolve, origin, absolute]
  | false =>
    rw [if_neg Bool.false_ne_true]
    cases directory with
    | nil =>
      rw [if_pos (by simp), resolve, origin, absolute]
      rfl
    | cons c cs =>
      rw [if_neg (by simp)]
      split
      · -- the directory has its slash at the end
        rename_i slash
        obtain ⟨before, hb⟩ : ∃ before, c :: cs = before ++ ['/'] :=
          List.getLast?_eq_some_iff.mp (beq_iff_eq.mp slash)
        refine within rfl ?_
        rw [hb, List.append_assoc, List.singleton_append, Path.parts_append, Path.parts_append,
          List.append_assoc]
        rfl
      · exact within rfl (Path.parts_append _ _)

/-- A path in a directory leads beneath it just if it stays in it. -/
theorem FileSystem.beneath_join_iff (fs : FileSystem) (directory path : List Char) :
    Path.Beneath (fs.resolve directory) (fs.resolve (Path.join directory path)) ↔
      Path.StaysIn (fs.resolve directory) path := by
  rw [resolve_join, Path.StaysIn]
  cases Path.isAbsolute path with
  | true =>
    rw [if_pos rfl, if_pos rfl, Path.follow_eq_target, Path.Route.target, List.take_nil, List.nil_append]
  | false => exact Path.beneath_follow_iff _ _

end TypedJsx
